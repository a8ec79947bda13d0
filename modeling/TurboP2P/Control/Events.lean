import TurboP2P.Control.History
import TurboP2P.Control.Submit

open turbop2p.mesh_control

namespace turbop2p.mesh_control_state

/-- One round of the copying loop of `events_after_v1`: the events copied so
far and the cursor of the last one. -/
def events_after_step (impl : Impl) (cursor output_capacity : Nat) (found : List Event × Nat)
    (index : Nat) : List Event × Nat :=
  if found.1.length < output_capacity then
    let event := event_at impl index
    if event.cursor ≤ cursor then found else (found.1 ++ [event], event.cursor)
  else found

/-- `mesh_control_state_events_after_v1`: the result with, unless a pointer is
null, the copied events and the next cursor. -/
def events_after_v1 (impl : Impl) (cursor : Nat) (output : Bool) (output_capacity : Nat)
    (out_count out_next_cursor : Bool) : Result × Option (List Event × Nat) :=
  if !out_count || !out_next_cursor || (output_capacity != 0 && !output) then (.INVALID_ARG, none)
  else if impl.event_count = 0 then (.OK, some ([], cursor))
  else
    let oldest_cursor := (impl.events.getD impl.event_head default).cursor
    if cursor ≠ 0 ∧ cursor < Word.sub oldest_cursor 1 then (.CONFLICT, some ([], cursor))
    else
      (.OK, some ((List.range impl.event_count).foldl
        (events_after_step impl cursor output_capacity) ([], cursor)))

/-- A reader that calls `events_after_v1` again and again, each time with the
cursor it was given last, until a page is empty or an error is returned.
The reader gives up, without an answer, after `fuel` calls. -/
def events_pages (impl : Impl) (output_capacity : Nat) : Nat → Nat → Option (Result × List Event)
  | 0, _ => none
  | fuel + 1, cursor =>
    match events_after_v1 impl cursor true output_capacity true true with
    | (.OK, some ([], _)) => some (.OK, [])
    | (.OK, some (page, next_cursor)) =>
      (events_pages impl output_capacity fuel next_cursor).map fun rest => (rest.1, page ++ rest.2)
    | (result, _) => some (result, [])

/-- Some event above the cursor was retained during the run and no longer is
at its end. -/
def Evicted (config : ValidConfig) (calls : List Call) (cursor : Nat) : Prop :=
  ∃ s ∈ trace (initial config.1) calls, ∃ event ∈ retained_events s,
    event ∉ retained_events (state_after config calls) ∧ cursor < event.cursor

section loop

variable (impl : Impl) (cursor output_capacity : Nat)

/-- The copying loop selects the first events above the cursor that fit, and
remembers the cursor of the last one. -/
theorem foldl_events_after_step (indices : List Nat) (found : List Event) (last : Nat)
    (hfits : found.length ≤ output_capacity) :
    indices.foldl (events_after_step impl cursor output_capacity) (found, last) =
      let page := (((indices.map (event_at impl)).filter fun event => cursor < event.cursor).take
        (output_capacity - found.length))
      (found ++ page, (page.getLast?.map (·.cursor)).getD last) := by
  induction indices generalizing found last with
  | nil => simp
  | cons index indices ih =>
    rw [List.foldl_cons]
    by_cases hroom : found.length < output_capacity
    · by_cases hold : (event_at impl index).cursor ≤ cursor
      · have hstep : events_after_step impl cursor output_capacity (found, last) index = (found, last) := by
          simp [events_after_step, hold]
        rw [hstep, ih found last hfits]
        simp [Nat.not_lt.mpr hold]
      · have hstep : events_after_step impl cursor output_capacity (found, last) index =
            (found ++ [event_at impl index], (event_at impl index).cursor) := by
          simp [events_after_step, hroom, hold]
        have hsucc : output_capacity - found.length = output_capacity - (found.length + 1) + 1 := by omega
        rw [hstep, ih _ _ (by rw [List.length_append, List.length_singleton]; omega)]
        simp only [List.length_append, List.length_singleton, List.map_cons, Nat.lt_of_not_le hold,
          decide_true, List.filter_cons_of_pos, hsucc, List.take_succ_cons, List.append_assoc,
          List.singleton_append, List.getLast?_cons, Option.map_some, Option.getD_some]
        cases (List.take (output_capacity - (found.length + 1))
          (List.filter (fun event => decide (cursor < event.cursor)) (List.map (event_at impl) indices))).getLast? <;>
          rfl
    · have hstep : events_after_step impl cursor output_capacity (found, last) index = (found, last) := by
        simp [events_after_step, hroom]
      have hzero : output_capacity - found.length = 0 := by omega
      rw [hstep, ih found last hfits]
      simp [hzero]

end loop

variable {events : List Event} {oldest : Nat}

/-- Of events with consecutive cursors, those above a cursor form an end
segment. -/
theorem filter_consecutive (cursor : Nat)
    (hcursors : events.map (·.cursor) = List.range' oldest events.length) :
    events.filter (fun event => cursor < event.cursor) = events.drop (cursor + 1 - oldest) := by
  induction events generalizing oldest with
  | nil => simp
  | cons event events ih =>
    simp only [List.map_cons, List.length_cons, List.range'_succ, List.cons.injEq] at hcursors
    obtain ⟨hevent, hrest⟩ := hcursors
    have htail := ih hrest
    by_cases habove : cursor < event.cursor
    · have hzero : cursor + 1 - oldest = 0 := by omega
      have hzero' : cursor + 1 - (oldest + 1) = 0 := by omega
      rw [hzero', List.drop_zero] at htail
      simp [habove, hzero, htail]
    · have hsucc : cursor + 1 - oldest = cursor + 1 - (oldest + 1) + 1 := by omega
      simp [habove, hsucc, htail]

theorem last_cursor_consecutive (skipped size : Nat)
    (hcursors : events.map (·.cursor) = List.range' oldest events.length) (hsize : 0 < size)
    (hskipped : skipped < events.length) :
    ((events.drop skipped).take size).getLast?.map (·.cursor) =
      some (oldest + skipped + min size (events.length - skipped) - 1) := by
  rw [← List.getLast?_map, List.map_take, List.map_drop, hcursors, List.getLast?_eq_getElem?,
    List.length_take, List.length_drop, List.length_range', List.getElem?_take_of_lt (by omega),
    List.getElem?_drop, List.getElem?_range' (by omega)]
  congr 1
  omega

section reachable

variable {impl : Impl} (hinv : Inv impl)

include hinv

/-- What a retained event list looks like in a state that satisfies the
invariant. -/
theorem Inv.retained_cursors :
    (retained_events impl).map (·.cursor) =
      List.range' (impl.next_cursor - impl.event_count) (retained_events impl).length := by
  rw [retained_events_eq_ring hinv.ring.events_length, RingBuffer.length_toList]
  exact hinv.ring.cursors

/-- The cursor that the gap test compares with is that of the oldest retained
event. -/
theorem Inv.oldest_cursor (hcount : impl.event_count ≠ 0) :
    (impl.events.getD impl.event_head default).cursor = impl.next_cursor - impl.event_count := by
  have hhead : impl.event_head < impl.config.event_capacity := by
    rw [← hinv.ring.events_length]
    exact hinv.ring.valid.head_lt
  have hfirst : (retained_events impl).head? = some (impl.events.getD impl.event_head default) := by
    obtain ⟨n, hn⟩ := Nat.exists_eq_succ_of_ne_zero hcount
    simp [retained_events, hn, List.range_succ_eq_map, event_at, Nat.mod_eq_of_lt hhead]
  have hcursors := congrArg List.head? hinv.retained_cursors
  rw [List.head?_map, hfirst, List.head?_range'] at hcursors
  have hlength : (retained_events impl).length ≠ 0 := by simpa [retained_events] using hcount
  simpa [hlength] using hcursors

/-- A call answers with a conflict exactly when its cursor is not zero and
lies more than one below the oldest retained one; otherwise it copies the
first events above the cursor. -/
theorem Inv.events_after (cursor output_capacity : Nat) :
    events_after_v1 impl cursor true output_capacity true true =
      if cursor ≠ 0 ∧ impl.event_count ≠ 0 ∧ cursor + 1 < impl.next_cursor - impl.event_count then
        (.CONFLICT, some ([], cursor))
      else
        let page := (((retained_events impl).filter fun event => cursor < event.cursor).take output_capacity)
        (.OK, some (page, (page.getLast?.map (·.cursor)).getD cursor)) := by
  unfold events_after_v1
  by_cases hcount : impl.event_count = 0
  · simp [hcount, retained_events]
  · have hlt := hinv.ring.count_lt
    have hle := hinv.ring.cursor_le
    have hsub : Word.sub (impl.next_cursor - impl.event_count) 1 = impl.next_cursor - impl.event_count - 1 :=
      Word.sub_eq (by omega) (by omega)
    have hgap : (cursor ≠ 0 ∧ cursor < impl.next_cursor - impl.event_count - 1) ↔
        (cursor ≠ 0 ∧ impl.event_count ≠ 0 ∧ cursor + 1 < impl.next_cursor - impl.event_count) := by
      omega
    simp only [Bool.not_true, Bool.and_false, Bool.or_self, Bool.false_eq_true, if_false, hcount,
      hinv.oldest_cursor hcount, hsub, hgap]
    rw [foldl_events_after_step _ _ _ _ _ _ (Nat.zero_le _)]
    simp [retained_events]

/-- Reading page after page returns the retained events above the cursor,
unless the first call already answers with a conflict. -/
theorem Inv.events_pages {output_capacity : Nat} (hcapacity : 0 < output_capacity) (fuel cursor : Nat)
    (hfuel : ((retained_events impl).filter fun event => cursor < event.cursor).length < fuel)
    (hgap : ¬ (cursor ≠ 0 ∧ impl.event_count ≠ 0 ∧ cursor + 1 < impl.next_cursor - impl.event_count)) :
    mesh_control_state.events_pages impl output_capacity fuel cursor =
      some (.OK, (retained_events impl).filter fun event => cursor < event.cursor) := by
  have hcursors := hinv.retained_cursors
  induction fuel generalizing cursor with
  | zero => omega
  | succ fuel ih =>
    rw [mesh_control_state.events_pages, hinv.events_after, if_neg hgap]
    rw [filter_consecutive cursor hcursors] at hfuel ⊢
    generalize hskip : cursor + 1 - (impl.next_cursor - impl.event_count) = skipped at hfuel ⊢
    by_cases hdone : (retained_events impl).length ≤ skipped
    · simp [List.drop_eq_nil_of_le hdone]
    · have hlast := last_cursor_consecutive skipped output_capacity hcursors hcapacity (by omega)
      generalize hnext : impl.next_cursor - impl.event_count + skipped +
        min output_capacity ((retained_events impl).length - skipped) - 1 = next at hlast
      obtain ⟨event, rest, hpage⟩ : ∃ event rest,
          ((retained_events impl).drop skipped).take output_capacity = event :: rest := by
        refine List.exists_cons_of_ne_nil ?_
        simp only [ne_eq, List.take_eq_nil_iff, List.drop_eq_nil_iff]
        omega
      rw [List.length_drop] at hfuel
      have hrest : (retained_events impl).filter (fun event => next < event.cursor) =
          ((retained_events impl).drop skipped).drop output_capacity := by
        rw [filter_consecutive next hcursors, List.drop_drop]
        rcases Nat.lt_or_ge output_capacity ((retained_events impl).length - skipped) with hfull | hend
        · congr 1
          omega
        · rw [List.drop_eq_nil_of_le (by omega), List.drop_eq_nil_of_le (by omega)]
      have hih := ih next (by rw [hrest, List.length_drop, List.length_drop]; omega) (by omega)
      rw [hpage] at hlast ⊢
      simp only [hlast, Option.getD_some, hih, hrest, Option.map_some]
      rw [← hpage, List.take_append_drop]

end reachable

theorem LogOf.cursor_eq {impl : Impl} {log : List Event} (hlog : LogOf impl log) {i : Nat} {event : Event}
    (hevent : log[i]? = some event) : event.cursor = i + 1 := by
  have hcursor := congrArg (·[i]?) hlog.cursors
  have hi := (List.getElem?_eq_some_iff.mp hevent).1
  have hlength := congrArg List.length hlog.cursors
  rw [List.length_map, List.length_range'] at hlength
  simp only [List.getElem?_map, hevent, Option.map_some] at hcursor
  rw [List.getElem?_range' (by omega), Option.some.injEq] at hcursor
  omega

/-- Evicted events are exactly those below the oldest retained one. -/
theorem evicted_iff (config : ValidConfig) (calls : List Call) (cursor : Nat) :
    Evicted config calls cursor ↔ (state_after config calls).event_count ≠ 0 ∧
      cursor + 1 < (state_after config calls).next_cursor - (state_after config calls).event_count := by
  obtain ⟨hlog, hretained⟩ := event_log_spec config calls
  have hinv := inv_state_after config calls
  have hcapacity : 0 < (state_after config calls).events.length := by
    have hhead := hinv.ring.valid.head_lt
    change _ < (state_after config calls).events.length at hhead
    omega
  have hlist := retained_events_eq_ring hinv.ring.events_length
  rw [hlog.retained] at hlist
  have hlength := congrArg List.length hlog.cursors
  have hcount := congrArg List.length hlist
  simp only [List.length_map, List.length_range', List.length_drop, retained_events,
    List.length_range] at hlength hcount
  unfold Evicted
  rw [hlist]
  generalize hfirst : (event_log config calls).length - (state_after config calls).events.length = first
    at hlist hcount ⊢
  constructor
  · rintro ⟨s, hs, event, hmem, hgone, hcursor⟩
    obtain ⟨i, hi⟩ := List.mem_iff_getElem?.mp (hretained s hs event hmem)
    have hevent := hlog.cursor_eq hi
    have hbefore : i < first := by
      by_contra hnot
      refine hgone (List.mem_iff_getElem?.mpr ⟨i - first, ?_⟩)
      rw [List.getElem?_drop, Nat.add_sub_cancel' (by omega)]
      exact hi
    omega
  · rintro ⟨_, hgap⟩
    obtain ⟨event, hevent⟩ : ∃ event, (event_log config calls)[first - 1]? = some event :=
      ⟨_, List.getElem?_eq_getElem (by omega)⟩
    have hcursor := hlog.cursor_eq hevent
    obtain ⟨s, t, ht, hmem⟩ := Machine.mem_along (List.mem_of_getElem? hevent)
    refine ⟨t, ht, event, List.mem_of_mem_filter hmem, ?_, by omega⟩
    intro hkept
    obtain ⟨i, hi⟩ := List.mem_iff_getElem?.mp hkept
    rw [List.getElem?_drop] at hi
    have hlater := hlog.cursor_eq hi
    omega

/-- In every reachable state a reader that pages through the events from any
cursor is told of a conflict exactly when an event above its cursor has
been evicted, and otherwise receives the retained events above its cursor,
in increasing order. -/
theorem events_pages_complete (config : ValidConfig) (calls : List Call) (cursor output_capacity fuel : Nat)
    (hcapacity : 0 < output_capacity) (hfuel : (state_after config calls).event_count < fuel) :
    let impl := state_after config calls
    (retained_events impl).Pairwise (fun older newer => older.cursor < newer.cursor) ∧
      ((events_after_v1 impl cursor true output_capacity true true).1 = .CONFLICT ↔
        cursor ≠ 0 ∧ Evicted config calls cursor) ∧
      (¬ (cursor ≠ 0 ∧ Evicted config calls cursor) →
        events_pages impl output_capacity fuel cursor =
          some (.OK, (retained_events impl).filter fun event => cursor < event.cursor)) ∧
      (cursor ≠ 0 ∧ Evicted config calls cursor →
        events_pages impl output_capacity fuel cursor = some (.CONFLICT, [])) := by
  intro impl
  have hinv : Inv impl := inv_state_after config calls
  rw [evicted_iff]
  refine ⟨?_, ?_, ?_, ?_⟩
  · have hincreasing : ((retained_events impl).map (·.cursor)).Pairwise (· < ·) := by
      rw [hinv.retained_cursors]
      exact List.pairwise_lt_range'
    exact List.pairwise_map.mp hincreasing
  · rw [hinv.events_after]
    by_cases hgap : cursor ≠ 0 ∧ impl.event_count ≠ 0 ∧ cursor + 1 < impl.next_cursor - impl.event_count
    · rw [if_pos hgap]
      exact ⟨fun _ => hgap, fun _ => rfl⟩
    · rw [if_neg hgap]
      exact ⟨by simp, fun hnot => absurd hnot hgap⟩
  · intro hgap
    refine hinv.events_pages hcapacity fuel cursor ?_ hgap
    refine (List.length_filter_le _ _).trans_lt ?_
    simpa [retained_events] using hfuel
  · intro hgap
    obtain ⟨more, rfl⟩ : ∃ more, fuel = more + 1 := ⟨fuel - 1, by omega⟩
    rw [events_pages, hinv.events_after, if_pos hgap]

/-- Read one by one, the events of the short run arrive from the only retained
one on. -/
theorem events_pages_complete_expired_run :
    events_pages (state_after small_config expired_run) 1 2 1 =
      some (.OK, (retained_events (state_after small_config expired_run)).filter fun event =>
        1 < event.cursor) := by
  refine (events_pages_complete small_config expired_run 1 1 2 (by decide) (by decide +kernel)).2.2.1 ?_
  rw [evicted_iff]
  decide +kernel

end turbop2p.mesh_control_state
