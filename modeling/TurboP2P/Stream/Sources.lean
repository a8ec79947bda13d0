import TurboP2P.Lib.Bytes
import TurboP2P.Lib.Machine

namespace turbop2p.mesh_stream_source_selector

inductive Result where
  | OK | INVALID_ARG | RESOURCE_EXHAUSTED
  deriving DecidableEq, Repr

structure Source where
  id : Bytes 16
  enabled : Bool
  consecutive_failures : UInt64
  total_failures : UInt64
  total_successes : UInt64
  last_rtt_ms : UInt64
  smoothed_rtt_ms : UInt64
  last_activity_ms : UInt64

structure Selector where
  sources : List Source
  fail_threshold : UInt64
  rtt_alpha : UInt64

def DEFAULT_FAIL_THRESHOLD : UInt64 := 3
def SOURCE_MAX : Nat := 8

def init (fail_threshold rtt_alpha : UInt64) : Selector :=
  { sources := [], fail_threshold := if fail_threshold = 0 then DEFAULT_FAIL_THRESHOLD else fail_threshold
    rtt_alpha := if rtt_alpha = 0 then 4 else rtt_alpha }

def register (selector : Selector) (source_id : Bytes 16) : Result × Selector :=
  if Bytes.is_zero source_id.toList then (.INVALID_ARG, selector)
  else if selector.sources.any fun source => source.id = source_id then (.OK, selector)
  else if selector.sources.length ≥ SOURCE_MAX then (.RESOURCE_EXHAUSTED, selector)
  else (.OK, { selector with sources := selector.sources ++ [⟨source_id, true, 0, 0, 0, 0, 0, 0⟩] })

/-- The selector after registrations, before the first report. -/
def registered (fail_threshold rtt_alpha : UInt64) (source_ids : List (Bytes 16)) : Selector :=
  Machine.run (fun selector source_id => (register selector source_id).2) (init fail_threshold rtt_alpha) source_ids

theorem registered_fresh (fail_threshold rtt_alpha : UInt64) (source_ids : List (Bytes 16)) :
    ∀ source ∈ (registered fail_threshold rtt_alpha source_ids).sources, source.smoothed_rtt_ms = 0 := by
  refine Machine.run_invariant (P := fun selector : Selector => ∀ source ∈ selector.sources, source.smoothed_rtt_ms = 0)
    (by simp [init]) (fun selector source_id hfresh => ?_) source_ids
  unfold register
  split_ifs
  · exact hfresh
  · exact hfresh
  · exact hfresh
  · exact List.forall_mem_append.mpr ⟨hfresh, by simp⟩

/-- The moving average after a sample; the difference wraps around. -/
def smooth (rtt_alpha smoothed_rtt_ms rtt_ms : UInt64) : UInt64 :=
  if smoothed_rtt_ms = 0 then rtt_ms else smoothed_rtt_ms + (rtt_ms - smoothed_rtt_ms) / rtt_alpha

inductive Report where
  | success (source_index : Nat) (rtt_ms now_ms : UInt64)
  | failure (source_index : Nat) (now_ms : UInt64)

variable (selector : Selector)

def report (source_index : Nat) (change : Source → Source) : Result × Selector :=
  if source_index ≥ selector.sources.length then (.INVALID_ARG, selector)
  else (.OK, { selector with sources := selector.sources.modify source_index change })

def report_success (source_index : Nat) (rtt_ms now_ms : UInt64) : Result × Selector :=
  report selector source_index fun source =>
    { source with
      enabled := true, consecutive_failures := 0, total_successes := source.total_successes + 1, last_rtt_ms := rtt_ms
      smoothed_rtt_ms := smooth selector.rtt_alpha source.smoothed_rtt_ms rtt_ms, last_activity_ms := now_ms }

def report_failure (source_index : Nat) (now_ms : UInt64) : Result × Selector :=
  report selector source_index fun source =>
    { source with
      consecutive_failures := source.consecutive_failures + 1, total_failures := source.total_failures + 1
      last_activity_ms := now_ms
      enabled := source.enabled && source.consecutive_failures + 1 < selector.fail_threshold }

def Selector.step : Report → Selector
  | .success source_index rtt_ms now_ms => (report_success selector source_index rtt_ms now_ms).2
  | .failure source_index now_ms => (report_failure selector source_index now_ms).2

def samples (source_index : Nat) (reports : List Report) : List UInt64 :=
  reports.filterMap fun
    | .success index rtt_ms _ => if index = source_index then some rtt_ms else none
    | .failure _ _ => none

/-- The average takes the sample itself, or the sample is not below it. -/
def Selector.Takes (source_index : Nat) (rtt_ms : UInt64) : Prop :=
  selector.rtt_alpha = 1 ∨ ∀ source, selector.sources[source_index]? = some source → source.smoothed_rtt_ms ≤ rtt_ms

/-- Every sample of the reports is taken. -/
def Selector.Steady (selector : Selector) : List Report → Prop
  | [] => True
  | .failure i now_ms :: reports => (report_failure selector i now_ms).2.Steady reports
  | .success i rtt_ms now_ms :: reports =>
    selector.Takes i rtt_ms ∧ (report_success selector i rtt_ms now_ms).2.Steady reports

/-- The value lies between two samples, or there is none and it is zero. -/
def Between (values : List UInt64) (smoothed_rtt_ms : UInt64) : Prop :=
  (values = [] ∧ smoothed_rtt_ms = 0) ∨
    (∃ low ∈ values, low ≤ smoothed_rtt_ms) ∧ ∃ high ∈ values, smoothed_rtt_ms ≤ high

section smooth

variable {rtt_alpha current rtt_ms : UInt64}

theorem smooth_one : smooth 1 current rtt_ms = rtt_ms := by
  unfold smooth
  split
  · rfl
  · rw [UInt64.div_one, UInt64.add_comm, UInt64.sub_add_cancel]

/-- A rising average stays between its value and the sample. -/
theorem smooth_between (hrises : current ≤ rtt_ms) :
    current ≤ smooth rtt_alpha current rtt_ms ∧ smooth rtt_alpha current rtt_ms ≤ rtt_ms := by
  unfold smooth
  split
  · exact ⟨hrises, UInt64.le_refl _⟩
  · have hle := UInt64.le_iff_toNat_le.mp hrises
    have hquotient := Nat.div_le_self (rtt_ms.toNat - current.toNat) rtt_alpha.toNat
    have hlt := rtt_ms.toNat_lt
    rw [UInt64.le_iff_toNat_le, UInt64.le_iff_toNat_le, UInt64.toNat_add, UInt64.toNat_div,
      UInt64.toNat_sub_of_le _ _ hrises, Nat.mod_eq_of_lt (by omega)]
    exact ⟨Nat.le_add_right _ _, by omega⟩

theorem Between.sample {values : List UInt64} (hbetween : Between values current)
    (htakes : rtt_alpha = 1 ∨ current ≤ rtt_ms) : Between (values ++ [rtt_ms]) (smooth rtt_alpha current rtt_ms) := by
  have hmem : rtt_ms ∈ values ++ [rtt_ms] := by simp
  rcases htakes with rfl | hrises
  · rw [smooth_one]
    exact .inr ⟨⟨rtt_ms, hmem, UInt64.le_refl _⟩, rtt_ms, hmem, UInt64.le_refl _⟩
  · obtain ⟨hlow, hhigh⟩ : _ ≤ smooth rtt_alpha current rtt_ms ∧ _ := smooth_between hrises
    refine .inr ⟨?_, rtt_ms, hmem, hhigh⟩
    rcases hbetween with ⟨_, rfl⟩ | ⟨⟨low, hmem, hle⟩, _⟩
    · exact ⟨rtt_ms, hmem, by simp [smooth]⟩
    · exact ⟨low, List.mem_append_left _ hmem, UInt64.le_trans hle hlow⟩

end smooth

variable {selector : Selector}

theorem report_getElem?_eq_some {source_index i : Nat} {change : Source → Source} {source : Source}
    (hsource : (report selector source_index change).2.sources[i]? = some source) :
    ∃ old, selector.sources[i]? = some old ∧ (if source_index = i then change old else old) = source := by
  have hreport : (report selector source_index change).2.sources = selector.sources.modify source_index change := by
    unfold report
    split <;> rename_i hindex
    · rw [List.modify_eq_self hindex]
    · rfl
  rw [hreport, List.getElem?_modify] at hsource
  exact Option.map_eq_some_iff.mp hsource

/-- Along the reports every average stays between the samples of its source. -/
theorem Selector.Steady.between {reports : List Report} (hsteady : selector.Steady reports) (seen : Nat → List UInt64)
    (hseen : ∀ i source, selector.sources[i]? = some source → Between (seen i) source.smoothed_rtt_ms) (i : Nat)
    (source : Source) (hsource : (Machine.run Selector.step selector reports).sources[i]? = some source) :
    Between (seen i ++ samples i reports) source.smoothed_rtt_ms := by
  induction reports generalizing selector seen with
  | nil =>
    rw [samples, List.filterMap_nil, List.append_nil]
    exact hseen i source hsource
  | cons report reports ih =>
    have hsplit : samples i (report :: reports) = samples i [report] ++ samples i reports :=
      List.filterMap_append (l := [report]) ..
    rw [hsplit, ← List.append_assoc]
    cases report with
    | failure j now_ms =>
      refine ih hsteady (fun i => seen i ++ samples i [.failure j now_ms]) (fun i source hsource => ?_) hsource
      obtain ⟨old, hold, rfl⟩ := report_getElem?_eq_some hsource
      rw [apply_ite Source.smoothed_rtt_ms, ite_self]
      simpa [samples] using hseen i old hold
    | success j rtt_ms now_ms =>
      refine ih hsteady.2 (fun i => seen i ++ samples i [.success j rtt_ms now_ms]) (fun i source hsource => ?_) hsource
      obtain ⟨old, hold, rfl⟩ := report_getElem?_eq_some hsource
      by_cases hi : j = i
      · simpa [samples, hi] using (hseen i old hold).sample (hsteady.1.imp_right fun htakes => htakes old (hi ▸ hold))
      · simpa [samples, hi] using hseen i old hold

/-- Where every sample is taken, the average of a source lies between its
smallest and its largest sample, and a sample that is not above it does not
raise it. -/
theorem smoothed_rtt_bounded (selector : Selector) (hfresh : ∀ source ∈ selector.sources, source.smoothed_rtt_ms = 0)
    (reports : List Report) (hsteady : selector.Steady reports) (i : Nat) (source : Source)
    (hsource : (Machine.run Selector.step selector reports).sources[i]? = some source) :
    (samples i reports ≠ [] →
      (∃ low ∈ samples i reports, low ≤ source.smoothed_rtt_ms) ∧
        ∃ high ∈ samples i reports, source.smoothed_rtt_ms ≤ high) ∧
    ∀ rtt_ms now_ms next, (Machine.run Selector.step selector reports).Takes i rtt_ms →
      (report_success (Machine.run Selector.step selector reports) i rtt_ms now_ms).2.sources[i]? = some next →
      rtt_ms ≤ source.smoothed_rtt_ms → next.smoothed_rtt_ms ≤ source.smoothed_rtt_ms := by
  have hbetween := hsteady.between (fun _ => [])
    (fun i source hsource => .inl ⟨rfl, hfresh source (List.mem_of_getElem? hsource)⟩) i source hsource
  refine ⟨fun hsome => hbetween.resolve_left fun hnone => hsome hnone.1, fun rtt_ms now_ms next htakes hnext hle => ?_⟩
  obtain ⟨old, hold, rfl⟩ := report_getElem?_eq_some hnext
  obtain rfl := Option.some.inj (hsource.symm.trans hold)
  rw [if_pos rfl]
  rcases htakes with hone | hrises
  · simpa [hone, smooth_one] using hle
  · exact UInt64.le_trans (smooth_between (hrises source hsource)).2 hle

/-- One source. -/
def sample_selector : Selector := registered 0 4 [List.Vector.replicate 16 1]

/-- The average of two rising samples lies between them. -/
theorem smoothed_rtt_follows :
    (∃ low ∈ samples 0 [.success 0 100 1, .success 0 120 2], low ≤ 105) ∧
      ∃ high ∈ samples 0 [.success 0 100 1, .success 0 120 2], 105 ≤ high := by
  have hsteady : sample_selector.Steady [.success 0 100 1, .success 0 120 2] := by
    refine ⟨.inr ?_, .inr ?_, trivial⟩
    · rintro source ⟨⟩
      decide
    · rintro source ⟨⟩
      decide
  exact (smoothed_rtt_bounded sample_selector (registered_fresh 0 4 _) _ hsteady 0 _ rfl).1 (by decide)

/-- The average of 100 and 10 is far above both. -/
theorem smoothed_rtt_wraps :
    (Machine.run Selector.step sample_selector [.success 0 100 1, .success 0 10 2]).sources.map
        Source.smoothed_rtt_ms = [4611686018427387981] ∧
      samples 0 [.success 0 100 1, .success 0 10 2] = [100, 10] := by
  decide

end turbop2p.mesh_stream_source_selector
