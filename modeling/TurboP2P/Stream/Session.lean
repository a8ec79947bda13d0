import TurboP2P.Stream.Receiver

namespace turbop2p.mesh_stream_session

/-- A preparation of either kind. -/
inductive Prepared where
  | receive (preparation : Preparation)
  | control (preparation : ControlPreparation)
  deriving DecidableEq

def commit (session : Session) : Prepared → Result × Session
  | .receive preparation => commit_v1 session preparation
  | .control preparation => commit_control_v1 session preparation

/-- A preparation was made by a session as it is. -/
inductive Valid (session : Session) : Prepared → Prop
  | receive {decoded : Except Result Frame} {preparation : Preparation}
      (hprepare : prepare_v1 session decoded = .ok preparation) : Valid session (.receive preparation)
  | accept {preparation : ControlPreparation} (hprepare : prepare_accept_v1 session = .ok preparation) :
      Valid session (.control preparation)
  | window {grant : UInt64} {preparation : ControlPreparation}
      (hprepare : prepare_window_v1 session grant = .ok preparation) : Valid session (.control preparation)

/-- The bytes that a commit adds to the stream. -/
def Prepared.data : Prepared → Nat
  | .receive preparation => if preparation.frame_type = .DATA then preparation.payload_len.toNat else 0
  | .control _ => 0

/-- What the commit of a preparation does to the session that has made it. -/
inductive Advanced (session : Session) : Prepared → Session → Prop
  | opened {preparation : Preparation} (htype : preparation.frame_type = .OPEN) (hstate : session.state = .AWAIT_OPEN)
      (htotal : preparation.opened.total_size_known →
        preparation.opened.total_size ≤ session.config.max_total_size) :
      Advanced session (.receive preparation) (receive session preparation)
  | data {preparation : Preparation} (htype : preparation.frame_type = .DATA) (hstate : session.state = .ACTIVE)
      (hsequence : session.next_receive_sequence ≠ UINT64_MAX)
      (hsum : (session.committed_offset + preparation.payload_len).toNat =
        session.committed_offset.toNat + preparation.payload_len.toNat)
      (hlimit : session.committed_offset + preparation.payload_len ≤ session.receive_limit)
      (hend : preparation.end_stream → session.total_size_known →
        session.committed_offset + preparation.payload_len = session.total_size) :
      Advanced session (.receive preparation) (receive session preparation)
  | terminal {preparation : Preparation} (htype : preparation.frame_type = .CANCEL ∨ preparation.frame_type = .CLOSE)
      (hstate : session.state ≠ .AWAIT_OPEN) (hsequence : session.next_receive_sequence ≠ UINT64_MAX) :
      Advanced session (.receive preparation) (receive session preparation)
  | accept {preparation : ControlPreparation} (hstate : session.state = .AWAIT_ACCEPT_SEND)
      (hsequence : session.next_control_sequence ≠ UINT64_MAX) :
      Advanced session (.control preparation)
        { session with
          next_control_sequence := session.next_control_sequence + 1, generation := session.generation + 1
          state := .ACTIVE }
  | window {grant : UInt64} {preparation : ControlPreparation} (hstate : session.state = .ACTIVE)
      (hsequence : session.next_control_sequence ≠ UINT64_MAX)
      (hgrant : grant ≤ session.config.max_receive_window - (session.receive_limit - session.committed_offset))
      (hsum : (session.receive_limit + grant).toNat = session.receive_limit.toNat + grant.toNat)
      (hmaximum : session.receive_limit + grant ≤ session.config.max_total_size)
      (htotal : session.total_size_known → session.receive_limit + grant ≤ session.total_size) :
      Advanced session (.control preparation)
        { session with
          next_control_sequence := session.next_control_sequence + 1, generation := session.generation + 1
          receive_limit := session.receive_limit + grant }

variable {session : Session} {frame : Frame}

theorem validate_open_ok {opened : Open} (hvalid : validate_open session frame = .ok opened) :
    session.state = .AWAIT_OPEN ∧ frame.sequence = 0 ∧ frame.offset = 0 ∧
      (opened.total_size_known → opened.total_size ≤ session.config.max_total_size) := by
  obtain ⟨hstate, hvalid⟩ := guard_passed hvalid
  obtain ⟨hcurrent, hvalid⟩ := guard_passed hvalid
  split at hvalid
  · cases hvalid
  · obtain ⟨_, hvalid⟩ := guard_passed hvalid
    obtain ⟨htotal, hvalid⟩ := guard_passed hvalid
    obtain rfl := Except.ok.inj hvalid
    simp only [not_or, not_not] at hcurrent
    exact ⟨not_not.mp hstate, hcurrent.1, hcurrent.2, fun hknown => UInt64.not_lt.mp fun hover => htotal ⟨hknown, hover⟩⟩

theorem validate_data_ok (hvalid : validate_data session frame = .OK) :
    session.state = .ACTIVE ∧ session.next_receive_sequence ≠ UINT64_MAX ∧
      frame.sequence = session.next_receive_sequence ∧ frame.offset = session.committed_offset ∧
      ¬frame.payload_len > UINT64_MAX - session.committed_offset ∧
      session.committed_offset + frame.payload_len ≤ session.receive_limit ∧
      (frame.end_stream → session.total_size_known →
        session.committed_offset + frame.payload_len = session.total_size) := by
  obtain ⟨hstate, hvalid⟩ := guard_passed hvalid
  obtain ⟨hsequence, hvalid⟩ := guard_passed hvalid
  obtain ⟨hcurrent, hvalid⟩ := guard_passed hvalid
  obtain ⟨hroom, hvalid⟩ := guard_passed hvalid
  obtain ⟨hlimit, hvalid⟩ := guard_passed hvalid
  obtain ⟨_, hvalid⟩ := guard_passed hvalid
  obtain ⟨_, hvalid⟩ := guard_passed hvalid
  obtain ⟨hend, _⟩ := guard_passed hvalid
  simp only [not_or, not_not] at hcurrent
  rw [hcurrent.2] at hroom hlimit hend
  refine ⟨not_not.mp hstate, hsequence, hcurrent.1, hcurrent.2, hroom, UInt64.not_lt.mp hlimit, fun hflag hknown => ?_⟩
  by_contra hother
  exact hend ⟨hflag, hknown, hother⟩

theorem validate_terminal_ok {reason_code : UInt16}
    (hvalid : validate_terminal_control session frame = .ok reason_code) :
    session.next_receive_sequence ≠ UINT64_MAX ∧ frame.sequence = session.next_receive_sequence ∧
      frame.offset = session.committed_offset ∧
      (if frame.type = .CLOSE then session.state = .END_RECEIVED else can_cancel session.state = true) := by
  obtain ⟨hsequence, hvalid⟩ := guard_passed hvalid
  obtain ⟨hcurrent, hvalid⟩ := guard_passed hvalid
  simp only [not_or, not_not] at hcurrent
  refine ⟨hsequence, hcurrent.1, hcurrent.2, ?_⟩
  split at hvalid
  · cases hvalid
  · split_ifs at hvalid ⊢
    · assumption
    · assumption

/-- A preparation is committed right after it was made. -/
theorem commit_valid {prepared : Prepared} (hvalid : Valid session prepared) :
    ∃ after, commit session prepared = (.OK, after) ∧ Advanced session prepared after := by
  cases hvalid with
  | @receive decoded preparation hprepare =>
    obtain ⟨_, hprepare⟩ := guard_passed hprepare
    cases decoded with
    | error => cases hprepare
    | ok frame =>
      obtain ⟨_, hprepare⟩ := guard_passed hprepare
      have hcommit : receive_preparation_matches session preparation = true →
          commit session (.receive preparation) = (.OK, receive session preparation) :=
        fun hmatches => if_neg (not_not.mpr hmatches)
      cases htype : frame.type <;> rw [htype] at hprepare
      case OPEN =>
        obtain ⟨opened, hopened, rfl⟩ := except_map_eq_ok.mp hprepare
        obtain ⟨hstate, hsequence, hoffset, htotal⟩ := validate_open_ok hopened
        refine ⟨_, hcommit ?_, .opened rfl hstate htotal⟩
        simp [receive_preparation_matches, hstate, hsequence, hoffset, frame.payload_empty (by simp [htype])]
      case DATA =>
        split_ifs at hprepare with hvalid
        obtain rfl := Except.ok.inj hprepare
        obtain ⟨hstate, hsequence, hcurrent, hoffset, hroom, hlimit, hend⟩ := validate_data_ok hvalid
        have hsum := Word.toNat_add (UInt64.not_lt.mp hroom)
        have hbound := UInt64.le_iff_toNat_le.mp hlimit
        have hfits : frame.payload_len ≤ session.receive_limit - session.committed_offset := by
          rw [UInt64.le_iff_toNat_le, UInt64.toNat_sub_of_le _ _ (UInt64.le_iff_toNat_le.mpr (by omega))]
          omega
        refine ⟨_, hcommit ?_, .data rfl hstate hsequence hsum hlimit hend⟩
        simp [receive_preparation_matches, hstate, hcurrent, hoffset, hfits]
      case CANCEL =>
        obtain ⟨reason_code, hreason, rfl⟩ := except_map_eq_ok.mp hprepare
        obtain ⟨hsequence, hcurrent, hoffset, hstate⟩ := validate_terminal_ok hreason
        rw [if_neg (by simp [htype])] at hstate
        refine ⟨_, hcommit ?_, .terminal (Or.inl rfl) ?_ hsequence⟩
        · simp [receive_preparation_matches, hstate, hcurrent, hoffset]
        · rintro hopen
          simp [can_cancel, hopen] at hstate
      case CLOSE =>
        obtain ⟨reason_code, hreason, rfl⟩ := except_map_eq_ok.mp hprepare
        obtain ⟨hsequence, hcurrent, hoffset, hstate⟩ := validate_terminal_ok hreason
        rw [if_pos htype] at hstate
        refine ⟨_, hcommit ?_, .terminal (Or.inr rfl) (by simp [hstate]) hsequence⟩
        simp [receive_preparation_matches, hstate, hcurrent, hoffset]
      case ACCEPT | WINDOW_UPDATE =>
        cases hprepare
  | accept hprepare =>
    obtain ⟨hstate, hprepare⟩ := guard_passed hprepare
    obtain ⟨hsequence, hprepare⟩ := guard_passed hprepare
    obtain rfl := Except.ok.inj hprepare
    refine ⟨_, ?_, .accept (not_not.mp hstate) hsequence⟩
    simp [commit, commit_control_v1, prepare_control_frame, hsequence, not_not.mp hstate]
  | @window grant _ hprepare =>
    obtain ⟨hzero, hprepare⟩ := guard_passed hprepare
    obtain ⟨hstate, hprepare⟩ := guard_passed hprepare
    obtain ⟨hsequence, hprepare⟩ := guard_passed hprepare
    obtain ⟨hgrant, hprepare⟩ := guard_passed hprepare
    obtain ⟨hroom, hprepare⟩ := guard_passed hprepare
    obtain ⟨hmaximum, hprepare⟩ := guard_passed hprepare
    obtain ⟨htotal, hprepare⟩ := guard_passed hprepare
    obtain rfl := Except.ok.inj hprepare
    refine ⟨_, ?_, .window (not_not.mp hstate) hsequence (UInt64.not_lt.mp hgrant) (Word.toNat_add (UInt64.not_lt.mp hroom))
      (UInt64.not_lt.mp hmaximum) fun hknown => UInt64.not_lt.mp fun hover => htotal ⟨hknown, hover⟩⟩
    refine (if_neg (by simp [prepare_control_frame, hsequence])).trans (if_neg ?_)
    simp only [prepare_control_frame, not_or]
    exact ⟨hstate, hzero, hroom, hgrant, not_not.mpr rfl, hmaximum, htotal⟩

/-- What holds of a session at all times. -/
structure Bounded (session : Session) : Prop where
  offset : session.committed_offset ≤ session.receive_limit
  limit : session.receive_limit ≤ session.config.max_total_size
  total : session.total_size_known → session.receive_limit ≤ session.total_size
  window : session.receive_limit - session.committed_offset ≤ session.config.max_receive_window
  ended : session.state = .END_RECEIVED → session.total_size_known → session.committed_offset = session.total_size
  opened : session.state = .AWAIT_OPEN → session.next_receive_sequence = 0 ∧ session.committed_offset = 0
  generation : session.generation = session.next_receive_sequence + session.next_control_sequence

variable {session after : Session} {prepared : Prepared}

theorem Bounded.of_init {config : Config} (hinit : init_v1 config = .ok session) : Bounded session := by
  obtain ⟨hvalid, hinit⟩ := guard_passed hinit
  obtain rfl := Except.ok.inj hinit
  simp only [not_or] at hvalid
  obtain ⟨_, _, _, hwindow, htotal, _⟩ := hvalid
  refine ⟨UInt64.zero_le, UInt64.not_lt.mp htotal, by simp, ?_, by simp, fun _ => ⟨rfl, rfl⟩, by simp⟩
  rw [sub_zero]
  exact UInt64.not_lt.mp hwindow

theorem toNat_succ {counter : UInt64} (hcounter : counter ≠ UINT64_MAX) : (counter + 1).toNat = counter.toNat + 1 := by
  have hne : counter.toNat ≠ 2 ^ 64 - 1 := fun heq => hcounter (UInt64.toNat_inj.mp heq)
  have hlt := counter.toNat_lt
  rw [UInt64.toNat_add, UInt64.toNat_one, Nat.mod_eq_of_lt (by omega)]

def Session.commits (session : Session) : Nat :=
  session.next_receive_sequence.toNat + session.next_control_sequence.toNat

theorem generation_succ {generation received sent : UInt64} (hgeneration : generation = received + sent) :
    generation + 1 = received + 1 + sent := by
  rw [hgeneration, add_right_comm]

theorem Advanced.bounded (hadvanced : Advanced session prepared after) (hbounded : Bounded session) :
    Bounded after := by
  obtain ⟨hoffset, hlimit, htotal, hwindow, hended, hopened, hgeneration⟩ := hbounded
  cases hadvanced with
  | @opened preparation htype hstate hknown =>
    obtain ⟨hsequence, hzero⟩ := hopened hstate
    rw [hzero, sub_zero] at hwindow
    have hnext := generation_succ hgeneration
    rw [hsequence] at hnext
    simp only [receive, htype]
    by_cases hclamp : preparation.opened.total_size_known = true ∧ session.receive_limit > preparation.opened.total_size
    · simp only [if_pos hclamp, hzero]
      exact ⟨UInt64.zero_le, hknown hclamp.1, fun _ => UInt64.le_refl _,
        by rw [sub_zero]; exact UInt64.le_trans (UInt64.le_of_lt hclamp.2) hwindow, by simp, by simp, hnext⟩
    · simp only [if_neg hclamp, hzero]
      exact ⟨UInt64.zero_le, hlimit, fun hknown => UInt64.not_lt.mp fun hover => hclamp ⟨hknown, hover⟩,
        by rwa [sub_zero], by simp, by simp, hnext⟩
  | @data preparation htype hstate hsequence hsum hfits hend =>
    simp only [receive, htype]
    have hdown : session.receive_limit - (session.committed_offset + preparation.payload_len) ≤
        session.receive_limit - session.committed_offset := by
      rw [UInt64.le_iff_toNat_le, UInt64.toNat_sub_of_le _ _ hfits, UInt64.toNat_sub_of_le _ _ hoffset]
      omega
    refine ⟨hfits, hlimit, htotal, UInt64.le_trans hdown hwindow, fun hafter => ?_, fun hafter => ?_,
      generation_succ hgeneration⟩
    · refine hend ?_
      by_contra hopen
      simp [hopen, hstate] at hafter
    · by_cases hflag : preparation.end_stream = true <;> simp [hflag, hstate] at hafter
  | @terminal preparation htype hstate hsequence =>
    obtain htype | htype := htype <;>
      · simp only [receive, htype]
        exact ⟨hoffset, hlimit, htotal, hwindow, by simp, by simp, generation_succ hgeneration⟩
  | accept hstate hsequence =>
    exact ⟨hoffset, hlimit, htotal, hwindow, by simp, by simp, by simp only [hgeneration, add_assoc]⟩
  | @window grant _ hstate hsequence hgrant hsum hmaximum hknown =>
    have hsub := UInt64.toNat_sub_of_le _ _ hoffset
    have hless := UInt64.le_iff_toNat_le.mp hoffset
    have hgrant := UInt64.le_iff_toNat_le.mp hgrant
    rw [UInt64.toNat_sub_of_le _ _ hwindow, hsub] at hgrant
    have hwindow := UInt64.le_iff_toNat_le.mp hwindow
    have hup : session.committed_offset ≤ session.receive_limit + grant := UInt64.le_iff_toNat_le.mpr (by omega)
    refine ⟨hup, hmaximum, hknown, UInt64.le_iff_toNat_le.mpr ?_, by simp [hstate], by simp [hstate],
      by simp only [hgeneration, add_assoc]⟩
    change (session.receive_limit + grant - session.committed_offset).toNat ≤ session.config.max_receive_window.toNat
    rw [UInt64.toNat_sub_of_le _ _ hup, hsum]
    omega

/-- A commit counts once, and adds its data to the stream. -/
theorem Advanced.counted (hadvanced : Advanced session prepared after) (hbounded : Bounded session) :
    after.commits = session.commits + 1 ∧
      after.committed_offset.toNat = session.committed_offset.toNat + prepared.data := by
  cases hadvanced with
  | @opened preparation htype hstate =>
    obtain ⟨hsequence, _⟩ := hbounded.opened hstate
    simp [Session.commits, receive, Prepared.data, htype, hsequence, add_comm]
  | data htype _ hsequence hsum =>
    simp only [Session.commits, receive, Prepared.data, htype, toNat_succ hsequence, hsum, if_true]
    exact ⟨by omega, trivial⟩
  | terminal htype _ hsequence =>
    obtain htype | htype := htype <;>
      · simp only [Session.commits, receive, Prepared.data, htype, toNat_succ hsequence]
        exact ⟨by omega, by simp⟩
  | accept _ hsequence | window _ hsequence =>
    simp only [Session.commits, Prepared.data, toNat_succ hsequence]
    exact ⟨by omega, by omega⟩

/-- The counter that a preparation is checked against. -/
def Prepared.counter (session : Session) : Prepared → UInt64
  | .receive _ => session.next_receive_sequence
  | .control _ => session.next_control_sequence

/-- The generation and the sequence that a preparation carries. -/
def Prepared.taken : Prepared → UInt64 × UInt64
  | .receive preparation => (preparation.generation, preparation.sequence)
  | .control preparation => (preparation.generation, preparation.sequence)

theorem taken_of_commit (hbounded : Bounded session) (hcommit : (commit session prepared).1 = .OK) :
    prepared.taken = (session.generation, prepared.counter session) := by
  cases prepared with
  | receive preparation =>
    simp only [commit, commit_v1] at hcommit
    have hmatches : receive_preparation_matches session preparation = true := by
      by_contra hother
      simp [hother] at hcommit
    simp only [receive_preparation_matches, Bool.and_eq_true, decide_eq_true_eq] at hmatches
    obtain ⟨hgeneration, hmatches⟩ := hmatches
    refine Prod.ext hgeneration ?_
    cases htype : preparation.frame_type <;> rw [htype] at hmatches <;>
      simp only [decide_eq_true_eq, Bool.false_eq_true] at hmatches
    · exact hmatches.2.1.trans (hbounded.opened hmatches.1).1.symm
    · exact hmatches.2.1.1
    · exact hmatches.2.1
    · exact hmatches.2.1
  | control preparation =>
    by_contra hother
    refine absurd hcommit ?_
    rw [commit, commit_control_v1, if_pos]
    · simp
    · by_contra hsame
      simp only [not_or, not_not] at hsame
      exact hother (Prod.ext hsame.1 hsame.2.1)

/-- A preparation that commits in another session was made after as many
commits as that session has seen. -/
theorem commits_of_commit {made : Session} (hmade : Bounded made) (hvalid : Valid made prepared)
    (hbounded : Bounded session) (hcommit : (commit session prepared).1 = .OK) : made.commits = session.commits := by
  obtain ⟨_, hearlier, _⟩ := commit_valid hvalid
  have htaken := taken_of_commit hmade (congrArg Prod.fst hearlier)
  rw [taken_of_commit hbounded hcommit, Prod.mk.injEq, hmade.generation, hbounded.generation] at htaken
  obtain ⟨hsum, hcounter⟩ := htaken
  cases prepared with
  | receive =>
    simp only [Prepared.counter] at hcounter
    rw [hcounter] at hsum
    rw [Session.commits, Session.commits, hcounter, add_left_cancel hsum]
  | control =>
    simp only [Prepared.counter] at hcounter
    rw [hcounter] at hsum
    rw [Session.commits, Session.commits, hcounter, add_right_cancel hsum]

/-- A preparation in the hands of the caller, with the session that made it. -/
structure Attempt where
  made : Session
  prepared : Prepared
  deriving DecidableEq

/-- A session in use: the preparations made and the ones committed so far. -/
structure System where
  session : Session
  attempts : List Attempt := []
  committed : List Prepared := []

/-- The calls on a session. -/
inductive Input where
  | prepare (decoded : Except Result Frame)
  | prepare_accept
  | prepare_window (grant : UInt64)
  | commit (attempt : Attempt)

/-- A preparation, where there is one, is handed out. -/
def System.hand_out {α : Type} (system : System) (kind : α → Prepared) : Except Result α → System
  | .ok preparation => { system with attempts := ⟨system.session, kind preparation⟩ :: system.attempts }
  | .error _ => system

/-- One call; only what was handed out is committed. -/
def step (system : System) : Input → System
  | .prepare decoded => system.hand_out .receive (prepare_v1 system.session decoded)
  | .prepare_accept => system.hand_out .control (prepare_accept_v1 system.session)
  | .prepare_window grant => system.hand_out .control (prepare_window_v1 system.session grant)
  | .commit attempt =>
    if attempt ∉ system.attempts then system
    else
      match commit system.session attempt.prepared with
      | (.OK, session) => { system with session, committed := attempt.prepared :: system.committed }
      | _ => system

/-- What holds of a session in use; a preparation made since the last commit was
made by the session as it is. -/
structure Sound (system : System) : Prop where
  bounded : Bounded system.session
  offset : system.session.committed_offset.toNat = (system.committed.map Prepared.data).sum
  count : system.committed.length = system.session.commits
  valid : ∀ attempt ∈ system.attempts, Valid attempt.made attempt.prepared ∧ Bounded attempt.made
  earlier : ∀ attempt ∈ system.attempts, attempt.made = system.session ∨ attempt.made.commits < system.session.commits

variable {system : System}

theorem Sound.hand_out {α : Type} {kind : α → Prepared} {prepared : Except Result α} (hsound : Sound system)
    (hvalid : ∀ made, prepared = .ok made → Valid system.session (kind made)) :
    Sound (system.hand_out kind prepared) := by
  cases prepared with
  | error => exact hsound
  | ok made =>
    refine ⟨hsound.bounded, hsound.offset, hsound.count, fun attempt hmem => ?_, fun attempt hmem => ?_⟩
    · obtain rfl | hmem := List.mem_cons.mp hmem
      · exact ⟨hvalid made rfl, hsound.bounded⟩
      · exact hsound.valid attempt hmem
    · obtain rfl | hmem := List.mem_cons.mp hmem
      · exact Or.inl rfl
      · exact hsound.earlier attempt hmem

/-- What is committed was made by the session as it is. -/
theorem Sound.made_of_commit (hsound : Sound system) {attempt : Attempt} (hmem : attempt ∈ system.attempts)
    (hcommit : (commit system.session attempt.prepared).1 = .OK) : attempt.made = system.session := by
  obtain ⟨hvalid, hbounded⟩ := hsound.valid attempt hmem
  have hcommits := commits_of_commit hbounded hvalid hsound.bounded hcommit
  exact (hsound.earlier attempt hmem).resolve_right (by omega)

theorem Sound.step (hsound : Sound system) (input : Input) : Sound (step system input) := by
  cases input with
  | prepare decoded => exact hsound.hand_out fun _ hprepare => .receive hprepare
  | prepare_accept => exact hsound.hand_out fun _ hprepare => .accept hprepare
  | prepare_window grant => exact hsound.hand_out fun _ hprepare => .window hprepare
  | commit attempt =>
    rw [mesh_stream_session.step]
    split
    · exact hsound
    · next hmem =>
      rw [not_not] at hmem
      split
      · next session hcommit =>
        have hmade := hsound.made_of_commit hmem (congrArg Prod.fst hcommit)
        have hvalid := (hsound.valid attempt hmem).1
        rw [hmade] at hvalid
        obtain ⟨after, hafter, hadvanced⟩ := commit_valid hvalid
        obtain rfl : after = session := congrArg Prod.snd (hafter.symm.trans hcommit)
        obtain ⟨hcommits, hoffset⟩ := hadvanced.counted hsound.bounded
        refine ⟨hadvanced.bounded hsound.bounded, ?_, ?_, hsound.valid, fun other hother => Or.inr ?_⟩
        · rw [hoffset, hsound.offset, List.map_cons, List.sum_cons, add_comm]
        · rw [List.length_cons, hsound.count, hcommits]
        · change other.made.commits < after.commits
          obtain hsame | hless := hsound.earlier other hother
          · rw [hsame]
            omega
          · omega
      · exact hsound

/-- A session that is used from the start. -/
def run (session : Session) (inputs : List Input) : System := Machine.run step { session } inputs

theorem Sound.run {config : Config} (hinit : init_v1 config = .ok session) (inputs : List Input) :
    Sound (run session inputs) := by
  refine Machine.run_invariant ?_ (fun _ input hsound => hsound.step input) inputs
  refine ⟨.of_init hinit, ?_, ?_, by simp, by simp⟩ <;>
    · obtain ⟨_, hinit⟩ := guard_passed hinit
      obtain rfl := Except.ok.inj hinit
      rfl

/-- Whatever is prepared and committed in whatever order, the offset of a
receiver session is the data committed, its limits hold, no preparation
survives another commit, and one that was just made commits. -/
theorem receiver_flow_controlled {config : Config} {session : Session} (hinit : init_v1 config = .ok session)
    (inputs : List Input) :
    let system := run session inputs
    let current := system.session
    current.committed_offset.toNat = (system.committed.map Prepared.data).sum ∧
      current.committed_offset ≤ current.receive_limit ∧ current.receive_limit ≤ current.config.max_total_size ∧
      (current.total_size_known → current.receive_limit ≤ current.total_size) ∧
      current.receive_limit - current.committed_offset ≤ current.config.max_receive_window ∧
      (current.state = .END_RECEIVED → current.total_size_known → current.committed_offset = current.total_size) ∧
      (∀ attempt ∈ system.attempts, ∀ later : List Input,
        system.committed.length < (run session (inputs ++ later)).committed.length →
        (commit (run session (inputs ++ later)).session attempt.prepared).1 ≠ .OK) ∧
      ∀ prepared, Valid current prepared → (commit current prepared).1 = .OK := by
  intro system current
  have hsound : Sound system := .run hinit inputs
  refine ⟨hsound.offset, hsound.bounded.offset, hsound.bounded.limit, hsound.bounded.total, hsound.bounded.window,
    hsound.bounded.ended, fun attempt hmem later hlater hcommit => ?_, fun prepared hvalid => ?_⟩
  · have hafter := Sound.run hinit (inputs ++ later)
    obtain ⟨hvalid, hbounded⟩ := hsound.valid attempt hmem
    have hcommits := commits_of_commit hbounded hvalid hafter.bounded hcommit
    rw [hsound.count, hafter.count] at hlater
    obtain hsame | hless := hsound.earlier attempt hmem
    · rw [hsame] at hcommits
      omega
    · omega
  · obtain ⟨_, hcommit, _⟩ := commit_valid hvalid
    rw [hcommit]

namespace Sample

def config : Config := ⟨⟨List.replicate 16 1, rfl⟩, 1, 4, 8, 16, 1, true⟩

/-- The frame that opens a stream of six bytes, and its first three. -/
def open_frame : Frame :=
  ⟨.OPEN, false, config.stream_id, 1, 0, 0, [0, 1, 0, 1, 1, 0, 2, 0, 8, 0, 0, 0, 0, 0, 0, 0, 6], 0, fun _ => rfl⟩

def data_frame : Frame := ⟨.DATA, false, config.stream_id, 1, 1, 0, [], 3, nofun⟩

def fresh : Session := { config, receive_limit := 4 }

/-- A call whose preparation is committed at once. -/
def at_once (inputs : List Input) (input : Input) : List Input :=
  inputs ++ input :: (run fresh (inputs ++ [input])).attempts.head?.toList.map .commit

def inputs : List Input :=
  [.prepare (.ok open_frame), .prepare_accept, .prepare (.ok data_frame), .prepare_window 2].foldl at_once []

end Sample

open Sample

/-- A stream is opened, receives three bytes and is granted the rest. -/
theorem small_stream_opened :
    init_v1 Sample.config = .ok Sample.fresh ∧
      let after := run Sample.fresh Sample.inputs
      after.session.committed_offset = 3 ∧ after.session.receive_limit = 6 ∧
        after.session.committed_offset.toNat = (after.committed.map Prepared.data).sum ∧
        after.session.receive_limit - after.session.committed_offset ≤ after.session.config.max_receive_window := by
  have hinit : init_v1 config = .ok fresh := by decide +kernel
  obtain ⟨hoffset, _, _, _, hwindow, _⟩ := receiver_flow_controlled hinit Sample.inputs
  exact ⟨hinit, by decide +kernel, by decide +kernel, hoffset, hwindow⟩

end turbop2p.mesh_stream_session
