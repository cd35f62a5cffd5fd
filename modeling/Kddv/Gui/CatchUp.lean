import Kddv.Framework.Progress
import Kddv.Gui.Refresh

/-!
# The labels catch up

Frames may be decoded faster than they are shown, and a run of `handleDataChanged` may mix the
records of several frames. When no more frames come, the labels end up showing the last one.
-/

namespace Kddv

open Framework EthercatSlave

namespace Refresh

variable {first : List EthercatSlave} {events new : List RefreshEvent} {s s' : Refresh}

/-! ## What is still to be shown -/

/-- The labels that `handleDataChanged` has set so far are those of the frame. If it is not
running, its last run has set them all. -/
def ShowsFrame (first : List EthercatSlave) (frame : Memory) (shown : List (Bool × List BoxLabels)) :
    Option (Bool × List BoxLabels) → Prop
  | none => ∃ last ∈ shown.getLast?, last.2 = decodedLabels first last.1 frame
  | some (showUnits, labels) => labels = (decodedLabels first showUnits frame).take labels.length

/-- The records are those of the last accepted frame, as far as the sniffer thread has copied them.
If no message is queued, its labels are shown or being set. -/
def Latest (first : List EthercatSlave) (frame : Memory) (shown : List (Bool × List BoxLabels))
    (s : Refresh) : Prop :=
  match s.decoding with
  | some (decoded, i) => decoded = frame ∧ CopiedUpTo (copySlave frame) first s.slaves i
  | none => s.slaves = first.map (copySlave frame) ∧
      (s.queued = 0 → ShowsFrame first frame shown s.showing)

/-- The state of both threads in relation to the last accepted frame. -/
structure Fresh (first : List EthercatSlave) (events : List RefreshEvent) (s : Refresh) : Prop where
  sameSlaves : SameSlaves s.slaves first
  idle : acceptedFrames events = [] → s = .waiting s.slaves
  latest : ∀ frame ∈ (acceptedFrames events).getLast?,
    Accepted frame ∧ Latest first frame (shownLabels events) s

theorem fresh_waiting (first : List EthercatSlave) : Fresh first [] (waiting first) :=
  ⟨.refl first, fun _ => rfl, nofun⟩

/-- A step of the GUI thread. -/
private theorem Latest.guiStep {frame : Memory} {shown shown' : List (Bool × List BoxLabels)}
    (h : Latest first frame shown s) (hslaves : s'.slaves = s.slaves)
    (hdecoding : s'.decoding = s.decoding)
    (hshows : s.slaves = first.map (copySlave frame) →
      (s.queued = 0 → ShowsFrame first frame shown s.showing) → s'.queued = 0 →
      ShowsFrame first frame shown' s'.showing) : Latest first frame shown' s' := by
  unfold Latest at h ⊢
  rw [hdecoding, hslaves]
  cases hpc : s.decoding with
  | some decoded =>
    rw [hpc] at h
    exact h
  | none =>
    rw [hpc] at h
    exact ⟨h.1, hshows h.1 h.2⟩

namespace Fresh

theorem capture {frame : Memory} (h : Fresh first events s)
    (hstep : s.step (.capture frame) = some (s', new)) : Fresh first (events ++ new) s' := by
  rw [Refresh.step] at hstep
  split at hstep
  · cases hstep
  · split at hstep
    · rename_i haccepted
      cases hstep
      have hframes : acceptedFrames (events ++ [.accepted frame]) =
          acceptedFrames events ++ [frame] := by
        rw [acceptedFrames_append]
        rfl
      refine ⟨h.sameSlaves, ?_, ?_⟩
      · rw [hframes]
        simp
      · rw [hframes]
        intro last hlast
        simp only [List.getLast?_append, List.getLast?_singleton, Option.some_or,
          Option.mem_def, Option.some.injEq] at hlast
        subst hlast
        exact ⟨haccepted, rfl, .zero h.sameSlaves⟩
    · cases hstep
      rw [List.append_nil]
      exact h

theorem copyData (h : Fresh first events s) (hstep : s.step .copyData = some (s', new)) :
    Fresh first (events ++ new) s' := by
  rw [Refresh.step] at hstep
  split at hstep
  · cases hstep
  · rename_i frame i hdecoding
    have hlatest : ∀ last ∈ (acceptedFrames events).getLast?, Accepted last ∧ frame = last ∧
        CopiedUpTo (copySlave last) first s.slaves i := by
      intro last hlast
      have hl := h.latest last hlast
      rw [Latest, hdecoding] at hl
      exact hl
    have hidle : acceptedFrames events ≠ [] := by
      intro hnil
      have hwaiting := congrArg decoding (h.idle hnil)
      rw [hdecoding] at hwaiting
      cases hwaiting
    split at hstep
    · rename_i slave hslave
      cases hstep
      rw [List.append_nil]
      obtain ⟨last, hlast⟩ := Option.ne_none_iff_exists'.mp (mt List.getLast?_eq_none_iff.mp hidle)
      obtain ⟨-, rfl, hcopied⟩ := hlatest last hlast
      refine ⟨(copied_next hcopied hslave).sameSlaves, fun hnil => absurd hnil hidle, ?_⟩
      intro other hother
      obtain ⟨haccepted, rfl, hcopied⟩ := hlatest other hother
      exact ⟨haccepted, rfl, copied_next hcopied hslave⟩
    · rename_i hend
      cases hstep
      rw [List.append_nil]
      refine ⟨h.sameSlaves, fun hnil => absurd hnil hidle, ?_⟩
      intro last hlast
      obtain ⟨haccepted, rfl, hcopied⟩ := hlatest last hlast
      exact ⟨haccepted, hcopied.complete hend, fun hzero => absurd hzero (Nat.succ_ne_zero _)⟩

theorem deliver {showUnits : Bool} (h : Fresh first events s)
    (hstep : s.step (.deliver showUnits) = some (s', new)) : Fresh first (events ++ new) s' := by
  rw [Refresh.step] at hstep
  split at hstep
  · rename_i hdeliver
    cases hstep
    rw [List.append_nil]
    refine ⟨h.sameSlaves, ?_, ?_⟩
    · intro hnil
      have hwaiting := congrArg queued (h.idle hnil)
      exact absurd hwaiting (Nat.ne_of_gt hdeliver.2)
    · intro last hlast
      obtain ⟨haccepted, hlatest⟩ := h.latest last hlast
      exact ⟨haccepted, hlatest.guiStep rfl rfl fun _ _ _ => rfl⟩
  · cases hstep

theorem setText (h : Fresh first events s) (hstep : s.step .setText = some (s', new)) :
    Fresh first (events ++ new) s' := by
  rw [Refresh.step] at hstep
  split at hstep
  · cases hstep
  · rename_i showUnits labels hshowing
    have hidle : acceptedFrames events ≠ [] := by
      intro hnil
      have hwaiting := congrArg showing (h.idle hnil)
      rw [hshowing] at hwaiting
      cases hwaiting
    split at hstep
    · rename_i slave hslave
      cases hstep
      rw [List.append_nil]
      refine ⟨h.sameSlaves, fun hnil => absurd hnil hidle, ?_⟩
      intro last hlast
      obtain ⟨haccepted, hlatest⟩ := h.latest last hlast
      refine ⟨haccepted, hlatest.guiStep rfl rfl ?_⟩
      intro hslaves hshows hzero
      have hlabels := hshows hzero
      rw [hshowing] at hlabels
      -- the next slave is read while all records are those of the frame
      have hnext : (decodedLabels first showUnits last)[labels.length]? =
          some (boxLabels showUnits slave) := by
        rw [decodedLabels_eq first showUnits haccepted, List.getElem?_map, ← hslaves, hslave]
        rfl
      show labels ++ [boxLabels showUnits slave] = _
      rw [List.length_append, List.length_singleton, List.take_add_one, hnext, ← hlabels]
      rfl
    · rename_i hend
      cases hstep
      have hframes : acceptedFrames (events ++ [.shown showUnits labels]) =
          acceptedFrames events := by
        rw [acceptedFrames_append]
        exact List.append_nil _
      refine ⟨h.sameSlaves, fun hnil => absurd (hframes ▸ hnil) hidle, ?_⟩
      rw [hframes]
      intro last hlast
      obtain ⟨haccepted, hlatest⟩ := h.latest last hlast
      refine ⟨haccepted, hlatest.guiStep rfl rfl ?_⟩
      intro hslaves hshows hzero
      have hlabels := hshows hzero
      have hlength : (decodedLabels first showUnits last).length ≤ labels.length := by
        rw [decodedLabels_eq first showUnits haccepted, List.length_map, ← hslaves]
        exact List.getElem?_eq_none_iff.mp hend
      rw [hshowing, ShowsFrame, List.take_of_length_le hlength] at hlabels
      refine ⟨(showUnits, labels), ?_, hlabels⟩
      rw [shownLabels_append]
      exact List.getLast?_concat

theorem step {a : RefreshAction} (h : Fresh first events s)
    (hstep : s.step a = some (s', new)) : Fresh first (events ++ new) s' := by
  cases a with
  | capture frame => exact h.capture hstep
  | copyData => exact h.copyData hstep
  | deliver showUnits => exact h.deliver hstep
  | setText => exact h.setText hstep

end Fresh

/-! ## The steps that are left -/

/-- Each message takes one step to be delivered, one for each slave and one to return. -/
def work (s : Refresh) : Nat :=
  (match s.decoding with
    | some (_, i) => s.slaves.length - i + 1 + (s.slaves.length + 2)
    | none => 0) +
  s.queued * (s.slaves.length + 2) +
  match s.showing with
  | some (_, labels) => s.slaves.length - labels.length + 1
  | none => 0

/-- The steps of both threads on what has been captured. -/
def Pending (_ : Refresh) : RefreshAction → Prop
  | .capture _ => False
  | _ => True

/-- Only frames that fail the filters are captured. -/
def Rejected (_ : Refresh) : RefreshAction → Prop
  | .capture frame => ¬ Accepted frame
  | _ => False

theorem rejected_step {a : RefreshAction} (ha : s.Rejected a) (hstep : s.step a = some (s', new)) :
    s' = s ∧ new = [] := by
  cases a with
  | capture frame =>
    rw [Refresh.step] at hstep
    split at hstep
    · cases hstep
    · rw [if_neg ha] at hstep
      cases hstep
      exact ⟨rfl, rfl⟩
  | _ => exact absurd ha not_false

/-- No step but a capture adds a frame. -/
theorem pending_step {a : RefreshAction} (ha : s.Pending a) (hstep : s.step a = some (s', new)) :
    acceptedFrames new = [] ∧ s'.work < s.work := by
  cases a with
  | capture frame => exact absurd ha not_false
  | copyData =>
    rw [Refresh.step] at hstep
    split at hstep
    · cases hstep
    · rename_i frame i hdecoding
      split at hstep
      · rename_i slave hslave
        cases hstep
        have hlt := (List.getElem?_eq_some_iff.mp hslave).1
        refine ⟨rfl, ?_⟩
        simp only [work, hdecoding, List.length_set]
        omega
      · cases hstep
        refine ⟨rfl, ?_⟩
        simp only [work, hdecoding, Nat.add_mul, one_mul]
        omega
  | deliver showUnits =>
    rw [Refresh.step] at hstep
    split at hstep
    · rename_i hdeliver
      cases hstep
      obtain ⟨queued, hqueued⟩ := Nat.exists_eq_succ_of_ne_zero (Nat.ne_of_gt hdeliver.2)
      refine ⟨rfl, ?_⟩
      simp only [work, Option.isNone_iff_eq_none.mp hdeliver.1, hqueued, Nat.succ_sub_one,
        Nat.succ_mul, List.length_nil]
      omega
    · cases hstep
  | setText =>
    rw [Refresh.step] at hstep
    split at hstep
    · cases hstep
    · rename_i showUnits labels hshowing
      split at hstep
      · rename_i slave hslave
        cases hstep
        have hlt := (List.getElem?_eq_some_iff.mp hslave).1
        refine ⟨rfl, ?_⟩
        simp only [work, hshowing, List.length_append, List.length_singleton]
        omega
      · cases hstep
        refine ⟨rfl, ?_⟩
        simp only [work, hshowing]
        omega

/-- Until both threads wait and no message is queued, one of them can go on. -/
theorem canStep_pending (h : s ≠ .waiting s.slaves) : machine.CanStep Pending s := by
  obtain ⟨slaves, decoding, queued, showing⟩ := s
  cases decoding with
  | some decoded =>
    apply Machine.canStep_of_isSome (a := .copyData) trivial
    simp only [machine, Refresh.step]
    split <;> rfl
  | none =>
    cases showing with
    | some handler =>
      apply Machine.canStep_of_isSome (a := .setText) trivial
      simp only [machine, Refresh.step]
      split <;> rfl
    | none =>
      cases queued with
      | zero => exact absurd rfl h
      | succ queued =>
        apply Machine.canStep_of_isSome (a := .deliver true) trivial
        simp [machine, Refresh.step]

/-! ## The last frame is shown -/

/-- Everything that was captured has been handled, and the last run of `handleDataChanged` has
shown the last accepted frame. -/
def CaughtUp (first : List EthercatSlave) (frames : List Memory)
    (s : Refresh × List RefreshEvent) : Prop :=
  s.1 = .waiting s.1.slaves ∧ acceptedFrames s.2 = frames ∧
    ∀ frame ∈ frames.getLast?, ∃ last ∈ (shownLabels s.2).getLast?,
      last.2 = decodedLabels first last.1 frame

theorem Fresh.caughtUp (h : Fresh first events s) (hwaiting : s = .waiting s.slaves) :
    CaughtUp first (acceptedFrames events) (s, events) := by
  refine ⟨hwaiting, rfl, ?_⟩
  intro frame hframe
  obtain ⟨-, hlatest⟩ := h.latest frame hframe
  rw [hwaiting] at hlatest
  exact hlatest.2 rfl

/-- However frames and messages have been interleaved so far: if no further frame is accepted, the
labels show the last accepted frame after a bounded number of steps, in whatever order the two
threads take them. -/
theorem labels_catch_up (first : List EthercatSlave) (events : List RefreshEvent) (s : Refresh)
    (run : machine.Run (fun _ _ => True) (Refresh.waiting first) events s) :
    machine.logged.ReachesWithin (fun s a => s.1.Rejected a) (fun s a => s.1.Pending a)
      (CaughtUp first (acceptedFrames events)) s.work (s, events) := by
  have hfresh : Fresh first events s :=
    run.invariant (fresh_waiting first) fun _ _ _ _ _ h _ hstep => h.step hstep
  apply Machine.reachesWithin_of_measure
    (I := fun s => Fresh first s.2 s.1 ∧ acceptedFrames s.2 = acceptedFrames events)
    fun s => s.1.work
  · rintro ⟨s, log⟩ a ⟨s', log'⟩ new ⟨h, hframes⟩ ha hstep
    obtain ⟨hnext, hlog⟩ := Machine.logged_step hstep
    dsimp only at h hframes hnext hlog
    obtain ⟨rfl, rfl⟩ := rejected_step ha hnext
    rw [List.append_nil] at hlog
    subst hlog
    exact ⟨⟨h, hframes⟩, le_rfl⟩
  · rintro ⟨s, log⟩ a ⟨s', log'⟩ new ⟨h, hframes⟩ - ha hstep
    obtain ⟨hnext, hlog⟩ := Machine.logged_step hstep
    dsimp only at h hframes hnext hlog
    subst hlog
    obtain ⟨hnew, hlt⟩ := pending_step ha hnext
    refine ⟨⟨h.step hnext, ?_⟩, hlt⟩
    rw [acceptedFrames_append, hnew, List.append_nil]
    exact hframes
  · rintro ⟨s, log⟩ ⟨h, hframes⟩ hnot
    apply Machine.logged_canStep
    apply canStep_pending
    intro hwaiting
    apply hnot
    rw [← hframes]
    exact h.caughtUp hwaiting
  · exact ⟨hfresh, rfl⟩
  · exact le_rfl

private def oneBattery : List EthercatSlave :=
  [⟨⟨"KELO_ROBILE", robileBatterySlaveType, 1, 5001027, 1, 34603265, 4097, 0, 12⟩,
    .robileBatterySlave, Packed.layout.decode [], Packed.layout.decode []⟩]

/-- A captured LRW frame with the given bytes after the header. -/
private def frameWith (payload : List UInt8) : Memory :=
  let header : List UInt8 := List.replicate 6 0xff ++ incomingSource ++ [0x88, 0xa4] ++
    [0x5e, 0x10, 12, 0, 0, 0, 0, 0, 80, 0, 0, 0]
  ⟨header ++ payload, fun _ => 0⟩

/-- Two frames have been decoded and no message has been delivered. -/
theorem labels_catch_up_two : ∃ events s,
    acceptedFrames events = [frameWith [0], frameWith [1]] ∧ s.queued = 2 ∧
      machine.logged.ReachesWithin (fun s a => s.1.Rejected a) (fun s a => s.1.Pending a)
        (CaughtUp oneBattery [frameWith [0], frameWith [1]]) 6 (s, events) := by
  have hexec : machine.exec (fun _ _ => True) (waiting oneBattery)
      [.capture (frameWith [0]), .copyData, .copyData, .capture (frameWith [1]), .copyData,
        .copyData] = some (_, _) := rfl
  exact ⟨_, _, rfl, rfl, labels_catch_up oneBattery _ _ (Machine.run_of_exec hexec)⟩

end Refresh

end Kddv
