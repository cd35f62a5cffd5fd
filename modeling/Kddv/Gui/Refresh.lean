import Kddv.Framework.Transition
import Kddv.Slave.CopyLoop
import Kddv.Sniffer.PacketCallback

/-!
# From frames to labels

The sniffer thread decodes frames into the slave objects and posts one `dataChanged` message for
each accepted frame. The message refers to the objects, and the GUI thread reads their records
only when it delivers the message.
-/

namespace Kddv

open Framework EthercatSlave

/-- `std::setw` before a text in a stream. -/
def setw (width : Nat) (text : String) : String :=
  String.ofList (List.replicate (width - text.utf8ByteSize) ' ') ++ text

/-- Text of a label, with the unit if units are shown. -/
def labelText (showUnits : Bool) (value unit : String) : String :=
  if showUnits then value ++ setw 10 unit else value

/-- Texts of the RX and of the TX labels of one group box. -/
abbrev BoxLabels := List String × List String

/-- Body of the loop of `handleDataChanged` over the slaves. -/
def boxLabels (showUnits : Bool) (slave : EthercatSlave) : BoxLabels :=
  (List.zipWith (labelText showUnits) slave.getRxValues slave.getRxUnits,
    List.zipWith (labelText showUnits) slave.getTxValues slave.getTxUnits)

/-- The slave objects with the two threads. The sniffer thread is in the loop over the slaves of
`packetCallback`, the GUI thread in that of `handleDataChanged`, or they wait. -/
structure Refresh where
  slaves : List EthercatSlave
  decoding : Option (Memory × Nat)
  queued : Nat
  showing : Option (Bool × List BoxLabels)

inductive RefreshAction
  | capture (frame : Memory)
  | copyData
  | deliver (showUnits : Bool)
  | setText

inductive RefreshEvent
  | accepted (frame : Memory)
  | shown (showUnits : Bool) (labels : List BoxLabels)

namespace Refresh

def step (s : Refresh) : RefreshAction → Option (Refresh × List RefreshEvent)
  | .capture frame =>
    if s.decoding.isSome then none
    else if Accepted frame then some ({ s with decoding := some (frame, 0) }, [.accepted frame])
    else some (s, [])
  | .copyData =>
    match s.decoding with
    | none => none
    | some (frame, i) =>
      match s.slaves[i]? with
      | some slave =>
        let slaves := s.slaves.set i (copySlave frame slave)
        some ({ s with slaves := slaves, decoding := some (frame, i + 1) }, [])
      | none => some ({ s with decoding := none, queued := s.queued + 1 }, [])
  | .deliver showUnits =>
    if s.showing.isNone ∧ 0 < s.queued then
      some ({ s with queued := s.queued - 1, showing := some (showUnits, []) }, [])
    else none
  | .setText =>
    match s.showing with
    | none => none
    | some (showUnits, labels) =>
      match s.slaves[labels.length]? with
      | some slave =>
        some ({ s with showing := some (showUnits, labels ++ [boxLabels showUnits slave]) }, [])
      | none => some ({ s with showing := none }, [.shown showUnits labels])

def machine : Machine Refresh RefreshAction RefreshEvent := ⟨step⟩

/-- Both threads wait and no message is queued. -/
def waiting (slaves : List EthercatSlave) : Refresh := ⟨slaves, none, 0, none⟩

end Refresh

/-- The frames that were accepted, in order. -/
def acceptedFrames (events : List RefreshEvent) : List Memory :=
  events.filterMap fun
    | .accepted frame => some frame
    | .shown _ _ => none

/-- What the runs of `handleDataChanged` have set the labels to, in order. -/
def shownLabels (events : List RefreshEvent) : List (Bool × List BoxLabels) :=
  events.filterMap fun
    | .accepted _ => none
    | .shown showUnits labels => some (showUnits, labels)

/-- The labels for the slaves as `packetCallback` decodes them from a frame. -/
def decodedLabels (slaves : List EthercatSlave) (showUnits : Bool) (frame : Memory) :
    List BoxLabels :=
  (packetCallback ⟨slaves, false⟩ frame 0).sniffer.slaves.map (boxLabels showUnits)

/-- The runs of `handleDataChanged` so far have shown the first accepted frames, in order. Once
both threads wait and no message is queued, these are all of them. -/
def ShowsEveryFrame (slaves : List EthercatSlave) (events : List RefreshEvent) (s : Refresh) :
    Prop :=
  List.Forall₂ (fun shown frame => shown.2 = decodedLabels slaves shown.1 frame)
    (shownLabels events) ((acceptedFrames events).take (shownLabels events).length) ∧
  (s = .waiting s.slaves → (shownLabels events).length = (acceptedFrames events).length)

theorem decodedLabels_eq (slaves : List EthercatSlave) (showUnits : Bool) {frame : Memory}
    (h : Accepted frame) : decodedLabels slaves showUnits frame =
      (slaves.map (copySlave frame)).map (boxLabels showUnits) := by
  rw [decodedLabels, packetCallback_slaves, if_pos h]

theorem copied_next {frame : Memory} {first slaves : List EthercatSlave} {i : Nat}
    (h : CopiedUpTo (copySlave frame) first slaves i) {slave : EthercatSlave}
    (hslave : slaves[i]? = some slave) :
    CopiedUpTo (copySlave frame) first (slaves.set i (copySlave frame slave)) (i + 1) := by
  have hset : CopiedUpTo (copySlave frame) first (slaves.set i (copySlave frame slave)) i :=
    h.set hslave (copyData_sameSlave _ _ _)
  refine hset.next ?_
  rw [List.getElem?_set_self (List.getElem?_eq_some_iff.mp hslave).1,
    h.sameSlaves.copy_getElem? (copySlave_congr frame) hslave]

theorem acceptedFrames_append (events new : List RefreshEvent) :
    acceptedFrames (events ++ new) = acceptedFrames events ++ acceptedFrames new :=
  List.filterMap_append

theorem shownLabels_append (events new : List RefreshEvent) :
    shownLabels (events ++ new) = shownLabels events ++ shownLabels new :=
  List.filterMap_append

namespace Refresh

private theorem decode_rest (first slaves : List EthercatSlave) (frame : Memory) (queued : Nat)
    (showing : Option (Bool × List BoxLabels)) (i rest : Nat)
    (h : CopiedUpTo (copySlave frame) first slaves i) (hlength : i + rest = slaves.length) :
    machine.exec (fun _ _ => True) ⟨slaves, some (frame, i), queued, showing⟩
        (List.replicate (rest + 1) .copyData) =
      some (⟨first.map (copySlave frame), none, queued + 1, showing⟩, []) := by
  induction rest generalizing slaves i with
  | zero =>
    have hend : slaves[i]? = none := List.getElem?_eq_none (by omega)
    have hstep : machine.step ⟨slaves, some (frame, i), queued, showing⟩ .copyData =
        some (⟨slaves, none, queued + 1, showing⟩, []) := by
      simp only [machine, step, hend]
    rw [List.replicate_succ, Machine.exec, if_pos trivial, hstep, ← h.complete hend]
    rfl
  | succ rest ih =>
    obtain ⟨slave, hslave⟩ : ∃ slave, slaves[i]? = some slave :=
      ⟨_, List.getElem?_eq_getElem (by omega)⟩
    have hstep : machine.step ⟨slaves, some (frame, i), queued, showing⟩ .copyData =
        some (⟨slaves.set i (copySlave frame slave), some (frame, i + 1), queued, showing⟩,
          []) := by
      simp only [machine, step, hslave]
    rw [List.replicate_succ, Machine.exec, if_pos trivial, hstep]
    dsimp only
    rw [ih _ _ (copied_next h hslave) (by rw [List.length_set]; omega)]
    rfl

/-- The uninterrupted steps of the sniffer thread on an accepted frame are one `packetCallback`. -/
theorem decode_refines_packetCallback (slaves : List EthercatSlave) (zmqPublishEnabled : Bool)
    (frame : Memory) (millis : Int) (queued : Nat) (showing : Option (Bool × List BoxLabels))
    (h : Accepted frame) :
    machine.exec (fun _ _ => True) ⟨slaves, none, queued, showing⟩
        (.capture frame :: List.replicate (slaves.length + 1) .copyData) =
      some (⟨(packetCallback ⟨slaves, zmqPublishEnabled⟩ frame millis).sniffer.slaves, none,
        queued + 1, showing⟩, [.accepted frame]) := by
  have hstep : machine.step ⟨slaves, none, queued, showing⟩ (.capture frame) =
      some (⟨slaves, some (frame, 0), queued, showing⟩, [.accepted frame]) := by
    simp [machine, step, h]
  rw [Machine.exec, if_pos trivial, hstep]
  dsimp only
  rw [decode_rest slaves slaves frame queued showing 0 slaves.length (.zero (.refl slaves))
    (Nat.zero_add _), packetCallback_slaves, if_pos h]
  rfl

/-- Nothing is still to be shown of the slave at `i`: no message is queued, and
`handleDataChanged`, if it runs, has set the labels of the slave. -/
def Shown (s : Refresh) (i : Nat) : Prop :=
  s.queued = 0 ∧ ∀ handler ∈ s.showing, i < handler.2.length

instance (s : Refresh) (i : Nat) : Decidable (s.Shown i) :=
  inferInstanceAs (Decidable (_ ∧ _))

/-- The sniffer thread overwrites a slave only when nothing is still to be shown of it. -/
def OverwritesShown (s : Refresh) : RefreshAction → Prop
  | .copyData => ∀ decoding ∈ s.decoding, decoding.2 < s.slaves.length → s.Shown decoding.2
  | _ => True

instance (s : Refresh) : (a : RefreshAction) → Decidable (s.OverwritesShown a)
  | .capture _ => .isTrue trivial
  | .copyData => inferInstanceAs (Decidable (∀ decoding ∈ s.decoding, _ → _))
  | .deliver _ => .isTrue trivial
  | .setText => .isTrue trivial

/-- The frame that the sniffer thread is decoding. -/
def Decoding (first slaves : List EthercatSlave) :
    Option (Memory × Nat) → List Memory → Prop
  | none, frames => frames = []
  | some (frame, i), frames =>
    frames = [frame] ∧ Accepted frame ∧ CopiedUpTo (copySlave frame) first slaves i

/-- The frame whose labels `handleDataChanged` is setting. -/
def Showing (first slaves : List EthercatSlave) :
    Option (Bool × List BoxLabels) → List Memory → Prop
  | none, frames => frames = []
  | some (showUnits, labels), frames =>
    ∃ frame, frames = [frame] ∧ Accepted frame ∧
      labels = (decodedLabels first showUnits frame).take labels.length ∧
      ∀ j, labels.length ≤ j → slaves[j]? = (first.map (copySlave frame))[j]?

/-- The accepted frames are those of the finished runs of `handleDataChanged`, of the current run,
of the queued messages and of the sniffer thread, in this order. -/
structure RefreshInv (first : List EthercatSlave) (s : Refresh)
    (shown : List (Bool × List BoxLabels))
    (frames done showing queued decoding : List Memory) : Prop where
  sameSlaves : SameSlaves s.slaves first
  frames_eq : frames = done ++ (showing ++ (queued ++ decoding))
  finished : List.Forall₂ (fun shown frame => shown.2 = decodedLabels first shown.1 frame)
    shown done
  current : Showing first s.slaves s.showing showing
  queued_length : queued.length = s.queued
  message : ∀ frame ∈ queued, Accepted frame ∧ s.slaves = first.map (copySlave frame)
  sniffer : Decoding first s.slaves s.decoding decoding

/-- The invariant, for some division of the accepted frames. -/
def OnTheWay (first : List EthercatSlave) (events : List RefreshEvent) (s : Refresh) : Prop :=
  ∃ done showing queued decoding,
    RefreshInv first s (shownLabels events) (acceptedFrames events) done showing queued decoding

namespace OnTheWay

variable {first : List EthercatSlave} {events : List RefreshEvent} {s s' : Refresh}
  {new : List RefreshEvent}

theorem capture {frame : Memory} (h : OnTheWay first events s)
    (hstep : s.step (.capture frame) = some (s', new)) : OnTheWay first (events ++ new) s' := by
  obtain ⟨done, showing, queued, decoding, h⟩ := h
  rw [Refresh.step] at hstep
  split at hstep
  · cases hstep
  · rename_i hnone
    have hdecoding : s.decoding = none := by simpa using hnone
    split at hstep
    · rename_i haccepted
      cases hstep
      have hsniffer := h.sniffer
      rw [hdecoding] at hsniffer
      refine ⟨done, showing, queued, [frame], h.sameSlaves, ?_, ?_, h.current, h.queued_length,
        h.message, rfl, haccepted, .zero h.sameSlaves⟩
      · rw [acceptedFrames_append, h.frames_eq, hsniffer]
        simp [acceptedFrames]
      · rw [shownLabels_append]
        simpa [shownLabels] using h.finished
    · cases hstep
      rw [List.append_nil]
      exact ⟨done, showing, queued, decoding, h⟩

theorem copyData (h : OnTheWay first events s) (hguard : s.OverwritesShown .copyData)
    (hstep : s.step .copyData = some (s', new)) : OnTheWay first (events ++ new) s' := by
  obtain ⟨done, showing, queued, decoding, h⟩ := h
  rw [Refresh.step] at hstep
  split at hstep
  · cases hstep
  · rename_i frame i hdecoding
    have hsniffer := h.sniffer
    rw [hdecoding] at hsniffer
    obtain ⟨rfl, haccepted, hcopied⟩ := hsniffer
    split at hstep
    · rename_i slave hslave
      cases hstep
      have hlt := (List.getElem?_eq_some_iff.mp hslave).1
      obtain ⟨hempty, hhandler⟩ := hguard (frame, i) hdecoding hlt
      have hqueued : queued = [] := by
        rw [← List.length_eq_zero_iff, h.queued_length, hempty]
      subst hqueued
      have hnext := copied_next hcopied hslave
      rw [List.append_nil]
      refine ⟨done, showing, [], [frame], hnext.sameSlaves, h.frames_eq, h.finished, ?_,
        h.queued_length, by simp, rfl, haccepted, hnext⟩
      -- the slaves that the running handler has still to show are beyond `i`
      have hcurrent := h.current
      cases hshowing : s.showing with
      | none => rwa [hshowing] at hcurrent
      | some handler =>
        obtain ⟨showUnits, labels⟩ := handler
        rw [hshowing] at hcurrent
        obtain ⟨shown, hframes, hshown, hlabels, hrest⟩ := hcurrent
        refine ⟨shown, hframes, hshown, hlabels, fun j hj => ?_⟩
        have hi : i < labels.length := hhandler _ hshowing
        rw [List.getElem?_set_ne (by omega), hrest j hj]
    · rename_i hend
      cases hstep
      rw [List.append_nil]
      refine ⟨done, showing, queued ++ [frame], [], h.sameSlaves, ?_, h.finished, h.current, ?_, ?_,
        rfl⟩
      · rw [h.frames_eq, List.append_nil]
      · rw [List.length_append, h.queued_length, List.length_singleton]
      · intro posted hposted
        rcases List.mem_append.mp hposted with hposted | hposted
        · exact h.message posted hposted
        · rw [List.mem_singleton.mp hposted]
          exact ⟨haccepted, hcopied.complete hend⟩

theorem deliver {showUnits : Bool} (h : OnTheWay first events s)
    (hstep : s.step (.deliver showUnits) = some (s', new)) :
    OnTheWay first (events ++ new) s' := by
  obtain ⟨done, showing, queued, decoding, h⟩ := h
  rw [Refresh.step] at hstep
  split at hstep
  · rename_i hdeliver
    cases hstep
    have hcurrent := h.current
    rw [Option.isNone_iff_eq_none.mp hdeliver.1] at hcurrent
    subst hcurrent
    cases queued with
    | nil => exact absurd h.queued_length (Nat.ne_of_lt hdeliver.2)
    | cons frame queued =>
      obtain ⟨haccepted, hslaves⟩ := h.message frame List.mem_cons_self
      rw [List.append_nil]
      refine ⟨done, [frame], queued, decoding, h.sameSlaves, h.frames_eq, h.finished,
        ⟨frame, rfl, haccepted, rfl, fun j _ => ?_⟩, ?_,
        fun posted hposted => h.message posted (List.mem_cons_of_mem frame hposted), h.sniffer⟩
      · rw [← hslaves]
      · have hlength := h.queued_length
        rw [List.length_cons] at hlength
        show queued.length = s.queued - 1
        omega
  · cases hstep

theorem setText (h : OnTheWay first events s) (hstep : s.step .setText = some (s', new)) :
    OnTheWay first (events ++ new) s' := by
  obtain ⟨done, showing, queued, decoding, h⟩ := h
  rw [Refresh.step] at hstep
  split at hstep
  · cases hstep
  · rename_i showUnits labels hshowing
    have hcurrent := h.current
    rw [hshowing] at hcurrent
    obtain ⟨frame, rfl, haccepted, hlabels, hrest⟩ := hcurrent
    have hdecoded := decodedLabels_eq first showUnits haccepted
    split at hstep
    · rename_i slave hslave
      cases hstep
      rw [List.append_nil]
      refine ⟨done, [frame], queued, decoding, h.sameSlaves, h.frames_eq, h.finished,
        ⟨frame, rfl, haccepted, ?_, fun j hj => hrest j ?_⟩, h.queued_length, h.message, h.sniffer⟩
      · have hnew := hrest labels.length (le_refl _)
        rw [List.length_append, List.length_singleton, List.take_add_one, ← hlabels, hdecoded,
          List.getElem?_map, ← hnew, hslave]
        rfl
      · rw [List.length_append] at hj
        omega
    · rename_i hend
      cases hstep
      refine ⟨done ++ [frame], [], queued, decoding, h.sameSlaves, ?_, ?_, rfl, h.queued_length,
        h.message, h.sniffer⟩
      · rw [acceptedFrames_append, h.frames_eq]
        simp [acceptedFrames]
      · rw [shownLabels_append]
        refine List.rel_append h.finished (.cons ?_ .nil)
        have hlength : first.length ≤ labels.length := by
          rw [← h.sameSlaves.length_eq]
          exact List.getElem?_eq_none_iff.mp hend
        show labels = decodedLabels first showUnits frame
        rw [hlabels, List.take_of_length_le]
        rwa [hdecoded, List.length_map, List.length_map]

theorem step {a : RefreshAction} (h : OnTheWay first events s) (hguard : s.OverwritesShown a)
    (hstep : s.step a = some (s', new)) : OnTheWay first (events ++ new) s' := by
  cases a with
  | capture frame => exact h.capture hstep
  | copyData => exact h.copyData hguard hstep
  | deliver showUnits => exact h.deliver hstep
  | setText => exact h.setText hstep

end OnTheWay

/-- In every run in which the sniffer thread overwrites only what has been shown, the runs of
`handleDataChanged` show the accepted frames one by one. -/
theorem showsEveryFrame (first : List EthercatSlave) (events : List RefreshEvent) (s : Refresh)
    (run : machine.Run OverwritesShown (Refresh.waiting first) events s) :
    ShowsEveryFrame first events s := by
  have hstart : OnTheWay first [] (Refresh.waiting first) :=
    ⟨[], [], [], [], .refl first, rfl, .nil, rfl, rfl, by simp, rfl⟩
  have hway : OnTheWay first events s :=
    run.invariant hstart fun _ _ _ _ _ h hguard hstep => h.step hguard hstep
  obtain ⟨done, showing, queued, decoding, h⟩ := hway
  rw [ShowsEveryFrame, h.finished.length_eq, h.frames_eq, List.take_left]
  refine ⟨h.finished, fun hwaiting => ?_⟩
  have hshowing := h.current
  have hqueued := h.queued_length
  have hdecoding := h.sniffer
  rw [hwaiting] at hshowing hqueued hdecoding
  rw [hshowing, hdecoding, List.length_eq_zero_iff.mp hqueued]
  simp

private def battery : EthercatSlave :=
  ⟨⟨"KELO_ROBILE", robileBatterySlaveType, 1, 5001027, 1, 34603265, 4097, 0, 12⟩,
    .robileBatterySlave, Packed.layout.decode [], Packed.layout.decode []⟩

/-- A captured LRW frame in which every byte of the payload is the same. -/
private def constantFrame (byte : UInt8) : Memory :=
  let header : List UInt8 := List.replicate 6 0xff ++ incomingSource ++ [0x88, 0xa4] ++
    [0x5e, 0x10, 12, 0, 0, 0, 0, 0, 80, 0, 0, 0]
  ⟨header ++ List.replicate 80 byte ++ [3, 0], fun _ => 0⟩

private def batteryLabels (byte : UInt8) : List BoxLabels :=
  [boxLabels false (copySlave (constantFrame byte) battery)]

/-- The second frame overwrites the slave while `handleDataChanged` has shown the first one. -/
theorem showsEveryFrame_two : ∃ events s,
    acceptedFrames events = [constantFrame 0, constantFrame 1] ∧
      ShowsEveryFrame [battery] events s := by
  have hexec : machine.exec OverwritesShown (waiting [battery])
      [.capture (constantFrame 0), .copyData, .copyData, .deliver false, .setText,
        .capture (constantFrame 1), .copyData, .copyData, .setText, .deliver false, .setText,
        .setText] = some (_, _) := rfl
  refine ⟨_, _, ?_, showsEveryFrame [battery] _ _ (Machine.run_of_exec hexec)⟩
  rfl

private def firstLabel (labels : List BoxLabels) : Option String :=
  labels.head?.bind fun labels => labels.1.head?

/-- Two frames are decoded before the first message is delivered: `handleDataChanged` shows the
second one in its first run. -/
theorem showsEveryFrame_fails : ¬ ∀ (first : List EthercatSlave) (events : List RefreshEvent)
    (s : Refresh), machine.Run (fun _ _ => True) (waiting first) events s →
      ShowsEveryFrame first events s := by
  intro h
  have hexec : machine.exec (fun _ _ => True) (waiting [battery])
      [.capture (constantFrame 0), .copyData, .copyData, .capture (constantFrame 1), .copyData,
        .copyData, .deliver false, .setText, .setText] =
      some (⟨_, none, 1, none⟩, [.accepted (constantFrame 0), .accepted (constantFrame 1),
        .shown false (batteryLabels 1)]) := rfl
  have hshows := (h _ _ _ (Machine.run_of_exec hexec)).1
  have hlabels : batteryLabels 1 = batteryLabels 0 := by
    cases hshows with
    | cons heq _ => exact heq
  have hsecond : firstLabel (batteryLabels 1) = some (toString 16843009) := rfl
  have hfirst : firstLabel (batteryLabels 0) = some (toString 0) := rfl
  rw [hlabels, hfirst] at hsecond
  exact absurd hsecond (by decide)

end Refresh

end Kddv
