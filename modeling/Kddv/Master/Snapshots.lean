import Kddv.Master.Lifecycle
import Kddv.Slave.CopyLoop

/-!
# What the data copy loop delivers

The callback and the publisher run under the mutex that also protects the copying of the
process image, so they see the records of one complete cycle, and later iterations see the
same or a later cycle.
-/

namespace Kddv

open Framework

/-- What a sequence of events says about the two loops: the process image of each cycle of
`ethercatLoop`, the cycles whose `copyData` got the mutex (counted from one), and for each
iteration of `dataCopyLoop`, the latest first, the slaves as each reader has seen them. -/
structure History where
  images : List ProcessImage
  copied : List Nat
  deliveries : List (List (List EthercatSlave))

namespace History

/-- One more reader in the latest iteration. -/
def deliver (slaves : List EthercatSlave) :
    List (List (List EthercatSlave)) → List (List (List EthercatSlave))
  | [] => [[slaves]]
  | seen :: earlier => (seen ++ [slaves]) :: earlier

def add (history : History) : MasterEvent → History
  | .cycle image => { history with images := history.images ++ [image] }
  | .copyData => { history with copied := history.images.length :: history.copied }
  | .lockGuard => { history with deliveries := [] :: history.deliveries }
  | .callback slaves => { history with deliveries := deliver slaves history.deliveries }
  | .publishMsg slaves => { history with deliveries := deliver slaves history.deliveries }
  | _ => history

def ofEvents (events : List MasterEvent) : History := events.foldl add ⟨[], [], []⟩

theorem ofEvents_append (events new : List MasterEvent) :
    ofEvents (events ++ new) = new.foldl add (ofEvents events) :=
  List.foldl_append

end History

/-- The records after the `copyData` of a cycle. Cycle zero stands for the records before the
first copy. -/
def snapshot (first : List EthercatSlave) (images : List ProcessImage) : Nat → List EthercatSlave
  | 0 => first
  | cycle + 1 =>
    match images[cycle]? with
    | some image => first.map image.copy
    | none => first

theorem snapshot_append (first : List EthercatSlave) (images new : List ProcessImage) (cycle : Nat)
    (h : cycle ≤ images.length) :
    snapshot first (images ++ new) cycle = snapshot first images cycle := by
  cases cycle with
  | zero => rfl
  | succ cycle => rw [snapshot, snapshot, List.getElem?_append_left (by omega)]

theorem snapshot_last {first : List EthercatSlave} {images : List ProcessImage}
    {image : ProcessImage} (h : images.getLast? = some image) :
    snapshot first images images.length = first.map image.copy := by
  obtain ⟨before, rfl⟩ := List.getLast?_eq_some_iff.mp h
  simp [snapshot]

theorem snapshot_sameSlaves (first : List EthercatSlave) (images : List ProcessImage)
    (cycle : Nat) :
    EthercatSlave.SameSlaves (snapshot first images cycle) first := by
  cases cycle with
  | zero => exact .refl first
  | succ cycle =>
    rw [snapshot]
    split
    · exact EthercatSlave.sameSlaves_map (fun slave => slave.copyData_sameSlave _ _) first
    · exact .refl first

/-- Copying overwrites all records. -/
theorem ProcessImage.copy_congr (image : ProcessImage) {left right : EthercatSlave}
    (h : left.SameSlave right) : image.copy left = image.copy right := by
  rw [copy, copy, outputs, outputs, inputs, inputs, h.1]
  exact EthercatSlave.copyData_sameSlave_congr h _ _

/-! ## The invariant of the mutex -/

/-- The places inside the loop of `copyData`. -/
def EthercatPc.Copying : Option EthercatPc → Prop
  | some (.copyRx _) => True
  | some (.copyTx _) => True
  | _ => False

/-- The places inside the scope of the lock guard. -/
def DataCopyPc.Reading : Option DataCopyPc → Prop
  | some (.callback _) => True
  | some (.publish _) => True
  | some .unlock => True
  | _ => False

/-- The step in which `copyData` returns with the records of all slaves copied. -/
def EthercatMaster.returnsFromCopy (s : EthercatMaster) : MasterAction → Bool
  | .ethercat _ =>
    match s.ethercatThread with
    | some (.copyRx i) => s.slaves[i]?.isNone
    | _ => false
  | _ => false

/-- Some call of `getSlaves` has returned. -/
def MainPc.Discovered : MainPc → Prop
  | .idle none => False
  | .getSlaves _ => False
  | _ => True

/-- The records in relation to the cycle `current`, the last one that was copied completely,
and to the process image that is being copied. -/
def RecordsAt (first : List EthercatSlave) (images : List ProcessImage) (current : Nat)
    (s : EthercatMaster) : Prop :=
  match s.ethercatThread with
  | some .tryLock =>
    images.getLast? = some s.image ∧ s.slaves = snapshot first images current
  | some (.copyRx i) => images.getLast? = some s.image ∧ CopiedUpTo s.image.copy first s.slaves i
  | some (.copyTx i) =>
    images.getLast? = some s.image ∧ CopiedUpTo s.image.copy first s.slaves i ∧
      (s.slaves[i]?).map (fun slave => slave.copyTx (s.image.inputs slave)) =
        (first.map s.image.copy)[i]?
  | _ => s.slaves = snapshot first images current

/-- What the readers of the current iteration have seen so far. -/
def ReadersAt (records : List EthercatSlave) (current : Nat) (stamps : List Nat) :
    Option DataCopyPc → Prop
  | some (.callback read) => read = records.take read.length ∧ stamps.head? = some current
  | some (.publish read) => read = records.take read.length ∧ stamps.head? = some current
  | _ => True

/-- The deliveries so far, with the cycle that each iteration has seen, against the state. -/
structure Consistent (first : List EthercatSlave) (history : History) (s : EthercatMaster)
    (current : Nat) (stamps : List Nat) : Prop where
  discovered : s.main.Discovered
  current_le : current ≤ history.images.length
  current_copied : current = 0 ∨ current ∈ history.copied
  stamps_le : ∀ stamp ∈ stamps, stamp ≤ current
  stamps_copied : ∀ stamp ∈ stamps, stamp = 0 ∨ stamp ∈ history.copied
  sorted : stamps.Pairwise fun later earlier => earlier ≤ later
  seen : List.Forall₂ (fun seen stamp =>
    ∀ slaves ∈ seen, slaves = snapshot first history.images stamp) history.deliveries stamps
  copying : EthercatPc.Copying s.ethercatThread →
    s.dataMutex = some .ethercat ∧ history.images.length ∈ history.copied
  reading : DataCopyPc.Reading s.dataCopyThread → s.dataMutex = some .dataCopy
  records : RecordsAt first history.images current s
  readers : ReadersAt (snapshot first history.images current) current stamps s.dataCopyThread

theorem RecordsAt.slaves_eq {first : List EthercatSlave} {images : List ProcessImage}
    {current : Nat}
    {s : EthercatMaster} (h : RecordsAt first images current s)
    (hcopying : ¬ EthercatPc.Copying s.ethercatThread) :
    s.slaves = snapshot first images current := by
  unfold RecordsAt at h
  split at h
  · exact h.2
  · rename_i i hpc
    exact absurd (by rw [hpc]; trivial) hcopying
  · rename_i i hpc
    exact absurd (by rw [hpc]; trivial) hcopying
  · exact h

namespace EthercatMaster

variable {s s' : EthercatMaster} {reply : Reply} {new : List MasterEvent}

/-- What a step of the calling thread may do after discovery. -/
structure MainStepFrame (s s' : EthercatMaster) (new : List MasterEvent) : Prop where
  discovered : s'.main.Discovered
  slaves : s'.slaves = s.slaves
  dataMutex : s'.dataMutex = s.dataMutex
  ethercatThread : s'.ethercatThread = s.ethercatThread ∧
      (s.ethercatThread.isSome → s'.image = s.image) ∨
    (s.ethercatThread = none ∨ s.ethercatThread = some .done) ∧
      (s'.ethercatThread = none ∨ s'.ethercatThread = some .check)
  dataCopyThread : s'.dataCopyThread = s.dataCopyThread ∨
    (s.dataCopyThread = none ∨ s.dataCopyThread = some .done) ∧
      (s'.dataCopyThread = none ∨ s'.dataCopyThread = some .check)
  history : ∀ history : History, new.foldl History.add history = history

private theorem discovered_destroyMembers (s : EthercatMaster) :
    s.destroyMembers.main.Discovered := by
  simp only [destroyMembers]
  split <;> trivial

@[simp] theorem foldl_add_reportWkcnt (s : EthercatMaster) (wkcnt : Int) (history : History) :
    (s.reportWkcnt wkcnt).foldl History.add history = history := by
  unfold reportWkcnt
  split <;> rfl

theorem StartStep.mainStepFrame {pc : StartPc} (hl : s.Lifecycle) (hpc : s.main = .start pc)
    (h : s.StartStep pc reply s' new) : s.MainStepFrame s' new := by
  have hphase := hl.phase
  cases h <;> constructor <;>
    simp_all [MainPc.Discovered, MainPc.Allows, phase, Phase.stopped, Phase.running, finish,
      image, History.add]

theorem JoinStep.mainStepFrame (h : s.JoinStep s') : s.MainStepFrame s' [] := by
  cases h with
  | ethercat hpc hdone =>
    exact ⟨trivial, rfl, rfl, .inr ⟨hdone, .inl rfl⟩, .inl rfl, fun _ => rfl⟩
  | dataCopy hpc hcall hdone =>
    exact ⟨trivial, rfl, rfl, .inl ⟨rfl, fun _ => rfl⟩, .inr ⟨hdone, .inl rfl⟩, fun _ => rfl⟩
  | destroy hpc hdone =>
    refine ⟨?_, rfl, rfl, .inl ⟨rfl, fun _ => rfl⟩, .inr ⟨hdone, .inl rfl⟩, fun _ => rfl⟩
    exact discovered_destroyMembers _

theorem beginCall_frame {call : Call} {last : Option (Call × String)} (hd : s.main.Discovered)
    (hidle : s.main = .idle last) (hui : s.uiIssues (.call call) = true) :
    s.MainStepFrame (s.beginCall call) [] := by
  rw [hidle] at hd
  rcases uiIssues_call hidle hui with ⟨rfl, rfl⟩ | ⟨rfl, -⟩ | ⟨rfl, -⟩ | ⟨rfl, -⟩
  · cases hd
  · exact ⟨trivial, rfl, rfl, .inl ⟨rfl, fun _ => rfl⟩, .inl rfl, fun _ => rfl⟩
  · rw [beginCall]
    split <;> exact ⟨trivial, rfl, rfl, .inl ⟨rfl, fun _ => rfl⟩, .inl rfl, fun _ => rfl⟩
  · rw [beginCall]
    split
    · exact ⟨trivial, rfl, rfl, .inl ⟨rfl, fun _ => rfl⟩, .inl rfl, fun _ => rfl⟩
    · exact ⟨discovered_destroyMembers s, rfl, rfl, .inl ⟨rfl, fun _ => rfl⟩, .inl rfl,
        fun _ => rfl⟩

/-- After discovery, each step is one of the calling thread, which leaves alone what the loops
share, or one of a loop. -/
theorem step_frame_or_loop {a : MasterAction} (hl : s.Lifecycle) (hd : s.main.Discovered)
    (hui : s.uiIssues a = true) (h : s.step a = some (s', new)) :
    (s.MainStepFrame s' new ∧ ∀ reply, a ≠ .ethercat reply) ∨
      (∃ reply, a = .ethercat reply ∧ s.EthercatStep reply s' new) ∨
      a = .dataCopy ∧ s.DataCopyStep s' new := by
  cases step_cases h with
  | call hidle => exact .inl ⟨beginCall_frame hd hidle hui, nofun⟩
  | setZMQPublish =>
    exact .inl ⟨⟨hd, rfl, rfl, .inl ⟨rfl, fun _ => rfl⟩, .inl rfl, fun _ => rfl⟩, nofun⟩
  | getSlaves hpc hget =>
    rw [hpc] at hd
    cases hd
  | start hpc hstart => exact .inl ⟨hstart.mainStepFrame hl hpc, nofun⟩
  | join hjoin => exact .inl ⟨hjoin.mainStepFrame, nofun⟩
  | ethercat hloop => exact .inr (.inl ⟨_, rfl, hloop⟩)
  | dataCopy hloop => exact .inr (.inr ⟨rfl, hloop⟩)

end EthercatMaster

namespace Consistent

variable {first : List EthercatSlave} {history : History} {s s' : EthercatMaster} {reply : Reply}
  {new : List MasterEvent} {current : Nat} {stamps : List Nat}

private theorem recordsAt_frame (h : RecordsAt first history.images current s)
    (hslaves : s'.slaves = s.slaves)
    (hthread : s'.ethercatThread = s.ethercatThread ∧
        (s.ethercatThread.isSome → s'.image = s.image) ∨
      (s.ethercatThread = none ∨ s.ethercatThread = some .done) ∧
        (s'.ethercatThread = none ∨ s'.ethercatThread = some .check)) :
    RecordsAt first history.images current s' := by
  rcases hthread with ⟨hsame, himage⟩ | ⟨hold, hnew⟩
  · unfold RecordsAt at h ⊢
    rw [hsame, hslaves]
    split at h
    all_goals simp_all
  · have heq : s.slaves = snapshot first history.images current := by
      apply h.slaves_eq
      rcases hold with hold | hold <;> rw [hold] <;> exact id
    rw [← hslaves] at heq
    unfold RecordsAt
    rcases hnew with hnew | hnew <;> rw [hnew] <;> exact heq

/-- Steps of the calling thread do not touch what the loops share. -/
theorem main_frame (h : Consistent first history s current stamps) (hf : s.MainStepFrame s' new) :
    Consistent first (new.foldl History.add history) s' current stamps := by
  rw [hf.history]
  refine { h with
    discovered := hf.discovered
    copying := fun hc => ?_
    reading := fun hr => ?_
    records := recordsAt_frame h.records hf.slaves hf.ethercatThread
    readers := ?_ }
  · rw [hf.dataMutex]
    apply h.copying
    rcases hf.ethercatThread with ⟨hsame, -⟩ | ⟨-, hnew | hnew⟩
    · rwa [hsame] at hc
    · rw [hnew] at hc
      cases hc
    · rw [hnew] at hc
      cases hc
  · rw [hf.dataMutex]
    apply h.reading
    rcases hf.dataCopyThread with hsame | ⟨-, hnew | hnew⟩
    · rwa [hsame] at hr
    · rw [hnew] at hr
      cases hr
    · rw [hnew] at hr
      cases hr
  · rcases hf.dataCopyThread with hsame | ⟨-, hnew | hnew⟩
    · rw [hsame]
      exact h.readers
    · rw [hnew]
      trivial
    · rw [hnew]
      trivial

/-- `ethercatLoop` moves between places outside of `copyData`. -/
private theorem ethercat_move (h : Consistent first history s current stamps) (pc : EthercatPc)
    (hcopying : ¬ EthercatPc.Copying s.ethercatThread)
    (hpc : pc = .check ∨ pc = .send ∨ pc = .receive ∨ pc = .close ∨ pc = .done) :
    Consistent first history { s with ethercatThread := some pc } current stamps := by
  have hslaves := h.records.slaves_eq hcopying
  refine { h with copying := fun hc => ?_, records := ?_ }
  · rcases hpc with rfl | rfl | rfl | rfl | rfl <;> cases hc
  · rcases hpc with rfl | rfl | rfl | rfl | rfl <;> exact hslaves

/-- Later images do not change what the earlier deliveries have to be. -/
private theorem seen_append {images : List ProcessImage} (image : ProcessImage)
    {deliveries : List (List (List EthercatSlave))}
    (h : List.Forall₂ (fun seen stamp => ∀ slaves ∈ seen, slaves = snapshot first images stamp)
      deliveries stamps) (hle : ∀ stamp ∈ stamps, stamp ≤ images.length) :
    List.Forall₂
      (fun seen stamp => ∀ slaves ∈ seen, slaves = snapshot first (images ++ [image]) stamp)
      deliveries stamps := by
  induction h with
  | nil => exact .nil
  | @cons seen stamp deliveries stamps hseen _ ih =>
    refine .cons (fun slaves hm => ?_) (ih fun stamp hs => hle stamp (by simp [hs]))
    rw [snapshot_append first images _ stamp (hle stamp (by simp))]
    exact hseen slaves hm

/-- A new cycle begins when its process image has been received. -/
private theorem ethercat_receive (h : Consistent first history s current stamps)
    (hpc : s.ethercatThread = some .receive) (iomap : Nat → UInt8) :
    Consistent first { history with images := history.images ++ [⟨s.table, iomap⟩] }
      { s with iomap := iomap, ethercatThread := some .tryLock } current stamps := by
  have hslaves : s.slaves = snapshot first history.images current :=
    h.records.slaves_eq (by rw [hpc]; exact id)
  have hcurrent := snapshot_append first history.images [⟨s.table, iomap⟩] current h.current_le
  refine { h with
    current_le := ?_
    seen := seen_append _ h.seen fun stamp hs => le_trans (h.stamps_le stamp hs) h.current_le
    copying := nofun
    records := ⟨by simp [EthercatMaster.image], by rw [hcurrent]; exact hslaves⟩
    readers := by rw [hcurrent]; exact h.readers }
  rw [List.length_append]
  exact le_trans h.current_le (Nat.le_add_right _ _)

/-- The mutex is free, so no reader is inside the scope of its lock. -/
private theorem ethercat_lock (h : Consistent first history s current stamps)
    (hpc : s.ethercatThread = some .tryLock) (hfree : s.dataMutex = none) :
    Consistent first { history with copied := history.images.length :: history.copied }
      { s with dataMutex := some .ethercat, ethercatThread := some (.copyRx 0) } current
      stamps := by
  have hrecords := h.records
  simp only [RecordsAt, hpc] at hrecords
  obtain ⟨hlast, hslaves⟩ := hrecords
  refine { h with
    current_copied := h.current_copied.imp_right (List.mem_cons_of_mem _)
    stamps_copied := fun stamp hs => (h.stamps_copied stamp hs).imp_right (List.mem_cons_of_mem _)
    copying := fun _ => ⟨rfl, List.mem_cons_self⟩
    reading := fun hr => ?_
    records := ⟨hlast, .zero ?_⟩ }
  · have hheld := h.reading hr
    rw [hfree] at hheld
    cases hheld
  · rw [hslaves]
    exact snapshot_sameSlaves first history.images current

/-- While `ethercatLoop` copies, no reader is inside the scope of its lock. -/
private theorem not_reading (h : Consistent first history s current stamps)
    (hcopying : EthercatPc.Copying s.ethercatThread) :
    ¬ DataCopyPc.Reading s.dataCopyThread := by
  intro hr
  have hheld := h.reading hr
  rw [(h.copying hcopying).1] at hheld
  cases hheld

private theorem readersAt_of_not_reading {records : List EthercatSlave} {pc : Option DataCopyPc}
    (h : ¬ DataCopyPc.Reading pc) : ReadersAt records current stamps pc := by
  unfold ReadersAt
  split
  · exact absurd trivial h
  · exact absurd trivial h
  · trivial

private theorem ethercat_copyRx (h : Consistent first history s current stamps) (i : Nat)
    (hpc : s.ethercatThread = some (.copyRx i)) (slave : EthercatSlave)
    (hslave : s.slaves[i]? = some slave) :
    Consistent first history
      { s with
        slaves := s.slaves.set i (slave.copyRx (s.image.outputs slave))
        ethercatThread := some (.copyTx i) } current stamps := by
  have hrecords := h.records
  simp only [RecordsAt, hpc] at hrecords
  obtain ⟨hlast, hcopied⟩ := hrecords
  have hlt := (List.getElem?_eq_some_iff.mp hslave).1
  refine { h with
    copying := fun _ => h.copying (by rw [hpc]; trivial)
    records := ⟨hlast, hcopied.set hslave ⟨rfl, rfl⟩, ?_⟩ }
  dsimp only
  rw [List.getElem?_set_self hlt]
  exact (hcopied.sameSlaves.copy_getElem? s.image.copy_congr hslave).symm

private theorem ethercat_copyTx (h : Consistent first history s current stamps) (i : Nat)
    (hpc : s.ethercatThread = some (.copyTx i)) (slave : EthercatSlave)
    (hslave : s.slaves[i]? = some slave) :
    Consistent first history
      { s with
        slaves := s.slaves.set i (slave.copyTx (s.image.inputs slave))
        ethercatThread := some (.copyRx (i + 1)) } current stamps := by
  have hrecords := h.records
  simp only [RecordsAt, hpc] at hrecords
  obtain ⟨hlast, hcopied, hrx⟩ := hrecords
  have hlt := (List.getElem?_eq_some_iff.mp hslave).1
  have hset : CopiedUpTo s.image.copy first
      (s.slaves.set i (slave.copyTx (s.image.inputs slave))) i := hcopied.set hslave ⟨rfl, rfl⟩
  have hnext : CopiedUpTo s.image.copy first
      (s.slaves.set i (slave.copyTx (s.image.inputs slave))) (i + 1) := by
    apply hset.next
    rw [hslave, Option.map_some] at hrx
    rw [List.getElem?_set_self hlt]
    exact hrx
  exact { h with
    copying := fun _ => h.copying (by rw [hpc]; trivial)
    records := ⟨hlast, hnext⟩ }

/-- At the end of `copyData` the cycle that was copied becomes the current one. -/
theorem ethercat_unlock (h : Consistent first history s current stamps) (i : Nat)
    (hpc : s.ethercatThread = some (.copyRx i)) (hend : s.slaves[i]? = none) :
    Consistent first history { s with dataMutex := none, ethercatThread := some .check }
      history.images.length stamps := by
  have hrecords := h.records
  simp only [RecordsAt, hpc] at hrecords
  obtain ⟨hlast, hcopied⟩ := hrecords
  have hcopying : EthercatPc.Copying s.ethercatThread := by rw [hpc]; trivial
  have hreading := h.not_reading hcopying
  refine { h with
    current_le := le_rfl
    current_copied := .inr (h.copying hcopying).2
    stamps_le := fun stamp hs => le_trans (h.stamps_le stamp hs) h.current_le
    copying := nofun
    reading := fun hr => absurd hr hreading
    records := ?_
    readers := readersAt_of_not_reading hreading }
  rw [RecordsAt]
  exact (hcopied.complete hend).trans (snapshot_last hlast).symm

/-- Only the return of `copyData` changes which cycle is the current one. -/
def CurrentAfter (s : EthercatMaster) (a : MasterAction) (current current' : Nat) : Prop :=
  if s.returnsFromCopy a then 0 < current' else current' = current

private theorem currentAfter_same {a : MasterAction} (h : s.returnsFromCopy a = false) :
    CurrentAfter s a current current := by
  rw [CurrentAfter, h]
  rfl

theorem ethercatStep (h : Consistent first history s current stamps)
    (hstep : s.EthercatStep reply s' new) :
    ∃ current', Consistent first (new.foldl History.add history) s' current' stamps ∧
      CurrentAfter s (.ethercat reply) current current' := by
  cases hstep with
  | goOn hpc | leave hpc | send hpc | skip hpc | close hpc =>
    exact ⟨current, h.ethercat_move _ (by rw [hpc]; exact id) (by simp),
      currentAfter_same (by simp [EthercatMaster.returnsFromCopy, hpc])⟩
  | receive hpc =>
    refine ⟨current, ?_, currentAfter_same (by simp [EthercatMaster.returnsFromCopy, hpc])⟩
    rw [List.foldl_cons, List.foldl_cons, EthercatMaster.foldl_add_reportWkcnt]
    exact h.ethercat_receive hpc _
  | lock hpc hfree =>
    exact ⟨current, h.ethercat_lock hpc hfree,
      currentAfter_same (by simp [EthercatMaster.returnsFromCopy, hpc])⟩
  | copyRx hpc hslave =>
    exact ⟨current, h.ethercat_copyRx _ hpc _ hslave,
      currentAfter_same (by simp [EthercatMaster.returnsFromCopy, hpc, hslave])⟩
  | copyTx hpc hslave =>
    exact ⟨current, h.ethercat_copyTx _ hpc _ hslave,
      currentAfter_same (by simp [EthercatMaster.returnsFromCopy, hpc])⟩
  | unlock hpc hend =>
    refine ⟨_, h.ethercat_unlock _ hpc hend, ?_⟩
    simp only [CurrentAfter, EthercatMaster.returnsFromCopy, hpc, hend, Option.isNone_none, if_true]
    have hrecords := h.records
    simp only [RecordsAt, hpc] at hrecords
    exact List.length_pos_of_mem (List.mem_of_getLast? hrecords.1)

/-- A reader outside of the lock, or done with reading. -/
private theorem dataCopy_move (h : Consistent first history s current stamps) (pc : DataCopyPc)
    (hpc : pc = .check ∨ pc = .lock ∨ pc = .close ∨ pc = .done) :
    Consistent first history { s with dataCopyThread := some pc } current stamps := by
  refine { h with reading := fun hr => ?_, records := h.records, readers := ?_ }
  · rcases hpc with rfl | rfl | rfl | rfl <;> cases hr
  · rcases hpc with rfl | rfl | rfl | rfl <;> trivial

/-- An iteration begins: it sees the current cycle. -/
private theorem dataCopy_lock (h : Consistent first history s current stamps)
    (hfree : s.dataMutex = none) :
    Consistent first { history with deliveries := [] :: history.deliveries }
      { s with dataMutex := some .dataCopy, dataCopyThread := some (.callback []) } current
      (current :: stamps) := by
  refine { h with
    stamps_le := ?_
    stamps_copied := ?_
    sorted := List.pairwise_cons.mpr ⟨h.stamps_le, h.sorted⟩
    seen := .cons nofun h.seen
    copying := fun hc => ?_
    reading := fun _ => rfl
    records := h.records
    readers := ⟨by simp, rfl⟩ }
  · intro stamp hs
    rcases List.mem_cons.mp hs with rfl | hs
    · exact le_rfl
    · exact h.stamps_le stamp hs
  · intro stamp hs
    rcases List.mem_cons.mp hs with rfl | hs
    · exact h.current_copied
    · exact h.stamps_copied stamp hs
  · have hheld := (h.copying hc).1
    rw [hfree] at hheld
    cases hheld

/-- While a reader is inside the scope of its lock, the records are those of the current
cycle. -/
theorem slaves_of_reading (h : Consistent first history s current stamps)
    (hreading : DataCopyPc.Reading s.dataCopyThread) :
    s.slaves = snapshot first history.images current := by
  apply h.records.slaves_eq
  intro hcopying
  exact h.not_reading hcopying hreading

private theorem take_concat {read slaves : List EthercatSlave} {slave : EthercatSlave}
    (hread : read = slaves.take read.length) (hslave : slaves[read.length]? = some slave) :
    read ++ [slave] = slaves.take (read ++ [slave]).length := by
  rw [List.length_append, List.length_singleton, List.take_add_one, hslave, ← hread]
  rfl

theorem take_all {read slaves : List EthercatSlave}
    (hread : read = slaves.take read.length) (hend : slaves[read.length]? = none) :
    read = slaves := by
  rw [List.getElem?_eq_none_iff] at hend
  rw [hread, List.take_of_length_le hend]

/-- A reader that has seen all slaves has seen the current cycle. -/
private theorem deliver_seen (h : Consistent first history s current stamps)
    (hhead : stamps.head? = some current) :
    List.Forall₂ (fun seen stamp => ∀ slaves ∈ seen, slaves = snapshot first history.images stamp)
      (History.deliver (snapshot first history.images current) history.deliveries) stamps := by
  obtain ⟨earlier, rfl⟩ := List.head?_eq_some_iff.mp hhead
  have hseen := h.seen
  rw [List.forall₂_cons_right_iff] at hseen
  obtain ⟨seen, deliveries, hlatest, hearlier, hdeliveries⟩ := hseen
  rw [hdeliveries, History.deliver]
  refine .cons (fun slaves hm => ?_) hearlier
  rcases List.mem_append.mp hm with hm | hm
  · exact hlatest slaves hm
  · exact List.mem_singleton.mp hm

/-- One more slave has been read, in the callback or for the publisher. -/
private theorem dataCopy_read (h : Consistent first history s current stamps) (pc : DataCopyPc)
    (hreading : DataCopyPc.Reading s.dataCopyThread)
    (hreaders : ReadersAt (snapshot first history.images current) current stamps (some pc)) :
    Consistent first history { s with dataCopyThread := some pc } current stamps :=
  { h with
    reading := fun _ => h.reading hreading
    records := h.records
    readers := hreaders }

private theorem dataCopy_callback (h : Consistent first history s current stamps)
    (read : List EthercatSlave) (hpc : s.dataCopyThread = some (.callback read))
    (hend : s.slaves[read.length]? = none) (pc : DataCopyPc)
    (hnext : pc = .publish [] ∨ pc = .unlock) :
    Consistent first { history with deliveries := History.deliver read history.deliveries }
      { s with dataCopyThread := some pc } current stamps := by
  have hreading : DataCopyPc.Reading s.dataCopyThread := by rw [hpc]; trivial
  have hreaders := h.readers
  rw [hpc] at hreaders
  obtain ⟨hread, hhead⟩ := hreaders
  rw [h.slaves_of_reading hreading] at hend
  rw [take_all hread hend]
  refine { h with
    seen := h.deliver_seen hhead
    reading := fun _ => h.reading hreading
    records := h.records
    readers := ?_ }
  rcases hnext with rfl | rfl
  · exact ⟨by simp, hhead⟩
  · trivial

private theorem dataCopy_publish (h : Consistent first history s current stamps)
    (read : List EthercatSlave) (hpc : s.dataCopyThread = some (.publish read))
    (hend : s.slaves[read.length]? = none) :
    Consistent first { history with deliveries := History.deliver read history.deliveries }
      { s with dataCopyThread := some .unlock } current stamps := by
  have hreading : DataCopyPc.Reading s.dataCopyThread := by rw [hpc]; trivial
  have hreaders := h.readers
  rw [hpc] at hreaders
  obtain ⟨hread, hhead⟩ := hreaders
  rw [h.slaves_of_reading hreading] at hend
  rw [take_all hread hend]
  exact { h with
    seen := h.deliver_seen hhead
    reading := fun _ => h.reading hreading
    records := h.records
    readers := trivial }

private theorem dataCopy_unlock (h : Consistent first history s current stamps)
    (hpc : s.dataCopyThread = some .unlock) :
    Consistent first history { s with dataMutex := none, dataCopyThread := some .check } current
      stamps := by
  have hreading : DataCopyPc.Reading s.dataCopyThread := by rw [hpc]; trivial
  exact { h with
    copying := fun hc => absurd hreading (h.not_reading hc)
    reading := nofun
    records := h.records
    readers := trivial }

theorem dataCopyStep (h : Consistent first history s current stamps)
    (hstep : s.DataCopyStep s' new) :
    ∃ stamps', Consistent first (new.foldl History.add history) s' current stamps' := by
  have hreaders := h.readers
  cases hstep with
  | goOn hpc | leave hpc | close hpc => exact ⟨stamps, h.dataCopy_move _ (by simp)⟩
  | lock hpc hfree => exact ⟨current :: stamps, h.dataCopy_lock hfree⟩
  | readCallback hpc hslave =>
    have hreading : DataCopyPc.Reading s.dataCopyThread := by rw [hpc]; trivial
    rw [hpc] at hreaders
    rw [h.slaves_of_reading hreading] at hslave
    exact ⟨stamps, h.dataCopy_read _ hreading ⟨take_concat hreaders.1 hslave, hreaders.2⟩⟩
  | callback hpc hend =>
    refine ⟨stamps, h.dataCopy_callback _ hpc hend _ ?_⟩
    split <;> simp
  | readPublish hpc hslave =>
    have hreading : DataCopyPc.Reading s.dataCopyThread := by rw [hpc]; trivial
    rw [hpc] at hreaders
    rw [h.slaves_of_reading hreading] at hslave
    exact ⟨stamps, h.dataCopy_read _ hreading ⟨take_concat hreaders.1 hslave, hreaders.2⟩⟩
  | publish hpc hend => exact ⟨stamps, h.dataCopy_publish _ hpc hend⟩
  | unlock hpc => exact ⟨stamps, h.dataCopy_unlock hpc⟩

/-- One step of the master. -/
theorem step (h : Consistent first history s current stamps) (hl : s.Lifecycle) {a : MasterAction}
    (hui : s.uiIssues a = true) (hstep : s.step a = some (s', new)) :
    ∃ current' stamps', Consistent first (new.foldl History.add history) s' current' stamps' ∧
      CurrentAfter s a current current' := by
  rcases EthercatMaster.step_frame_or_loop hl h.discovered hui hstep with
    ⟨hframe, hmain⟩ | ⟨reply, rfl, hloop⟩ | ⟨rfl, hloop⟩
  · refine ⟨current, stamps, h.main_frame hframe, currentAfter_same ?_⟩
    unfold EthercatMaster.returnsFromCopy
    split
    · exact absurd rfl (hmain _)
    · rfl
  · obtain ⟨current', h', hcurrent⟩ := h.ethercatStep hloop
    exact ⟨current', stamps, h', hcurrent⟩
  · obtain ⟨stamps', h'⟩ := h.dataCopyStep hloop
    exact ⟨current, stamps', h', rfl⟩

end Consistent

namespace EthercatMaster

/-- A master whose slaves have been discovered and that has not been started. -/
structure Idle (s : EthercatMaster) : Prop where
  main : s.main = .idle (some (.getSlaves, ""))
  phase : s.phase = .stopped
  dataMutex : s.dataMutex = none

theorem Idle.lifecycle {s : EthercatMaster} (h : s.Idle) : s.Lifecycle := by
  have hphase := h.phase
  simp only [EthercatMaster.phase, Phase.stopped, Prod.mk.injEq] at hphase
  refine ⟨?_, ?_, ?_⟩
  · rw [h.main]
    exact h.phase
  · simp [hphase.1]
  · simp [hphase.1]

theorem Idle.consistent {s : EthercatMaster} (h : s.Idle) :
    Consistent s.slaves ⟨[], [], []⟩ s 0 [] := by
  have hphase := h.phase
  simp only [EthercatMaster.phase, Phase.stopped, Prod.mk.injEq, Option.isSome_eq_false_iff,
    Option.isNone_iff_eq_none] at hphase
  obtain ⟨-, hethercat, hdataCopy⟩ := hphase
  exact
    { discovered := by rw [h.main]; trivial
      current_le := le_rfl
      current_copied := .inl rfl
      stamps_le := fun _ hm => absurd hm List.not_mem_nil
      stamps_copied := fun _ hm => absurd hm List.not_mem_nil
      sorted := .nil
      seen := .nil
      copying := fun hc => by rw [hethercat] at hc; cases hc
      reading := fun hr => by rw [hdataCopy] at hr; cases hr
      records := by rw [RecordsAt, hethercat]; rfl
      readers := by rw [hdataCopy]; trivial }

/-- Along every run, each iteration of `dataCopyLoop` has a cycle such that its callback and its
publisher have seen exactly the records copied in that cycle, or, for cycle zero, the records
from before the first copy. The cycles do not decrease from one iteration to the next. -/
theorem deliveries_of_one_cycle (start : EthercatMaster) (hstart : start.Idle)
    (events : List MasterEvent) (s : EthercatMaster) (run : start.UiRun events s) :
    ∃ stamps : List Nat,
      stamps.Pairwise (fun later earlier => earlier ≤ later) ∧
      (∀ stamp ∈ stamps, stamp = 0 ∨ stamp ∈ (History.ofEvents events).copied) ∧
      List.Forall₂ (fun seen stamp => ∀ slaves ∈ seen,
        slaves = snapshot start.slaves (History.ofEvents events).images stamp)
        (History.ofEvents events).deliveries stamps := by
  have hinv : s.Lifecycle ∧
      ∃ current stamps, Consistent start.slaves (History.ofEvents events) s current stamps := by
    refine run.invariant (I := fun events s => s.Lifecycle ∧ ∃ current stamps,
      Consistent start.slaves (History.ofEvents events) s current stamps)
      ⟨hstart.lifecycle, 0, [], hstart.consistent⟩ ?_
    rintro events new s s' a ⟨hl, current, stamps, hc⟩ hui hstep
    obtain ⟨current', stamps', hc', -⟩ := hc.step hl hui hstep
    rw [History.ofEvents_append]
    exact ⟨hl.step hui hstep, current', stamps', hc'⟩
  obtain ⟨-, current, stamps, hc⟩ := hinv
  exact ⟨stamps, hc.sorted, hc.stamps_copied, hc.seen⟩

def batteryOnBus : SlaveTable :=
  .single ⟨"KELO_ROBILE", 5001027, 34603265, 1, 4097, 0, 12, 12, 68⟩

def discoveredBattery : EthercatMaster :=
  { create (fun _ => 0) batteryOnBus 0 with
    slaves := slavesOfTable (fun _ => default) batteryOnBus
    main := .idle (some (.getSlaves, "")) }

/-- A start that launches both loops. -/
def startBattery : List MasterAction :=
  [.call .start, .main (.init true), .main (.config 1 batteryOnBus),
    .main (.configMap batteryOnBus ecStateSafeOp), .main .none, .main (.exchange 3 fun _ => 1),
    .main .none, .main (.exchange 3 fun _ => 2), .main (.state ecStateOperational), .main .none,
    .main .none, .main .none, .main .none]

/-- The first cycle, up to the return of `copyData`. -/
def firstCycle : List MasterAction :=
  [.ethercat .none, .ethercat .none, .ethercat (.exchange 3 fun _ => 7), .ethercat (.tryLock true),
    .ethercat .none, .ethercat .none, .ethercat .none]

/-- The callback of the first iteration sees the first cycle. -/
theorem deliveries_of_first_cycle :
    ∃ events s, discoveredBattery.UiRun events s ∧
      (History.ofEvents events).deliveries.length = 1 ∧
      ∃ stamps : List Nat, List.Forall₂ (fun seen stamp => ∀ slaves ∈ seen,
        slaves = snapshot discoveredBattery.slaves (History.ofEvents events).images stamp)
        (History.ofEvents events).deliveries stamps := by
  have hexec : machine.exec (fun s a => s.uiIssues a = true) discoveredBattery
      (startBattery ++ firstCycle ++ [MasterAction.dataCopy, .dataCopy, .dataCopy, .dataCopy]) =
      some (_, _) := rfl
  have run : discoveredBattery.UiRun _ _ := Machine.run_of_exec hexec
  obtain ⟨stamps, -, -, hseen⟩ := deliveries_of_one_cycle discoveredBattery ⟨rfl, rfl, rfl⟩ _ _ run
  exact ⟨_, _, run, rfl, stamps, hseen⟩

end EthercatMaster

end Kddv
