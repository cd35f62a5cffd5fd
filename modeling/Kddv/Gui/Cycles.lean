import Kddv.Gui.Refresh
import Kddv.Master.Mutex

/-!
# Cycles in the labels

The window on the bus: `dataCopyLoop` posts a `dataChanged` message in each callback, and the GUI
thread reads the slaves when it delivers the message, without the mutex. Each record that it reads
is of a cycle of `ethercatLoop`, but the records of one refresh may be of different cycles.
-/

namespace Kddv

open Framework

/-- The master and the GUI thread, which makes its calls or is in `handleDataChanged`: there with
the box it is at, and the texts of the RX labels of the box once they have been read. -/
structure EcatWindow where
  master : EthercatMaster
  queued : Nat
  showing : Option (Bool × Nat × Option (List String))

inductive EcatWindowAction
  | source (action : MasterAction)
  | deliver (showUnits : Bool)
  | setText

inductive EcatWindowEvent
  | source (event : MasterEvent)
  | delivered
  | setText (showUnits : Bool) (box : Nat) (labels : BoxLabels)

/-- `GUI::dataCallback` posts a message. -/
def MasterEvent.isCallback : MasterEvent → Bool
  | .callback _ => true
  | _ => false

namespace EcatWindow

/-- A window whose source has been discovered. -/
def init (master : EthercatMaster) : EcatWindow := ⟨master, 0, none⟩

/-- The body of the loop of `handleDataChanged`, in two steps, and its end. -/
def handleDataChanged (s : EcatWindow) : Option (EcatWindow × List EcatWindowEvent) :=
  match s.showing with
  | none => none
  | some (showUnits, box, rx) =>
    match s.master.slaves[box]?, rx with
    | none, _ => some ({ s with showing := none }, [])
    | some slave, none =>
      some ({ s with showing := some (showUnits, box, some (boxLabels showUnits slave).1) }, [])
    | some slave, some rx =>
      some ({ s with showing := some (showUnits, box + 1, none) },
        [.setText showUnits box (rx, (boxLabels showUnits slave).2)])

def step (s : EcatWindow) : EcatWindowAction → Option (EcatWindow × List EcatWindowEvent)
  | .source action =>
    match action, s.showing with
    | .call _, some _ => none
    | action, _ => (s.master.step action).map fun (master, new) =>
        ({ s with master := master, queued := s.queued + new.countP MasterEvent.isCallback },
          new.map .source)
  | .deliver showUnits =>
    match s.master.main, s.showing with
    | .idle _, none =>
      if 0 < s.queued then
        some ({ s with queued := s.queued - 1, showing := some (showUnits, 0, none) },
          [.delivered])
      else none
    | _, _ => none
  | .setText => s.handleDataChanged

def machine : Machine EcatWindow EcatWindowAction EcatWindowEvent := ⟨step⟩

/-- The calls of a user interface. -/
def uiIssues (s : EcatWindow) : EcatWindowAction → Bool
  | .source action => s.master.uiIssues action
  | _ => true

/-! ## What is seen of a run -/

/-- A text that `handleDataChanged` has set, with the number of callbacks before its message was
delivered. -/
structure ShownText where
  asOf : Nat
  showUnits : Bool
  box : Nat
  labels : BoxLabels

/-- The slaves at each callback so far, and the texts. -/
structure Texts where
  posted : List (List EthercatSlave)
  asOf : Nat
  texts : List ShownText

def Texts.add (t : Texts) : EcatWindowEvent → Texts
  | .source (.callback slaves) => { t with posted := t.posted ++ [slaves] }
  | .source _ => t
  | .delivered => { t with asOf := t.posted.length }
  | .setText showUnits box labels =>
    { t with texts := t.texts ++ [⟨t.asOf, showUnits, box, labels⟩] }

def Texts.ofEvents (events : List EcatWindowEvent) : Texts := events.foldl add ⟨[], 0, []⟩

/-- The part of the source. -/
def sourceEvents (events : List EcatWindowEvent) : List MasterEvent :=
  events.filterMap fun
    | .source event => some event
    | _ => none

/-- The cycles. -/
def history (events : List EcatWindowEvent) : History := .ofEvents (sourceEvents events)

theorem Texts.ofEvents_append (events new : List EcatWindowEvent) :
    ofEvents (events ++ new) = new.foldl add (ofEvents events) :=
  List.foldl_append

theorem history_append (events : List EcatWindowEvent) (new : List MasterEvent) :
    history (events ++ new.map .source) = new.foldl History.add (history events) := by
  have hnew : sourceEvents (new.map .source) = new := by
    induction new with
    | nil => rfl
    | cons event new ih => exact congrArg (event :: ·) ih
  rw [history, sourceEvents, List.filterMap_append, History.ofEvents_append]
  exact congrArg (fun new => new.foldl History.add (history events)) hnew

/-- The slaves of the callbacks. -/
def callbackSlaves (events : List MasterEvent) : List (List EthercatSlave) :=
  events.filterMap fun
    | .callback slaves => some slaves
    | _ => none

theorem Texts.ofEvents_source (events : List EcatWindowEvent) (new : List MasterEvent) :
    ofEvents (events ++ new.map .source) =
      { ofEvents events with posted := (ofEvents events).posted ++ callbackSlaves new } := by
  rw [ofEvents_append]
  generalize ofEvents events = texts
  induction new generalizing texts with
  | nil => simp [callbackSlaves]
  | cons event new ih =>
    rw [List.map_cons, List.foldl_cons, ih]
    cases event <;> simp [add, callbackSlaves]

/-! ## The cycle of each record -/

/-- The cycles of the RX and of the TX record of a slave, from the cycle copied last and the cycle
that is being copied. -/
def cycles (thread : Option EthercatPc) (current last box : Nat) : Nat × Nat :=
  match thread with
  | some (.copyRx i) => if box < i then (last, last) else (current, current)
  | some (.copyTx i) =>
    if box < i then (last, last) else if box = i then (last, current) else (current, current)
  | _ => (current, current)

/-- What `copyData` has not reached is still of the cycle copied last. -/
def Uncopied (first : List EthercatSlave) (images : List ProcessImage) (current : Nat)
    (s : EthercatMaster) : Prop :=
  match s.ethercatThread with
  | some (.copyRx i) => ∀ j, i ≤ j → s.slaves[j]? = (snapshot first images current)[j]?
  | some (.copyTx i) =>
    (∀ j, i < j → s.slaves[j]? = (snapshot first images current)[j]?) ∧
      ∃ outputs, s.slaves[i]? =
        ((snapshot first images current)[i]?).map fun slave => slave.copyRx outputs
  | _ => True

/-- The cycles of both records are as late. -/
abbrev NotBefore (earlier later : Nat × Nat) : Prop := earlier.1 ≤ later.1 ∧ earlier.2 ≤ later.2

/-- The texts are those of the RX record of one cycle and of the TX record of one cycle. -/
def FromCycles (first : List EthercatSlave) (images : List ProcessImage) (showUnits : Bool)
    (box : Nat) (labels : BoxLabels) (mark : Nat × Nat) : Prop :=
  (∃ slave, (snapshot first images mark.1)[box]? = some slave ∧
    labels.1 = (boxLabels showUnits slave).1) ∧
  ∃ slave, (snapshot first images mark.2)[box]? = some slave ∧
    labels.2 = (boxLabels showUnits slave).2

variable {first : List EthercatSlave} {history : History} {s s' : EthercatMaster} {current : Nat}
  {stamps : List Nat}

theorem boxLabels_copyTx (showUnits : Bool) (slave : EthercatSlave) (inputs : Pointer) :
    (boxLabels showUnits (slave.copyTx inputs)).1 = (boxLabels showUnits slave).1 := by
  obtain ⟨info, cls, rx, tx⟩ := slave
  cases cls <;> rfl

theorem boxLabels_copyRx (showUnits : Bool) (slave : EthercatSlave) (outputs : Pointer) :
    (boxLabels showUnits (slave.copyRx outputs)).2 = (boxLabels showUnits slave).2 := by
  obtain ⟨info, cls, rx, tx⟩ := slave
  cases cls <;> rfl

theorem fromCycles_same {images : List ProcessImage} {cycle box : Nat} {slave : EthercatSlave}
    (hslave : (snapshot first images cycle)[box]? = some slave) (showUnits : Bool) :
    FromCycles first images showUnits box (boxLabels showUnits slave) (cycle, cycle) :=
  ⟨⟨slave, hslave, rfl⟩, slave, hslave, rfl⟩

/-- A record that is read at any time is of the cycle that it is said to be of. -/
theorem fromCycles_of_slave (h : Consistent first history s current stamps)
    (hun : Uncopied first history.images current s) {box : Nat} {slave : EthercatSlave}
    (hslave : s.slaves[box]? = some slave) (showUnits : Bool) :
    FromCycles first history.images showUnits box (boxLabels showUnits slave)
      (cycles s.ethercatThread current history.images.length box) := by
  have hrecords := h.records
  unfold RecordsAt at hrecords
  unfold Uncopied at hun
  unfold cycles
  split at hrecords
  · -- `copyData` has not begun
    rename_i hthread
    rw [hthread]
    rw [hrecords.2] at hslave
    exact fromCycles_same hslave showUnits
  · -- it is between two slaves
    rename_i i hthread
    obtain ⟨hlast, hcopied⟩ := hrecords
    rw [hthread] at hun ⊢
    dsimp only at hun ⊢
    split
    · rename_i hbox
      rw [hcopied.copied box hbox, ← snapshot_last hlast] at hslave
      exact fromCycles_same hslave showUnits
    · rename_i hbox
      rw [hun box (by omega)] at hslave
      exact fromCycles_same hslave showUnits
  · -- it is between the two records of a slave
    rename_i i hthread
    obtain ⟨hlast, hcopied, hrx⟩ := hrecords
    rw [hthread] at hun ⊢
    dsimp only at hun ⊢
    obtain ⟨hafter, outputs, hold⟩ := hun
    split
    · rename_i hbox
      rw [hcopied.copied box hbox, ← snapshot_last hlast] at hslave
      exact fromCycles_same hslave showUnits
    · split
      · rename_i hbox
        subst hbox
        rw [hslave, Option.map_some, ← snapshot_last hlast] at hrx
        rw [hslave] at hold
        obtain ⟨old, hold, hslave⟩ := Option.map_eq_some_iff.mp hold.symm
        refine ⟨⟨_, hrx.symm, ?_⟩, old, hold, ?_⟩
        · rw [boxLabels_copyTx]
        · rw [← hslave, boxLabels_copyRx]
      · rename_i hbefore hbox
        rw [hafter box (by omega)] at hslave
        exact fromCycles_same hslave showUnits
  · -- `ethercatLoop` is elsewhere
    rename_i hthread hrx htx
    have hcurrent : cycles s.ethercatThread current history.images.length box =
        (current, current) := by
      unfold cycles
      split
      · rename_i i heq
        exact absurd heq (hrx i)
      · rename_i i heq
        exact absurd heq (htx i)
      · rfl
    unfold cycles at hcurrent
    rw [hcurrent]
    rw [hrecords] at hslave
    exact fromCycles_same hslave showUnits

/-! ## Steps of the source -/

/-- What a step of the master does to the cycles. -/
structure Advance (first : List EthercatSlave) (history history' : History)
    (s s' : EthercatMaster) (current current' : Nat) : Prop where
  uncopied : Uncopied first history'.images current' s'
  images : ∃ more, history'.images = history.images ++ more
  copied : ∀ cycle ∈ history.copied, cycle ∈ history'.copied
  current_le : current ≤ current'
  cycles_le : ∀ box, NotBefore (cycles s.ethercatThread current history.images.length box)
    (cycles s'.ethercatThread current' history'.images.length box)

theorem cycles_of_not_copying {thread : Option EthercatPc} (h : ¬ EthercatPc.Copying thread)
    (current last box : Nat) : cycles thread current last box = (current, current) := by
  unfold cycles
  split
  · exact absurd trivial h
  · exact absurd trivial h
  · rfl

theorem uncopied_of_not_copying (h : ¬ EthercatPc.Copying s.ethercatThread)
    (images : List ProcessImage) : Uncopied first images current s := by
  unfold Uncopied
  split
  · rename_i heq
    rw [heq] at h
    exact absurd trivial h
  · rename_i heq
    rw [heq] at h
    exact absurd trivial h
  · trivial

/-- `copyData` runs neither before nor after the step. -/
theorem advance_outside {history' : History} (hthread : ¬ EthercatPc.Copying s.ethercatThread)
    (hthread' : ¬ EthercatPc.Copying s'.ethercatThread)
    (himages : ∃ more, history'.images = history.images ++ more)
    (hcopied : ∀ cycle ∈ history.copied, cycle ∈ history'.copied) :
    Advance first history history' s s' current current := by
  refine ⟨uncopied_of_not_copying hthread' _, himages, hcopied, le_rfl, ?_⟩
  intro box
  rw [cycles_of_not_copying hthread, cycles_of_not_copying hthread']
  exact ⟨le_rfl, le_rfl⟩

/-- The step leaves `ethercatLoop` and the slaves alone. -/
theorem advance_same {history' : History} (hun : Uncopied first history.images current s)
    (hthread : s'.ethercatThread = s.ethercatThread) (hslaves : s'.slaves = s.slaves)
    (himages : history'.images = history.images) (hcopied : history'.copied = history.copied) :
    Advance first history history' s s' current current := by
  refine ⟨?_, ⟨[], by simp [himages]⟩, by simp [hcopied], le_rfl, ?_⟩
  · unfold Uncopied
    rw [hthread, hslaves, himages]
    exact hun
  · intro box
    rw [hthread, himages]
    exact ⟨le_rfl, le_rfl⟩

theorem advance_main {new : List MasterEvent} (hun : Uncopied first history.images current s)
    (hframe : s.MainStepFrame s' new) :
    Advance first history (new.foldl History.add history) s s' current current := by
  rw [hframe.history]
  rcases hframe.ethercatThread with ⟨hsame, -⟩ | ⟨hold, hnew⟩
  · exact advance_same hun hsame hframe.slaves rfl rfl
  · apply advance_outside
    · rcases hold with hold | hold <;> rw [hold] <;> exact id
    · rcases hnew with hnew | hnew <;> rw [hnew] <;> exact id
    · exact ⟨[], by simp⟩
    · simp

theorem advance_dataCopy {new : List MasterEvent} (hun : Uncopied first history.images current s)
    (hstep : s.DataCopyStep s' new) :
    Advance first history (new.foldl History.add history) s s' current current := by
  have hframe := hstep.frame
  apply advance_same hun hframe.ethercatThread hframe.slaves
  · cases hstep <;> rfl
  · cases hstep <;> rfl

theorem advance_ethercat {reply : Reply} {new : List MasterEvent}
    (h : Consistent first history s current stamps)
    (hun : Uncopied first history.images current s) (hstep : s.EthercatStep reply s' new) :
    ∃ current', Consistent first (new.foldl History.add history) s' current' stamps ∧
      Advance first history (new.foldl History.add history) s s' current current' := by
  have hrecords := h.records
  have hkeeps (hreturns : s.returnsFromCopy (.ethercat reply) = false) :
      Consistent first (new.foldl History.add history) s' current stamps := by
    obtain ⟨current', h', hcurrent⟩ := h.ethercatStep hstep
    rw [Consistent.CurrentAfter, hreturns] at hcurrent
    exact hcurrent ▸ h'
  have hcurrent := h.current_le
  cases hstep with
  | goOn hpc | leave hpc | send hpc | skip hpc | close hpc =>
    refine ⟨current, hkeeps (by simp [EthercatMaster.returnsFromCopy, hpc]), ?_⟩
    apply advance_outside (by rw [hpc]; exact id) id ⟨[], by simp [History.add]⟩
    simp [History.add]
  | receive hpc =>
    refine ⟨current, hkeeps (by simp [EthercatMaster.returnsFromCopy, hpc]), ?_⟩
    apply advance_outside (by rw [hpc]; exact id) id
    · rw [List.foldl_cons, List.foldl_cons, EthercatMaster.foldl_add_reportWkcnt]
      exact ⟨_, rfl⟩
    · rw [List.foldl_cons, List.foldl_cons, EthercatMaster.foldl_add_reportWkcnt]
      simp [History.add]
  | lock hpc hfree =>
    refine ⟨current, hkeeps (by simp [EthercatMaster.returnsFromCopy, hpc]), ?_⟩
    rw [RecordsAt, hpc] at hrecords
    refine ⟨?_, ⟨[], by simp [History.add]⟩, ?_, le_rfl, ?_⟩
    · intro j _
      exact congrArg (·[j]?) hrecords.2
    · intro cycle hcycle
      exact List.mem_cons_of_mem _ hcycle
    · intro box
      simp [cycles, hpc]
  | @copyRx i slave hpc hslave =>
    refine ⟨current, hkeeps (by simp [EthercatMaster.returnsFromCopy, hpc, hslave]), ?_⟩
    rw [Uncopied, hpc] at hun
    refine ⟨⟨?_, s.image.outputs slave, ?_⟩, ⟨[], by simp⟩, fun _ hcycle => hcycle, le_rfl, ?_⟩
    · intro j hj
      rw [List.getElem?_set_ne (by omega)]
      exact hun j (by omega)
    · have hold : (snapshot first history.images current)[i]? = some slave := by
        rw [← hun i le_rfl, hslave]
      rw [List.getElem?_set_self (List.getElem?_eq_some_iff.mp hslave).1, List.foldl_nil, hold,
        Option.map_some]
    · intro box
      simp only [cycles, hpc, List.foldl_nil]
      split_ifs <;> omega
  | @copyTx i slave hpc hslave =>
    refine ⟨current, hkeeps (by simp [EthercatMaster.returnsFromCopy, hpc]), ?_⟩
    rw [Uncopied, hpc] at hun
    refine ⟨?_, ⟨[], by simp⟩, fun _ hcycle => hcycle, le_rfl, ?_⟩
    · intro j hj
      rw [List.getElem?_set_ne (by omega)]
      exact hun.1 j (by omega)
    · intro box
      simp only [cycles, hpc, List.foldl_nil]
      split_ifs <;> omega
  | @unlock i hpc hend =>
    refine ⟨_, h.ethercat_unlock i hpc hend, ?_⟩
    refine ⟨trivial, ⟨[], by simp⟩, fun _ hcycle => hcycle, hcurrent, ?_⟩
    intro box
    simp only [cycles, hpc]
    split_ifs <;> simp [hcurrent]

/-- Each step of the master keeps what is known of the records, and no record goes back. -/
theorem advance_of_step {a : MasterAction} {new : List MasterEvent}
    (h : Consistent first history s current stamps)
    (hun : Uncopied first history.images current s) (hl : s.Lifecycle)
    (hui : s.uiIssues a = true) (hstep : s.step a = some (s', new)) :
    ∃ current' stamps', Consistent first (new.foldl History.add history) s' current' stamps' ∧
      Advance first history (new.foldl History.add history) s s' current current' := by
  rcases EthercatMaster.step_frame_or_loop hl h.discovered hui hstep with
    ⟨hframe, -⟩ | ⟨reply, -, hloop⟩ | ⟨-, hloop⟩
  · exact ⟨current, stamps, h.main_frame hframe, advance_main hun hframe⟩
  · obtain ⟨current', h', hadvance⟩ := advance_ethercat h hun hloop
    exact ⟨current', stamps, h', hadvance⟩
  · obtain ⟨stamps', h'⟩ := h.dataCopyStep hloop
    exact ⟨current, stamps', h', advance_dataCopy hun hloop⟩

theorem callbackSlaves_reportWkcnt (s : EthercatMaster) (wkcnt : Int) :
    callbackSlaves (s.reportWkcnt wkcnt) = [] := by
  unfold EthercatMaster.reportWkcnt
  split <;> rfl

/-- A callback is made under the mutex, with the records of the cycle copied last. -/
theorem callbackSlaves_of_step {a : MasterAction} {new : List MasterEvent}
    (h : Consistent first history s current stamps) (hstep : s.Step a s' new) :
    ∀ slaves ∈ callbackSlaves new, slaves = snapshot first history.images current := by
  cases hstep with
  | call => simp [callbackSlaves]
  | setZMQPublish => simp [callbackSlaves]
  | getSlaves hpc hget => cases hget <;> simp [callbackSlaves]
  | start hpc hstart =>
    cases hstart with
    | report => simp [callbackSlaves_reportWkcnt]
    | _ => simp [callbackSlaves]
  | join => simp [callbackSlaves]
  | ethercat hloop =>
    cases hloop with
    | receive =>
      intro slaves hslaves
      have hnone : slaves ∈ callbackSlaves (s.reportWkcnt _) := hslaves
      simp [callbackSlaves_reportWkcnt] at hnone
    | _ => simp [callbackSlaves]
  | dataCopy hloop =>
    cases hloop with
    | @callback read hpc hend =>
      have hreaders := h.readers
      rw [hpc] at hreaders
      rw [h.slaves_of_reading (by rw [hpc]; trivial)] at hend
      have hread := Consistent.take_all hreaders.1 hend
      simpa [callbackSlaves] using hread
    | _ => simp [callbackSlaves]

theorem cycles_cases (thread : Option EthercatPc) (current last box : Nat) :
    cycles thread current last box = (current, current) ∨
      cycles thread current last box = (last, current) ∨
      cycles thread current last box = (last, last) := by
  unfold cycles
  split
  · split_ifs <;> simp
  · split_ifs <;> simp
  · exact .inl rfl

theorem cycles_bounds (thread : Option EthercatPc) {current last : Nat} (h : current ≤ last)
    (box : Nat) :
    NotBefore (current, current) (cycles thread current last box) ∧
      NotBefore (cycles thread current last box) (last, last) := by
  rcases cycles_cases thread current last box with heq | heq | heq
  · rw [heq]
    exact ⟨⟨le_rfl, le_rfl⟩, h, h⟩
  · rw [heq]
    exact ⟨⟨h, le_rfl⟩, le_rfl, h⟩
  · rw [heq]
    exact ⟨⟨h, h⟩, le_rfl, le_rfl⟩

/-- Only records of cycles that are copied are there to be read. -/
theorem cycles_copied (h : Consistent first history s current stamps) (box : Nat) :
    let mark := cycles s.ethercatThread current history.images.length box
    (mark.1 = 0 ∨ mark.1 ∈ history.copied) ∧ (mark.2 = 0 ∨ mark.2 ∈ history.copied) := by
  have hcurrent := h.current_copied
  by_cases hcopying : EthercatPc.Copying s.ethercatThread
  · have hlast := (h.copying hcopying).2
    rcases cycles_cases s.ethercatThread current history.images.length box with heq | heq | heq
    · rw [heq]
      exact ⟨hcurrent, hcurrent⟩
    · rw [heq]
      exact ⟨.inr hlast, hcurrent⟩
    · rw [heq]
      exact ⟨.inr hlast, .inr hlast⟩
  · rw [cycles_of_not_copying hcopying]
    exact ⟨hcurrent, hcurrent⟩

/-! ## Texts and their cycles -/

/-- A text that is of these cycles, which have been copied and are as recent as the callbacks before
its message was delivered. -/
structure Marked (first : List EthercatSlave) (history : History) (posted : List Nat)
    (text : ShownText) (mark : Nat × Nat) : Prop where
  asOf_le : text.asOf ≤ posted.length
  fromCycles : FromCycles first history.images text.showUnits text.box text.labels mark
  copied : (mark.1 = 0 ∨ mark.1 ∈ history.copied) ∧ (mark.2 = 0 ∨ mark.2 ∈ history.copied)
  recent : ∀ cycle ∈ posted.take text.asOf, cycle ≤ mark.1 ∧ cycle ≤ mark.2

/-- The texts of the RX labels of a box have been read and not been set. -/
structure RxRead (first : List EthercatSlave) (history : History) (recent : List Nat)
    (showUnits : Bool) (box : Nat) (rx : List String) (cycle : Nat) : Prop where
  fromCycle : ∃ slave, (snapshot first history.images cycle)[box]? = some slave ∧
    rx = (boxLabels showUnits slave).1
  copied : cycle = 0 ∨ cycle ∈ history.copied
  recent : ∀ earlier ∈ recent, earlier ≤ cycle

structure Inv (first : List EthercatSlave) (events : List EcatWindowEvent) (s : EcatWindow)
    (current : Nat) (stamps posted : List Nat) (marks : List (Nat × Nat)) : Prop where
  consistent : Consistent first (EcatWindow.history events) s.master current stamps
  uncopied : Uncopied first (EcatWindow.history events).images current s.master
  posted_eq : (Texts.ofEvents events).posted =
    posted.map (snapshot first (EcatWindow.history events).images)
  posted_le : ∀ cycle ∈ posted, cycle ≤ current
  asOf_le : (Texts.ofEvents events).asOf ≤ posted.length
  marked : List.Forall₂ (Marked first (EcatWindow.history events) posted)
    (Texts.ofEvents events).texts marks
  latest : ∀ entry ∈ (Texts.ofEvents events).texts.zip marks, NotBefore entry.2
    (cycles s.master.ethercatThread current (EcatWindow.history events).images.length entry.1.box)
  sorted : ((Texts.ofEvents events).texts.zip marks).Pairwise fun earlier later =>
    earlier.1.box = later.1.box → NotBefore earlier.2 later.2
  reading : ∀ showUnits box rx, s.showing = some (showUnits, box, some rx) →
    ∃ cycle, RxRead first (EcatWindow.history events) (posted.take (Texts.ofEvents events).asOf)
        showUnits box rx cycle ∧
      cycle ≤ (cycles s.master.ethercatThread current
        (EcatWindow.history events).images.length box).1 ∧
      ∀ entry ∈ (Texts.ofEvents events).texts.zip marks, entry.1.box = box → entry.2.1 ≤ cycle

/-- The records of a cycle stay what they are when more cycles come. -/
theorem snapshot_advance {history' : History} {current' cycle : Nat}
    (hadvance : Advance first history history' s s' current current')
    (hle : cycle ≤ history.images.length) :
    snapshot first history'.images cycle = snapshot first history.images cycle := by
  obtain ⟨more, himages⟩ := hadvance.images
  rw [himages, snapshot_append first history.images more cycle hle]

/-- A text keeps its cycles. -/
theorem Marked.advance {history' : History} {current' : Nat} {posted : List Nat}
    {text : ShownText} {mark : Nat × Nat} (h : Marked first history posted text mark)
    (hadvance : Advance first history history' s s' current current')
    (hmark : NotBefore mark (history.images.length, history.images.length)) (more : List Nat) :
    Marked first history' (posted ++ more) text mark := by
  refine ⟨?_, ?_, ?_, ?_⟩
  · rw [List.length_append]
    exact le_trans h.asOf_le (Nat.le_add_right _ _)
  · unfold FromCycles
    rw [snapshot_advance hadvance hmark.1, snapshot_advance hadvance hmark.2]
    exact h.fromCycles
  · exact ⟨h.copied.1.imp_right (hadvance.copied _), h.copied.2.imp_right (hadvance.copied _)⟩
  · rw [List.take_append_of_le_length h.asOf_le]
    exact h.recent

theorem notBefore_trans {first second third : Nat × Nat} (h : NotBefore first second)
    (h' : NotBefore second third) : NotBefore first third :=
  ⟨h.1.trans h'.1, h.2.trans h'.2⟩

namespace Inv

variable {events : List EcatWindowEvent} {w w' : EcatWindow} {posted : List Nat}
  {marks : List (Nat × Nat)}

/-- A step of the master. -/
theorem source {a : MasterAction} {master : EthercatMaster} {new : List MasterEvent}
    (h : Inv first events w current stamps posted marks) (hl : w.master.Lifecycle)
    (hui : w.master.uiIssues a = true) (hstep : w.master.step a = some (master, new))
    (queued : Nat) :
    ∃ current' stamps' posted', Inv first (events ++ new.map .source)
      { w with master := master, queued := queued } current' stamps' posted' marks := by
  obtain ⟨current', stamps', hc', hadvance⟩ :=
    advance_of_step h.consistent h.uncopied hl hui hstep
  have hle := h.consistent.current_le
  have hread := callbackSlaves_of_step h.consistent (EthercatMaster.step_cases hstep)
  have hmarks : ∀ entry ∈ (Texts.ofEvents events).texts.zip marks, NotBefore entry.2
      ((EcatWindow.history events).images.length, (EcatWindow.history events).images.length) :=
    fun entry hentry => notBefore_trans (h.latest entry hentry) (cycles_bounds _ hle _).2
  have hhistory : EcatWindow.history (events ++ new.map .source) =
      new.foldl History.add (EcatWindow.history events) := history_append events new
  have htexts := Texts.ofEvents_source events new
  refine ⟨current', stamps', posted ++ (callbackSlaves new).map fun _ => current, ?_⟩
  constructor
  · rw [hhistory]
    exact hc'
  · rw [hhistory]
    exact hadvance.uncopied
  · rw [htexts, hhistory, List.map_append, List.map_map]
    show (Texts.ofEvents events).posted ++ callbackSlaves new = _
    congr 1
    · rw [h.posted_eq]
      apply List.map_congr_left
      intro cycle hcycle
      exact (snapshot_advance hadvance ((h.posted_le cycle hcycle).trans hle)).symm
    · symm
      apply (List.map_congr_left ?_).trans (List.map_id _)
      intro slaves hslaves
      exact (snapshot_advance hadvance hle).trans (hread slaves hslaves).symm
  · intro cycle hcycle
    rcases List.mem_append.mp hcycle with hcycle | hcycle
    · exact (h.posted_le cycle hcycle).trans hadvance.current_le
    · obtain ⟨-, -, rfl⟩ := List.mem_map.mp hcycle
      exact hadvance.current_le
  · rw [htexts, List.length_append]
    exact h.asOf_le.trans (Nat.le_add_right _ _)
  · rw [htexts, hhistory]
    obtain ⟨hlength, hmarked⟩ := List.forall₂_iff_zip.mp h.marked
    refine List.forall₂_iff_zip.mpr ⟨hlength, ?_⟩
    intro text mark hentry
    exact (hmarked hentry).advance hadvance (hmarks _ hentry) _
  · rw [htexts, hhistory]
    intro entry hentry
    exact notBefore_trans (h.latest entry hentry) (hadvance.cycles_le entry.1.box)
  · rw [htexts]
    exact h.sorted
  · intro showUnits box rx hshowing
    obtain ⟨cycle, hrx, hcycle, hearlier⟩ := h.reading showUnits box rx hshowing
    rw [htexts, hhistory]
    refine ⟨cycle, ⟨?_, ?_, ?_⟩, hcycle.trans (hadvance.cycles_le box).1, hearlier⟩
    · rw [snapshot_advance hadvance (hcycle.trans (cycles_bounds _ hle box).2.1)]
      exact hrx.fromCycle
    · exact hrx.copied.imp_right (hadvance.copied cycle)
    · rw [List.take_append_of_le_length h.asOf_le]
      exact hrx.recent

/-- A message is delivered. -/
theorem deliver (h : Inv first events w current stamps posted marks) (queued : Nat)
    (showUnits : Bool) :
    Inv first (events ++ [.delivered])
      { w with queued := queued, showing := some (showUnits, 0, none) } current stamps posted
        marks := by
  have hhistory : EcatWindow.history (events ++ [.delivered]) = EcatWindow.history events := by
    simp [EcatWindow.history, sourceEvents]
  have htexts : Texts.ofEvents (events ++ [.delivered]) =
      { Texts.ofEvents events with asOf := (Texts.ofEvents events).posted.length } :=
    Texts.ofEvents_append events [.delivered]
  constructor
  · rw [hhistory]
    exact h.consistent
  · rw [hhistory]
    exact h.uncopied
  · rw [hhistory, htexts]
    exact h.posted_eq
  · exact h.posted_le
  · rw [htexts]
    show (Texts.ofEvents events).posted.length ≤ posted.length
    rw [h.posted_eq, List.length_map]
  · rw [hhistory, htexts]
    exact h.marked
  · rw [hhistory, htexts]
    exact h.latest
  · rw [htexts]
    exact h.sorted
  · intro _ _ _ hshowing
    cases hshowing

/-- The texts of the RX labels are read. -/
theorem readRx {showUnits : Bool} {box : Nat} {slave : EthercatSlave}
    (h : Inv first events w current stamps posted marks)
    (hslave : w.master.slaves[box]? = some slave) :
    Inv first (events ++ [])
      { w with showing := some (showUnits, box, some (boxLabels showUnits slave).1) } current
        stamps posted marks := by
  rw [List.append_nil]
  refine ⟨h.consistent, h.uncopied, h.posted_eq, h.posted_le, h.asOf_le, h.marked, h.latest,
    h.sorted, ?_⟩
  intro _ _ _ hshowing
  cases hshowing
  have hfrom := fromCycles_of_slave h.consistent h.uncopied hslave showUnits
  have hbounds := cycles_bounds w.master.ethercatThread h.consistent.current_le box
  refine ⟨_, ⟨hfrom.1, (cycles_copied h.consistent box).1, ?_⟩, le_rfl, ?_⟩
  · intro earlier hearlier
    exact (h.posted_le earlier (List.mem_of_mem_take hearlier)).trans hbounds.1.1
  · rintro entry hentry rfl
    exact (h.latest entry hentry).1

/-- The texts of the TX labels are read, and the labels of the box are set. -/
theorem setText {showUnits : Bool} {box : Nat} {rx : List String} {slave : EthercatSlave}
    (h : Inv first events w current stamps posted marks)
    (hshowing : w.showing = some (showUnits, box, some rx))
    (hslave : w.master.slaves[box]? = some slave) :
    ∃ mark, Inv first
      (events ++ [.setText showUnits box (rx, (boxLabels showUnits slave).2)])
      { w with showing := some (showUnits, box + 1, none) } current stamps posted
        (marks ++ [mark]) := by
  have hhistory : EcatWindow.history
      (events ++ [.setText showUnits box (rx, (boxLabels showUnits slave).2)]) =
      EcatWindow.history events := by
    simp [EcatWindow.history, sourceEvents]
  have htexts : Texts.ofEvents
      (events ++ [.setText showUnits box (rx, (boxLabels showUnits slave).2)]) =
      { Texts.ofEvents events with
        texts := (Texts.ofEvents events).texts ++ [⟨(Texts.ofEvents events).asOf, showUnits, box,
          (rx, (boxLabels showUnits slave).2)⟩] } :=
    Texts.ofEvents_append events [.setText showUnits box (rx, (boxLabels showUnits slave).2)]
  have hfrom := fromCycles_of_slave h.consistent h.uncopied hslave showUnits
  have hbounds := cycles_bounds w.master.ethercatThread h.consistent.current_le box
  obtain ⟨cycle, hrx, hcycle, hearlier⟩ := h.reading showUnits box rx hshowing
  have hzip (text : ShownText) (mark : Nat × Nat) :
      ((Texts.ofEvents events).texts ++ [text]).zip (marks ++ [mark]) =
        (Texts.ofEvents events).texts.zip marks ++ [(text, mark)] :=
    List.zip_append h.marked.length_eq
  refine ⟨(cycle, (cycles w.master.ethercatThread current
    (EcatWindow.history events).images.length box).2), ?_⟩
  constructor
  · rw [hhistory]
    exact h.consistent
  · rw [hhistory]
    exact h.uncopied
  · rw [hhistory, htexts]
    exact h.posted_eq
  · exact h.posted_le
  · rw [htexts]
    exact h.asOf_le
  · rw [hhistory, htexts]
    refine List.rel_append h.marked (.cons ⟨h.asOf_le, ⟨hrx.fromCycle, hfrom.2⟩, ?_, ?_⟩ .nil)
    · exact ⟨hrx.copied, (cycles_copied h.consistent box).2⟩
    · intro earlier hmem
      exact ⟨hrx.recent earlier hmem,
        (h.posted_le earlier (List.mem_of_mem_take hmem)).trans hbounds.1.2⟩
  · rw [hhistory, htexts, hzip]
    intro entry hentry
    rcases List.mem_append.mp hentry with hentry | hentry
    · exact h.latest entry hentry
    · rw [List.mem_singleton.mp hentry]
      exact ⟨hcycle, le_rfl⟩
  · rw [htexts, hzip]
    refine List.pairwise_append.mpr ⟨h.sorted, List.pairwise_singleton _ _, ?_⟩
    intro earlier hmem later hlater
    rw [List.mem_singleton.mp hlater]
    intro hbox
    have hlatest := (h.latest earlier hmem).2
    rw [hbox] at hlatest
    exact ⟨hearlier earlier hmem hbox, hlatest⟩
  · intro _ _ _ hnext
    cases hnext

/-- The last box has been set. -/
theorem done (h : Inv first events w current stamps posted marks) :
    Inv first (events ++ []) { w with showing := none } current stamps posted marks := by
  rw [List.append_nil]
  refine ⟨h.consistent, h.uncopied, h.posted_eq, h.posted_le, h.asOf_le, h.marked, h.latest,
    h.sorted, ?_⟩
  intro _ _ _ hshowing
  cases hshowing

theorem step {a : EcatWindowAction} {new : List EcatWindowEvent}
    (h : Inv first events w current stamps posted marks) (hl : w.master.Lifecycle)
    (hui : w.uiIssues a = true) (hstep : w.step a = some (w', new)) :
    w'.master.Lifecycle ∧ ∃ current' stamps' posted' marks',
      Inv first (events ++ new) w' current' stamps' posted' marks' := by
  cases a with
  | source action =>
    obtain ⟨master, seen, hmaster, rfl, rfl⟩ : ∃ master seen,
        w.master.step action = some (master, seen) ∧
          w' = { w with
            master := master
            queued := w.queued + seen.countP MasterEvent.isCallback } ∧
          new = seen.map .source := by
      simp only [EcatWindow.step] at hstep
      split at hstep
      · cases hstep
      · obtain ⟨⟨master, seen⟩, hmaster, heq⟩ := Option.map_eq_some_iff.mp hstep
        cases heq
        exact ⟨master, seen, hmaster, rfl, rfl⟩
    obtain ⟨current', stamps', posted', h'⟩ := h.source hl hui hmaster _
    exact ⟨hl.step hui hmaster, current', stamps', posted', marks, h'⟩
  | deliver showUnits =>
    simp only [EcatWindow.step] at hstep
    split at hstep
    · split at hstep
      · cases hstep
        exact ⟨hl, current, stamps, posted, marks, h.deliver _ showUnits⟩
      · cases hstep
    · cases hstep
  | setText =>
    simp only [EcatWindow.step, handleDataChanged] at hstep
    split at hstep
    · cases hstep
    · rename_i showUnits box rx hshowing
      split at hstep
      · cases hstep
        exact ⟨hl, current, stamps, posted, marks, h.done⟩
      · rename_i slave hslave
        cases hstep
        exact ⟨hl, current, stamps, posted, marks, h.readRx hslave⟩
      · rename_i slave rx hslave
        cases hstep
        obtain ⟨mark, h'⟩ := h.setText hshowing hslave
        exact ⟨hl, current, stamps, posted, _, h'⟩

end Inv

theorem inv_init {start : EthercatMaster} (hstart : start.Idle) :
    Inv start.slaves [] (init start) 0 [] [] [] where
  consistent := hstart.consistent
  uncopied := by
    apply uncopied_of_not_copying
    have hphase := hstart.phase
    simp only [EthercatMaster.phase, Phase.stopped, Prod.mk.injEq, Option.isSome_eq_false_iff,
      Option.isNone_iff_eq_none] at hphase
    show ¬ EthercatPc.Copying start.ethercatThread
    rw [hphase.2.1]
    exact id
  posted_eq := rfl
  posted_le := by simp
  asOf_le := le_rfl
  marked := .nil
  latest := by simp
  sorted := by simp
  reading := by simp [init]

/-- A cycle that is copied, called back and shown. -/
private def showFirstCycle : List EcatWindowAction :=
  (EthercatMaster.startBattery ++ EthercatMaster.firstCycle ++
    [MasterAction.dataCopy, .dataCopy, .dataCopy, .dataCopy]).map .source ++
      [.deliver true, .setText, .setText]

private def pairOnBus : SlaveTable :=
  ⟨[⟨"KELO_ROBILE", 5001027, 34603265, 1, 4097, 0, 12, 24, 68⟩,
    ⟨"KELO_ROBILE", 5001027, 34603265, 1, 4098, 12, 12, 92, 68⟩], by simp⟩

private def discoveredPair : EthercatMaster :=
  { EthercatMaster.create (fun _ => 0) pairOnBus 0 with
    slaves := EthercatMaster.slavesOfTable (fun _ => default) pairOnBus
    main := .idle (some (.getSlaves, "")) }

private def startPair : List MasterAction :=
  [.call .start, .main (.init true), .main (.config 2 pairOnBus),
    .main (.configMap pairOnBus ecStateSafeOp), .main .none, .main (.exchange 6 fun _ => 1),
    .main .none, .main (.exchange 6 fun _ => 2), .main (.state ecStateOperational), .main .none,
    .main .none, .main .none, .main .none]

/-- A cycle in which all inputs are the same. -/
private def cyclePair (input : UInt8) : List MasterAction :=
  [.ethercat .none, .ethercat .none, .ethercat (.exchange 6 fun _ => input),
    .ethercat (.tryLock true), .ethercat .none, .ethercat .none, .ethercat .none, .ethercat .none,
    .ethercat .none]

/-- The second cycle is copied between the first box and the second one. -/
private def showBetween : List EcatWindowAction :=
  (startPair ++ cyclePair 7 ++ List.replicate 6 MasterAction.dataCopy).map .source ++
    [.deliver false, .setText, .setText] ++ (cyclePair 8).map .source ++ [.setText, .setText]

/-- Two batteries whose timestamps are the same in each cycle, and one refresh that shows
different ones. -/
theorem refresh_of_two_cycles : ∃ events w,
    machine.Run (fun w a => w.uiIssues a = true) (init discoveredPair) events w ∧
      ∃ left right, (Texts.ofEvents events).texts = [left, right] ∧ left.asOf = right.asOf ∧
        left.labels.2.head? = some "506381209866536711" ∧
        right.labels.2.head? = some "578721382704613384" := by
  have hexec : machine.exec (fun w a => w.uiIssues a = true) (init discoveredPair) showBetween =
      some (_, _) := rfl
  exact ⟨_, _, Machine.run_of_exec hexec, _, _, rfl, rfl, rfl, rfl⟩

end EcatWindow

end Kddv
