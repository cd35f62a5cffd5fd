import Kddv.Gui.Model
import Kddv.Slave.Document

/-!
# The list of slaves

Discover adds a checkable list item and a group box for each slave. When an item changes,
`handleWheelListChanged` looks for the first box whose object name is the item's text.
-/

namespace Kddv

open Framework

/-- `Qt::CheckState` -/
inductive CheckState
  | unchecked
  | partiallyChecked
  | checked
deriving DecidableEq

structure ListItem where
  text : String
  checkState : CheckState
deriving DecidableEq

/-- What the list changes of a group box. -/
structure WheelBox where
  objectName : String
  visible : Bool
  maximumWidth : Nat
deriving DecidableEq

/-- `wheel_list_widget` and `wheel_group_boxes`. -/
structure WheelList where
  items : List ListItem
  boxes : List WheelBox
deriving DecidableEq

/-- The user checks or unchecks an item. -/
inductive WheelAction
  | setCheckState (row : Nat) (checked : Bool)

/-- The timer that adapts the size of the window. -/
inductive WheelEvent
  | fixSize
deriving DecidableEq

def wheelId (slave : EthercatSlave) : String :=
  slave.slaveInfo.name ++ " " ++ toString slave.slaveInfo.slaveNumber

/-- The text determines the name and the number. -/
theorem identity_eq_of_wheelId_eq {slave other : EthercatSlave}
    (h : wheelId slave = wheelId other) : slave.identity = other.identity := by
  change documentKey slave.identity = documentKey other.identity at h
  exact documentKey_injective h

def CheckState.ofBool (checked : Bool) : CheckState := if checked then .checked else .unchecked

@[simp] theorem CheckState.ofBool_eq_checked (checked : Bool) :
    CheckState.ofBool checked = .checked ↔ checked = true := by
  cases checked <;> simp [CheckState.ofBool]

theorem CheckState.ofBool_injective : Function.Injective CheckState.ofBool := by
  intro left right h
  cases left <;> cases right <;> first | rfl | cases h

/-- The branches of `handleWheelListChanged`. -/
def WheelBox.follow (box : WheelBox) : CheckState → WheelBox
  | .unchecked => { box with visible := false }
  | .checked => { box with visible := true, maximumWidth := 600 }
  | .partiallyChecked => box

namespace WheelList

/-- Body of the loop of `handleDiscoverButton` over the slaves. -/
def addSlave (w : WheelList) (slave : EthercatSlave) : WheelList where
  items := w.items ++ [⟨wheelId slave, .checked⟩]
  boxes := w.boxes ++ [⟨wheelId slave, true, 600⟩]

/-- `handleDiscoverButton` clears what is there before. -/
def discover (_ : WheelList) (slaves : List EthercatSlave) : WheelList :=
  slaves.foldl addSlave ⟨[], []⟩

def handleWheelListChanged (w : WheelList) (item : ListItem) : WheelList × List WheelEvent :=
  match w.boxes.findIdx? (fun box => box.objectName = item.text) with
  | none => (w, [])
  | some boxIdx =>
    ({ w with boxes := w.boxes.modify boxIdx (WheelBox.follow · item.checkState) }, [.fixSize])

/-- The signal `itemChanged` is emitted only if the state is a new one. -/
def setCheckState (w : WheelList) (row : Nat) (checked : Bool) :
    Option (WheelList × List WheelEvent) :=
  match w.items[row]? with
  | none => none
  | some item =>
    if item.checkState = .ofBool checked then some (w, [])
    else
      let item := { item with checkState := .ofBool checked }
      some ({ w with items := w.items.set row item }.handleWheelListChanged item)

def step (w : WheelList) : WheelAction → Option (WheelList × List WheelEvent)
  | .setCheckState row checked => w.setCheckState row checked

def machine : Machine WheelList WheelAction WheelEvent := ⟨step⟩

/-! ## Slaves that are chosen -/

/-- The widgets for slaves of which some are chosen. -/
def layout (slaves : List EthercatSlave) (chosen : Fin slaves.length → Bool) : WheelList where
  items := List.ofFn fun i => ⟨wheelId slaves[i], .ofBool (chosen i)⟩
  boxes := List.ofFn fun i => ⟨wheelId slaves[i], chosen i, 600⟩

/-- After Discover all slaves are chosen. -/
theorem discover_eq_layout (before : WheelList) (slaves : List EthercatSlave) :
    before.discover slaves = layout slaves fun _ => true := by
  have hloop (w : WheelList) : slaves.foldl addSlave w =
      ⟨w.items ++ slaves.map fun slave => ⟨wheelId slave, .checked⟩,
        w.boxes ++ slaves.map fun slave => ⟨wheelId slave, true, 600⟩⟩ := by
    induction slaves generalizing w with
    | nil => simp
    | cons slave slaves ih => simp [ih, addSlave]
  rw [discover, hloop, layout, List.nil_append, List.nil_append]
  congr 1
  · exact (List.ofFn_getElem_eq_map slaves _).symm
  · exact (List.ofFn_getElem_eq_map slaves _).symm

/-- The boxes are the ones whose labels show the values of the slaves. -/
theorem discover_objectNames (before : WheelList) {slaves : List EthercatSlave}
    {ptrs : List SlavePtr} (h : ptrs.length = slaves.length) :
    (before.discover slaves).boxes.map WheelBox.objectName =
      (List.zipWith groupBox ptrs slaves).map GroupBox.objectName := by
  rw [discover_eq_layout]
  apply List.ext_getElem
  · simp [layout, h]
  · intro i hi hi'
    simp [layout, groupBox, wheelId]

variable {slaves : List EthercatSlave} {w w' : WheelList} {new : List WheelEvent}

/-- The first box with the text of an item is the one in its row. -/
theorem findIdx?_layout (hdistinct : (slaves.map EthercatSlave.identity).Nodup)
    (chosen : Fin slaves.length → Bool) (row : Fin slaves.length) :
    (layout slaves chosen).boxes.findIdx? (fun box => box.objectName = wheelId slaves[row]) =
      some (row : Nat) := by
  rw [List.findIdx?_eq_some_iff_getElem]
  refine ⟨by simp [layout], by simp [layout], fun j hj => ?_⟩
  have hj' : j < slaves.length := by omega
  have hid : wheelId slaves[j] ≠ wheelId slaves[row] := by
    intro hsame
    have hbound : j < (slaves.map EthercatSlave.identity).length := by simpa using hj'
    have hrow : (row : Nat) < (slaves.map EthercatSlave.identity).length := by simp
    have hidentity : (slaves.map EthercatSlave.identity)[j] =
        (slaves.map EthercatSlave.identity)[(row : Nat)] := by
      simpa using identity_eq_of_wheelId_eq hsame
    have hrows := hdistinct.getElem_inj_iff.mp hidentity
    omega
  simpa [layout] using hid

theorem layout_texts (chosen : Fin slaves.length → Bool) :
    (layout slaves chosen).items.map ListItem.text = slaves.map wheelId := by
  rw [layout, List.map_ofFn]
  exact List.ofFn_getElem_eq_map slaves wheelId

theorem layout_objectNames (chosen : Fin slaves.length → Bool) :
    (layout slaves chosen).boxes.map WheelBox.objectName = slaves.map wheelId := by
  rw [layout, List.map_ofFn]
  exact List.ofFn_getElem_eq_map slaves wheelId

theorem layout_visible_iff {chosen : Fin slaves.length → Bool} {i : Nat} {item : ListItem}
    {box : WheelBox} (hitem : (layout slaves chosen).items[i]? = some item)
    (hbox : (layout slaves chosen).boxes[i]? = some box) :
    box.visible = true ↔ item.checkState = .checked := by
  obtain ⟨-, rfl⟩ := List.getElem?_eq_some_iff.mp hitem
  obtain ⟨-, rfl⟩ := List.getElem?_eq_some_iff.mp hbox
  simp [layout]

theorem layout_items_set (chosen : Fin slaves.length → Bool) (row : Fin slaves.length)
    (checked : Bool) :
    (layout slaves chosen).items.set row ⟨wheelId slaves[row], .ofBool checked⟩ =
      (layout slaves (Function.update chosen row checked)).items := by
  apply List.ext_getElem
  · simp [layout]
  · intro i hi hi'
    simp only [layout, List.getElem_set, List.getElem_ofFn, Function.update_apply, Fin.ext_iff]
    by_cases heq : (row : Nat) = i
    · subst heq
      simp
    · simp [heq, Ne.symm heq]

theorem layout_boxes_modify (chosen : Fin slaves.length → Bool) (row : Fin slaves.length)
    (checked : Bool) :
    (layout slaves chosen).boxes.modify row (WheelBox.follow · (.ofBool checked)) =
      (layout slaves (Function.update chosen row checked)).boxes := by
  apply List.ext_getElem
  · simp [layout]
  · intro i hi hi'
    simp only [layout, List.getElem_modify, List.getElem_ofFn, Function.update_apply, Fin.ext_iff]
    by_cases heq : (row : Nat) = i
    · subst heq
      cases checked <;> simp [CheckState.ofBool, WheelBox.follow]
    · simp [heq, Ne.symm heq]

theorem layout_boxes_update (chosen : Fin slaves.length → Bool) (row : Fin slaves.length)
    (checked : Bool) {i : Nat} (h : i ≠ row) :
    (layout slaves (Function.update chosen row checked)).boxes[i]? =
      (layout slaves chosen).boxes[i]? := by
  rw [← layout_boxes_modify, List.getElem?_modify]
  simp [Ne.symm h]

/-- A change of an item chooses its slave, or not, and no other. -/
theorem setCheckState_layout (hdistinct : (slaves.map EthercatSlave.identity).Nodup)
    (chosen : Fin slaves.length → Bool) (row : Fin slaves.length) (checked : Bool) :
    ∃ new, (layout slaves chosen).setCheckState row checked =
      some (layout slaves (Function.update chosen row checked), new) := by
  have hitem : (layout slaves chosen).items[(row : Nat)]? =
      some ⟨wheelId slaves[row], .ofBool (chosen row)⟩ := by
    simp [layout]
  rw [setCheckState, hitem]
  dsimp only
  split
  · rename_i hsame
    have hchosen : chosen row = checked := CheckState.ofBool_injective hsame
    rw [← hchosen, Function.update_eq_self]
    exact ⟨_, rfl⟩
  · refine ⟨[.fixSize], ?_⟩
    rw [handleWheelListChanged]
    dsimp only
    rw [findIdx?_layout hdistinct chosen row, layout_items_set]
    dsimp only
    rw [layout_boxes_modify]

/-- Wherever a step is possible it changes the choice of one slave. -/
theorem step_layout (hdistinct : (slaves.map EthercatSlave.identity).Nodup)
    (chosen : Fin slaves.length → Bool) {row : Nat} {checked : Bool}
    (hstep : (layout slaves chosen).step (.setCheckState row checked) = some (w', new)) :
    ∃ hrow : row < slaves.length,
      w' = layout slaves (Function.update chosen ⟨row, hrow⟩ checked) := by
  have hrow : row < slaves.length := by
    by_contra hlarge
    have hnone : (layout slaves chosen).items[row]? = none := by
      rw [List.getElem?_eq_none_iff]
      simpa [layout] using hlarge
    rw [step, setCheckState, hnone] at hstep
    cases hstep
  obtain ⟨events, heq⟩ := setCheckState_layout hdistinct chosen ⟨row, hrow⟩ checked
  cases heq.symm.trans hstep
  exact ⟨hrow, rfl⟩

/-- The widgets always show some choice of the slaves. -/
theorem run_layout (hdistinct : (slaves.map EthercatSlave.identity).Nodup) {before : WheelList}
    {events : List WheelEvent}
    (run : machine.Run (fun _ _ => True) (before.discover slaves) events w) :
    ∃ chosen, w = layout slaves chosen := by
  refine run.stateInvariant (I := fun w => ∃ chosen, w = layout slaves chosen)
    ⟨_, discover_eq_layout before slaves⟩ ?_
  rintro new s s' ⟨row, checked⟩ ⟨chosen, rfl⟩ - hstep
  obtain ⟨hrow, rfl⟩ := step_layout hdistinct chosen hstep
  exact ⟨_, rfl⟩

end WheelList

/-- After Discover and any changes of the list, a box is visible if and only if its item is checked,
and a further change of an item leaves the boxes of the other slaves as they are. -/
theorem check_boxes_control_slaves (before : WheelList) (slaves : List EthercatSlave)
    (hdistinct : (slaves.map EthercatSlave.identity).Nodup) (events : List WheelEvent)
    (w : WheelList)
    (run : WheelList.machine.Run (fun _ _ => True) (before.discover slaves) events w) :
    w.items.map ListItem.text = slaves.map wheelId ∧
      w.boxes.map WheelBox.objectName = slaves.map wheelId ∧
      (∀ (i : Nat) item box, w.items[i]? = some item → w.boxes[i]? = some box →
        (box.visible = true ↔ item.checkState = .checked)) ∧
      ∀ row checked w' new, w.step (.setCheckState row checked) = some (w', new) →
        ∀ i, i ≠ row → w'.boxes[i]? = w.boxes[i]? := by
  obtain ⟨chosen, rfl⟩ := WheelList.run_layout hdistinct run
  refine ⟨WheelList.layout_texts chosen, WheelList.layout_objectNames chosen,
    fun _ _ _ => WheelList.layout_visible_iff, ?_⟩
  intro row checked w' new hstep i hi
  obtain ⟨hrow, rfl⟩ := WheelList.step_layout hdistinct chosen hstep
  exact WheelList.layout_boxes_update chosen ⟨row, hrow⟩ checked hi

private def drive (number : Int) : EthercatSlave :=
  ⟨⟨"KELOD105", keloDriveSlaveType, number, 1280, 1020, 33558529, 4097, 0, 36⟩, .keloDriveSlave,
    Packed.layout.decode [], Packed.layout.decode []⟩

private def drives : List EthercatSlave := [drive 1, drive 11]

/-- The first drive is hidden, and so is then the second. -/
theorem check_boxes_control_slaves_drives : ∃ events w,
    WheelList.machine.Run (fun _ _ => True) (WheelList.discover ⟨[], []⟩ drives) events w ∧
      w.items = [⟨"KELOD105 1", .unchecked⟩, ⟨"KELOD105 11", .checked⟩] ∧
      (∀ (i : Nat) item box, w.items[i]? = some item → w.boxes[i]? = some box →
        (box.visible = true ↔ item.checkState = .checked)) ∧
      ∀ w' new, w.step (.setCheckState 1 false) = some (w', new) →
        w'.boxes[0]? = w.boxes[0]? := by
  have hexec : WheelList.machine.exec (fun _ _ => True) (WheelList.discover ⟨[], []⟩ drives)
      [.setCheckState 0 false, .setCheckState 1 false, .setCheckState 1 true] =
      some (⟨[⟨"KELOD105 1", .unchecked⟩, ⟨"KELOD105 11", .checked⟩], _⟩, _) := rfl
  have hrun := Machine.run_of_exec hexec
  obtain ⟨-, -, hvisible, hframe⟩ :=
    check_boxes_control_slaves ⟨[], []⟩ drives (by decide) _ _ hrun
  refine ⟨_, _, hrun, rfl, hvisible, fun w' new hstep => ?_⟩
  exact hframe 1 false w' new hstep 0 (by decide)

end Kddv
