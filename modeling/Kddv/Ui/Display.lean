import Kddv.Slave.Fields
import Kddv.Sniffer.Bounds
import Kddv.Ui.Tui

/-!
# The screen of the terminal interface

`TUI::dataCallback` brings `selected_slave` into the range of the slaves and draws the selected one.
The loop in `TUI::start` changes the selection without bounds.
-/

namespace Kddv

open Framework

/-- Calls that draw in `main_window`. -/
inductive WindowCommand
  | erase
  | hline (row column length : Int)
  | vline (row column length : Int)
  | standoutOn
  | standoutOff
  | print (row column : Int) (format : String)
  | refresh
deriving DecidableEq

/-- A vector is indexed out of its range. -/
structure IndexFault where
  index : Int
  size : Nat
deriving DecidableEq

/-- A value in the type `int`. -/
def wrapInt (value : Int) : Int := value.bmod (2 ^ 32)

theorem wrapInt_of_intRange {value : Int} (h : IntRange value) : wrapInt value = value := by
  obtain ⟨hlow, hhigh⟩ := h
  rw [wrapInt]
  apply Int.bmod_eq_of_le <;> omega

/-- `operator[]` of a vector. An `int` is converted to `size_t`. -/
def element {α : Type} (xs : List α) (index : Int) : Except IndexFault α :=
  match xs[(index % 2 ^ 64).toNat]? with
  | some x => .ok x
  | none => .error ⟨index, xs.length⟩

theorem element_ok {α : Type} {xs : List α} {i : Nat} (h : i < xs.length) (hsize : i < 2 ^ 31) :
    element xs i = .ok xs[i] := by
  have hindex : ((i : Int) % 2 ^ 64).toNat = i := by omega
  rw [element, hindex, List.getElem?_eq_getElem h]

/-- What a key adds to the selection. -/
def Key.move : Key → Int
  | .left => -1
  | .right => 1
  | .quit => 0
  | .other => 0

structure Display where
  selectedSlave : Int
  crashed : Bool

/-- Passes of the loop in `start` and calls from the source's thread. -/
inductive DisplayAction
  | key (key : Key)
  | callback (slaves : List EthercatSlave)

inductive DisplayEvent
  | key (key : Key)
  | displayed (selectedSlave : Int) (slaves : List EthercatSlave) (window : List WindowCommand)
  | fault (fault : IndexFault)

namespace Display

/-- The state after the constructor. -/
def init : Display := ⟨0, false⟩

def handleKey (selectedSlave : Int) (key : Key) : Int :=
  match key with
  | .left => wrapInt (selectedSlave - 1)
  | .right => wrapInt (selectedSlave + 1)
  | .quit => selectedSlave
  | .other => selectedSlave

/-- The first lines of `dataCallback`. The size is compared and assigned in the type `size_t`. -/
def clampSelected (selectedSlave : Int) (size : Nat) : Int :=
  let selectedSlave := if selectedSlave < 0 then 0 else selectedSlave
  if selectedSlave % 2 ^ 64 ≥ size then wrapInt ((size : Int) - 1) else selectedSlave

def widthPerColumn : Int := 40

/-- The name of a slave in the heading. -/
def heading (selectedSlave : Int) (i : Nat) (slave : EthercatSlave) : List WindowCommand :=
  let name := slave.slaveInfo.name ++ " " ++ toString slave.slaveInfo.slaveNumber
  let before : List WindowCommand := if (i : Int) = selectedSlave then [.standoutOn] else []
  let after : List WindowCommand := if (i : Int) = selectedSlave then [.standoutOff] else []
  before ++ .print 0 (wrapInt (i * 20)) name :: after

/-- A variable, and its value right before the column `valEnd`. -/
def row (varStart valEnd : Int) (j : Nat) (var val : String) : List WindowCommand :=
  [.print (wrapInt (j + 2)) varStart var,
    .print (wrapInt (j + 2)) (wrapInt (valEnd - val.utf8ByteSize)) val]

/-- The loop over the variables of one direction. -/
def showRows (varStart valEnd : Int) (vars vals : List String) :
    Except IndexFault (List (List WindowCommand)) :=
  vars.zipIdx.mapM fun (var, j) => (element vals j).map (row varStart valEnd j var)

/-- The calls of `dataCallback` in their order, for a number of slaves and of TX variables. -/
def drawing (slaves txVars : Nat) (names rxRows txRows : List (List WindowCommand)) :
    List WindowCommand :=
  let lines : List WindowCommand :=
    [.vline 2 (widthPerColumn - 2) (wrapInt txVars),
      .vline 2 (2 * widthPerColumn - 2) (wrapInt txVars), .refresh]
  .erase :: .hline 1 0 (wrapInt (20 * slaves)) :: (names ++ rxRows ++ txRows ++ [lines]).flatten

/-- The new selection, and what is drawn unless a vector is indexed out of its range. -/
def dataCallback (selectedSlave : Int) (slaves : List EthercatSlave) :
    Int × Except IndexFault (List WindowCommand) :=
  let selectedSlave := clampSelected selectedSlave slaves.length
  (selectedSlave, do
    let names := slaves.zipIdx.map fun (slave, i) => heading selectedSlave i slave
    let rxVars := (← element slaves selectedSlave).getRxVariables
    let txVars := (← element slaves selectedSlave).getTxVariables
    let rxVals := (← element slaves selectedSlave).getRxValues
    let txVals := (← element slaves selectedSlave).getTxValues
    let rxRows ← showRows 0 (widthPerColumn - 4) rxVars rxVals
    let txRows ← showRows widthPerColumn (widthPerColumn * 2 - 4) txVars txVals
    return drawing slaves.length txVars.length names rxRows txRows)

def step (d : Display) (action : DisplayAction) : Option (Display × List DisplayEvent) :=
  if d.crashed then none
  else
    match action with
    | .key key => some ({ d with selectedSlave := handleKey d.selectedSlave key }, [.key key])
    | .callback slaves =>
      match dataCallback d.selectedSlave slaves with
      | (selectedSlave, .ok window) =>
        some ({ d with selectedSlave := selectedSlave },
          [.displayed selectedSlave slaves window])
      | (selectedSlave, .error fault) => some (⟨selectedSlave, true⟩, [.fault fault])

def machine : Machine Display DisplayAction DisplayEvent := ⟨step⟩

/-! ## Selections and screens -/

/-- The nearest position in a list. -/
def clampTo (count : Nat) (value : Int) : Int := max 0 (min value (count - 1))

theorem clampTo_range {count : Nat} (h : 0 < count) (value : Int) :
    0 ≤ clampTo count value ∧ clampTo count value < count := by
  unfold clampTo
  omega

/-- The selection after an event. -/
def moveSelection (selected : Int) : DisplayEvent → Int
  | .key key => selected + key.move
  | .displayed selected _ _ => selected
  | .fault _ => selected

/-- The selection displayed last, or the first slave, moved by the keys since. -/
def movedSelection (events : List DisplayEvent) : Int := events.foldl moveSelection 0

/-- The rows of one direction. -/
def rows (varStart valEnd : Int) (vars vals : List String) : List (List WindowCommand) :=
  (vars.zip vals).zipIdx.map fun ((var, val), j) => row varStart valEnd j var val

/-- What is drawn for a slave of the list. -/
def screen (slaves : List EthercatSlave) (selected : Fin slaves.length) : List WindowCommand :=
  let slave := slaves.get selected
  drawing slaves.length slave.getTxVariables.length
    (slaves.zipIdx.map fun (slave, i) => heading selected i slave)
    (rows 0 36 slave.getRxVariables slave.getRxValues)
    (rows 40 76 slave.getTxVariables slave.getTxValues)

/-! ## A callback -/

/-- Lists whose size fits an `int`, or not, are clamped alike. -/
theorem clampSelected_eq {selectedSlave : Int} {size : Nat} (h : IntRange selectedSlave)
    (hsize : 0 < size) : clampSelected selectedSlave size = clampTo size selectedSlave := by
  obtain ⟨hlow, hhigh⟩ := h
  unfold clampSelected clampTo
  dsimp only
  split
  · -- the selection is before the first slave
    rw [if_neg (by omega)]
    omega
  · have hmod : selectedSlave % 2 ^ 64 = selectedSlave := by omega
    rw [hmod]
    split
    · -- it is behind the last one
      rw [wrapInt_of_intRange ⟨by omega, by omega⟩]
      omega
    · omega

theorem showRows_eq {vars vals : List String} (varStart valEnd : Int)
    (hlength : vals.length = vars.length) (hsize : vals.length < 2 ^ 31) :
    showRows varStart valEnd vars vals = .ok (rows varStart valEnd vars vals) := by
  -- the variables that are left, from row `k` on
  have hloop (left : List String) (k : Nat) (hleft : k + left.length = vals.length) :
      (left.zipIdx k).mapM (fun (var, j) => (element vals j).map (row varStart valEnd j var)) =
        .ok (((left.zip (vals.drop k)).zipIdx k).map
          fun ((var, val), j) => row varStart valEnd j var val) := by
    induction left generalizing k with
    | nil => rfl
    | cons var left ih =>
      rw [List.length_cons] at hleft
      have hk : k < vals.length := by omega
      simp only [List.zipIdx_cons, List.mapM_cons]
      rw [element_ok hk (by omega), ih (k + 1) (by omega), List.drop_eq_getElem_cons hk]
      rfl
  exact hloop vars 0 (by omega)

/-- Each variable has a value. -/
theorem values_length (slave : EthercatSlave) :
    slave.getRxValues.length = slave.getRxVariables.length ∧
      slave.getTxValues.length = slave.getTxVariables.length := by
  rw [slave.getRxValues_eq, slave.getTxValues_eq, List.length_map, List.length_map]
  exact ⟨slave.getRxVariables_length.symm, slave.getTxVariables_length.symm⟩

theorem variables_length_lt (slave : EthercatSlave) :
    slave.getRxVariables.length < 2 ^ 31 ∧ slave.getTxVariables.length < 2 ^ 31 := by
  unfold EthercatSlave.getRxVariables EthercatSlave.getTxVariables
  cases slave.cls <;> decide

/-- A callback with slaves finds all values that it looks up. -/
theorem dataCallback_eq {selectedSlave : Int} {slaves : List EthercatSlave}
    (h : IntRange selectedSlave) (hne : slaves ≠ []) :
    ∃ selected : Fin slaves.length, (selected : Int) = clampTo slaves.length selectedSlave ∧
      dataCallback selectedSlave slaves = ((selected : Int), .ok (screen slaves selected)) := by
  have hcount := List.length_pos_of_ne_nil hne
  obtain ⟨hlow, hhigh⟩ := clampTo_range hcount selectedSlave
  have hselected : ((clampTo slaves.length selectedSlave).toNat : Int) =
      clampTo slaves.length selectedSlave := Int.toNat_of_nonneg hlow
  have hsize : (clampTo slaves.length selectedSlave).toNat < 2 ^ 31 := by
    obtain ⟨-, hint⟩ := h
    unfold clampTo
    omega
  generalize (clampTo slaves.length selectedSlave).toNat = i at hselected hsize
  have hi : i < slaves.length := by omega
  obtain ⟨hrx, htx⟩ := values_length slaves[i]
  obtain ⟨hrxSize, htxSize⟩ := variables_length_lt slaves[i]
  refine ⟨⟨i, hi⟩, hselected, ?_⟩
  have hrxRows := showRows_eq 0 36 hrx (hrx ▸ hrxSize)
  have htxRows := showRows_eq 40 76 htx (htx ▸ htxSize)
  rw [dataCallback, clampSelected_eq h hcount, ← hselected, element_ok hi hsize]
  change (_, (showRows 0 36 _ _).bind fun rxRows => (showRows 40 76 _ _).bind fun txRows => _) = _
  rw [hrxRows, htxRows]
  rfl

/-- Without slaves the selection ends before the first position, whatever it was. -/
theorem clampSelected_zero (selectedSlave : Int) : clampSelected selectedSlave 0 = -1 := by
  refine (if_pos ?_).trans rfl
  exact Int.emod_nonneg _ (by decide)

theorem dataCallback_nil (selectedSlave : Int) :
    dataCallback selectedSlave [] = (-1, .error ⟨-1, 0⟩) := by
  rw [dataCallback, List.length_nil, clampSelected_zero]
  rfl

/-- The machine that draws nothing makes the same of a callback. -/
theorem tui_dataCallback_eq (t : Tui) {ptrs : List SlavePtr} {slaves : List EthercatSlave}
    (hlength : ptrs.length = slaves.length) (h : IntRange t.selectedSlave) :
    t.dataCallback ptrs =
      match dataCallback t.selectedSlave slaves with
      | (selected, .ok _) => { t with selectedSlave := selected }
      | (selected, .error _) => { t with selectedSlave := selected, pc := .crashed } := by
  have hclamp (hne : slaves ≠ []) :
      t.clampSelected slaves.length = clampTo slaves.length t.selectedSlave := by
    have hcount := List.length_pos_of_ne_nil hne
    unfold Tui.clampSelected clampTo
    split <;> omega
  by_cases hne : slaves = []
  · subst hne
    have hnil : t.clampSelected 0 = -1 := by
      unfold Tui.clampSelected
      omega
    rw [dataCallback_nil, Tui.dataCallback, hlength, List.length_nil, hnil]
    rfl
  · obtain ⟨selected, hselected, heq⟩ := dataCallback_eq h hne
    rw [heq, Tui.dataCallback, hlength, hclamp hne, ← hselected, if_neg (by omega)]

/-! ## Runs -/

/-- A key keeps the selection in the type `int`, and there is a slave to show. -/
def Guarded (d : Display) : DisplayAction → Prop
  | .key key => IntRange (d.selectedSlave + key.move)
  | .callback slaves => slaves ≠ []

instance (d : Display) : (a : DisplayAction) → Decidable (Guarded d a)
  | .key key => inferInstanceAs (Decidable (IntRange (d.selectedSlave + key.move)))
  | .callback slaves => inferInstanceAs (Decidable (slaves ≠ []))

variable {d d' : Display} {new events : List DisplayEvent}

theorem handleKey_eq {selectedSlave : Int} {key : Key} (h : IntRange (selectedSlave + key.move)) :
    handleKey selectedSlave key = selectedSlave + key.move := by
  cases key with
  | left => exact wrapInt_of_intRange h
  | right => exact wrapInt_of_intRange h
  | quit => exact (Int.add_zero _).symm
  | other => exact (Int.add_zero _).symm

/-- What a guarded step does. -/
theorem step_cases {a : DisplayAction} (h : IntRange d.selectedSlave) (hguard : Guarded d a)
    (hstep : d.step a = some (d', new)) :
    (∃ key, d' = { d with selectedSlave := d.selectedSlave + key.move } ∧
      IntRange d'.selectedSlave ∧ new = [.key key]) ∨
    ∃ (slaves : List EthercatSlave) (selected : Fin slaves.length),
      (selected : Int) = clampTo slaves.length d.selectedSlave ∧
        d' = { d with selectedSlave := selected } ∧ IntRange d'.selectedSlave ∧
        new = [.displayed selected slaves (screen slaves selected)] := by
  unfold step at hstep
  split at hstep
  · cases hstep
  · cases a with
    | key key =>
      cases hstep
      rw [handleKey_eq hguard]
      exact .inl ⟨key, rfl, hguard, rfl⟩
    | callback slaves =>
      obtain ⟨selected, hselected, heq⟩ := dataCallback_eq h hguard
      simp only [heq] at hstep
      cases hstep
      have hrange : IntRange selected := by
        obtain ⟨hlow, hhigh⟩ := h
        have hcount := List.length_pos_of_ne_nil hguard
        rw [hselected]
        unfold clampTo IntRange
        omega
      exact .inr ⟨slaves, selected, hselected, rfl, hrange, rfl⟩

/-- The selection is the one that the events determine. -/
theorem run_selectedSlave (run : machine.Run Guarded init events d) :
    d.selectedSlave = movedSelection events ∧ IntRange d.selectedSlave ∧ d.crashed = false := by
  refine run.invariant (I := fun events d => d.selectedSlave = movedSelection events ∧
    IntRange d.selectedSlave ∧ d.crashed = false) ⟨rfl, intRange_zero, rfl⟩ ?_
  rintro events new s s' a ⟨hmoved, hrange, hcrashed⟩ hguard hstep
  rw [movedSelection, List.foldl_append, ← movedSelection, ← hmoved]
  rcases step_cases hrange hguard hstep with
    ⟨key, rfl, hnew, rfl⟩ | ⟨slaves, selected, -, rfl, hnew, rfl⟩
  · exact ⟨rfl, hnew, hcrashed⟩
  · exact ⟨rfl, hnew, hcrashed⟩

/-- A guarded step emits one event, and not a fault. -/
theorem step_event {a : DisplayAction} {event : DisplayEvent} {front back : List DisplayEvent}
    (h : IntRange d.selectedSlave) (hguard : Guarded d a)
    (hstep : d.step a = some (d', front ++ event :: back)) :
    front = [] ∧ ((∃ key, event = .key key) ∨
      ∃ (slaves : List EthercatSlave) (selected : Fin slaves.length),
        (selected : Int) = clampTo slaves.length d.selectedSlave ∧
          event = .displayed selected slaves (screen slaves selected)) := by
  have hsingle {only : DisplayEvent} (hnew : front ++ event :: back = [only]) :
      front = [] ∧ event = only := by
    rcases List.append_eq_singleton_iff.mp hnew with ⟨hfront, hevent⟩ | ⟨-, hevent⟩
    · exact ⟨hfront, (List.cons.inj hevent).1⟩
    · cases hevent
  rcases step_cases h hguard hstep with
    ⟨key, -, -, hnew⟩ | ⟨slaves, selected, hselected, -, -, hnew⟩
  · exact ⟨(hsingle hnew).1, .inl ⟨key, (hsingle hnew).2⟩⟩
  · exact ⟨(hsingle hnew).1, .inr ⟨slaves, selected, hselected, (hsingle hnew).2⟩⟩

/-- Each event of a guarded run comes from a step on the selection that the events before it
determine. -/
theorem run_event {before after : List DisplayEvent} {event : DisplayEvent}
    (run : machine.Run Guarded init events d) (h : events = before ++ event :: after) :
    (∃ key, event = .key key) ∨
      ∃ (slaves : List EthercatSlave) (selected : Fin slaves.length),
        (selected : Int) = clampTo slaves.length (movedSelection before) ∧
          event = .displayed selected slaves (screen slaves selected) := by
  obtain ⟨earlier, front, back, s, s', a, hrun, hguard, hstep, hbefore⟩ := run.exists_step h
  obtain ⟨hmoved, hrange, -⟩ := run_selectedSlave hrun
  obtain ⟨hfront, hevent⟩ := step_event hrange hguard hstep
  rw [hfront, List.append_nil] at hbefore
  rw [hbefore, ← hmoved]
  exact hevent

/-- In every run whose callbacks have slaves to show, no vector is indexed out of its range, and
each callback shows the slave nearest to where the keys have moved the selection. The next callback
without slaves would end it. -/
theorem displays_existing_slave (events : List DisplayEvent) (d : Display)
    (run : machine.Run Guarded .init events d) :
    (∀ fault, .fault fault ∉ events) ∧
      (∀ before selectedSlave slaves window after,
        events = before ++ .displayed selectedSlave slaves window :: after →
          0 ≤ selectedSlave ∧ selectedSlave < slaves.length ∧
            selectedSlave = clampTo slaves.length (movedSelection before) ∧
            ∃ selected : Fin slaves.length, (selected : Int) = selectedSlave ∧
              window = screen slaves selected) ∧
      d.step (.callback []) = some (⟨-1, true⟩, [.fault ⟨-1, 0⟩]) := by
  refine ⟨fun fault hfault => ?_, fun before selectedSlave slaves window after heq => ?_, ?_⟩
  · obtain ⟨before, after, heq⟩ := List.append_of_mem hfault
    rcases run_event run heq with ⟨key, hkey⟩ | ⟨slaves, selected, -, hdisplayed⟩
    · cases hkey
    · cases hdisplayed
  · rcases run_event run heq with ⟨key, hkey⟩ | ⟨_, selected, hselected, hdisplayed⟩
    · cases hkey
    · cases hdisplayed
      exact ⟨by omega, by omega, hselected, selected, rfl, rfl⟩
  · obtain ⟨-, -, hcrashed⟩ := run_selectedSlave run
    rw [step, hcrashed, if_neg (by decide)]
    simp only [dataCallback_nil]

/-- Two slaves. -/
private def pair : List EthercatSlave := [driveSlave, driveSlave]

/-- The user moves on, and then back beyond the first slave. -/
private def moveOnAndBack : List DisplayAction :=
  [.key .right, .callback pair, .key .left, .key .left, .callback pair]

theorem displays_existing_slave_pair :
    ∃ (d : Display) (first second : List WindowCommand),
      machine.Run Guarded .init [.key .right, .displayed 1 pair first, .key .left,
        .key .left, .displayed 0 pair second] d ∧
      (∃ selected : Fin pair.length, (selected : Int) = 1 ∧ first = screen pair selected) ∧
      ∃ selected : Fin pair.length, (selected : Int) = 0 ∧ second = screen pair selected := by
  have hexec : ∃ d first second, machine.exec Guarded .init moveOnAndBack =
      some (d, [.key .right, .displayed 1 pair first, .key .left, .key .left,
        .displayed 0 pair second]) := ⟨_, _, _, rfl⟩
  obtain ⟨d, first, second, hexec⟩ := hexec
  have hrun := Machine.run_of_exec hexec
  obtain ⟨-, hdisplayed, -⟩ := displays_existing_slave _ _ hrun
  obtain ⟨-, -, -, hfirst⟩ := hdisplayed [.key .right] 1 pair first _ rfl
  obtain ⟨-, -, -, hsecond⟩ := hdisplayed [.key .right, .displayed 1 pair first, .key .left,
    .key .left] 0 pair second _ rfl
  exact ⟨d, first, second, hrun, hfirst, hsecond⟩

/-- A config file may list no slaves. The first frame then makes the program index the slaves with
`-1`. -/
theorem displays_no_slave :
    PacketSniffer.getSlaves (fun _ => default) (.object [("Slaves", .array [])]) = .ok ([], "") ∧
      .dataCallback [] ∈ (packetCallback ⟨[], false⟩ (lrwBytes 32 34) 0).outputs ∧
      ∃ d, machine.Run (fun _ _ => True) .init [.fault ⟨-1, 0⟩] d := by
  have hstep : machine.step .init (.callback []) =
      some (⟨-1, true⟩, [.fault ⟨-1, 0⟩]) := rfl
  refine ⟨rfl, ?_, _, .snoc .nil trivial hstep⟩
  have haccepted : Accepted (lrwBytes 32 34) := by decide
  rw [packetCallback_outputs _ _ _ haccepted]
  exact List.mem_append_right _ List.mem_cons_self

end Display

end Kddv
