import Kddv.Gui.Model
import Kddv.Gui.Refresh
import Kddv.Slave.Bits

/-!
# Labels of the window

`handleDiscoverButton` fills a group box with labels for the variables of a slave, and
`handleDataChanged` runs through the children of the box with one counter for each direction.
-/

namespace Kddv

open Framework

/-- A child object of a group box. Only the labels for values have object names. -/
structure Child where
  objectName : String
  text : String
  toolTip : String

/-- The label that names a variable, and the label for its value. -/
def variableRow (direction name : String) : List Child :=
  [⟨"", name, ""⟩, ⟨direction ++ name, "", ""⟩]

/-- The children of the group box for a slave: the layout and the labels. -/
def builtBox (slave : EthercatSlave) : List Child :=
  ⟨"", "", ""⟩ :: slave.getRxVariables.flatMap (variableRow "RX") ++
    slave.getTxVariables.flatMap (variableRow "TX")

/-- What can go wrong in `handleDataChanged`. -/
inductive RefreshFault
  | outOfRange
  | invalidArgument
  | stoulOutOfRange
  | uninitialised
deriving DecidableEq

/-- `operator[]` of a vector. -/
def indexed {α : Type} (values : List α) (i : Nat) : Except RefreshFault α :=
  match values[i]? with
  | some value => .ok value
  | none => .error .outOfRange

theorem indexed_of_getElem? {α : Type} {values : List α} {i : Nat} {value : α}
    (h : values[i]? = some value) : indexed values i = .ok value := by
  rw [indexed, h]

/-- `isspace` -/
def isSpace (c : Char) : Bool := c ∈ [' ', '\t', '\n', '\x0b', '\x0c', '\r']

/-- A sign in front of a number. -/
def splitSign : List Char → Bool × List Char
  | '-' :: rest => (true, rest)
  | '+' :: rest => (false, rest)
  | chars => (false, chars)

/-- `std::stoul`: white space, a sign, and as many digits as follow. -/
def stoul (text : String) : Except RefreshFault Nat :=
  let number := splitSign (text.toList.dropWhile isSpace)
  let digits := number.2.takeWhile Char.isDigit
  let value := Nat.ofDigitChars 10 digits 0
  if digits = [] then .error .invalidArgument
  else if 2 ^ 64 ≤ value then .error .stoulOutOfRange
  else .ok (if number.1 then (2 ^ 64 - value) % 2 ^ 64 else value)

/-- The loop that builds a tool tip. -/
def tooltipText : List String → List String → Except RefreshFault String
  | [], _ => .ok ""
  | _ :: _, [] => .error .outOfRange
  | var :: vars, val :: vals => do
    let rest ← tooltipText vars vals
    return var ++ ":\t" ++ val ++ (if vars.isEmpty then "" else "\n") ++ rest

/-- `var_name.rfind(direction, 0) == 0` -/
def hasDirection (direction name : String) : Bool := direction.toList.isPrefixOf name.toList

/-- `var_name.substr(2)` -/
def substr2 (name : String) : String := String.ofList (name.toList.drop 2)

/-- The tool tip for a variable whose bits can be parsed. `value` is missing if the label belongs
to neither direction. -/
def refreshToolTip (slave : EthercatSlave) (varName : String)
    (value : Except RefreshFault String) (child : Child) : Except RefreshFault Child :=
  if slave.areBitsParsable varName then do
    let number ← stoul (← value)
    let (vars, vals) := slave.parseBits (UInt16.ofNat number) varName [] []
    return { child with toolTip := ← tooltipText vars vals }
  else return child

/-- The label of a variable gets the text and the tool tip for the value at its counter. -/
def showValue (slave : EthercatSlave) (showUnits : Bool) (values units : List String) (id : Nat)
    (child : Child) : Except RefreshFault Child := do
  let value ← indexed values id
  let unit ← if showUnits then indexed units id else .ok ""
  refreshToolTip slave (substr2 child.objectName) (.ok value)
    { child with text := labelText showUnits value unit }

/-- The body of the loop over the children, with the counters `rx_id` and `tx_id`. -/
def refreshChild (slave : EthercatSlave) (showUnits : Bool) (rxId txId : Nat) (child : Child) :
    Except RefreshFault (Child × Nat × Nat) :=
  if child.objectName = "" then return (child, rxId, txId)
  else if hasDirection "RX" child.objectName then do
    let child ← showValue slave showUnits slave.getRxValues slave.getRxUnits rxId child
    return (child, rxId + 1, txId)
  else if hasDirection "TX" child.objectName then do
    let child ← showValue slave showUnits slave.getTxValues slave.getTxUnits txId child
    return (child, rxId, txId + 1)
  else do
    let child ← refreshToolTip slave child.objectName (.error .uninitialised) child
    return (child, rxId, txId)

/-- The loop over the children of a group box. -/
def refreshBox (slave : EthercatSlave) (showUnits : Bool) :
    Nat → Nat → List Child → Except RefreshFault (List Child)
  | _, _, [] => return []
  | rxId, txId, child :: children => do
    let (child, rxId, txId) ← refreshChild slave showUnits rxId txId child
    return child :: (← refreshBox slave showUnits rxId txId children)

/-- The loop over the slaves. -/
def refreshBoxes (showUnits : Bool) :
    List EthercatSlave → List (List Child) → Except RefreshFault (List (List Child))
  | [], boxes => return boxes
  | _ :: _, [] => .error .outOfRange
  | slave :: slaves, box :: boxes => do
    let box ← refreshBox slave showUnits 0 0 box
    return box :: (← refreshBoxes showUnits slaves boxes)

/-! ## Names of labels -/

/-- The two kinds of labels, for commands and for sensor values. -/
inductive Direction
  | rx
  | tx

namespace Direction

def text : Direction → String
  | .rx => "RX"
  | .tx => "TX"

def names (slave : EthercatSlave) : Direction → List String
  | .rx => slave.getRxVariables
  | .tx => slave.getTxVariables

def units (slave : EthercatSlave) : Direction → List String
  | .rx => slave.getRxUnits
  | .tx => slave.getTxUnits

def values (slave : EthercatSlave) : Direction → List String
  | .rx => slave.getRxValues
  | .tx => slave.getTxValues

def fields (slave : EthercatSlave) : Direction → List Scalar
  | .rx => slave.rxFields
  | .tx => slave.txFields

/-- The counter of the direction, out of both. -/
def counter (rxId txId : Nat) : Direction → Nat
  | .rx => rxId
  | .tx => txId

/-- The counters after some labels of the direction. -/
def advance (rxId txId count : Nat) : Direction → Nat × Nat
  | .rx => (rxId + count, txId)
  | .tx => (rxId, txId + count)

theorem advance_advance (d : Direction) (rxId txId count count' : Nat) :
    d.advance (d.advance rxId txId count).1 (d.advance rxId txId count).2 count' =
      d.advance rxId txId (count + count') := by
  cases d <;> simp [advance, Nat.add_assoc]

theorem names_nodup (d : Direction) (slave : EthercatSlave) : (d.names slave).Nodup := by
  cases d with
  | rx => exact slave.getRxVariables_nodup
  | tx => exact slave.getTxVariables_nodup

theorem names_length (d : Direction) (slave : EthercatSlave) :
    (d.names slave).length = (d.fields slave).length := by
  cases d with
  | rx => exact slave.getRxVariables_length
  | tx => exact slave.getTxVariables_length

theorem units_length (d : Direction) (slave : EthercatSlave) :
    (d.units slave).length = (d.fields slave).length := by
  cases d with
  | rx => exact slave.getRxUnits_length
  | tx => exact slave.getTxUnits_length

theorem values_eq (d : Direction) (slave : EthercatSlave) :
    d.values slave = (d.fields slave).map Scalar.print := by
  cases d with
  | rx => exact slave.getRxValues_eq
  | tx => exact slave.getTxValues_eq

@[simp] theorem substr2_text (d : Direction) (name : String) : substr2 (d.text ++ name) = name := by
  cases d <;> simp [substr2, text]

theorem text_append_ne (d : Direction) (name : String) : d.text ++ name ≠ "" := by
  intro h
  have hlist := congrArg String.toList h
  cases d <;> simp [text] at hlist

/-- Labels of different directions have different names. -/
theorem text_append_inj {d d' : Direction} {name name' : String}
    (h : d.text ++ name = d'.text ++ name') : d = d' ∧ name = name' := by
  have hlist := congrArg String.toList h
  cases d <;> cases d' <;> simp [text, String.toList_inj] at hlist ⊢
  · exact hlist
  · exact hlist

end Direction

/-! ## Texts of numbers and tool tips -/

private theorem isDigit_toDigits (n : Nat) : ∀ c ∈ Nat.toDigits 10 n, c.isDigit = true :=
  fun _ hc => Nat.isDigit_of_mem_toDigits (by decide) (by decide) hc

/-- `std::stoul` undoes `std::to_string`. -/
theorem stoul_toString (n : Nat) (h : n < 2 ^ 64) : stoul (toString n) = .ok n := by
  have hchars : (toString n).toList = Nat.toDigits 10 n := Nat.toList_repr
  cases hdigits : Nat.toDigits 10 n with
  | nil => exact absurd hdigits Nat.toDigits_ne_nil
  | cons c digits =>
    have hall := isDigit_toDigits n
    rw [hdigits] at hall
    have hdigit : c.isDigit = true := hall c List.mem_cons_self
    have hspace : isSpace c = false := by
      rw [Bool.eq_false_iff]
      intro hspace
      simp only [isSpace, List.mem_cons, List.not_mem_nil, or_false, decide_eq_true_eq] at hspace
      rcases hspace with rfl | rfl | rfl | rfl | rfl | rfl <;> exact absurd hdigit (by decide)
    have hsign : splitSign (c :: digits) = (false, c :: digits) := by
      unfold splitSign
      split
      · rename_i heq
        cases heq
        exact absurd hdigit (by decide)
      · rename_i heq
        cases heq
        exact absurd hdigit (by decide)
      · rfl
    have htake : (c :: digits).takeWhile Char.isDigit = c :: digits :=
      List.takeWhile_eq_self_iff.mpr hall
    have hvalue : Nat.ofDigitChars 10 (c :: digits) 0 = n := by
      rw [← hdigits, Nat.ofDigitChars_ten_toDigits]
    have hskip : (c :: digits).dropWhile isSpace = c :: digits := by
      rw [List.dropWhile_cons_of_neg (by simp [hspace])]
    simp only [stoul, hchars, hdigits, hskip, hsign, htake, hvalue, if_neg (List.cons_ne_nil _ _),
      if_neg (Nat.not_le.mpr h)]
    rfl

/-- The lines of a tool tip. -/
def toolTipLine (entry : String × String) : String := entry.1 ++ ":\t" ++ entry.2

theorem tooltipText_eq (entries : List (String × String)) :
    tooltipText (entries.map Prod.fst) (entries.map Prod.snd) =
      .ok ("\n".intercalate (entries.map toolTipLine)) := by
  induction entries with
  | nil => rfl
  | cons entry entries ih =>
    rw [List.map_cons, List.map_cons, tooltipText, ih]
    cases entries with
    | nil =>
      simp only [List.map_nil, List.map_cons, String.intercalate_nil, String.intercalate_singleton,
        toolTipLine, bind, Except.bind, pure, Except.pure, List.isEmpty_nil, if_true,
        String.append_empty]
    | cons next entries =>
      simp only [List.map_cons, String.intercalate_cons_cons, toolTipLine, bind, Except.bind, pure,
        Except.pure, List.isEmpty_cons]
      rfl

/-- What the tool tip of a variable with parsable bits lists. -/
def bitLines (slave : EthercatSlave) (name : String) (data : UInt16) : List (String × String) :=
  (bitTable slave.cls name).map fun entry => (entry.1, bitText (entry.2 data))

/-- The value label of the variable at the given position. -/
structure ShowsVariable (slave : EthercatSlave) (showUnits : Bool) (d : Direction) (j : Nat)
    (name : String) (child : Child) : Prop where
  text : ∃ value unit, (d.values slave)[j]? = some value ∧ (d.units slave)[j]? = some unit ∧
    child.text = labelText showUnits value unit
  toolTip : slave.areBitsParsable name = true →
    ∃ data, (d.fields slave)[j]? = some (.uint16 data) ∧
      child.toolTip = "\n".intercalate ((bitLines slave name data).map toolTipLine)

/-- If the label is the value label of a variable, it shows that variable. -/
def LabelShows (slave : EthercatSlave) (showUnits : Bool) (child : Child) : Prop :=
  ∀ (d : Direction) (j : Nat) (name : String), (d.names slave)[j]? = some name →
    child.objectName = d.text ++ name → ShowsVariable slave showUnits d j name child

private theorem index_eq {names : List String} (hnodup : names.Nodup) {i j : Nat} {name : String}
    (hi : names[i]? = some name) (hj : names[j]? = some name) : i = j :=
  (List.getElem?_inj (List.getElem?_eq_some_iff.mp hi).1 hnodup).mp (hi.trans hj.symm)

/-- The words that are shown bit by bit are 16-bit fields. -/
theorem uint16_of_areBitsParsable (slave : EthercatSlave) (d : Direction) (j : Nat) (name : String)
    (hname : (d.names slave)[j]? = some name) (hbits : slave.areBitsParsable name = true) :
    ∃ data, (d.fields slave)[j]? = some (.uint16 data) := by
  have hnodup := d.names_nodup slave
  have hmem := List.mem_of_getElem? hname
  obtain ⟨info, cls, rx, tx⟩ := slave
  cases cls with
  | keloDriveSlave =>
    simp only [EthercatSlave.areBitsParsable, KeloDriveSlave.areBitsParsable, Bool.or_eq_true,
      decide_eq_true_eq] at hbits
    cases d with
    | rx =>
      rcases hbits with rfl | rfl
      · obtain rfl : 0 = j := index_eq hnodup rfl hname
        exact ⟨_, rfl⟩
      · exact absurd hmem (by decide : "status1" ∉ KeloDriveSlave.rxVariables)
    | tx =>
      rcases hbits with rfl | rfl
      · exact absurd hmem (by decide : "command1" ∉ KeloDriveSlave.txVariables)
      · obtain rfl : 0 = j := index_eq hnodup rfl hname
        exact ⟨_, rfl⟩
  | robileBatterySlave =>
    simp only [EthercatSlave.areBitsParsable, RobileBatterySlave.areBitsParsable, Bool.or_eq_true,
      decide_eq_true_eq] at hbits
    cases d with
    | rx =>
      rcases hbits with rfl | rfl
      · exact absurd hmem (by decide : "error" ∉ RobileBatterySlave.rxVariables)
      · exact absurd hmem (by decide : "warning" ∉ RobileBatterySlave.rxVariables)
    | tx =>
      rcases hbits with rfl | rfl
      · obtain rfl : 2 = j := index_eq hnodup rfl hname
        exact ⟨_, rfl⟩
      · obtain rfl : 3 = j := index_eq hnodup rfl hname
        exact ⟨_, rfl⟩
  | keloBMSSlave => cases hbits

/-! ## One box -/

/-- The tool tip of the value label at a position, if there is one, lists the bits of the field. -/
private theorem refreshToolTip_ok (slave : EthercatSlave) (d : Direction) (j : Nat)
    {name value : String} (hname : (d.names slave)[j]? = some name)
    (hvalue : (d.values slave)[j]? = some value) (child : Child) :
    ∃ toolTip, refreshToolTip slave name (.ok value) child =
        .ok { child with toolTip := toolTip } ∧
      (slave.areBitsParsable name = true → ∃ data, (d.fields slave)[j]? = some (.uint16 data) ∧
        toolTip = "\n".intercalate ((bitLines slave name data).map toolTipLine)) := by
  unfold refreshToolTip
  split
  · rename_i hbits
    obtain ⟨data, hdata⟩ := uint16_of_areBitsParsable slave d j name hname hbits
    have htext : value = toString data.toNat := by
      rw [d.values_eq, List.getElem?_map, hdata] at hvalue
      exact (Option.some.inj hvalue).symm
    have hlt : data.toNat < 2 ^ 64 := lt_trans data.toNat_lt (by decide)
    have hparse : slave.parseBits (UInt16.ofNat data.toNat) name [] [] =
        ((bitLines slave name data).map Prod.fst, (bitLines slave name data).map Prod.snd) := by
      rw [UInt16.ofNat_toNat, parseBits_eq, bitLines, List.map_map, List.map_map]
      rfl
    refine ⟨_, ?_, fun _ => ⟨data, hdata, rfl⟩⟩
    simp only [htext, bind, Except.bind, stoul_toString _ hlt, hparse, tooltipText_eq, pure,
      Except.pure]
  · rename_i hbits
    exact ⟨child.toolTip, rfl, fun h => absurd h hbits⟩

private theorem hasDirection_text (d d' : Direction) (name : String) :
    hasDirection d.text (d'.text ++ name) = true ↔ d = d' := by
  cases d <;> cases d' <;> simp [hasDirection, Direction.text]

/-- The value label at the counter of its direction. -/
private theorem showValue_ok (slave : EthercatSlave) (showUnits : Bool) (d : Direction) (j : Nat)
    {name : String} (hname : (d.names slave)[j]? = some name) (child : Child)
    (hchild : child.objectName = d.text ++ name) :
    ∃ child', showValue slave showUnits (d.values slave) (d.units slave) j child = .ok child' ∧
      child'.objectName = child.objectName ∧ LabelShows slave showUnits child' := by
  have hindex : j < (d.fields slave).length := by
    rw [← d.names_length]
    exact (List.getElem?_eq_some_iff.mp hname).1
  obtain ⟨unit, hunit⟩ : ∃ unit, (d.units slave)[j]? = some unit :=
    ⟨_, List.getElem?_eq_getElem (by rwa [d.units_length])⟩
  obtain ⟨value, hvalue⟩ : ∃ value, (d.values slave)[j]? = some value :=
    ⟨_, List.getElem?_eq_getElem (by rwa [d.values_eq, List.length_map])⟩
  obtain ⟨toolTip, hrefresh, hbits⟩ := refreshToolTip_ok slave d j hname hvalue
    { child with text := labelText showUnits value unit }
  refine ⟨⟨child.objectName, labelText showUnits value unit, toolTip⟩, ?_, rfl, ?_⟩
  · have hsubstr : substr2 child.objectName = name := by rw [hchild, d.substr2_text]
    simp only [showValue, indexed_of_getElem? hvalue, indexed_of_getElem? hunit, bind, Except.bind,
      hsubstr]
    cases showUnits <;> exact hrefresh
  · intro d' j' name' hname' hchild'
    obtain ⟨rfl, rfl⟩ := Direction.text_append_inj (hchild.symm.trans hchild')
    obtain rfl := index_eq (d.names_nodup slave) hname hname'
    exact ⟨⟨value, unit, hvalue, hunit, rfl⟩, hbits⟩

private theorem refreshChild_value (slave : EthercatSlave) (showUnits : Bool) (d : Direction)
    (rxId txId : Nat) {name : String} (hname : (d.names slave)[d.counter rxId txId]? = some name)
    (child : Child) (hchild : child.objectName = d.text ++ name) :
    ∃ child', refreshChild slave showUnits rxId txId child =
        .ok (child', d.advance rxId txId 1) ∧
      child'.objectName = child.objectName ∧ LabelShows slave showUnits child' := by
  obtain ⟨child', hshow, hsame, hlabel⟩ := showValue_ok slave showUnits d _ hname child hchild
  refine ⟨child', ?_, hsame, hlabel⟩
  have hne : child.objectName ≠ "" := hchild ▸ d.text_append_ne name
  have hrx : hasDirection "RX" child.objectName = true ↔ Direction.rx = d := by
    rw [hchild]
    exact hasDirection_text .rx d name
  have htx : hasDirection "TX" child.objectName = true ↔ Direction.tx = d := by
    rw [hchild]
    exact hasDirection_text .tx d name
  rw [refreshChild, if_neg hne]
  cases d with
  | rx =>
    rw [if_pos (hrx.mpr rfl)]
    exact congrArg (fun result => result.bind fun child => .ok (child, rxId + 1, txId)) hshow
  | tx =>
    rw [if_neg (by simp [hrx]), if_pos (htx.mpr rfl)]
    exact congrArg (fun result => result.bind fun child => .ok (child, rxId, txId + 1)) hshow

/-- The labels of one direction, from the counter on. -/
private theorem refreshBox_rows (slave : EthercatSlave) (showUnits : Bool) (d : Direction)
    (names : List String) (rxId txId : Nat) (children rest : List Child)
    (hnames : (d.names slave).drop (d.counter rxId txId) = names)
    (hchildren : children.map Child.objectName = names.flatMap fun name => ["", d.text ++ name]) :
    ∃ children', children'.map Child.objectName = children.map Child.objectName ∧
      (∀ child ∈ children', LabelShows slave showUnits child) ∧
      refreshBox slave showUnits rxId txId (children ++ rest) =
        (refreshBox slave showUnits (d.advance rxId txId names.length).1
          (d.advance rxId txId names.length).2 rest).map (children' ++ ·) := by
  induction names generalizing rxId txId children with
  | nil =>
    obtain rfl : children = [] := List.map_eq_nil_iff.mp hchildren
    refine ⟨[], rfl, by simp, ?_⟩
    cases d <;> simp [Direction.advance] <;> cases refreshBox slave showUnits rxId txId rest <;> rfl
  | cons name names ih =>
    obtain ⟨label, children, rfl, hlabel, hchildren⟩ := List.map_eq_cons_iff.mp hchildren
    obtain ⟨line, children, rfl, hline, hchildren⟩ := List.map_eq_cons_iff.mp hchildren
    have hname : (d.names slave)[d.counter rxId txId]? = some name := by
      have hget := congrArg (fun names => names[0]?) hnames
      simpa using hget
    have hdrop : (d.names slave).drop (d.counter (d.advance rxId txId 1).1
        (d.advance rxId txId 1).2) = names := by
      have hcounter : d.counter (d.advance rxId txId 1).1 (d.advance rxId txId 1).2 =
          d.counter rxId txId + 1 := by
        cases d <;> rfl
      rw [hcounter, ← List.drop_drop, hnames]
      rfl
    obtain ⟨line', hrefresh, hsame, hshows⟩ :=
      refreshChild_value slave showUnits d rxId txId hname line hline
    obtain ⟨children', hsame', hshows', hrest⟩ := ih _ _ children hdrop hchildren
    refine ⟨label :: line' :: children', by simp [hsame, hsame'], ?_, ?_⟩
    · intro child hchild
      rcases List.mem_cons.mp hchild with rfl | hchild
      · intro d' j name' _ hname'
        exact absurd (hname'.symm.trans hlabel) (d'.text_append_ne name')
      · rcases List.mem_cons.mp hchild with rfl | hchild
        · exact hshows
        · exact hshows' child hchild
    · have hskip : refreshChild slave showUnits rxId txId label = .ok (label, rxId, txId) := by
        rw [refreshChild, if_pos hlabel]
        rfl
      rw [d.advance_advance] at hrest
      rw [List.cons_append, List.cons_append, refreshBox, hskip]
      simp only [bind, Except.bind]
      rw [refreshBox, hrefresh]
      simp only [bind, Except.bind]
      rw [hrest, List.length_cons, Nat.add_comm names.length]
      cases refreshBox slave showUnits (d.advance rxId txId (1 + names.length)).1
        (d.advance rxId txId (1 + names.length)).2 rest <;> rfl

/-- The object names that Discover has given to the children of a box. -/
def SameNames (box built : List Child) : Prop :=
  box.map Child.objectName = built.map Child.objectName

private theorem variableRow_names (direction : String) (names : List String) :
    (names.flatMap (variableRow direction)).map Child.objectName =
      names.flatMap fun name => ["", direction ++ name] := by
  rw [List.map_flatMap]
  rfl

/-- Refreshing the box of a slave, whatever its labels show before. -/
theorem refreshBox_built (slave : EthercatSlave) (showUnits : Bool) (box : List Child)
    (hbox : SameNames box (builtBox slave)) :
    ∃ box', refreshBox slave showUnits 0 0 box = .ok box' ∧ SameNames box' box ∧
      ∀ child ∈ box', LabelShows slave showUnits child := by
  rw [SameNames, builtBox, List.map_append, List.map_cons, variableRow_names,
    variableRow_names] at hbox
  obtain ⟨left, tx, rfl, hleft, htx⟩ := List.map_eq_append_iff.mp hbox
  obtain ⟨layout, rx, rfl, hlayout, hrx⟩ := List.map_eq_cons_iff.mp hleft
  obtain ⟨rx', hrxNames, hrxShows, hrxRefresh⟩ :=
    refreshBox_rows slave showUnits .rx slave.getRxVariables 0 0 rx tx rfl hrx
  obtain ⟨tx', htxNames, htxShows, htxRefresh⟩ :=
    refreshBox_rows slave showUnits .tx slave.getTxVariables (0 + slave.getRxVariables.length) 0 tx
      [] rfl htx
  rw [List.append_nil] at htxRefresh
  have hskip : refreshChild slave showUnits 0 0 layout = .ok (layout, 0, 0) := by
    rw [refreshChild, if_pos hlayout]
    rfl
  refine ⟨layout :: (rx' ++ tx'), ?_, by simp [SameNames, hrxNames, htxNames], ?_⟩
  · rw [List.cons_append, refreshBox, hskip]
    simp only [bind, Except.bind]
    rw [hrxRefresh]
    change ((refreshBox slave showUnits (0 + slave.getRxVariables.length) 0 tx).map _).bind _ = _
    rw [htxRefresh, refreshBox]
    simp [Except.map, Except.bind, pure, Except.pure]
  · intro child hchild
    rcases List.mem_cons.mp hchild with rfl | hchild
    · intro d j name _ hname
      exact absurd (hname.symm.trans hlayout) (d.text_append_ne name)
    · rcases List.mem_append.mp hchild with hchild | hchild
      · exact hrxShows child hchild
      · exact htxShows child hchild

/-- The boxes have been built for these slaves, and their labels show anything. -/
def BoxesFor (slaves : List EthercatSlave) (boxes : List (List Child)) : Prop :=
  List.Forall₂ (fun slave box => SameNames box (builtBox slave)) slaves boxes

theorem builtBox_congr {left right : EthercatSlave} (h : left.SameSlave right) :
    builtBox left = builtBox right := by
  obtain ⟨info, cls, rx, tx⟩ := left
  obtain ⟨info', cls', rx', tx'⟩ := right
  obtain ⟨-, rfl⟩ := h
  rfl

/-- Every variable of the slave has a value label, and every such label shows its variable. -/
def BoxShows (showUnits : Bool) (slave : EthercatSlave) (box : List Child) : Prop :=
  ∀ (d : Direction) (j : Nat) (name : String), (d.names slave)[j]? = some name →
    (∃ child ∈ box, child.objectName = d.text ++ name) ∧
    ∀ child ∈ box, child.objectName = d.text ++ name → ShowsVariable slave showUnits d j name child

private theorem mem_builtBox_names (slave : EthercatSlave) (d : Direction) {name : String}
    (h : name ∈ d.names slave) : d.text ++ name ∈ (builtBox slave).map Child.objectName := by
  rw [builtBox, List.map_append, List.map_cons, variableRow_names, variableRow_names,
    List.mem_append, List.mem_cons, List.mem_flatMap, List.mem_flatMap]
  cases d with
  | rx => exact .inl (.inr ⟨name, h, by simp [Direction.text]⟩)
  | tx => exact .inr ⟨name, h, by simp [Direction.text]⟩

private theorem refreshBox_shows (slave : EthercatSlave) (showUnits : Bool) (box : List Child)
    (hbox : SameNames box (builtBox slave)) :
    ∃ box', refreshBox slave showUnits 0 0 box = .ok box' ∧ SameNames box' (builtBox slave) ∧
      BoxShows showUnits slave box' := by
  obtain ⟨box', hrefresh, hnames, hshows⟩ := refreshBox_built slave showUnits box hbox
  have hbuilt : SameNames box' (builtBox slave) := hnames.trans hbox
  refine ⟨box', hrefresh, hbuilt, ?_⟩
  intro d j name hname
  constructor
  · have hmem := mem_builtBox_names slave d (List.mem_of_getElem? hname)
    rw [← hbuilt] at hmem
    obtain ⟨child, hchild, hobject⟩ := List.mem_map.mp hmem
    exact ⟨child, hchild, hobject⟩
  · intro child hchild hobject
    exact hshows child hchild d j name hname hobject

/-- For any boxes built by Discover, any earlier refreshes of them and any records of the slaves:
the refresh reads nothing out of range, parses every number it has to, and leaves every value
label with the value, the unit and the bits of its own variable. The bits have different names
and one value each. -/
theorem refreshBoxes_labels (discovered slaves : List EthercatSlave) (boxes : List (List Child))
    (showUnits : Bool) (hsame : EthercatSlave.SameSlaves slaves discovered)
    (hboxes : BoxesFor discovered boxes) :
    (∃ boxes', refreshBoxes showUnits slaves boxes = .ok boxes' ∧ BoxesFor discovered boxes' ∧
      List.Forall₂ (BoxShows showUnits) slaves boxes') ∧
    ∀ slave ∈ slaves, ∀ name data,
      slave.parseBits data name [] [] =
        ((bitLines slave name data).map Prod.fst, (bitLines slave name data).map Prod.snd) ∧
      ((bitLines slave name data).map Prod.fst).Nodup := by
  constructor
  · induction hsame generalizing boxes with
    | nil =>
      cases hboxes
      exact ⟨[], rfl, .nil, .nil⟩
    | @cons slave built slaves discovered hfirst _ ih =>
      cases hboxes with
      | @cons _ box _ boxes hbox hboxes =>
        rw [← builtBox_congr hfirst] at hbox
        obtain ⟨box', hrefresh, hbuilt, hshows⟩ := refreshBox_shows slave showUnits box hbox
        obtain ⟨boxes', hrest, hboxes', hshows'⟩ := ih boxes hboxes
        rw [builtBox_congr hfirst] at hbuilt
        refine ⟨box' :: boxes', ?_, .cons hbuilt hboxes', .cons hshows hshows'⟩
        rw [refreshBoxes, hrefresh]
        simp only [bind, Except.bind, hrest]
        rfl
  · intro slave _ name data
    constructor
    · rw [parseBits_eq, bitLines, List.map_map, List.map_map]
      rfl
    · have hnodup := bitTable_names_nodup slave.cls name
      rwa [bitLines, List.map_map]

/-- Built boxes of a list of slaves. -/
theorem boxesFor_built (slaves : List EthercatSlave) : BoxesFor slaves (slaves.map builtBox) :=
  List.forall₂_map_right_iff.mpr (List.forall₂_same.mpr fun _ _ => rfl)

/-- A drive and a battery. -/
private def shownSlaves : List EthercatSlave :=
  [⟨⟨"KELOD105", keloDriveSlaveType, 1, 1280, 1020, 33558529, 4097, 0, 36⟩, .keloDriveSlave,
    Packed.layout.decode [1, 4], Packed.layout.decode [3]⟩,
   ⟨⟨"KELO_ROBILE", robileBatterySlaveType, 2, 5001027, 1, 34603265, 4098, 208, 220⟩,
    .robileBatterySlave, Packed.layout.decode [], Packed.layout.decode []⟩]

theorem refreshBoxes_labels_drive_battery :
    (∃ boxes', refreshBoxes true shownSlaves (shownSlaves.map builtBox) = .ok boxes' ∧
      BoxesFor shownSlaves boxes' ∧ List.Forall₂ (BoxShows true) shownSlaves boxes') ∧
    ∀ slave ∈ shownSlaves, ∀ name data,
      slave.parseBits data name [] [] =
        ((bitLines slave name data).map Prod.fst, (bitLines slave name data).map Prod.snd) ∧
      ((bitLines slave name data).map Prod.fst).Nodup :=
  refreshBoxes_labels shownSlaves shownSlaves _ true (.refl _) (boxesFor_built _)

/-! ## The coarser views of the same labels -/

/-- The value labels are those of the group box. -/
theorem builtBox_lines (ptr : SlavePtr) (slave : EthercatSlave) :
    ((builtBox slave).map Child.objectName).filter (· ≠ "") = (groupBox ptr slave).lines := by
  have hrows (d : Direction) (names : List String) :
      (names.flatMap fun name => ["", d.text ++ name]).filter (· ≠ "") =
        names.map (d.text ++ ·) := by
    induction names with
    | nil => rfl
    | cons name names ih =>
      rw [List.flatMap_cons, List.filter_append, ih]
      simp [d.text_append_ne name]
  rw [builtBox, List.map_append, List.map_cons, variableRow_names, variableRow_names,
    List.filter_append, List.filter_cons_of_neg (by simp)]
  exact congrArg₂ (· ++ ·) (hrows .rx _) (hrows .tx _)

/-- A label that shows its variable has the text that a refresh as a whole gives it. -/
theorem ShowsVariable.boxLabels {slave : EthercatSlave} {showUnits : Bool} {d : Direction}
    {j : Nat} {name : String} {child : Child}
    (h : ShowsVariable slave showUnits d j name child) :
    (match d with
      | .rx => (Kddv.boxLabels showUnits slave).1
      | .tx => (Kddv.boxLabels showUnits slave).2)[j]? = some child.text := by
  obtain ⟨value, unit, hvalue, hunit, htext⟩ := h.text
  cases d <;>
    exact (List.getElem?_zipWith_eq_some.mpr ⟨value, unit, hvalue, hunit, htext.symm⟩)

end Kddv
