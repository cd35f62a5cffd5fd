import Kddv.Slave.Document

/-!
# What a message tells

Two messages are compared. A subscriber can tell them apart exactly when their times differ or
when, under some name and number, the last slaves of the two lists read differently.
-/

namespace Kddv

open Framework

/-- What is published of a slave: the kind of its records and the values of their fields. -/
structure Reading where
  cls : SlaveClass
  commands : List Json
  sensors : List Json

namespace EthercatSlave

def reading (slave : EthercatSlave) : Reading :=
  ⟨slave.cls, slave.rxFields.map Scalar.json, slave.txFields.map Scalar.json⟩

end EthercatSlave

/-- The last slave of a list with the given name and number. -/
def lastSlave (slaves : List EthercatSlave) (identity : String × Int) : Option EthercatSlave :=
  slaves.reverse.find? fun slave => decide (slave.identity = identity)

/-- The reading that is found under a name and a number. -/
def lastReading (slaves : List EthercatSlave) (identity : String × Int) : Option Reading :=
  (lastSlave slaves identity).map EthercatSlave.reading

/-! ## One slave -/

/-- Values assigned to different members are found again. -/
private theorem assigned_values_injective {names : List String} {left right : List Json}
    (hnodup : names.Nodup) (hleft : names.length = left.length)
    (hright : names.length = right.length)
    (h : Json.insertMembers (names.zip left) [] = Json.insertMembers (names.zip right) []) :
    left = right := by
  have hlookup : ∀ values : List Json, names.length = values.length →
      ∀ (i : Nat) (hi : i < names.length) (hi' : i < values.length),
        (Json.insertMembers (names.zip values) []).lookup names[i] = some values[i] := by
    intro values hlength i hi hi'
    apply Json.lookup_insertMembers_of_mem
    · rwa [List.map_fst_zip (le_of_eq hlength)]
    · have hzip : i < (names.zip values).length := by
        rw [List.length_zip, ← hlength, Nat.min_self]
        exact hi
      have hget : (names.zip values)[i] = (names[i], values[i]) := List.getElem_zip
      exact hget ▸ List.getElem_mem hzip
  apply List.ext_getElem
  · rw [← hleft, hright]
  · intro i hi hi'
    have hname : i < names.length := hleft ▸ hi
    have hvalue := hlookup left hleft i hname hi
    rw [h, hlookup right hright i hname hi'] at hvalue
    exact (Option.some.inj hvalue).symm

namespace EthercatSlave

/-- The number of commands tells the class. -/
private theorem cls_eq_of_length {left right : EthercatSlave}
    (h : left.getRxVariables.length = right.getRxVariables.length) : left.cls = right.cls := by
  unfold getRxVariables at h
  cases hleft : left.cls <;> cases hright : right.cls <;> rw [hleft, hright] at h <;>
    first | rfl | exact absurd h (by decide)

private theorem commands_length (slave : EthercatSlave) :
    slave.commands.length = slave.getRxVariables.length := by
  have hkeys : (fieldMembers slave.getRxVariables slave.rxFields).map Prod.fst =
      slave.getRxVariables := by
    apply List.map_fst_zip
    rw [List.length_map, slave.getRxVariables_length]
  have hperm := Json.keys_insertMembers_perm Json.sorted_nil
    (fieldMembers slave.getRxVariables slave.rxFields)
  rw [hkeys, List.map_nil, List.append_nil, slave.getRxVariables_nodup.dedup] at hperm
  rw [← hperm.length_eq, List.length_map, commands]

/-- The object published for a slave is a canonical form of its reading. -/
theorem convertToJson_eq_iff (left right : EthercatSlave) :
    left.convertToJson .null = right.convertToJson .null ↔ left.reading = right.reading := by
  rw [left.convertToJson_eq, right.convertToJson_eq, reading, reading, Reading.mk.injEq]
  constructor
  · intro h
    have hmembers : left.commands = right.commands ∧ left.sensors = right.sensors := by
      simpa using h
    have hcommands := hmembers.1
    have hsensors := hmembers.2
    have hcls : left.cls = right.cls := by
      apply cls_eq_of_length
      rw [← commands_length, ← commands_length, hcommands]
    have hrx : right.getRxVariables = left.getRxVariables := by
      rw [getRxVariables, getRxVariables, hcls]
    have htx : right.getTxVariables = left.getTxVariables := by
      rw [getTxVariables, getTxVariables, hcls]
    refine ⟨hcls, ?_, ?_⟩
    · rw [commands, commands, fieldMembers, fieldMembers, hrx] at hcommands
      apply assigned_values_injective left.getRxVariables_nodup ?_ ?_ hcommands
      · rw [List.length_map, left.getRxVariables_length]
      · rw [List.length_map, ← right.getRxVariables_length, hrx]
    · rw [sensors, sensors, fieldMembers, fieldMembers, htx] at hsensors
      apply assigned_values_injective left.getTxVariables_nodup ?_ ?_ hsensors
      · rw [List.length_map, left.getTxVariables_length]
      · rw [List.length_map, ← right.getTxVariables_length, htx]
  · intro h
    obtain ⟨hcls, hrx, htx⟩ := h
    rw [commands, commands, sensors, sensors, fieldMembers, fieldMembers, fieldMembers,
      fieldMembers, hrx, htx, getRxVariables, getRxVariables, getTxVariables, getTxVariables,
      hcls]

end EthercatSlave

/-- What is printed of a field is a function of what is published of it. -/
theorem Scalar.print_eq_of_json {left right : Scalar} (h : left.json = right.json) :
    left.print = right.print := by
  cases left <;> cases right <;> simp_all [Scalar.json, Scalar.print]

private theorem map_print_eq {fields fields' : List Scalar}
    (h : fields.map Scalar.json = fields'.map Scalar.json) :
    fields.map Scalar.print = fields'.map Scalar.print := by
  induction fields generalizing fields' with
  | nil => rw [List.map_eq_nil_iff.mp h.symm]
  | cons field fields ih =>
    cases fields' with
    | nil => cases h
    | cons field' fields' =>
      have hboth := List.cons.inj h
      rw [List.map_cons, List.map_cons, Scalar.print_eq_of_json hboth.1, ih hboth.2]

namespace EthercatSlave

/-- Slaves with equal readings are listed alike by the user interfaces. -/
theorem values_eq_of_reading {left right : EthercatSlave} (h : left.reading = right.reading) :
    left.getRxValues = right.getRxValues ∧ left.getTxValues = right.getTxValues := by
  rw [reading, reading, Reading.mk.injEq] at h
  rw [getRxValues_eq, getRxValues_eq, getTxValues_eq, getTxValues_eq]
  exact ⟨map_print_eq h.2.1, map_print_eq h.2.2⟩

end EthercatSlave

/-! ## The whole message -/

private theorem lookup_map_documentMember (slaves : List EthercatSlave)
    (identity : String × Int) :
    (slaves.map documentMember).lookup (documentKey identity) =
      (slaves.find? fun slave => decide (slave.identity = identity)).map
        fun slave => slave.convertToJson .null := by
  induction slaves with
  | nil => rfl
  | cons slave slaves ih =>
    by_cases h : slave.identity = identity
    · simp [documentMember, h]
    · have hkey : (documentKey identity == documentKey slave.identity) = false :=
        beq_eq_false_iff_ne.mpr fun heq => h (documentKey_injective heq).symm
      rw [List.map_cons, documentMember, List.lookup_cons, hkey, ih]
      simp [h]

theorem documentMembers_lookup (millis : Int) (slaves : List EthercatSlave)
    (identity : String × Int) :
    (documentMembers millis slaves).lookup (documentKey identity) =
      (lastSlave slaves identity).map fun slave => slave.convertToJson .null := by
  have htimestamp : [timestampMember millis].lookup (documentKey identity) = none := by
    rw [timestampMember, List.lookup_cons,
      beq_eq_false_iff_ne.mpr (documentKey_ne_timestamp identity)]
    rfl
  rw [documentMembers, Json.lookup_insertMembers, ← List.map_reverse,
    lookup_map_documentMember, htimestamp, Option.or_none, lastSlave]

/-- Members under the same name and number are equal exactly when the readings are. -/
private theorem shown_eq_iff (left right : Option EthercatSlave) :
    left.map (fun slave => slave.convertToJson .null) =
        right.map (fun slave => slave.convertToJson .null) ↔
      left.map EthercatSlave.reading = right.map EthercatSlave.reading := by
  cases left <;> cases right <;> simp [EthercatSlave.convertToJson_eq_iff]

end Kddv
