import Kddv.Sniffer.GetSlaves

/-!
# Entries of a config file

How the sniffer reads the entries of the `Slaves` array, and what becomes of entries whose
name none of the slave classes is constructed for.
-/

namespace Kddv

open Framework

/-! ## The loop over the entries -/

theorem getSlaves_eq (heap : Nat → FreshMemory) (members : List (String × Json))
    (items : List Json) (h : members.lookup "Slaves" = some (.array items)) :
    PacketSniffer.getSlaves heap (.object members) =
      (items.zipIdx.mapM fun entry => PacketSniffer.readSlave (heap entry.2) entry.1).map
        fun slaves => (slaves, "") := by
  have hempty : (Json.object members).empty = false := by
    cases members with
    | nil => cases h
    | cons member members => rfl
  simp only [PacketSniffer.getSlaves, hempty, Json.member, h, Option.getD_some, Except.bind,
    Json.elements, orThrow, Except.mapError]
  rfl

/-- A document with a `Slaves` array is read entry by entry. -/
theorem getSlaves_ok_iff (heap : Nat → FreshMemory) (members : List (String × Json))
    (items : List Json) (h : members.lookup "Slaves" = some (.array items))
    (slaves : List EthercatSlave) (error : String) :
    PacketSniffer.getSlaves heap (.object members) = .ok (slaves, error) ↔
      error = "" ∧ List.Forall₂ (fun entry slave =>
        PacketSniffer.readSlave (heap entry.2) entry.1 = .ok slave) items.zipIdx slaves := by
  rw [getSlaves_eq heap members items h, ← mapM_eq_ok_iff]
  cases items.zipIdx.mapM fun entry => PacketSniffer.readSlave (heap entry.2) entry.1 with
  | error e => simp [Except.map]
  | ok result => simp [Except.map, eq_comm, and_comm]

theorem forall₂_zipIdx_iff {α β : Type} {p : α → β → Prop} (xs : List α) (ys : List β) :
    List.Forall₂ (fun entry y => p entry.1 y) xs.zipIdx ys ↔ List.Forall₂ p xs ys := by
  conv_rhs => rw [← List.zipIdx_map_fst 0 xs]
  rw [List.forall₂_map_left_iff]

/-! ## One entry -/

/-- The name and the ID that an entry is read with. -/
def HasIdentity (entry : Json) (identity : String × Int) : Prop :=
  (entry.member "Name").bind Json.asString = .ok identity.1 ∧
    PacketSniffer.memberInt entry "Slave ID" = .ok identity.2

/-- The description of a slave comes from its entry alone. -/
theorem readSlave_ok {memory : FreshMemory} {entry : Json} {slave : EthercatSlave}
    (h : PacketSniffer.readSlave memory entry = .ok slave) :
    HasIdentity entry (slave.slaveInfo.name, slave.slaveInfo.slaveNumber) ∧
      ∀ other : FreshMemory, PacketSniffer.readSlave other entry =
        .ok (other.makeSlave slave.cls slave.slaveInfo) := by
  rw [PacketSniffer.readSlave] at h
  obtain ⟨name, hname, h⟩ := except_bind_ok h
  have hname' : (entry.member "Name").bind Json.asString = .ok name := by
    cases hentry : (entry.member "Name").bind Json.asString with
    | error e =>
      rw [hentry] at hname
      cases hname
    | ok text =>
      rw [hentry] at hname
      exact congrArg _ (Except.ok.inj hname)
  dsimp only at h
  split at h
  · cases h
  · rename_i cls hcls
    obtain ⟨slaveNumber, hnumber, h⟩ := except_bind_ok h
    obtain ⟨eepMan, hman, h⟩ := except_bind_ok h
    obtain ⟨eepId, hid, h⟩ := except_bind_ok h
    obtain ⟨eepRev, hrev, h⟩ := except_bind_ok h
    obtain ⟨address, haddress, h⟩ := except_bind_ok h
    obtain ⟨rxStartOffset, hrx, h⟩ := except_bind_ok h
    obtain ⟨txStartOffset, htx, h⟩ := except_bind_ok h
    cases h
    refine ⟨⟨hname', hnumber⟩, ?_⟩
    intro other
    rw [PacketSniffer.readSlave, hname']
    simp only [orThrow, Except.mapError, bind, Except.bind, hcls, hnumber, hman, hid, hrev,
      haddress, hrx, htx]
    rfl

/-! ## Supported names -/

/-- The names of the slave types that the program supports. -/
def supportedNames : List String := ["KELOD105", "SWMC", "KELO_ROBILE", "KeloEcPd"]

/-- They are the names that a class is constructed for. -/
theorem classOf_isSome_iff (name : String) :
    (PacketSniffer.classOf (getSlaveType name)).isSome ↔ name ∈ supportedNames := by
  by_cases h1 : name = "KELO_ROBILE"
  · subst h1
    decide
  by_cases h2 : name = "SWMC"
  · subst h2
    decide
  by_cases h3 : name = "KELOD105"
  · subst h3
    decide
  by_cases h4 : name = "KeloEcPd"
  · subst h4
    decide
  simp [supportedNames, getSlaveType, PacketSniffer.classOf, robileBatterySlaveType,
    keloDriveSlaveType, keloBMSSlaveType, h1, h2, h3, h4]

/-! ## Well-typed entries -/

/-- The members of an entry that are read as numbers. -/
def numberKeys : List String :=
  ["Slave ID", "EEP Man", "EEP ID", "EEP Rev", "Address", "RX start offset", "TX start offset"]

/-- Every member that is read is missing or has the type that the generator writes. -/
structure ConfigEntry (members : List (String × Json)) : Prop where
  name : members.lookup "Name" = none ∨ ∃ name, members.lookup "Name" = some (.string name)
  number : ∀ key ∈ numberKeys,
    members.lookup key = none ∨ ∃ value, IntRange value ∧ members.lookup key = some (.int value)

/-- The name of an entry. A missing name reads as the empty text. -/
def entryName (members : List (String × Json)) : String :=
  match members.lookup "Name" with
  | some (.string name) => name
  | _ => ""

private theorem ConfigEntry.asString_name {members : List (String × Json)}
    (h : ConfigEntry members) :
    ((Json.object members).member "Name").bind Json.asString = .ok (entryName members) := by
  rw [Json.member, entryName]
  rcases h.name with hnone | ⟨name, hname⟩
  · rw [hnone]
    rfl
  · rw [hname]
    rfl

private theorem ConfigEntry.memberInt_ok {members : List (String × Json)} (h : ConfigEntry members)
    (key : String) (hkey : key ∈ numberKeys) :
    ∃ value, PacketSniffer.memberInt (.object members) key = .ok value := by
  rw [PacketSniffer.memberInt, Json.member]
  rcases h.number key hkey with hnone | ⟨value, hrange, hvalue⟩
  · rw [hnone]
    exact ⟨0, rfl⟩
  · rw [hvalue, Option.getD_some, Except.bind, Json.asInt_int value hrange]
    exact ⟨value, rfl⟩

/-- An entry is turned into a slave of the class that its name selects. Without a class, the
null pointer is dereferenced. -/
private theorem ConfigEntry.readSlave {members : List (String × Json)} (h : ConfigEntry members)
    (memory : FreshMemory) :
    match PacketSniffer.classOf (getSlaveType (entryName members)) with
    | none => PacketSniffer.readSlave memory (.object members) = .error .nullDereference
    | some cls => ∃ slave, PacketSniffer.readSlave memory (.object members) = .ok slave ∧
        slave.cls = cls ∧ slave.slaveInfo.name = entryName members := by
  obtain ⟨number, hnumber⟩ := h.memberInt_ok "Slave ID" (by decide)
  obtain ⟨man, hman⟩ := h.memberInt_ok "EEP Man" (by decide)
  obtain ⟨id, hid⟩ := h.memberInt_ok "EEP ID" (by decide)
  obtain ⟨rev, hrev⟩ := h.memberInt_ok "EEP Rev" (by decide)
  obtain ⟨address, haddress⟩ := h.memberInt_ok "Address" (by decide)
  obtain ⟨rx, hrx⟩ := h.memberInt_ok "RX start offset" (by decide)
  obtain ⟨tx, htx⟩ := h.memberInt_ok "TX start offset" (by decide)
  rw [PacketSniffer.readSlave, h.asString_name]
  cases hcls : PacketSniffer.classOf (getSlaveType (entryName members)) with
  | none => simp only [orThrow, Except.mapError, bind, Except.bind, hcls]
  | some cls =>
    simp only [orThrow, Except.mapError, bind, Except.bind, hcls, hnumber, hman, hid, hrev,
      haddress, hrx, htx]
    exact ⟨_, rfl, rfl, rfl⟩

/-- The outcome that error handling allows: an error text, or one slave for each entry, of
the class that its name stands for. -/
def ReportsOrReturns (entries : List (List (String × Json)))
    (result : Except Fault (List EthercatSlave × String)) : Prop :=
  ∃ slaves error, result = .ok (slaves, error) ∧
    (error ≠ "" ∨ List.Forall₂ (fun entry slave =>
      PacketSniffer.classOf (getSlaveType (entryName entry)) = some slave.cls ∧
        slave.slaveInfo.name = entryName entry) entries slaves)

private theorem mem_zipIdx_object {entries : List (List (String × Json))} {entry : Json × Nat}
    (h : entry ∈ (entries.map Json.object).zipIdx) :
    ∃ members ∈ entries, entry.1 = .object members := by
  obtain ⟨members, hmem, heq⟩ := List.mem_map.mp (List.fst_mem_of_mem_zipIdx h)
  exact ⟨members, hmem, heq.symm⟩

private theorem getSlaves_supported (heap : Nat → FreshMemory) (members : List (String × Json))
    (entries : List (List (String × Json)))
    (hslaves : members.lookup "Slaves" = some (.array (entries.map .object)))
    (hentries : ∀ entry ∈ entries, ConfigEntry entry)
    (hnames : ∀ entry ∈ entries, entryName entry ∈ supportedNames) :
    ReportsOrReturns entries (PacketSniffer.getSlaves heap (.object members)) := by
  have hread : ∀ item ∈ (entries.map Json.object).zipIdx, ∃ slave,
      PacketSniffer.readSlave (heap item.2) item.1 = .ok slave ∧
        ∀ entry, item.1 = .object entry →
          PacketSniffer.classOf (getSlaveType (entryName entry)) = some slave.cls ∧
            slave.slaveInfo.name = entryName entry := by
    rintro ⟨json, i⟩ hitem
    obtain ⟨entry, hmem, heq⟩ := mem_zipIdx_object hitem
    dsimp only at heq
    subst heq
    obtain ⟨cls, hcls⟩ := Option.isSome_iff_exists.mp
      ((classOf_isSome_iff _).mpr (hnames entry hmem))
    have hslave := (hentries entry hmem).readSlave (heap i)
    rw [hcls] at hslave
    obtain ⟨slave, hok, hc, hname⟩ := hslave
    refine ⟨slave, hok, ?_⟩
    rintro _ heq
    cases heq
    exact ⟨by rw [hcls, hc], hname⟩
  obtain ⟨slaves, hall⟩ := exists_forall₂ hread
  refine ⟨slaves, "", (getSlaves_ok_iff heap members _ hslaves slaves "").mpr ⟨rfl, ?_⟩, .inr ?_⟩
  · exact hall.imp fun _ _ h => h.1
  · have hentry : List.Forall₂ (fun json slave => ∀ entry, json = Json.object entry →
        PacketSniffer.classOf (getSlaveType (entryName entry)) = some slave.cls ∧
          slave.slaveInfo.name = entryName entry) (entries.map Json.object) slaves :=
      (forall₂_zipIdx_iff _ _).mp (hall.imp fun _ _ h => h.2)
    rw [List.forall₂_map_left_iff] at hentry
    exact hentry.imp fun entry _ h => h entry rfl

private theorem getSlaves_unsupported (heap : Nat → FreshMemory) (members : List (String × Json))
    (entries : List (List (String × Json)))
    (hslaves : members.lookup "Slaves" = some (.array (entries.map .object)))
    (hentries : ∀ entry ∈ entries, ConfigEntry entry)
    (hname : ∃ entry ∈ entries, entryName entry ∉ supportedNames) :
    PacketSniffer.getSlaves heap (.object members) = .error .nullDereference := by
  have hread : ∀ item ∈ (entries.map Json.object).zipIdx,
      (∃ slave, PacketSniffer.readSlave (heap item.2) item.1 = .ok slave) ∨
        PacketSniffer.readSlave (heap item.2) item.1 = .error .nullDereference := by
    rintro ⟨json, i⟩ hitem
    obtain ⟨entry, hmem, heq⟩ := mem_zipIdx_object hitem
    dsimp only at heq
    subst heq
    have hslave := (hentries entry hmem).readSlave (heap i)
    split at hslave
    · exact .inr hslave
    · obtain ⟨slave, hok, -⟩ := hslave
      exact .inl ⟨slave, hok⟩
  have hfails : ∃ item ∈ (entries.map Json.object).zipIdx,
      PacketSniffer.readSlave (heap item.2) item.1 = .error .nullDereference := by
    obtain ⟨entry, hmem, hunsupported⟩ := hname
    obtain ⟨i, hi, rfl⟩ := List.mem_iff_getElem.mp hmem
    have hitem : (Json.object entries[i], i) ∈ (entries.map Json.object).zipIdx := by
      rw [List.mk_mem_zipIdx_iff_getElem?]
      simp [hi]
    have hnone : PacketSniffer.classOf (getSlaveType (entryName entries[i])) = none := by
      rwa [← Option.not_isSome_iff_eq_none, classOf_isSome_iff]
    have hslave := (hentries _ hmem).readSlave (heap i)
    rw [hnone] at hslave
    exact ⟨_, hitem, hslave⟩
  rw [getSlaves_eq heap members _ hslaves, mapM_eq_error hread hfails]
  rfl

/-- An entry with the given name and an ID. -/
def namedEntry (name : String) : List (String × Json) :=
  [("Name", .string name), ("Slave ID", .int 1)]

private theorem configEntry_namedEntry (name : String) : ConfigEntry (namedEntry name) where
  name := .inr ⟨name, rfl⟩
  number := by
    intro key hkey
    unfold numberKeys at hkey
    fin_cases hkey
    · exact .inr ⟨1, by decide, rfl⟩
    all_goals exact .inl rfl

end Kddv
