import Kddv.Slave.Fields

/-!
# The published document

The JSON object that is published for a list of slaves: a timestamp and one member for each
slave, under a key that determines the name and the number of the slave.
-/

namespace Kddv

open Framework

namespace EthercatSlave

/-- What the key of a slave is made of. -/
def identity (slave : EthercatSlave) : String × Int :=
  (slave.slaveInfo.name, slave.slaveInfo.slaveNumber)

end EthercatSlave

/-- `name + " " + std::to_string(slave_number)` -/
def documentKey (identity : String × Int) : String := identity.1 ++ " " ++ toString identity.2

/-- The assignment for one slave. -/
def documentMember (slave : EthercatSlave) : String × Json :=
  (documentKey slave.identity, slave.convertToJson .null)

/-- The assignment of the time. -/
def timestampMember (millisecSinceEpoch : Int) : String × Json :=
  ("timestamp", .real (Float.ofInt millisecSinceEpoch / 1000.0))

/-- The members of the document. -/
def documentMembers (millisecSinceEpoch : Int) (slaves : List EthercatSlave) :
    List (String × Json) :=
  Json.insertMembers (slaves.map documentMember) [timestampMember millisecSinceEpoch]

theorem convertToJson_eq (millis : Int) (slaves : List EthercatSlave) :
    convertToJson millis slaves = .object (documentMembers millis slaves) := by
  have hfold : ∀ members : List (String × Json),
      slaves.foldl (fun root slave =>
          root.setMember (slave.slaveInfo.name ++ " " ++ toString slave.slaveInfo.slaveNumber)
            (slave.convertToJson .null)) (Json.object members) =
        .object (Json.insertMembers (slaves.map documentMember) members) := by
    induction slaves with
    | nil => exact fun _ => rfl
    | cons slave slaves ih => exact fun _ => ih _
  exact hfold [timestampMember millis]

theorem documentMembers_sorted (millis : Int) (slaves : List EthercatSlave) :
    Json.Sorted (documentMembers millis slaves) :=
  (Json.sorted_singleton _).insertMembers _

/-! ## Keys -/

/-- The last separator of a list determines what is before and after it. -/
private theorem append_separator_injective {α : Type} {separator : α} {left right left' right' :
    List α} (h : separator ∉ right) (h' : separator ∉ right')
    (heq : left ++ separator :: right = left' ++ separator :: right') :
    left = left' ∧ right = right' := by
  rcases List.append_eq_append_iff.mp heq with ⟨between, hleft, hright⟩ | ⟨between, hleft, hright⟩
  · cases between with
    | nil => simp_all
    | cons first between =>
      obtain ⟨rfl, rfl⟩ := List.cons.inj hright
      simp at h
  · cases between with
    | nil => simp_all
    | cons first between =>
      obtain ⟨rfl, rfl⟩ := List.cons.inj hright
      simp at h'

private theorem space_notMem_repr (n : Nat) : ' ' ∉ n.repr.toList := by
  rw [Nat.toList_repr]
  intro hspace
  have hdigit := Nat.isDigit_of_mem_toDigits (by decide) (by decide) hspace
  exact absurd hdigit (by decide)

private theorem space_notMem_toString (n : Int) : ' ' ∉ (toString n).toList := by
  cases n with
  | ofNat n => exact space_notMem_repr n
  | negSucc n =>
    change ' ' ∉ ("-" ++ (n + 1).repr).toList
    rw [String.toList_append, List.mem_append, not_or]
    exact ⟨by decide, space_notMem_repr (n + 1)⟩

private theorem documentKey_toList (identity : String × Int) :
    (documentKey identity).toList = identity.1.toList ++ ' ' :: (toString identity.2).toList := by
  simp [documentKey]

theorem documentKey_injective : Function.Injective documentKey := by
  intro left right h
  have hlist : (documentKey left).toList = (documentKey right).toList := by rw [h]
  rw [documentKey_toList, documentKey_toList] at hlist
  obtain ⟨hname, hnumber⟩ := append_separator_injective (space_notMem_toString _)
    (space_notMem_toString _) hlist
  exact Prod.ext (String.toList_inj.mp hname) (Int.repr_injective (String.toList_inj.mp hnumber))

theorem documentKey_ne_timestamp (identity : String × Int) :
    documentKey identity ≠ "timestamp" := by
  intro h
  have hspace : ' ' ∈ (documentKey identity).toList := by
    rw [documentKey_toList]
    simp
  rw [h] at hspace
  exact absurd hspace (by decide)

/-! ## Members -/

theorem documentMembers_timestamp (millis : Int) (slaves : List EthercatSlave) :
    (documentMembers millis slaves).lookup "timestamp" = some (timestampMember millis).2 := by
  have hnone : (slaves.map documentMember).reverse.lookup "timestamp" = none := by
    rw [← Option.not_isSome_iff_eq_none, Json.lookup_isSome_iff, List.map_reverse,
      List.mem_reverse, List.map_map]
    intro hmem
    obtain ⟨slave, -, hkey⟩ := List.mem_map.mp hmem
    exact documentKey_ne_timestamp _ hkey
  rw [documentMembers, Json.lookup_insertMembers, hnone]
  rfl

theorem mem_documentMembers_keys (millis : Int) (slaves : List EthercatSlave) (key : String) :
    key ∈ (documentMembers millis slaves).map Prod.fst ↔
      key = "timestamp" ∨ ∃ slave ∈ slaves, key = documentKey slave.identity := by
  rw [documentMembers, Json.mem_keys_insertMembers, List.map_map, List.mem_map, or_comm]
  simp [timestampMember, documentMember, eq_comm]

/-- The last slave with a name and a number is the one that is shown under its key. -/
theorem documentMembers_last (millis : Int) (before after : List EthercatSlave)
    (slave : EthercatSlave) (h : ∀ other ∈ after, other.identity ≠ slave.identity) :
    (documentMembers millis (before ++ slave :: after)).lookup (documentKey slave.identity) =
      some (slave.convertToJson .null) := by
  have hafter : (after.map documentMember).reverse.lookup (documentKey slave.identity) = none := by
    rw [← Option.not_isSome_iff_eq_none, Json.lookup_isSome_iff, List.map_reverse,
      List.mem_reverse, List.map_map]
    intro hmem
    obtain ⟨other, hother, hkey⟩ := List.mem_map.mp hmem
    exact h other hother (documentKey_injective hkey)
  rw [documentMembers, Json.lookup_insertMembers, List.map_append, List.map_cons,
    List.reverse_append, List.reverse_cons, List.lookup_append, List.lookup_append, hafter]
  simp [documentMember]

private theorem length_dedup_eq_iff {α : Type} [DecidableEq α] (xs : List α) :
    xs.dedup.length = xs.length ↔ xs.Nodup := by
  constructor
  · intro h
    rw [← (List.dedup_sublist xs).eq_of_length h]
    exact List.nodup_dedup xs
  · intro h
    rw [h.dedup]

theorem documentMembers_length_iff (millis : Int) (slaves : List EthercatSlave) :
    (documentMembers millis slaves).length = slaves.length + 1 ↔
      (slaves.map EthercatSlave.identity).Nodup := by
  have hkeys : (slaves.map documentMember).map Prod.fst =
      (slaves.map EthercatSlave.identity).map documentKey := by
    rw [List.map_map, List.map_map]
    rfl
  have hperm := Json.keys_insertMembers_perm (Json.sorted_singleton (timestampMember millis))
    (slaves.map documentMember)
  have hlength := hperm.length_eq
  rw [List.length_map, hkeys] at hlength
  have hcount : slaves.length + 1 = ((slaves.map EthercatSlave.identity).map documentKey ++
      [timestampMember millis].map Prod.fst).length := by
    simp
  have hdisjoint : ((slaves.map EthercatSlave.identity).map documentKey).Disjoint
      ([timestampMember millis].map Prod.fst) := by
    intro key hkey htimestamp
    obtain ⟨identity, -, rfl⟩ := List.mem_map.mp hkey
    exact documentKey_ne_timestamp identity (List.mem_singleton.mp htimestamp)
  rw [documentMembers, hlength, hcount, length_dedup_eq_iff, List.nodup_append',
    List.nodup_map_iff documentKey_injective]
  exact ⟨fun h => h.1, fun h => ⟨h, List.nodup_singleton _, hdisjoint⟩⟩

/-- What is published for any list of slaves. -/
theorem convertToJson_keeps_slaves (millis : Int) (slaves : List EthercatSlave) :
    ∃ members, convertToJson millis slaves = .object members ∧
      (members.map Prod.fst).Nodup ∧
      members.lookup "timestamp" = some (.real (Float.ofInt millis / 1000.0)) ∧
      (∀ slave ∈ slaves, documentKey slave.identity ∈ members.map Prod.fst) ∧
      (∀ before slave after, slaves = before ++ slave :: after →
        (∀ other ∈ after, other.identity ≠ slave.identity) →
        members.lookup (documentKey slave.identity) = some (slave.convertToJson .null)) ∧
      Function.Injective documentKey ∧
      (∀ identity, documentKey identity ≠ "timestamp") ∧
      (members.length = slaves.length + 1 ↔ (slaves.map EthercatSlave.identity).Nodup) := by
  refine ⟨documentMembers millis slaves, convertToJson_eq millis slaves,
    (documentMembers_sorted millis slaves).keys_nodup, documentMembers_timestamp millis slaves,
    ?_, ?_, documentKey_injective, documentKey_ne_timestamp,
    documentMembers_length_iff millis slaves⟩
  · intro slave hslave
    exact (mem_documentMembers_keys millis slaves _).mpr (.inr ⟨slave, hslave, rfl⟩)
  · rintro before slave after rfl hafter
    exact documentMembers_last millis before after slave hafter

end Kddv
