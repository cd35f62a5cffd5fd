import Kddv.Framework.Json

/-!
# Members of JSON objects

An object built by assignments to its members: which members it has, what each of them holds,
and that the order of assignments to different members does not matter.
-/

namespace Kddv.Framework.Json

/-- Members in strictly increasing key order. -/
def Sorted (members : List (String × Json)) : Prop :=
  members.Pairwise fun left right => left.1 < right.1

/-- Assign to one member after the other. -/
def insertMembers (assignments members : List (String × Json)) : List (String × Json) :=
  assignments.foldl (fun members a => insertMember a.1 a.2 members) members

theorem sorted_nil : Sorted [] := List.Pairwise.nil

theorem sorted_singleton (entry : String × Json) : Sorted [entry] := List.pairwise_singleton _ _

/-! ## One assignment -/

private theorem lookup_cons_of_ne {key k : String} (h : key ≠ k) (value : Json)
    (members : List (String × Json)) : ((k, value) :: members).lookup key = members.lookup key := by
  have hfalse : (key == k) = false := beq_eq_false_iff_ne.mpr h
  rw [List.lookup_cons, hfalse]

@[simp] theorem lookup_insertMember_self (key : String) (value : Json)
    (members : List (String × Json)) : (insertMember key value members).lookup key = some value := by
  induction members with
  | nil => simp [insertMember]
  | cons entry members ih =>
    obtain ⟨k, v⟩ := entry
    rw [insertMember]
    split
    · simp
    · simp
    · rename_i hk
      have hne : key ≠ k := (compare_gt_iff_gt.mp hk).ne'
      rw [lookup_cons_of_ne hne, ih]

theorem lookup_insertMember_of_ne {key other : String} (h : other ≠ key) (value : Json)
    (members : List (String × Json)) :
    (insertMember key value members).lookup other = members.lookup other := by
  induction members with
  | nil => exact lookup_cons_of_ne h value []
  | cons entry members ih =>
    obtain ⟨k, v⟩ := entry
    rw [insertMember]
    split
    · exact lookup_cons_of_ne h value _
    · rename_i hk
      obtain rfl := compare_eq_iff_eq.mp hk
      rw [lookup_cons_of_ne h, lookup_cons_of_ne h]
    · rw [List.lookup_cons, List.lookup_cons, ih]

theorem mem_insertMember {key : String} {value : Json} {members : List (String × Json)}
    {entry : String × Json} (h : entry ∈ insertMember key value members) :
    entry = (key, value) ∨ entry ∈ members := by
  induction members with
  | nil => simpa [insertMember] using h
  | cons first members ih =>
    obtain ⟨k, v⟩ := first
    rw [insertMember] at h
    split at h
    · simpa using h
    · rcases List.mem_cons.mp h with h | h
      · exact .inl h
      · exact .inr (List.mem_cons_of_mem _ h)
    · rcases List.mem_cons.mp h with rfl | h
      · exact .inr List.mem_cons_self
      · exact (ih h).imp_right (List.mem_cons_of_mem _)

theorem Sorted.insertMember {members : List (String × Json)} (h : Sorted members) (key : String)
    (value : Json) : Sorted (insertMember key value members) := by
  induction members with
  | nil => exact sorted_singleton _
  | cons first members ih =>
    obtain ⟨k, v⟩ := first
    obtain ⟨hfirst, hrest⟩ := List.pairwise_cons.mp h
    rw [Json.insertMember]
    split
    · rename_i hk
      have hlt : key < k := compare_lt_iff_lt.mp hk
      refine List.pairwise_cons.mpr ⟨?_, h⟩
      intro entry hentry
      rcases List.mem_cons.mp hentry with rfl | hentry
      · exact hlt
      · exact hlt.trans (hfirst entry hentry)
    · rename_i hk
      obtain rfl := compare_eq_iff_eq.mp hk
      exact List.pairwise_cons.mpr ⟨hfirst, hrest⟩
    · rename_i hk
      have hgt : k < key := compare_gt_iff_gt.mp hk
      refine List.pairwise_cons.mpr ⟨?_, ih hrest⟩
      intro entry hentry
      rcases mem_insertMember hentry with rfl | hentry
      · exact hgt
      · exact hfirst entry hentry

/-- The second of two assignments to a member replaces the first. -/
theorem insertMember_insertMember (key : String) (first second : Json)
    (members : List (String × Json)) :
    insertMember key second (insertMember key first members) = insertMember key second members := by
  induction members with
  | nil => simp [insertMember]
  | cons entry members ih =>
    obtain ⟨k, v⟩ := entry
    cases hk : compare key k with
    | lt => simp [insertMember, hk]
    | eq => simp [insertMember, hk]
    | gt => simp [insertMember, hk, ih]

/-! ## Objects as maps -/

theorem Sorted.keys_nodup {members : List (String × Json)} (h : Sorted members) :
    (members.map Prod.fst).Nodup :=
  List.pairwise_map.mpr (h.imp fun hlt => hlt.ne)

theorem lookup_isSome_iff (members : List (String × Json)) (key : String) :
    (members.lookup key).isSome ↔ key ∈ members.map Prod.fst := by
  induction members with
  | nil => simp
  | cons entry members ih =>
    obtain ⟨k, v⟩ := entry
    by_cases hk : key = k
    · subst hk
      simp
    · rw [lookup_cons_of_ne hk, ih]
      simp [hk]

theorem lookup_eq_some_iff {members : List (String × Json)}
    (h : (members.map Prod.fst).Nodup) (key : String) (value : Json) :
    members.lookup key = some value ↔ (key, value) ∈ members := by
  induction members with
  | nil => simp
  | cons entry members ih =>
    obtain ⟨k, v⟩ := entry
    obtain ⟨hk, hrest⟩ := List.nodup_cons.mp h
    by_cases hkey : key = k
    · subst hkey
      have hnot : (key, value) ∉ members := fun hm => hk (List.mem_map.mpr ⟨_, hm, rfl⟩)
      simp [hnot, eq_comm]
    · rw [lookup_cons_of_ne hkey, ih hrest]
      simp [hkey]

/-- A lookup in members with different keys does not depend on their order. -/
theorem lookup_perm {left right : List (String × Json)} (h : left.Perm right)
    (hnodup : (left.map Prod.fst).Nodup) (key : String) : left.lookup key = right.lookup key := by
  have hnodup' : (right.map Prod.fst).Nodup := (h.map Prod.fst).nodup_iff.mp hnodup
  apply Option.ext
  intro value
  rw [lookup_eq_some_iff hnodup, lookup_eq_some_iff hnodup', h.mem_iff]

/-- Objects that hold the same under every key are equal. -/
theorem Sorted.ext {left right : List (String × Json)} (hleft : Sorted left)
    (hright : Sorted right) (h : ∀ key, left.lookup key = right.lookup key) : left = right := by
  have hmem : ∀ entry, entry ∈ left ↔ entry ∈ right := by
    intro ⟨key, value⟩
    rw [← lookup_eq_some_iff hleft.keys_nodup, h, lookup_eq_some_iff hright.keys_nodup]
  have hperm : left.Perm right :=
    (List.perm_ext_iff_of_nodup (.of_map _ hleft.keys_nodup)
      (.of_map _ hright.keys_nodup)).mpr hmem
  apply hperm.eq_of_pairwise ?_ hleft hright
  intro a b _ _ hab hba
  exact absurd hba hab.asymm

/-! ## A sequence of assignments -/

theorem Sorted.insertMembers {members : List (String × Json)} (h : Sorted members)
    (assignments : List (String × Json)) : Sorted (insertMembers assignments members) := by
  induction assignments generalizing members with
  | nil => exact h
  | cons a assignments ih => exact ih (h.insertMember a.1 a.2)

/-- A member holds what was assigned to it last. -/
theorem lookup_insertMembers (assignments members : List (String × Json)) (key : String) :
    (insertMembers assignments members).lookup key =
      (assignments.reverse.lookup key).or (members.lookup key) := by
  induction assignments generalizing members with
  | nil => rfl
  | cons a assignments ih =>
    obtain ⟨k, v⟩ := a
    change (insertMembers assignments (insertMember k v members)).lookup key = _
    rw [ih, List.reverse_cons, List.lookup_append, Option.or_assoc]
    congr 1
    by_cases hkey : key = k
    · subst hkey
      simp
    · rw [lookup_insertMember_of_ne hkey, lookup_cons_of_ne hkey]
      rfl

theorem lookup_insertMembers_of_mem {assignments : List (String × Json)}
    (hnodup : (assignments.map Prod.fst).Nodup) {key : String} {value : Json}
    (h : (key, value) ∈ assignments) (members : List (String × Json)) :
    (insertMembers assignments members).lookup key = some value := by
  have hnodup' : (assignments.reverse.map Prod.fst).Nodup := by
    rwa [List.map_reverse, List.nodup_reverse]
  have hlast : assignments.reverse.lookup key = some value :=
    (lookup_eq_some_iff hnodup' key value).mpr (List.mem_reverse.mpr h)
  rw [lookup_insertMembers, hlast, Option.some_or]

theorem mem_keys_insertMembers (assignments members : List (String × Json)) (key : String) :
    key ∈ (insertMembers assignments members).map Prod.fst ↔
      key ∈ assignments.map Prod.fst ∨ key ∈ members.map Prod.fst := by
  rw [← lookup_isSome_iff, lookup_insertMembers, Option.isSome_or, Bool.or_eq_true,
    lookup_isSome_iff, lookup_isSome_iff, List.map_reverse, List.mem_reverse]

/-- There is one member for each key that was there or has been assigned to. -/
theorem keys_insertMembers_perm {members : List (String × Json)} (h : Sorted members)
    (assignments : List (String × Json)) :
    ((insertMembers assignments members).map Prod.fst).Perm
      (assignments.map Prod.fst ++ members.map Prod.fst).dedup := by
  rw [List.perm_ext_iff_of_nodup (h.insertMembers assignments).keys_nodup (List.nodup_dedup _)]
  intro key
  rw [mem_keys_insertMembers, List.mem_dedup, List.mem_append]

/-- Assignments to different members commute. -/
theorem insertMembers_perm {left right : List (String × Json)} (h : left.Perm right)
    (hnodup : (left.map Prod.fst).Nodup) {members : List (String × Json)}
    (hsorted : Sorted members) : insertMembers left members = insertMembers right members := by
  apply (hsorted.insertMembers left).ext (hsorted.insertMembers right)
  intro key
  have hreverse : left.reverse.Perm right.reverse :=
    (List.reverse_perm left).trans (h.trans (List.reverse_perm right).symm)
  have hnodup' : (left.reverse.map Prod.fst).Nodup := by
    rwa [List.map_reverse, List.nodup_reverse]
  rw [lookup_insertMembers, lookup_insertMembers, lookup_perm hreverse hnodup']

end Kddv.Framework.Json
