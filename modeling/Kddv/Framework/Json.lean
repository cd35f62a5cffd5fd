import Mathlib

/-!
# JSON values with checked conversions

Values as a dynamically typed JSON library presents them: an object keeps its members in key
order, a missing member reads as null, and a conversion to the wrong type or out of the range
of the target raises an exception, carried here by its text.
-/

namespace Kddv.Framework

inductive Json
  | null
  | bool (value : Bool)
  | int (value : Int)
  | real (value : Float)
  | string (value : String)
  | array (items : List Json)
  | object (members : List (String × Json))
deriving Inhabited

/-- The values of a 32-bit signed integer. -/
def IntRange (value : Int) : Prop := -2 ^ 31 ≤ value ∧ value < 2 ^ 31

instance (value : Int) : Decidable (IntRange value) := by
  unfold IntRange
  infer_instance

theorem intRange_zero : IntRange 0 := by decide

/-- The C type `int`. -/
abbrev CInt := { value : Int // IntRange value }

namespace Json

def asInt : Json → Except String Int
  | null => .ok 0
  | bool value => .ok (if value then 1 else 0)
  | int value =>
    if IntRange value then .ok value else .error "LargestInt out of Int range"
  | real value =>
    if -2147483648.0 ≤ value ∧ value ≤ 2147483647.0 then .ok value.toInt32.toInt
    else .error "double out of Int range"
  | _ => .error "Value is not convertible to Int."

def asString : Json → Except String String
  | null => .ok ""
  | bool value => .ok (if value then "true" else "false")
  | int value => .ok (toString value)
  | real value => .ok (toString value)
  | string value => .ok value
  | _ => .error "Type is not convertible to string"

/-- Read the member with the given key. -/
def member : Json → String → Except String Json
  | null, _ => .ok null
  | object members, key => .ok ((members.lookup key).getD null)
  | _, _ => .error "in Json::Value::resolveReference(key, end): requires objectValue"

/-- The values that a loop over the indices below `size()` reads with `operator[]`. Scalars
have size zero, and a nonempty object cannot be indexed by a number. -/
def elements : Json → Except String (List Json)
  | array items => .ok items
  | object (_ :: _) => .error "in Json::Value::operator[](ArrayIndex): requires arrayValue"
  | _ => .ok []

def empty : Json → Bool
  | null => true
  | array items => items.isEmpty
  | object members => members.isEmpty
  | _ => false

/-- Add a member at its place in the key order, or replace the one with the same key. -/
def insertMember (key : String) (value : Json) : List (String × Json) → List (String × Json)
  | [] => [(key, value)]
  | (k, v) :: members =>
    match compare key k with
    | .lt => (key, value) :: (k, v) :: members
    | .eq => (key, value) :: members
    | .gt => (k, v) :: insertMember key value members

/-- Assign to the member with the given key. -/
def setMember (json : Json) (key : String) (value : Json) : Json :=
  match json with
  | object members => object (insertMember key value members)
  | _ => object [(key, value)]

theorem asInt_int (value : Int) (h : IntRange value) : asInt (int value) = .ok value := by
  simp [asInt, h]

theorem asInt_int_error (value : Int) (h : ¬ IntRange value) :
    asInt (int value) = .error "LargestInt out of Int range" := by
  simp [asInt, h]

end Json

theorem except_bind_ok {ε α β : Type} {x : Except ε α} {f : α → Except ε β} {b : β}
    (h : (x >>= f) = .ok b) : ∃ a, x = .ok a ∧ f a = .ok b := by
  cases x with
  | error e => cases h
  | ok a => exact ⟨a, rfl, h⟩

/-- A loop over a list that may raise succeeds exactly when each of its rounds does. -/
theorem mapM_eq_ok_iff {α β ε : Type} (f : α → Except ε β) (xs : List α) (ys : List β) :
    xs.mapM f = .ok ys ↔ List.Forall₂ (fun x y => f x = .ok y) xs ys := by
  induction xs generalizing ys with
  | nil =>
    rw [List.mapM_nil, List.forall₂_nil_left_iff]
    exact ⟨fun h => (Except.ok.inj h).symm, fun h => h ▸ rfl⟩
  | cons x xs ih =>
    rw [List.mapM_cons, List.forall₂_cons_left_iff]
    cases hx : f x with
    | error e =>
      constructor
      · intro h
        cases h
      · rintro ⟨y, ys, hy, -, -⟩
        cases hy
    | ok y =>
      cases hxs : xs.mapM f with
      | error e =>
        constructor
        · intro h
          cases h
        · rintro ⟨y, ys, -, hys, -⟩
          rw [← ih, hxs] at hys
          cases hys
      | ok zs =>
        constructor
        · intro h
          exact ⟨y, zs, rfl, (ih zs).mp hxs, (Except.ok.inj h).symm⟩
        · rintro ⟨y', ys', hy, hys, rfl⟩
          rw [← ih, hxs] at hys
          cases hy
          cases hys
          rfl

/-- A loop with only one way to fail fails if one of its rounds does. -/
theorem mapM_eq_error {α β ε : Type} {f : α → Except ε β} {e : ε} {xs : List α}
    (h : ∀ x ∈ xs, (∃ y, f x = .ok y) ∨ f x = .error e) (hfails : ∃ x ∈ xs, f x = .error e) :
    xs.mapM f = .error e := by
  induction xs with
  | nil =>
    obtain ⟨x, hx, -⟩ := hfails
    cases hx
  | cons x xs ih =>
    rw [List.mapM_cons]
    rcases h x List.mem_cons_self with ⟨y, hy⟩ | hx
    · have hrest : ∃ x ∈ xs, f x = .error e := by
        obtain ⟨x', hmem, hx'⟩ := hfails
        rcases List.mem_cons.mp hmem with rfl | hmem
        · rw [hy] at hx'
          cases hx'
        · exact ⟨x', hmem, hx'⟩
      rw [hy, ih (fun x' hmem => h x' (List.mem_cons_of_mem _ hmem)) hrest]
      rfl
    · rw [hx]
      rfl

theorem exists_forall₂ {α β : Type} {p : α → β → Prop} {xs : List α}
    (h : ∀ x ∈ xs, ∃ y, p x y) : ∃ ys, List.Forall₂ p xs ys := by
  induction xs with
  | nil => exact ⟨[], .nil⟩
  | cons x xs ih =>
    obtain ⟨y, hy⟩ := h x List.mem_cons_self
    obtain ⟨ys, hys⟩ := ih fun x' hmem => h x' (List.mem_cons_of_mem _ hmem)
    exact ⟨y :: ys, .cons hy hys⟩

end Kddv.Framework
