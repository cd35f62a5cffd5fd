import Kddv.Framework.Transition

/-!
# Simulations

A machine that does nothing that another one does not allow, as far as an observer of its steps
can see.
-/

namespace Kddv.Framework.Machine

variable {S T A B E O : Type}

/-- The machine as it appears to an observer of its steps. -/
def observe (M : Machine S A E) (view : S → A → S → List E → List O) : Machine S A O where
  step s a := (M.step s a).map fun r => (r.1, view s a r.1 r.2)

theorem observe_step {M : Machine S A E} {view : S → A → S → List E → List O} {s s' : S} {a : A}
    {seen : List O} (h : (M.observe view).step s a = some (s', seen)) :
    ∃ new, M.step s a = some (s', new) ∧ seen = view s a s' new := by
  obtain ⟨⟨next, new⟩, hstep, heq⟩ := Option.map_eq_some_iff.mp h
  simp only [Prod.mk.injEq] at heq
  obtain ⟨rfl, rfl⟩ := heq
  exact ⟨new, hstep, rfl⟩

/-- The abstract machine can show the same and end up in a related state. -/
def Matches (M : Machine T B O) (R : S → T → Prop) (t : T) (seen : List O) (s' : S) : Prop :=
  ∃ t', M.Run (fun _ _ => True) t seen t' ∧ R s' t'

namespace Matches

variable {M : Machine T B O} {R : S → T → Prop} {t t' : T} {s' : S} {seen : List O}

/-- Nothing is to be seen of the step. -/
theorem stutter (h : R s' t) : M.Matches R t [] s' := ⟨t, .nil, h⟩

theorem step {b : B} (hstep : M.step t b = some (t', seen)) (h : R s' t') :
    M.Matches R t seen s' :=
  ⟨t', Run.nil.snoc trivial hstep, h⟩

end Matches

/-- Every admitted step from related states is matched. -/
def Simulates (M : Machine T B O) (C : Machine S A O) (admits : S → A → Prop)
    (R : S → T → Prop) : Prop :=
  ∀ s t a s' seen, R s t → admits s a → C.step s a = some (s', seen) → M.Matches R t seen s'

/-- Then every trace of the concrete machine is one of the abstract machine. -/
theorem Simulates.run {M : Machine T B O} {C : Machine S A O} {admits : S → A → Prop}
    {R : S → T → Prop} (h : M.Simulates C admits R) {start s : S} {t : T} {trace : List O}
    (hstart : R start t) (run : C.Run admits start trace s) : M.Matches R t trace s := by
  induction run with
  | nil => exact .stutter hstart
  | snoc _ ha hstep ih =>
    obtain ⟨t₁, before, hrel⟩ := ih
    obtain ⟨t₂, next, hrel'⟩ := h _ _ _ _ _ hrel ha hstep
    exact ⟨t₂, before.trans next, hrel'⟩

end Kddv.Framework.Machine
