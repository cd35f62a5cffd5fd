import Mathlib

/-!
# Machines and their runs

A machine reacts to an action by a new state and the events it emits, or cannot take the
action at all. Nondeterminism (the scheduler, replies from outside) is in the choice of the
actions. A run is guarded: each of its steps satisfies a condition on the state before it.
-/

namespace Kddv.Framework

structure Machine (S A E : Type) where
  step : S → A → Option (S × List E)

namespace Machine

variable {S A E : Type} {M : Machine S A E}

/-- The states reached from `start`, with the events emitted on the way, by steps that all
satisfy the guard. -/
inductive Run (M : Machine S A E) (guard : S → A → Prop) (start : S) : List E → S → Prop
  | nil : Run M guard start [] start
  | snoc {events new : List E} {s s' : S} {a : A} : Run M guard start events s → guard s a →
      M.step s a = some (s', new) → Run M guard start (events ++ new) s'

namespace Run

variable {guard : S → A → Prop} {start s : S} {events : List E}

/-- A property of the state and the events so far holds along every run if it holds at the
start and each guarded step keeps it. -/
theorem invariant {I : List E → S → Prop} (run : M.Run guard start events s)
    (hstart : I [] start)
    (hstep : ∀ events new s s' a, I events s → guard s a → M.step s a = some (s', new) →
      I (events ++ new) s') : I events s := by
  induction run with
  | nil => exact hstart
  | snoc _ hguard hs ih => exact hstep _ _ _ _ _ ih hguard hs

/-- An invariant of the state alone. -/
theorem stateInvariant {I : S → Prop} (run : M.Run guard start events s) (hstart : I start)
    (hstep : ∀ new s s' a, I s → guard s a → M.step s a = some (s', new) → I s') : I s :=
  run.invariant (I := fun _ s => I s) hstart
    (fun _ new s s' a hi hg hs => hstep new s s' a hi hg hs)

theorem mono {guard' : S → A → Prop} (run : M.Run guard start events s)
    (h : ∀ s a, guard s a → guard' s a) : M.Run guard' start events s := by
  induction run with
  | nil => exact .nil
  | snoc _ hguard hs ih => exact .snoc ih (h _ _ hguard) hs

/-- One run goes on where another one ends. -/
theorem trans {s' : S} {later : List E} (run : M.Run guard start events s)
    (next : M.Run guard s later s') : M.Run guard start (events ++ later) s' := by
  induction next with
  | nil => simpa using run
  | snoc _ hguard hstep ih =>
    rw [← List.append_assoc]
    exact ih.snoc hguard hstep

/-- Each event of a run was emitted by a step from a state that an earlier run reaches. -/
theorem exists_step {before after : List E} {event : E} (run : M.Run guard start events s)
    (h : events = before ++ event :: after) :
    ∃ earlier front back s₁ s₂ a, M.Run guard start earlier s₁ ∧ guard s₁ a ∧
      M.step s₁ a = some (s₂, front ++ event :: back) ∧ before = earlier ++ front := by
  induction run generalizing before after with
  | nil => simp at h
  | snoc earlierRun hguard hs ih =>
    rcases List.append_eq_append_iff.mp h with ⟨front, hbefore, hnew⟩ | ⟨rest, hevents, hrest⟩
    · exact ⟨_, front, after, _, _, _, earlierRun, hguard, hnew ▸ hs, hbefore⟩
    · cases rest with
      | nil =>
        rw [List.nil_append] at hrest
        rw [List.append_nil] at hevents
        exact ⟨_, [], after, _, _, _, earlierRun, hguard, hrest ▸ hs,
          by rw [hevents, List.append_nil]⟩
      | cons first rest =>
        obtain ⟨rfl, -⟩ := List.cons.inj hrest
        exact ih hevents

end Run

/-! ## History variables -/

/-- The machine with a variable that records its steps and does not influence them. -/
def withHistory {H : Type} (M : Machine S A E) (record : S → A → H → H) :
    Machine (S × H) A E where
  step s a := (M.step s.1 a).map fun r => ((r.1, record s.1 a s.2), r.2)

theorem withHistory_step {H : Type} {record : S → A → H → H} {s s' : S × H} {a : A} {new : List E}
    (h : (M.withHistory record).step s a = some (s', new)) :
    M.step s.1 a = some (s'.1, new) ∧ s'.2 = record s.1 a s.2 := by
  obtain ⟨⟨next, events⟩, hstep, heq⟩ := Option.map_eq_some_iff.mp h
  simp only [Prod.mk.injEq] at heq
  obtain ⟨rfl, rfl⟩ := heq
  exact ⟨hstep, rfl⟩

/-! ## Executions -/

/-- Take the actions in order, as long as each is possible and satisfies the guard. -/
def exec (M : Machine S A E) (guard : S → A → Prop) [∀ s a, Decidable (guard s a)] :
    S → List A → Option (S × List E)
  | s, [] => some (s, [])
  | s, a :: actions =>
    if guard s a then
      match M.step s a with
      | none => none
      | some (s', new) => (exec M guard s' actions).map fun r => (r.1, new ++ r.2)
    else none

theorem Run.exec {guard : S → A → Prop} [∀ s a, Decidable (guard s a)] {start s s' : S}
    {events new : List E} {actions : List A} (run : M.Run guard start events s)
    (h : M.exec guard s actions = some (s', new)) : M.Run guard start (events ++ new) s' := by
  induction actions generalizing s events new with
  | nil =>
    simp only [Machine.exec, Option.some.injEq, Prod.mk.injEq] at h
    obtain ⟨rfl, rfl⟩ := h
    simpa using run
  | cons a actions ih =>
    rw [Machine.exec] at h
    split at h
    · rename_i hguard
      split at h
      · cases h
      · rename_i mid first hstep
        obtain ⟨⟨last, rest⟩, hrest, heq⟩ := Option.map_eq_some_iff.mp h
        simp only [Prod.mk.injEq] at heq
        obtain ⟨rfl, rfl⟩ := heq
        rw [← List.append_assoc]
        exact ih (run.snoc hguard hstep) hrest
    · cases h

/-- An executed list of actions is a run. -/
theorem run_of_exec {guard : S → A → Prop} [∀ s a, Decidable (guard s a)] {start s : S}
    {events : List E} {actions : List A} (h : M.exec guard start actions = some (s, events)) :
    M.Run guard start events s := by
  simpa using Run.exec (Run.nil : M.Run guard start [] start) h

end Machine

end Kddv.Framework
