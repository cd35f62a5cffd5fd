import Kddv.Gui.Model

/-!
# The end of a user interface

`main` keeps the user interface on its stack. When `main` returns, the destructor of the derived
class runs first and that of `UI` after it, which drops `ecat_data_source`. Only the destructor of
the source waits for the threads that call back.
-/

namespace Kddv

open Framework

/-- The member `ecat_data_source`, and whether the loops of its threads have returned. -/
structure SourceMember where
  source : Option DataSource
  loopReturned : Bool

namespace SourceMember

/-- A thread of the source is in its loop, where it may call the callback at any time. -/
def ThreadRuns (member : SourceMember) : Prop :=
  (∃ source ∈ member.source, source.joinable = true) ∧ member.loopReturned = false

instance (member : SourceMember) : Decidable member.ThreadRuns :=
  inferInstanceAs (Decidable (_ ∧ _))

/-- The loops return at the end of a capture, those of the master when the flag is cleared. -/
def loopReturns (member : SourceMember) : Option SourceMember :=
  if member.ThreadRuns ∧ ∀ source ∈ member.source, source.ethercatRunning = false then
    some { member with loopReturned := true }
  else none

end SourceMember

/-- How far the destruction of the user interface has come after the end of `main`. -/
inductive Destruction
  | returned
  | derived
  | base
  | joining
  | destroyed
  | terminated
deriving DecidableEq

structure Shutdown where
  member : SourceMember
  stage : Destruction

inductive ShutdownAction
  | main
  | loopReturns
  | callback

inductive ShutdownEvent
  | destructor
  | dataCallback
deriving DecidableEq

namespace Shutdown

/-- The next step of the thread that destroys the user interface. -/
def mainStep (s : Shutdown) : Option (Shutdown × List ShutdownEvent) :=
  match s.stage with
  | .returned => some ({ s with stage := .derived }, [.destructor])
  | .derived => some ({ s with stage := .base }, [])
  | .base =>
    match s.member.source with
    | none => some ({ s with stage := .destroyed }, [])
    | some source =>
      -- a thread object that the destructor leaves joinable ends the program
      if source.join.joinable then some ({ s with stage := .terminated }, [])
      else if source.joinable then
        let stopped := { source with ethercatRunning := false }
        some ({ member := { s.member with source := some stopped }, stage := .joining }, [])
      else some ({ member := { s.member with source := none }, stage := .destroyed }, [])
  | .joining =>
    if s.member.loopReturned then
      some ({ member := { s.member with source := none }, stage := .destroyed }, [])
    else none
  | .destroyed => none
  | .terminated => none

def step (s : Shutdown) (action : ShutdownAction) : Option (Shutdown × List ShutdownEvent) :=
  if s.stage = .terminated then none
  else
    match action with
    | .main => s.mainStep
    | .loopReturns => s.member.loopReturns.map fun member => ({ s with member := member }, [])
    | .callback => if s.member.ThreadRuns then some (s, [.dataCallback]) else none

def machine : Machine Shutdown ShutdownAction ShutdownEvent := ⟨step⟩

/-- However the threads of the source are scheduled, none calls back once the destructor of the
derived class has begun. -/
def CallbackFree (member : SourceMember) : Prop :=
  ∀ events s, machine.Run (fun _ _ => True) ⟨member, .returned⟩ events s →
    ∀ before after, events = before ++ .destructor :: after → .dataCallback ∉ after

variable {s s' : Shutdown} {new : List ShutdownEvent}

private theorem mainStep_threadRuns (h : s.mainStep = some (s', new))
    (hruns : ¬ s.member.ThreadRuns) : ¬ s'.member.ThreadRuns ∧ .dataCallback ∉ new := by
  unfold mainStep at h
  split at h
  · cases h
    exact ⟨hruns, by simp⟩
  · cases h
    exact ⟨hruns, by simp⟩
  · split at h
    · cases h
      exact ⟨hruns, by simp⟩
    · rename_i source hsource
      split at h
      · cases h
        exact ⟨hruns, by simp⟩
      · split at h
        · cases h
          refine ⟨fun hnew => hruns ?_, by simp⟩
          obtain ⟨⟨stopped, hstopped, hjoinable⟩, hloop⟩ := hnew
          obtain rfl := Option.some.inj hstopped
          exact ⟨⟨source, hsource, hjoinable⟩, hloop⟩
        · cases h
          exact ⟨by simp [SourceMember.ThreadRuns], by simp⟩
  · split at h
    · cases h
      exact ⟨by simp [SourceMember.ThreadRuns], by simp⟩
    · cases h
  · cases h
  · cases h

private theorem step_threadRuns {a : ShutdownAction} (h : s.step a = some (s', new))
    (hruns : ¬ s.member.ThreadRuns) : ¬ s'.member.ThreadRuns ∧ .dataCallback ∉ new := by
  unfold step at h
  split at h
  · cases h
  · cases a with
    | main => exact mainStep_threadRuns h hruns
    | loopReturns =>
      simp [SourceMember.loopReturns, hruns] at h
    | callback => cases h

/-- A thread that runs when `main` returns can call back during the destruction; without one,
nothing calls back any more. -/
theorem callbackFree_iff_not_threadRuns (member : SourceMember) :
    CallbackFree member ↔ ¬ member.ThreadRuns := by
  constructor
  · intro hfree hruns
    have hmain : machine.step ⟨member, .returned⟩ .main =
      some (⟨member, .derived⟩, [.destructor]) := rfl
    have hcallback : machine.step ⟨member, .derived⟩ .callback =
        some (⟨member, .derived⟩, [.dataCallback]) := by
      simp [machine, step, hruns]
    have hbegun : machine.Run (fun _ _ => True) ⟨member, .returned⟩ [.destructor]
        ⟨member, .derived⟩ := .snoc .nil trivial hmain
    exact hfree _ _ (hbegun.snoc trivial hcallback) [] [.dataCallback] rfl List.mem_cons_self
  · intro hruns events s run before after hevents hmem
    have hinv : ¬ s.member.ThreadRuns ∧ .dataCallback ∉ events := by
      refine run.invariant
        (I := fun events s => ¬ s.member.ThreadRuns ∧ .dataCallback ∉ events) ⟨hruns, by simp⟩ ?_
      rintro events new s s' a ⟨hold, hnot⟩ - hstep
      obtain ⟨hkept, hnew⟩ := step_threadRuns hstep hold
      refine ⟨hkept, fun hin => ?_⟩
      rcases List.mem_append.mp hin with hin | hin
      · exact hnot hin
      · exact hnew hin
    apply hinv.2
    rw [hevents]
    exact List.mem_append_right before (List.mem_cons_of_mem _ hmem)

end Shutdown

end Kddv
