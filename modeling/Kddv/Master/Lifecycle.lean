import Kddv.Master.Steps

/-!
# Which threads exist when

With the calls of the user interfaces, the two loops exist only between the end of `start` and
the joins in `stop` or in the destructor, and no thread object is overwritten while joinable.
-/

namespace Kddv

open Framework

/-- The flag `ethercat_running` and the existence of the two threads. -/
abbrev Phase := Bool × Bool × Bool

def Phase.stopped : Phase := (false, false, false)

def Phase.running : Phase := (true, true, true)

/-- The phases that are possible at a place of the calling thread. -/
def MainPc.Allows : MainPc → Phase → Prop
  | .idle (some (.start, error)), phase => phase = .stopped ∨ error = "" ∧ phase = .running
  | .start (.report _), phase => phase = .stopped ∨ phase = .running
  | .start (.launchEthercat _), phase => phase = (true, false, false)
  | .start (.launchDataCopy _), phase => phase = (true, true, false)
  | .joinEthercat call, phase => (call = .stop ∨ call = .destroy) ∧ phase = (false, true, true)
  | .joinDataCopy call, phase => (call = .stop ∨ call = .destroy) ∧ phase = (false, false, true)
  | .idle (some (.destroy, _)), _ => False
  | .terminated, _ => False
  | _, phase => phase = .stopped

namespace EthercatMaster

variable {s s' : EthercatMaster} {reply : Reply} {new : List MasterEvent}

def phase (s : EthercatMaster) : Phase :=
  (s.ethercatRunning, s.ethercatThread.isSome, s.dataCopyThread.isSome)

/-- A loop leaves only after the flag is cleared. -/
structure Lifecycle (s : EthercatMaster) : Prop where
  phase : s.main.Allows s.phase
  ethercat : s.ethercatRunning = true →
    s.ethercatThread ≠ some .close ∧ s.ethercatThread ≠ some .done
  dataCopy : s.ethercatRunning = true →
    s.dataCopyThread ≠ some .close ∧ s.dataCopyThread ≠ some .done

/-- What a step of `ethercatLoop` leaves alone. -/
structure EthercatStepFrame (s s' : EthercatMaster) : Prop where
  zmqPublishEnabled : s'.zmqPublishEnabled = s.zmqPublishEnabled
  ethercatRunning : s'.ethercatRunning = s.ethercatRunning
  table : s'.table = s.table
  main : s'.main = s.main
  dataCopyThread : s'.dataCopyThread = s.dataCopyThread
  isSome : s.ethercatThread.isSome = true ∧ s'.ethercatThread.isSome = true

/-- What a step of `dataCopyLoop` leaves alone. -/
structure DataCopyStepFrame (s s' : EthercatMaster) : Prop where
  iomap : s'.iomap = s.iomap
  slaves : s'.slaves = s.slaves
  ethercatRunning : s'.ethercatRunning = s.ethercatRunning
  table : s'.table = s.table
  main : s'.main = s.main
  ethercatThread : s'.ethercatThread = s.ethercatThread
  isSome : s.dataCopyThread.isSome = true ∧ s'.dataCopyThread.isSome = true

theorem EthercatStep.frame (h : s.EthercatStep reply s' new) : s.EthercatStepFrame s' := by
  cases h <;> constructor <;> simp_all

theorem DataCopyStep.frame (h : s.DataCopyStep s' new) : s.DataCopyStepFrame s' := by
  cases h <;> constructor <;> simp_all

theorem EthercatStep.phase (h : s.EthercatStep reply s' new) : s'.phase = s.phase := by
  have hframe := h.frame
  rw [EthercatMaster.phase, EthercatMaster.phase, hframe.ethercatRunning, hframe.dataCopyThread,
    hframe.isSome.1, hframe.isSome.2]

theorem DataCopyStep.phase (h : s.DataCopyStep s' new) : s'.phase = s.phase := by
  have hframe := h.frame
  rw [EthercatMaster.phase, EthercatMaster.phase, hframe.ethercatRunning, hframe.ethercatThread,
    hframe.isSome.1, hframe.isSome.2]

private theorem ethercatStep_leaves (h : s.EthercatStep reply s' new)
    (hrunning : s.ethercatRunning = true) (hold : s.ethercatThread ≠ some .close) :
    s'.ethercatThread ≠ some .close ∧ s'.ethercatThread ≠ some .done := by
  cases h with
  | leave hpc hstopped =>
    rw [hrunning] at hstopped
    cases hstopped
  | close hpc => exact absurd hpc hold
  | _ => simp

private theorem dataCopyStep_leaves (h : s.DataCopyStep s' new)
    (hrunning : s.ethercatRunning = true) (hold : s.dataCopyThread ≠ some .close) :
    s'.dataCopyThread ≠ some .close ∧ s'.dataCopyThread ≠ some .done := by
  cases h with
  | leave hpc hstopped =>
    rw [hrunning] at hstopped
    cases hstopped
  | close hpc => exact absurd hpc hold
  | callback hpc hend =>
    dsimp only
    split <;> simp
  | _ => simp

theorem Lifecycle.ethercatStep (hl : s.Lifecycle) (h : s.EthercatStep reply s' new) :
    s'.Lifecycle := by
  have hframe := h.frame
  refine ⟨?_, fun hr => ?_, fun hr => ?_⟩
  · rw [hframe.main, h.phase]
    exact hl.phase
  · rw [hframe.ethercatRunning] at hr
    exact ethercatStep_leaves h hr (hl.ethercat hr).1
  · rw [hframe.ethercatRunning] at hr
    rw [hframe.dataCopyThread]
    exact hl.dataCopy hr

theorem Lifecycle.dataCopyStep (hl : s.Lifecycle) (h : s.DataCopyStep s' new) :
    s'.Lifecycle := by
  have hframe := h.frame
  refine ⟨?_, fun hr => ?_, fun hr => ?_⟩
  · rw [hframe.main, h.phase]
    exact hl.phase
  · rw [hframe.ethercatRunning] at hr
    rw [hframe.ethercatThread]
    exact hl.ethercat hr
  · rw [hframe.ethercatRunning] at hr
    exact dataCopyStep_leaves h hr (hl.dataCopy hr).1

theorem Lifecycle.getSlavesStep {pc : GetSlavesPc} (hl : s.Lifecycle)
    (hpc : s.main = .getSlaves pc) (h : s.GetSlavesStep pc reply s' new) : s'.Lifecycle := by
  obtain ⟨hphase, hethercat, hdataCopy⟩ := hl
  rw [hpc] at hphase
  cases h <;> exact ⟨hphase, hethercat, hdataCopy⟩

theorem Lifecycle.startStep {pc : StartPc} (hl : s.Lifecycle) (hpc : s.main = .start pc)
    (h : s.StartStep pc reply s' new) : s'.Lifecycle := by
  obtain ⟨hphase, hethercat, hdataCopy⟩ := hl
  rw [hpc] at hphase
  cases h <;> constructor <;>
    simp_all [MainPc.Allows, EthercatMaster.phase, Phase.stopped, Phase.running, finish]

theorem Lifecycle.joinStep (hl : s.Lifecycle) (h : s.JoinStep s') : s'.Lifecycle := by
  have hphase := hl.phase
  cases h <;> constructor <;>
    simp_all [MainPc.Allows, EthercatMaster.phase, Phase.stopped, finish, destroyMembers]

/-- Which call follows which. Only a source that was started is ever stopped, and only one
that was not, or was stopped since, is started. -/
theorem uiIssues_call {call : Call} {last : Option (Call × String)} (hidle : s.main = .idle last)
    (hui : s.uiIssues (.call call) = true) :
    (call = .getSlaves ∧ last = none) ∨
      (call = .start ∧ ∃ previous error, last = some (previous, error) ∧
        (previous = .getSlaves ∧ error = "" ∨ previous = .start ∧ error ≠ "" ∨ previous = .stop)) ∨
      (call = .stop ∧ last = some (.start, "")) ∨
      (call = .destroy ∧ ∃ previous error, last = some (previous, error) ∧
        previous ≠ .destroy) := by
  rcases last with _ | ⟨_ | _ | _ | _, error⟩
  all_goals simp only [uiIssues, hidle] at hui
  · simp_all
  · split at hui <;> simp_all
  · split at hui <;> simp_all
  · simp_all
  · simp_all

private theorem allows_idle {last : Option (Call × String)} {phase : Phase}
    (h : (MainPc.idle last).Allows phase) :
    phase = .stopped ∨ last = some (.start, "") ∧ phase = .running := by
  rcases last with _ | ⟨_ | _ | _ | _, error⟩
  · exact .inl h
  · exact .inl h
  · rcases h with h | ⟨rfl, h⟩
    · exact .inl h
    · exact .inr ⟨rfl, h⟩
  · exact .inl h
  · cases h

/-- Clearing the flag before the joins. -/
private theorem lifecycle_join (hphase : s.phase = .running) (call : Call)
    (hcall : call = .stop ∨ call = .destroy) :
    { s with ethercatRunning := false, main := .joinEthercat call }.Lifecycle := by
  simp only [EthercatMaster.phase, Phase.running, Prod.mk.injEq] at hphase
  refine ⟨⟨hcall, ?_⟩, nofun, nofun⟩
  simp [EthercatMaster.phase, hphase]

private theorem phase_stopped_iff : s.phase = .stopped ↔
    s.ethercatRunning = false ∧ s.ethercatThread = none ∧ s.dataCopyThread = none := by
  simp [EthercatMaster.phase, Phase.stopped]

private theorem lifecycle_destroyMembers (hphase : s.phase = .stopped) :
    s.destroyMembers.Lifecycle := by
  obtain ⟨hrunning, hethercat, hdataCopy⟩ := phase_stopped_iff.mp hphase
  constructor <;> simp_all [destroyMembers, MainPc.Allows, EthercatMaster.phase, Phase.stopped]

theorem Lifecycle.beginCall (hl : s.Lifecycle) {call : Call} {last : Option (Call × String)}
    (hidle : s.main = .idle last) (hui : s.uiIssues (.call call) = true) :
    (s.beginCall call).Lifecycle := by
  have hphase := hl.phase
  rw [hidle] at hphase
  have hwhich := allows_idle hphase
  rcases uiIssues_call hidle hui with ⟨rfl, rfl⟩ | ⟨rfl, previous, error, rfl, hprevious⟩ |
    ⟨rfl, rfl⟩ | ⟨rfl, previous, error, rfl, hprevious⟩
  · exact ⟨hphase, hl.ethercat, hl.dataCopy⟩
  · have hstopped : s.phase = .stopped := by
      rcases hwhich with h | ⟨h, -⟩
      · exact h
      · cases h
        simp at hprevious
    exact ⟨hstopped, hl.ethercat, hl.dataCopy⟩
  · rcases hwhich with h | ⟨-, h⟩
    · have hrunning := (phase_stopped_iff.mp h).1
      rw [EthercatMaster.beginCall, hrunning]
      exact ⟨h, hl.ethercat, hl.dataCopy⟩
    · have hrunning : s.ethercatRunning = true := congrArg Prod.fst h
      rw [EthercatMaster.beginCall, hrunning]
      exact lifecycle_join h .stop (.inl rfl)
  · rcases hwhich with h | ⟨-, h⟩
    · have hrunning := (phase_stopped_iff.mp h).1
      rw [EthercatMaster.beginCall, hrunning]
      exact lifecycle_destroyMembers h
    · have hrunning : s.ethercatRunning = true := congrArg Prod.fst h
      rw [EthercatMaster.beginCall, hrunning]
      exact lifecycle_join h .destroy (.inr rfl)

theorem Lifecycle.step (hl : s.Lifecycle) {a : MasterAction} (hui : s.uiIssues a = true)
    (h : s.step a = some (s', new)) : s'.Lifecycle := by
  cases step_cases h with
  | call hidle => exact hl.beginCall hidle hui
  | setZMQPublish => exact ⟨hl.phase, hl.ethercat, hl.dataCopy⟩
  | getSlaves hpc hstep => exact hl.getSlavesStep hpc hstep
  | start hpc hstep => exact hl.startStep hpc hstep
  | join hstep => exact hl.joinStep hstep
  | ethercat hstep => exact hl.ethercatStep hstep
  | dataCopy hstep => exact hl.dataCopyStep hstep

/-- A loop outlives the flag only while the calling thread waits to join it. -/
theorem Lifecycle.joining (hl : s.Lifecycle) (hrunning : s.ethercatRunning = false)
    (hsome : s.ethercatThread.isSome = true ∨ s.dataCopyThread.isSome = true) :
    ∃ call, s.main = .joinEthercat call ∨ s.main = .joinDataCopy call := by
  have hphase := hl.phase
  unfold MainPc.Allows at hphase
  split at hphase
  all_goals simp_all [EthercatMaster.phase, Phase.stopped, Phase.running]

/-- Runs with the calls of a user interface. -/
abbrev UiRun (start : EthercatMaster) (events : List MasterEvent) (s : EthercatMaster) : Prop :=
  machine.Run (fun s a => s.uiIssues a = true) start events s

theorem UiRun.lifecycle {start : EthercatMaster} {events : List MasterEvent}
    (run : start.UiRun events s) (h : start.Lifecycle) : s.Lifecycle :=
  run.stateInvariant h fun _ _ _ _ hi hg hs => hi.step hg hs

theorem lifecycle_create (iomap : Nat → UInt8) (table : SlaveTable) (busState : UInt16) :
    (create iomap table busState).Lifecycle :=
  ⟨rfl, nofun, nofun⟩

end EthercatMaster

end Kddv
