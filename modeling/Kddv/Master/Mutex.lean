import Kddv.Master.FirstCopy

/-!
# The mutex

Who holds the mutex, and that the records of the slaves are never accessed by two threads at a
time, although `copyData` and the callback run in different threads and discovery in a third.
-/

namespace Kddv

open Framework

inductive MasterThread
  | calling
  | loop (thread : LoopThread)

/-- The thread that takes a step. -/
def MasterAction.thread : MasterAction → MasterThread
  | .ethercat _ => .loop .ethercat
  | .dataCopy => .loop .dataCopy
  | _ => .calling

namespace EthercatMaster

variable {s s' : EthercatMaster} {reply : Reply} {new : List MasterEvent}

/-- The mutex is held exactly in the scopes of the two locks, and `copyData` writes to slaves that
exist. -/
structure MutexInv (s : EthercatMaster) : Prop where
  ethercat : s.dataMutex = some .ethercat ↔ EthercatPc.Copying s.ethercatThread
  dataCopy : s.dataMutex = some .dataCopy ↔ DataCopyPc.Reading s.dataCopyThread
  copyTx : ∀ i, s.ethercatThread = some (.copyTx i) → i < s.slaves.length

theorem mutexInv_create (iomap : Nat → UInt8) (table : SlaveTable) (busState : UInt16) :
    (create iomap table busState).MutexInv := by
  constructor <;> simp [create, EthercatPc.Copying, DataCopyPc.Reading]

/-- Without threads nobody holds the mutex. -/
theorem MutexInv.free (h : s.MutexInv) (hethercat : s.ethercatThread = none)
    (hdataCopy : ¬ DataCopyPc.Reading s.dataCopyThread) : s.dataMutex = none := by
  obtain ⟨hcopying, hreading, -⟩ := h
  rw [hethercat] at hcopying
  cases hmutex : s.dataMutex with
  | none => rfl
  | some holder =>
    cases holder with
    | ethercat => exact absurd (hcopying.mp hmutex) not_false
    | dataCopy => exact absurd (hreading.mp hmutex) hdataCopy

theorem MutexInv.ethercatStep (h : s.MutexInv) (hstep : s.EthercatStep reply s' new) :
    s'.MutexInv := by
  obtain ⟨hcopying, hreading, hcopyTx⟩ := h
  cases hstep with
  | copyRx hpc hslave =>
    rw [hpc] at hcopying
    refine ⟨hcopying, hreading, ?_⟩
    intro i hi
    obtain ⟨hlt, -⟩ := List.getElem?_eq_some_iff.mp hslave
    simp only [Option.some.injEq, EthercatPc.copyTx.injEq] at hi
    rw [List.length_set, ← hi]
    exact hlt
  | copyTx hpc hslave =>
    rw [hpc] at hcopying
    exact ⟨hcopying, hreading, by simp⟩
  | unlock hpc hend =>
    rw [hpc] at hcopying
    have hholder : s.dataMutex = some .ethercat := hcopying.mpr trivial
    constructor
    · simp [EthercatPc.Copying]
    · rw [← hreading, hholder]
      simp
    · simp
  | lock hpc hfree =>
    constructor
    · simp [EthercatPc.Copying]
    · rw [← hreading, hfree]
      simp
    · simp
  | _ hpc =>
    rw [hpc] at hcopying
    exact ⟨hcopying, hreading, by simp⟩

theorem MutexInv.dataCopyStep (h : s.MutexInv) (hstep : s.DataCopyStep s' new) :
    s'.MutexInv := by
  obtain ⟨hcopying, hreading, hcopyTx⟩ := h
  cases hstep with
  | lock hpc hfree =>
    constructor
    · rw [← hcopying, hfree]
      simp
    · simp [DataCopyPc.Reading]
    · exact hcopyTx
  | callback hpc hend =>
    rw [hpc] at hreading
    refine ⟨hcopying, ?_, hcopyTx⟩
    apply hreading.trans
    dsimp only
    split <;> exact Iff.rfl
  | unlock hpc =>
    rw [hpc] at hreading
    have hholder : s.dataMutex = some .dataCopy := hreading.mpr trivial
    constructor
    · rw [← hcopying, hholder]
      simp
    · simp [DataCopyPc.Reading]
    · exact hcopyTx
  | _ hpc =>
    rw [hpc] at hreading
    exact ⟨hcopying, hreading, hcopyTx⟩

/-- The calling thread touches the loops only where they hold no lock. -/
private theorem MutexInv.withThreads (h : s.MutexInv)
    (hmutex : s'.dataMutex = s.dataMutex)
    (hethercat : EthercatPc.Copying s'.ethercatThread ↔ EthercatPc.Copying s.ethercatThread)
    (hdataCopy : DataCopyPc.Reading s'.dataCopyThread ↔ DataCopyPc.Reading s.dataCopyThread)
    (hcopyTx : ∀ i, s'.ethercatThread = some (.copyTx i) → i < s'.slaves.length) :
    s'.MutexInv :=
  ⟨by rw [hmutex, h.ethercat, hethercat], by rw [hmutex, h.dataCopy, hdataCopy], hcopyTx⟩

theorem MutexInv.startStep {pc : StartPc} (h : s.MutexInv) (hstep : s.StartStep pc reply s' new) :
    s'.MutexInv := by
  cases hstep with
  | launchEthercat hthread =>
    exact h.withThreads rfl (by rw [hthread]; exact Iff.rfl) Iff.rfl (by simp)
  | launchDataCopy hthread =>
    exact h.withThreads rfl Iff.rfl (by rw [hthread]; exact Iff.rfl) h.copyTx
  | _ => exact h.withThreads rfl Iff.rfl Iff.rfl h.copyTx

private theorem not_copying_of_done {pc : Option EthercatPc} (h : pc = none ∨ pc = some .done) :
    ¬ EthercatPc.Copying pc := by
  rcases h with rfl | rfl <;> exact not_false

private theorem not_reading_of_done {pc : Option DataCopyPc} (h : pc = none ∨ pc = some .done) :
    ¬ DataCopyPc.Reading pc := by
  rcases h with rfl | rfl <;> exact not_false

theorem MutexInv.joinStep (h : s.MutexInv) (hstep : s.JoinStep s') : s'.MutexInv := by
  cases hstep with
  | ethercat hpc hdone =>
    exact h.withThreads rfl (iff_of_false not_false (not_copying_of_done hdone)) Iff.rfl
      (by simp)
  | dataCopy hpc hcall hdone =>
    exact h.withThreads rfl Iff.rfl (iff_of_false not_false (not_reading_of_done hdone)) h.copyTx
  | destroy hpc hdone =>
    exact h.withThreads rfl Iff.rfl (iff_of_false not_false (not_reading_of_done hdone)) h.copyTx

theorem threads_of_stopped (h : s.phase = .stopped) :
    s.ethercatThread = none ∧ s.dataCopyThread = none := by
  simp only [EthercatMaster.phase, Phase.stopped, Prod.mk.injEq] at h
  simpa using h.2

/-- Discovery replaces the slaves while there is no thread. -/
private theorem MutexInv.withoutThread (h : s.MutexInv) (hthread : s.ethercatThread = none)
    (hmutex : s'.dataMutex = s.dataMutex) (hethercat : s'.ethercatThread = s.ethercatThread)
    (hdataCopy : s'.dataCopyThread = s.dataCopyThread) : s'.MutexInv := by
  refine h.withThreads hmutex (by rw [hethercat]) (by rw [hdataCopy]) ?_
  intro i hi
  rw [hethercat, hthread] at hi
  cases hi

theorem MutexInv.getSlavesStep {pc : GetSlavesPc} (h : s.MutexInv) (hl : s.Lifecycle)
    (hpc : s.main = .getSlaves pc) (hstep : s.GetSlavesStep pc reply s' new) : s'.MutexInv := by
  have hphase := hl.phase
  rw [hpc] at hphase
  have hthread := (threads_of_stopped hphase).1
  cases hstep <;> exact h.withoutThread hthread rfl rfl rfl

theorem MutexInv.beginCall {call : Call} {last : Option (Call × String)} (h : s.MutexInv)
    (hl : s.Lifecycle) (hidle : s.main = .idle last) (hui : s.uiIssues (.call call) = true) :
    (s.beginCall call).MutexInv := by
  cases call with
  | getSlaves =>
    have hphase := hl.phase
    rcases uiIssues_call hidle hui with ⟨-, rfl⟩ | ⟨hcall, -⟩ | ⟨hcall, -⟩ | ⟨hcall, -⟩
    · rw [hidle] at hphase
      exact h.withoutThread (threads_of_stopped hphase).1 rfl rfl rfl
    all_goals cases hcall
  | start => exact h.withThreads rfl Iff.rfl Iff.rfl h.copyTx
  | stop =>
    unfold EthercatMaster.beginCall
    dsimp only
    split <;> exact h.withThreads rfl Iff.rfl Iff.rfl h.copyTx
  | destroy =>
    unfold EthercatMaster.beginCall
    dsimp only
    split <;> exact h.withThreads rfl Iff.rfl Iff.rfl h.copyTx

theorem MutexInv.step (h : s.MutexInv) (hl : s.Lifecycle) {a : MasterAction}
    (hui : s.uiIssues a = true) (hstep : s.step a = some (s', new)) : s'.MutexInv := by
  cases step_cases hstep with
  | call hidle => exact h.beginCall hl hidle hui
  | setZMQPublish => exact ⟨h.ethercat, h.dataCopy, h.copyTx⟩
  | getSlaves hpc hcall => exact h.getSlavesStep hl hpc hcall
  | start hpc hcall => exact h.startStep hcall
  | join hjoin => exact h.joinStep hjoin
  | ethercat hloop => exact h.ethercatStep hloop
  | dataCopy hloop => exact h.dataCopyStep hloop

theorem UiRun.lifecycle_mutex {iomap : Nat → UInt8} {table : SlaveTable} {busState : UInt16}
    {events : List MasterEvent} (run : (create iomap table busState).UiRun events s) :
    s.Lifecycle ∧ s.MutexInv :=
  run.stateInvariant (I := fun s => s.Lifecycle ∧ s.MutexInv)
    ⟨lifecycle_create iomap table busState, mutexInv_create iomap table busState⟩
    fun _ _ _ _ hi hg hs => ⟨hi.1.step hg hs, hi.2.step hi.1 hg hs⟩

/-! ## Access to the records -/

/-- The thread is at a place where it may read or write the slaves: discovery, `copyData` after
`try_lock`, or the scope of the lock guard. -/
def Accesses (s : EthercatMaster) : MasterThread → Prop
  | .calling => s.main = .idle none ∨ ∃ pc, s.main = .getSlaves pc
  | .loop .ethercat => EthercatPc.Copying s.ethercatThread
  | .loop .dataCopy => DataCopyPc.Reading s.dataCopyThread

/-- Discovery is over before there are loops. -/
private theorem not_accesses_calling (hl : s.Lifecycle) (thread : LoopThread)
    (hloop : s.Accesses (.loop thread)) : ¬ s.Accesses .calling := by
  intro hcalling
  have hphase : s.phase = .stopped := by
    have hallows := hl.phase
    rcases hcalling with hmain | ⟨pc, hmain⟩
    · rw [hmain] at hallows
      exact hallows
    · rw [hmain] at hallows
      exact hallows
  obtain ⟨hethercat, hdataCopy⟩ := threads_of_stopped hphase
  cases thread with
  | ethercat =>
    rw [Accesses, hethercat] at hloop
    exact hloop
  | dataCopy =>
    rw [Accesses, hdataCopy] at hloop
    exact hloop

theorem accesses_unique (hl : s.Lifecycle) (hm : s.MutexInv) {left right : MasterThread}
    (hleft : s.Accesses left) (hright : s.Accesses right) : left = right := by
  cases left with
  | calling =>
    cases right with
    | calling => rfl
    | loop thread => exact absurd hleft (not_accesses_calling hl thread hright)
  | loop thread =>
    cases right with
    | calling => exact absurd hright (not_accesses_calling hl thread hleft)
    | loop thread' =>
      have hholds : ∀ holder, s.Accesses (.loop holder) → s.dataMutex = some holder := by
        intro holder h
        cases holder with
        | ethercat => exact hm.ethercat.mpr h
        | dataCopy => exact hm.dataCopy.mpr h
      have heq := (hholds thread hleft).symm.trans (hholds thread' hright)
      rw [Option.some.inj heq]

/-- A step that changes the slaves is one of a thread that accesses them. -/
theorem accesses_of_slaves_ne {a : MasterAction} (hui : s.uiIssues a = true)
    (hstep : s.step a = some (s', new)) (hne : s'.slaves ≠ s.slaves) : s.Accesses a.thread := by
  cases step_cases hstep with
  | call hidle =>
    rcases uiIssues_call hidle hui with ⟨rfl, rfl⟩ | ⟨rfl, -⟩ | ⟨rfl, -⟩ | ⟨rfl, -⟩
    · exact .inl hidle
    · exact absurd rfl hne
    · apply absurd _ hne
      unfold beginCall
      dsimp only
      split <;> rfl
    · apply absurd _ hne
      unfold beginCall
      dsimp only
      split <;> rfl
  | setZMQPublish => exact absurd rfl hne
  | getSlaves hpc => exact .inr ⟨_, hpc⟩
  | start hpc hcall => cases hcall <;> exact absurd rfl hne
  | join hjoin => cases hjoin <;> exact absurd rfl hne
  | ethercat hloop =>
    cases hloop with
    | copyRx hpc =>
      rw [MasterAction.thread, Accesses, hpc]
      trivial
    | copyTx hpc =>
      rw [MasterAction.thread, Accesses, hpc]
      trivial
    | _ => exact absurd rfl hne
  | dataCopy hloop => exact absurd hloop.frame.slaves hne

/-- What is handed to the callback or to the publisher is read under the lock. -/
theorem reading_of_delivered (h : s.DataCopyStep s' new) {event : MasterEvent} (hevent : event ∈ new)
    (hdelivered : event.delivered ≠ none) : DataCopyPc.Reading s.dataCopyThread := by
  cases h with
  | callback hpc =>
    rw [hpc]
    trivial
  | publish hpc =>
    rw [hpc]
    trivial
  | lock hpc =>
    rw [List.mem_singleton.mp hevent] at hdelivered
    exact absurd rfl hdelivered
  | close hpc =>
    rw [List.mem_singleton.mp hevent] at hdelivered
    exact absurd rfl hdelivered
  | _ => cases hevent

/-- A discovery that finds one battery module. -/
def discoverBattery : List MasterAction :=
  [.call .getSlaves, .main (.init true), .main (.config 1 batteryOnBus),
    .main (.discover ecStateSafeOp fun _ => default), .main .none]

end EthercatMaster

end Kddv
