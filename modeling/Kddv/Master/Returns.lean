import Kddv.Framework.Progress
import Kddv.Master.Mutex

/-!
# Every call returns

Who waits for whom, and how many steps are left: no call of a user interface can be blocked for
good, however the threads are scheduled and whatever the bus answers.
-/

namespace Kddv

open Framework

/-! ## The steps that are left -/

/-- The calling thread waits for the loops. -/
def MainPc.joining : MainPc → Bool
  | .joinEthercat _ => true
  | .joinDataCopy _ => true
  | _ => false

/-- The call that the calling thread is in. -/
def MainPc.inCall : MainPc → Option Call
  | .getSlaves _ => some .getSlaves
  | .start _ => some .start
  | .joinEthercat call => some call
  | .joinDataCopy call => some call
  | _ => none

/-- Steps of the calling thread before its call returns. A round of `start` has three. -/
def MainPc.work : MainPc → Nat
  | .getSlaves .init => 4
  | .getSlaves .config => 3
  | .getSlaves .stateCheck => 2
  | .getSlaves .close => 1
  | .start .init => 612
  | .start .config => 611
  | .start .configMap => 610
  | .start .send => 609
  | .start .receive => 608
  | .start (.roundSend numRetries) => 3 * numRetries + 7
  | .start (.roundReceive numRetries) => 3 * numRetries + 6
  | .start (.roundCheck numRetries _) => 3 * numRetries + 5
  | .start (.launch _) => 4
  | .start (.launchEthercat _) => 3
  | .start (.launchDataCopy _) => 2
  | .start (.report _) => 1
  | .joinEthercat _ => 2
  | .joinDataCopy _ => 1
  | _ => 0

/-- Steps of `ethercatLoop` with `n` slaves before it ends, once the flag is cleared. -/
def EthercatPc.work (n : Nat) : Option EthercatPc → Nat
  | some .send => 6 + 2 * n
  | some .receive => 5 + 2 * n
  | some .tryLock => 4 + 2 * n
  | some (.copyRx i) => 3 + 2 * (n - i)
  | some (.copyTx i) => 2 + 2 * (n - i)
  | some .check => 2
  | some .close => 1
  | _ => 0

/-- Steps of `dataCopyLoop`, if it publishes. -/
def DataCopyPc.work (n : Nat) : Option DataCopyPc → Nat
  | some .lock => 6 + 2 * n
  | some (.callback read) => 5 + n + (n - read.length)
  | some (.publish read) => 4 + (n - read.length)
  | some .unlock => 3
  | some .check => 2
  | some .close => 1
  | _ => 0

namespace EthercatMaster

variable {s s' : EthercatMaster} {call : Call} {reply : Reply} {new : List MasterEvent}

def work (s : EthercatMaster) : Nat :=
  s.main.work + if s.main.joining then
    EthercatPc.work s.slaves.length s.ethercatThread +
      DataCopyPc.work s.slaves.length s.dataCopyThread
  else 0

/-- The steps of the calling thread, and those of the loops while it waits for them. -/
def CallProgress (s : EthercatMaster) : MasterAction → Prop
  | .main _ => True
  | .ethercat _ => s.main.joining = true
  | .dataCopy => s.main.joining = true
  | _ => False

/-- What else may happen during a call. -/
def CallOther (s : EthercatMaster) : MasterAction → Prop
  | .setZMQPublish _ => True
  | .ethercat _ => s.main.joining = false
  | .dataCopy => s.main.joining = false
  | _ => False

/-- The call has returned. After `stop` and the destructor there is no thread, and nobody holds
the mutex. -/
structure Returned (call : Call) (s : EthercatMaster) : Prop where
  main : if call = .destroy then s.main = .destroyed else ∃ error, s.main = .idle (some (call, error))
  atRest : call = .stop ∨ call = .destroy → s.phase = .stopped ∧ s.dataMutex = none

/-- During a call and after its return. -/
structure InCall (call : Call) (s : EthercatMaster) : Prop where
  lifecycle : s.Lifecycle
  mutex : s.MutexInv
  main : s.main.inCall = some call ∨ s.Returned call

theorem Returned.not_joining (h : s.Returned call) : s.main.joining = false := by
  have hmain := h.main
  split at hmain
  · rw [hmain]
    rfl
  · obtain ⟨error, hidle⟩ := hmain
    rw [hidle]
    rfl

/-- Loops that the calling thread does not wait for. -/
private theorem inCall_of_main (h : s.InCall call) (hl : s'.Lifecycle) (hm : s'.MutexInv)
    (hmain : s'.main = s.main) (hrest : s.phase = .stopped → s.dataMutex = none →
      s'.phase = .stopped ∧ s'.dataMutex = none) : s'.InCall call := by
  refine ⟨hl, hm, ?_⟩
  rw [hmain]
  apply h.main.imp id
  intro hret
  refine ⟨by rw [hmain]; exact hret.main, fun hcall => ?_⟩
  obtain ⟨hphase, hmutex⟩ := hret.atRest hcall
  exact hrest hphase hmutex

private theorem work_of_main (hmain : s'.main = s.main) (hnot : s.main.joining = false) :
    s'.work = s.work := by
  rw [work, work, hmain, hnot]
  rfl

theorem InCall.other {a : MasterAction} (h : s.InCall call) (ha : s.CallOther a)
    (hstep : s.step a = some (s', new)) : s'.InCall call ∧ s'.work ≤ s.work := by
  have hui : s.uiIssues a = true := by
    cases a <;> first | exact absurd ha not_false | rfl
  have hl := h.lifecycle.step hui hstep
  have hm := h.mutex.step h.lifecycle hui hstep
  cases step_cases hstep with
  | setZMQPublish =>
    exact ⟨inCall_of_main h hl hm rfl fun hphase hmutex => ⟨hphase, hmutex⟩, le_rfl⟩
  | ethercat hloop =>
    refine ⟨inCall_of_main h hl hm hloop.frame.main ?_, (work_of_main hloop.frame.main ha).le⟩
    intro hphase
    have hnone := (threads_of_stopped hphase).1
    have hsome := hloop.frame.isSome.1
    rw [hnone] at hsome
    cases hsome
  | dataCopy hloop =>
    refine ⟨inCall_of_main h hl hm hloop.frame.main ?_, (work_of_main hloop.frame.main ha).le⟩
    intro hphase
    have hnone := (threads_of_stopped hphase).2
    have hsome := hloop.frame.isSome.1
    rw [hnone] at hsome
    cases hsome
  | call => exact absurd ha not_false
  | getSlaves => exact absurd ha not_false
  | start => exact absurd ha not_false
  | join => exact absurd ha not_false

/-! ## Each step brings the return nearer -/

private theorem work_lt_of_main (hjoining : s.main.joining = false)
    (hjoining' : s'.main.joining = false) (hlt : s'.main.work < s.main.work) :
    s'.work < s.work := by
  rw [work, work, hjoining, hjoining']
  simpa using hlt

private theorem returned_of_idle {error : String} (hmain : s.main = .idle (some (call, error)))
    (hcall : call = .getSlaves ∨ call = .start) : s.Returned call := by
  rcases hcall with rfl | rfl <;>
    exact ⟨by rw [if_neg nofun]; exact ⟨error, hmain⟩, by simp⟩

private theorem getSlavesStep_work {pc : GetSlavesPc} (hpc : s.main = .getSlaves pc)
    (h : s.GetSlavesStep pc reply s' new) :
    (s'.main.inCall = some .getSlaves ∨ s'.Returned .getSlaves) ∧ s'.work < s.work := by
  have hwork : s'.main.joining = false → s'.main.work < (MainPc.getSlaves pc).work →
      s'.work < s.work := by
    intro hjoining hlt
    apply work_lt_of_main _ hjoining
    · rw [hpc]
      exact hlt
    · rw [hpc]
      rfl
  cases h with
  | initFails => exact ⟨.inr (returned_of_idle rfl (.inl rfl)), hwork rfl (Nat.succ_pos 3)⟩
  | configFails => exact ⟨.inr (returned_of_idle rfl (.inl rfl)), hwork rfl (Nat.succ_pos 2)⟩
  | stateCheckFails => exact ⟨.inr (returned_of_idle rfl (.inl rfl)), hwork rfl (Nat.succ_pos 1)⟩
  | close => exact ⟨.inr (returned_of_idle rfl (.inl rfl)), hwork rfl (Nat.succ_pos 0)⟩
  | _ => exact ⟨.inl rfl, hwork rfl (by simp [MainPc.work])⟩

private theorem startStep_work {pc : StartPc} (hl : s.Lifecycle) (hpc : s.main = .start pc)
    (h : s.StartStep pc reply s' new) :
    (s'.main.inCall = some .start ∨ s'.Returned .start) ∧ s'.work < s.work := by
  have hwork : s'.main.joining = false → s'.main.work < (MainPc.start pc).work →
      s'.work < s.work := by
    intro hjoining hlt
    apply work_lt_of_main _ hjoining
    · rw [hpc]
      exact hlt
    · rw [hpc]
      rfl
  have hphase := hl.phase
  rw [hpc] at hphase
  cases h with
  | initFails => exact ⟨.inr (returned_of_idle rfl (.inr rfl)), hwork rfl (Nat.succ_pos 611)⟩
  | configFails => exact ⟨.inr (returned_of_idle rfl (.inr rfl)), hwork rfl (Nat.succ_pos 610)⟩
  | report => exact ⟨.inr (returned_of_idle rfl (.inr rfl)), hwork rfl (Nat.succ_pos 0)⟩
  | retry hretry =>
    refine ⟨.inl rfl, hwork rfl ?_⟩
    simp only [MainPc.work]
    omega
  | endRounds =>
    refine ⟨.inl rfl, hwork rfl ?_⟩
    simp only [MainPc.work]
    omega
  -- the threads that are launched do not exist yet
  | overwriteEthercat hthread =>
    exact absurd hphase (by simp [MainPc.Allows, EthercatMaster.phase, hthread])
  | overwriteDataCopy hthread =>
    exact absurd hphase (by simp [MainPc.Allows, EthercatMaster.phase, hthread])
  | _ => exact ⟨.inl rfl, hwork rfl (by simp [MainPc.work])⟩

/-- While the calling thread waits, the flag is cleared and the loops are counted. -/
private theorem joining_cases (hl : s.Lifecycle) (hjoin : s.main.joining = true) :
    s.ethercatRunning = false ∧ ∃ call, (call = .stop ∨ call = .destroy) ∧
      (s.main = .joinEthercat call ∨ s.main = .joinDataCopy call ∧ s.ethercatThread = none) := by
  have hphase := hl.phase
  cases hmain : s.main with
  | joinEthercat call =>
    rw [hmain] at hphase
    obtain ⟨hcall, hp⟩ := hphase
    exact ⟨congrArg Prod.fst hp, call, hcall, .inl rfl⟩
  | joinDataCopy call =>
    rw [hmain] at hphase
    obtain ⟨hcall, hp⟩ := hphase
    simp only [EthercatMaster.phase, Prod.mk.injEq] at hp
    exact ⟨hp.1, call, hcall, .inr ⟨rfl, by simpa using hp.2.1⟩⟩
  | _ =>
    rw [hmain] at hjoin
    cases hjoin

private theorem ethercatStep_work (hm : s.MutexInv) (hrunning : s.ethercatRunning = false)
    (h : s.EthercatStep reply s' new) :
    s'.slaves.length = s.slaves.length ∧ s'.dataCopyThread = s.dataCopyThread ∧
      EthercatPc.work s.slaves.length s'.ethercatThread <
        EthercatPc.work s.slaves.length s.ethercatThread := by
  cases h with
  | goOn hpc hgo =>
    rw [hrunning] at hgo
    cases hgo
  | copyRx hpc hslave =>
    obtain ⟨hlt, -⟩ := List.getElem?_eq_some_iff.mp hslave
    rw [hpc]
    refine ⟨List.length_set, rfl, ?_⟩
    simp only [EthercatPc.work]
    omega
  | copyTx hpc hslave =>
    have hlt := hm.copyTx _ hpc
    rw [hpc]
    refine ⟨List.length_set, rfl, ?_⟩
    simp only [EthercatPc.work]
    omega
  | unlock hpc hend =>
    rw [hpc]
    refine ⟨rfl, rfl, ?_⟩
    simp only [EthercatPc.work]
    omega
  | _ hpc =>
    rw [hpc]
    refine ⟨rfl, rfl, ?_⟩
    simp only [EthercatPc.work]
    omega

private theorem dataCopyStep_work (hrunning : s.ethercatRunning = false)
    (h : s.DataCopyStep s' new) :
    s'.slaves.length = s.slaves.length ∧ s'.ethercatThread = s.ethercatThread ∧
      DataCopyPc.work s.slaves.length s'.dataCopyThread <
        DataCopyPc.work s.slaves.length s.dataCopyThread := by
  cases h with
  | goOn hpc hgo =>
    rw [hrunning] at hgo
    cases hgo
  | callback hpc hend =>
    rw [hpc]
    refine ⟨rfl, rfl, ?_⟩
    dsimp only
    split
    · simp only [DataCopyPc.work, List.length_nil]
      omega
    · simp only [DataCopyPc.work]
      omega
  | readCallback hpc hslave =>
    obtain ⟨hlt, -⟩ := List.getElem?_eq_some_iff.mp hslave
    rw [hpc]
    refine ⟨rfl, rfl, ?_⟩
    simp only [DataCopyPc.work, List.length_append, List.length_singleton]
    omega
  | readPublish hpc hslave =>
    obtain ⟨hlt, -⟩ := List.getElem?_eq_some_iff.mp hslave
    rw [hpc]
    refine ⟨rfl, rfl, ?_⟩
    simp only [DataCopyPc.work, List.length_append, List.length_singleton]
    omega
  | _ hpc =>
    rw [hpc]
    refine ⟨rfl, rfl, ?_⟩
    simp only [DataCopyPc.work, List.length_nil]
    omega

private theorem joinStep_work (hl : s.Lifecycle) (hm : s'.MutexInv) (hcall : s.main.inCall = some call)
    (h : s.JoinStep s') :
    (s'.main.inCall = some call ∨ s'.Returned call) ∧ s'.work < s.work := by
  cases h with
  | ethercat hpc hdone =>
    rw [hpc] at hcall
    refine ⟨.inl hcall, ?_⟩
    have hzero : EthercatPc.work s.slaves.length s.ethercatThread = 0 := by
      rcases hdone with hdone | hdone <;> rw [hdone] <;> rfl
    rw [work, work, hpc]
    simp only [MainPc.work, MainPc.joining, if_true, hzero]
    simp only [EthercatPc.work]
    omega
  | dataCopy hpc hnot hdone =>
    have hphase := hl.phase
    rw [hpc] at hcall hphase
    obtain rfl := Option.some.inj hcall
    obtain ⟨-, hp⟩ := hphase
    simp only [EthercatMaster.phase, Prod.mk.injEq] at hp
    have hthread : s.ethercatThread = none := by simpa using hp.2.1
    refine ⟨.inr ⟨?_, fun _ => ⟨?_, hm.free hthread not_false⟩⟩, ?_⟩
    · rw [if_neg hnot]
      exact ⟨"", rfl⟩
    · simp [EthercatMaster.phase, finish, hp.1, hthread, Phase.stopped]
    · rw [work, work, hpc]
      simp [MainPc.work, MainPc.joining, finish]
  | destroy hpc hdone =>
    have hphase := hl.phase
    rw [hpc] at hcall hphase
    obtain rfl := Option.some.inj hcall
    obtain ⟨-, hp⟩ := hphase
    simp only [EthercatMaster.phase, Prod.mk.injEq] at hp
    have hthread : s.ethercatThread = none := by simpa using hp.2.1
    refine ⟨.inr ⟨?_, fun _ => ⟨?_, hm.free hthread not_false⟩⟩, ?_⟩
    · simp [destroyMembers, hthread]
    · simp [EthercatMaster.phase, destroyMembers, hp.1, hthread, Phase.stopped]
    · rw [work, work, hpc]
      simp [MainPc.work, MainPc.joining, destroyMembers, hthread]

theorem InCall.progress {a : MasterAction} (h : s.InCall call) (hnot : ¬ s.Returned call)
    (ha : s.CallProgress a) (hstep : s.step a = some (s', new)) :
    s'.InCall call ∧ s'.work < s.work := by
  have hui : s.uiIssues a = true := by
    cases a <;> first | exact absurd ha not_false | rfl
  have hl := h.lifecycle.step hui hstep
  have hm := h.mutex.step h.lifecycle hui hstep
  have hcall := h.main.resolve_right hnot
  suffices hwork : (s'.main.inCall = some call ∨ s'.Returned call) ∧ s'.work < s.work from
    ⟨⟨hl, hm, hwork.1⟩, hwork.2⟩
  cases step_cases hstep with
  | getSlaves hpc hcalled =>
    rw [hpc] at hcall
    obtain rfl := Option.some.inj hcall
    exact getSlavesStep_work hpc hcalled
  | start hpc hcalled =>
    rw [hpc] at hcall
    obtain rfl := Option.some.inj hcall
    exact startStep_work h.lifecycle hpc hcalled
  | join hjoin => exact joinStep_work h.lifecycle hm hcall hjoin
  | ethercat hloop =>
    obtain ⟨hslaves, hother, hlt⟩ :=
      ethercatStep_work h.mutex (joining_cases h.lifecycle ha).1 hloop
    have hjoin : s.main.joining = true := ha
    refine ⟨.inl (by rw [hloop.frame.main, hcall]), ?_⟩
    rw [work, work, hloop.frame.main, hslaves, hother, hjoin]
    simp only [if_true]
    omega
  | dataCopy hloop =>
    obtain ⟨hslaves, hother, hlt⟩ := dataCopyStep_work (joining_cases h.lifecycle ha).1 hloop
    have hjoin : s.main.joining = true := ha
    refine ⟨.inl (by rw [hloop.frame.main, hcall]), ?_⟩
    rw [work, work, hloop.frame.main, hslaves, hother, hjoin]
    simp only [if_true]
    omega
  | call => exact absurd ha not_false
  | setZMQPublish => exact absurd ha not_false

/-! ## No step is blocked for good -/

private theorem canStep_main (hnot : s.main ≠ .terminated)
    (h : ∃ reply, (s.mainStep reply).isSome = true) : machine.CanStep CallProgress s := by
  obtain ⟨reply, hsome⟩ := h
  apply Machine.canStep_of_isSome (a := .main reply) trivial
  change (s.step (.main reply)).isSome = true
  rw [step, if_neg hnot]
  exact hsome

private theorem getSlavesStep_enabled (s : EthercatMaster) (pc : GetSlavesPc) :
    ∃ reply, (s.getSlavesStep pc reply).isSome = true := by
  cases pc with
  | init => exact ⟨.init true, rfl⟩
  | config => exact ⟨.config 1 s.table, rfl⟩
  | stateCheck => exact ⟨.discover ecStateSafeOp fun _ => default, rfl⟩
  | close => exact ⟨.none, rfl⟩

private theorem startStep_enabled (s : EthercatMaster) (pc : StartPc) :
    ∃ reply, (s.startStep pc reply).isSome = true := by
  cases pc with
  | init => exact ⟨.init true, rfl⟩
  | config => exact ⟨.config 1 s.table, rfl⟩
  | configMap => exact ⟨.configMap s.table 0, rfl⟩
  | send => exact ⟨.none, rfl⟩
  | receive => exact ⟨.exchange 0 s.iomap, rfl⟩
  | roundSend numRetries => exact ⟨.none, rfl⟩
  | roundReceive numRetries => exact ⟨.exchange 0 s.iomap, rfl⟩
  | roundCheck numRetries wkcnt => exact ⟨.state ecStateOperational, by simp [startStep]⟩
  | launch wkcnt => exact ⟨.none, by simp only [startStep]; split <;> rfl⟩
  | launchEthercat wkcnt => exact ⟨.none, by simp only [startStep]; split <;> rfl⟩
  | launchDataCopy wkcnt => exact ⟨.none, by simp only [startStep]; split <;> rfl⟩
  | report wkcnt => exact ⟨.none, rfl⟩

/-- `ethercatLoop` never waits for the mutex. -/
private theorem ethercatStep_enabled (hm : s.MutexInv) (hthread : s.ethercatThread ≠ none)
    (hdone : s.ethercatThread ≠ some .done) : ∃ reply, (s.ethercatStep reply).isSome = true := by
  cases hpc : s.ethercatThread with
  | none => exact absurd hpc hthread
  | some pc =>
    cases pc with
    | done => exact absurd hpc hdone
    | check => exact ⟨.none, by simp [ethercatStep, hpc]⟩
    | send => exact ⟨.none, by simp [ethercatStep, hpc]⟩
    | receive => exact ⟨.exchange 0 s.iomap, by simp [ethercatStep, hpc]⟩
    | tryLock => exact ⟨.tryLock false, by simp [ethercatStep, hpc]⟩
    | copyRx i =>
      refine ⟨.none, ?_⟩
      simp only [ethercatStep, hpc]
      split <;> rfl
    | copyTx i =>
      have hlt := hm.copyTx i hpc
      exact ⟨.none, by simp [ethercatStep, hpc, List.getElem?_eq_getElem hlt]⟩
    | close => exact ⟨.none, by simp [ethercatStep, hpc]⟩

/-- `dataCopyLoop` waits for a mutex that is held. -/
private theorem dataCopyStep_enabled (hfree : ¬ DataCopyPc.Reading s.dataCopyThread →
      s.dataMutex = none) (hthread : s.dataCopyThread ≠ none)
    (hdone : s.dataCopyThread ≠ some .done) : s.dataCopyStep.isSome = true := by
  cases hpc : s.dataCopyThread with
  | none => exact absurd hpc hthread
  | some pc =>
    cases pc with
    | done => exact absurd hpc hdone
    | lock =>
      have hmutex := hfree (by rw [hpc]; exact not_false)
      simp [dataCopyStep, hpc, hmutex]
    | callback read =>
      simp only [dataCopyStep, hpc]
      split <;> rfl
    | publish read =>
      simp only [dataCopyStep, hpc]
      split <;> rfl
    | _ => simp [dataCopyStep, hpc]

private theorem canStep_joining (h : s.InCall call) (hjoin : s.main.joining = true) :
    machine.CanStep CallProgress s := by
  obtain ⟨-, call, -, hmain⟩ := joining_cases h.lifecycle hjoin
  have hnot : s.main ≠ .terminated := by
    rcases hmain with hmain | ⟨hmain, -⟩ <;> rw [hmain] <;> exact nofun
  rcases hmain with hmain | ⟨hmain, hnone⟩
  · by_cases hdone : s.ethercatThread = none ∨ s.ethercatThread = some .done
    · apply canStep_main hnot
      exact ⟨.none, by simp [mainStep, hmain, joinEthercatStep, hdone]⟩
    · rw [not_or] at hdone
      obtain ⟨reply, hsome⟩ := ethercatStep_enabled h.mutex hdone.1 hdone.2
      apply Machine.canStep_of_isSome (a := .ethercat reply) hjoin
      change (s.step (.ethercat reply)).isSome = true
      rw [step, if_neg hnot]
      exact hsome
  · by_cases hdone : s.dataCopyThread = none ∨ s.dataCopyThread = some .done
    · apply canStep_main hnot
      refine ⟨.none, ?_⟩
      simp only [mainStep, hmain, joinDataCopyStep, if_pos hdone]
      split <;> rfl
    · rw [not_or] at hdone
      -- the other holder of the mutex has been joined
      have hsome := dataCopyStep_enabled (h.mutex.free hnone) hdone.1 hdone.2
      apply Machine.canStep_of_isSome (a := .dataCopy) hjoin
      change (s.step .dataCopy).isSome = true
      rw [step, if_neg hnot]
      exact hsome

theorem InCall.canStep (h : s.InCall call) (hnot : ¬ s.Returned call) :
    machine.CanStep CallProgress s := by
  have hcall := h.main.resolve_right hnot
  cases hmain : s.main with
  | getSlaves pc =>
    apply canStep_main (by rw [hmain]; exact nofun)
    obtain ⟨reply, hsome⟩ := getSlavesStep_enabled s pc
    exact ⟨reply, by rw [mainStep, hmain]; exact hsome⟩
  | start pc =>
    apply canStep_main (by rw [hmain]; exact nofun)
    obtain ⟨reply, hsome⟩ := startStep_enabled s pc
    exact ⟨reply, by rw [mainStep, hmain]; exact hsome⟩
  | joinEthercat joined => exact canStep_joining h (by rw [hmain]; rfl)
  | joinDataCopy joined => exact canStep_joining h (by rw [hmain]; rfl)
  | _ =>
    rw [hmain] at hcall
    cases hcall

/-! ## All calls -/

private theorem ethercatWork_le (n : Nat) (pc : Option EthercatPc) :
    EthercatPc.work n pc ≤ 6 + 2 * n := by
  unfold EthercatPc.work
  split <;> omega

private theorem dataCopyWork_le (n : Nat) (pc : Option DataCopyPc) :
    DataCopyPc.work n pc ≤ 6 + 2 * n := by
  unfold DataCopyPc.work
  split <;> omega

private theorem inCall_beginCall {last : Option (Call × String)} (hl : s.Lifecycle)
    (hm : s.MutexInv) (hidle : s.main = .idle last) (hui : s.uiIssues (.call call) = true) :
    (s.beginCall call).InCall call := by
  have hl' := hl.beginCall hidle hui
  have hm' := hm.beginCall hl hidle hui
  have hatRest : (s.beginCall call).phase = .stopped → (s.beginCall call).dataMutex = none := by
    intro hphase
    obtain ⟨hethercat, hdataCopy⟩ := threads_of_stopped hphase
    exact hm'.free hethercat (by rw [hdataCopy]; exact not_false)
  refine ⟨hl', hm', ?_⟩
  have hphase := hl'.phase
  cases call with
  | getSlaves => exact .inl rfl
  | start => exact .inl rfl
  | stop =>
    by_cases hrunning : s.ethercatRunning = true
    · exact .inl (by simp [EthercatMaster.beginCall, hrunning, MainPc.inCall])
    · have hmain : (s.beginCall .stop).main = .idle (some (.stop, "")) := by
        simp [EthercatMaster.beginCall, hrunning, finish]
      rw [hmain] at hphase
      have hstop : Call.stop ≠ .destroy := by simp
      exact .inr ⟨by rw [if_neg hstop]; exact ⟨"", hmain⟩, fun _ => ⟨hphase, hatRest hphase⟩⟩
  | destroy =>
    by_cases hrunning : s.ethercatRunning = true
    · exact .inl (by simp [EthercatMaster.beginCall, hrunning, MainPc.inCall])
    · have hmain : (s.beginCall .destroy).main = .terminated ∨
          (s.beginCall .destroy).main = .destroyed := by
        have hbegin : s.beginCall .destroy = s.destroyMembers := if_neg hrunning
        rw [hbegin]
        exact ite_eq_or_eq _ _ _
      rcases hmain with hmain | hmain
      · rw [hmain] at hphase
        exact absurd hphase not_false
      · rw [hmain] at hphase
        exact .inr ⟨by rw [if_pos rfl]; exact hmain, fun _ => ⟨hphase, hatRest hphase⟩⟩

private theorem work_beginCall_le (s : EthercatMaster) (call : Call) :
    (s.beginCall call).work ≤ 612 + 4 * s.slaves.length := by
  have hethercat := ethercatWork_le s.slaves.length s.ethercatThread
  have hdataCopy := dataCopyWork_le s.slaves.length s.dataCopyThread
  cases call with
  | getSlaves =>
    simp only [EthercatMaster.beginCall, work, MainPc.work, MainPc.joining]
    simp
    omega
  | start => simp [EthercatMaster.beginCall, work, MainPc.work, MainPc.joining]
  | stop =>
    simp only [EthercatMaster.beginCall]
    split
    · simp only [work, MainPc.work, MainPc.joining, if_true]
      omega
    · simp [work, finish, MainPc.work, MainPc.joining]
  | destroy =>
    simp only [EthercatMaster.beginCall]
    split
    · simp only [work, MainPc.work, MainPc.joining, if_true]
      omega
    · simp only [work, destroyMembers]
      split <;> simp [MainPc.work, MainPc.joining]

end EthercatMaster

end Kddv
