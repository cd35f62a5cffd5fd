import Kddv.Master.Lifecycle

/-!
# How `start` ends

`start` waits in a loop until the bus is operational. After the last retry it goes on without
a message, so that an empty error does not always mean that the loops are running.
-/

namespace Kddv

open Framework

/-- The answers of the bus to one call of `start`: whether `ec_init` failed or `ec_config_init`
found no slaves, and the states seen after each `ec_statecheck`. -/
structure BusAnswers where
  refused : Bool
  states : List UInt16

namespace BusAnswers

def add (answers : BusAnswers) : MasterEvent → BusAnswers
  | .ecInit .start ok => { answers with refused := answers.refused || !ok }
  | .ecConfig .start count => { answers with refused := answers.refused || decide (count ≤ 0) }
  | .ecStatecheck .start state => { answers with states := answers.states ++ [state] }
  | _ => answers

def ofEvents (events : List MasterEvent) : BusAnswers := events.foldl add ⟨false, []⟩

theorem ofEvents_append (events new : List MasterEvent) :
    ofEvents (events ++ new) = new.foldl add (ofEvents events) :=
  List.foldl_append

/-- The states seen in the rounds of the loop. The first check comes before the loop. -/
def rounds (answers : BusAnswers) : List UInt16 := answers.states.tail

/-- One more round. -/
theorem rounds_add {answers : BusAnswers} (state : UInt16) (h : answers.states ≠ []) :
    (answers.add (.ecStatecheck .start state)).rounds = answers.rounds ++ [state] :=
  List.tail_append_of_ne_nil h

end BusAnswers

/-- Anything but a call of a method. -/
def MasterAction.isCall : MasterAction → Bool
  | .call _ => true
  | _ => false

namespace EthercatMaster

variable {s s' : EthercatMaster} {reply : Reply} {new : List MasterEvent} {answers : BusAnswers}

/-- The error message after `start` agrees with what is running, and the user interface offers
to stop only what is running. -/
def ReportsSuccess (s : EthercatMaster) (error : String) : Prop :=
  (error = "" ↔ s.phase = .running) ∧ (s.uiIssues (.call .stop) = true → s.phase = .running)

/-! ## The retry loop -/

/-- Where `start` is, in relation to the answers of the bus. -/
def StartPlace (answers : BusAnswers) (phase : Phase) (busState : UInt16) : MainPc → Prop
  | .start .init | .start .config | .start .configMap =>
    phase = .stopped ∧ answers.refused = false ∧ answers.states = []
  | .start .send | .start .receive =>
    phase = .stopped ∧ answers.refused = false ∧ answers.states.length = 1
  | .start (.roundSend numRetries) | .start (.roundReceive numRetries)
  | .start (.roundCheck numRetries _) =>
    phase = .stopped ∧ answers.refused = false ∧ numRetries ≤ 200 ∧
      answers.states.length + numRetries = 201 ∧ ecStateOperational ∉ answers.rounds
  | .start (.launch _) =>
    phase = .stopped ∧ answers.refused = false ∧
      (busState = ecStateOperational ↔ ecStateOperational ∈ answers.rounds)
  | .start (.launchEthercat _) =>
    phase = (true, false, false) ∧ answers.refused = false ∧ ecStateOperational ∈ answers.rounds
  | .start (.launchDataCopy _) =>
    phase = (true, true, false) ∧ answers.refused = false ∧ ecStateOperational ∈ answers.rounds
  | .start (.report _) =>
    answers.refused = false ∧
      (phase = .running ∧ ecStateOperational ∈ answers.rounds ∨
        phase = .stopped ∧ ecStateOperational ∉ answers.rounds)
  | .idle (some (.start, error)) =>
    answers.refused = true ∧ error ≠ "" ∧ phase = .stopped ∨
      answers.refused = false ∧ error = "" ∧
        (phase = .running ∧ ecStateOperational ∈ answers.rounds ∨
          phase = .stopped ∧ ecStateOperational ∉ answers.rounds)
  | _ => False

structure StartInv (answers : BusAnswers) (s : EthercatMaster) : Prop where
  rounds_le : answers.rounds.length ≤ 201
  waiting : ecStateOperational ∉ answers.rounds.dropLast
  place : StartPlace answers s.phase s.busState s.main

private theorem answers_reportWkcnt (s : EthercatMaster) (wkcnt : Int) (answers : BusAnswers) :
    (s.reportWkcnt wkcnt).foldl BusAnswers.add answers = answers := by
  unfold reportWkcnt
  split <;> rfl

private theorem ethercatStep_answers (h : s.EthercatStep reply s' new)
    (answers : BusAnswers) :
    new.foldl BusAnswers.add answers = answers ∧ s'.busState = s.busState := by
  cases h <;> simp [BusAnswers.add, answers_reportWkcnt]

private theorem dataCopyStep_answers (h : s.DataCopyStep s' new) (answers : BusAnswers) :
    new.foldl BusAnswers.add answers = answers ∧ s'.busState = s.busState := by
  cases h <;> exact ⟨rfl, rfl⟩

namespace StartInv

/-- Steps that neither ask the bus for its state nor leave the calling thread's place. -/
private theorem same (hi : StartInv answers s) (hphase : s'.phase = s.phase)
    (hbus : s'.busState = s.busState) (hmain : s'.main = s.main) : StartInv answers s' := by
  refine ⟨hi.rounds_le, hi.waiting, ?_⟩
  rw [hphase, hbus, hmain]
  exact hi.place

/-- One round of the loop, after which it goes on or ends. -/
private theorem roundCheck (hi : StartInv answers s) {numRetries : Nat} {wkcnt : Int}
    (hpc : s.main = .start (.roundCheck numRetries wkcnt)) (state : UInt16) :
    (answers.add (.ecStatecheck .start state)).rounds.length ≤ 201 ∧
      ecStateOperational ∉ (answers.add (.ecStatecheck .start state)).rounds.dropLast ∧
      (answers.add (.ecStatecheck .start state)).states.length = answers.states.length + 1 ∧
      (ecStateOperational ∈ (answers.add (.ecStatecheck .start state)).rounds ↔
        state = ecStateOperational) := by
  have hplace := hi.place
  rw [hpc] at hplace
  obtain ⟨-, -, hle, hlength, hnot⟩ := hplace
  have hnonempty : answers.states ≠ [] := by
    intro hnil
    rw [hnil, List.length_nil] at hlength
    omega
  have hcount : answers.rounds.length = answers.states.length - 1 := List.length_tail
  have hrounds := BusAnswers.rounds_add state hnonempty
  refine ⟨?_, ?_, List.length_append, ?_⟩
  · rw [hrounds, List.length_append, List.length_singleton]
    omega
  · rwa [hrounds, List.dropLast_concat]
  · rw [hrounds, List.mem_append, List.mem_singleton, eq_comm (a := state)]
    exact ⟨fun hmem => hmem.resolve_left hnot, .inr⟩

theorem startStep (hi : StartInv answers s) {pc : StartPc} (hpc : s.main = .start pc)
    (h : s.StartStep pc reply s' new) : StartInv (new.foldl BusAnswers.add answers) s' := by
  have hplace := hi.place
  rw [hpc] at hplace
  cases h with
  | init =>
    obtain ⟨hphase, hrefused, hstates⟩ := hplace
    exact ⟨hi.rounds_le, hi.waiting, hphase, by simp [BusAnswers.add, hrefused], hstates⟩
  | initFails =>
    obtain ⟨hphase, -, -⟩ := hplace
    exact ⟨hi.rounds_le, hi.waiting, .inl ⟨by simp [BusAnswers.add], by simp, hphase⟩⟩
  | config hcount =>
    obtain ⟨hphase, hrefused, hstates⟩ := hplace
    exact ⟨hi.rounds_le, hi.waiting, hphase, by simp [BusAnswers.add, hrefused, hcount], hstates⟩
  | configFails hcount =>
    obtain ⟨hphase, -, -⟩ := hplace
    refine ⟨hi.rounds_le, hi.waiting, .inl ⟨?_, by simp, hphase⟩⟩
    simp [BusAnswers.add, not_lt.mp hcount]
  | @configMap table state =>
    obtain ⟨hphase, hrefused, hstates⟩ := hplace
    have hadd : (answers.add (.ecStatecheck .start state)).states = [state] := by
      simp [BusAnswers.add, hstates]
    refine ⟨?_, ?_, hphase, hrefused, congrArg List.length hadd⟩
    · change (answers.add (.ecStatecheck .start state)).states.tail.length ≤ 201
      simp [hadd]
    · change ecStateOperational ∉ (answers.add (.ecStatecheck .start state)).states.tail.dropLast
      simp [hadd]
  | receive =>
    obtain ⟨hphase, hrefused, hlength⟩ := hplace
    have hrounds : answers.rounds = [] := by
      rw [← List.length_eq_zero_iff, BusAnswers.rounds, List.length_tail, hlength]
    refine ⟨hi.rounds_le, hi.waiting, hphase, hrefused, le_rfl, ?_, ?_⟩
    · change answers.states.length + 200 = 201
      rw [hlength]
    · change ecStateOperational ∉ answers.rounds
      simp [hrounds]
  | send | roundSend | roundReceive => exact ⟨hi.rounds_le, hi.waiting, hplace⟩
  | @retry numRetries wkcnt state hretry =>
    obtain ⟨hphase, hrefused, hle, hlength, -⟩ := hplace
    obtain ⟨hrounds, hwaiting, hstates, hoperational⟩ := hi.roundCheck hpc state
    refine ⟨hrounds, hwaiting, hphase, hrefused, by omega, ?_, ?_⟩
    · change (answers.add (.ecStatecheck .start state)).states.length + (numRetries - 1) = 201
      omega
    · exact fun hmem => hretry.2 (hoperational.mp hmem)
  | endRounds hretry =>
    obtain ⟨hphase, hrefused, -⟩ := hplace
    obtain ⟨hrounds, hwaiting, -, hoperational⟩ := hi.roundCheck hpc _
    exact ⟨hrounds, hwaiting, hphase, hrefused, hoperational.symm⟩
  | launch hoperational =>
    obtain ⟨hphase, hrefused, hbus⟩ := hplace
    simp only [EthercatMaster.phase, Phase.stopped, Prod.mk.injEq] at hphase
    refine ⟨hi.rounds_le, hi.waiting, ?_, hrefused, hbus.mp hoperational⟩
    simp [EthercatMaster.phase, hphase]
  | noLaunch hoperational =>
    obtain ⟨hphase, hrefused, hbus⟩ := hplace
    refine ⟨hi.rounds_le, hi.waiting, hrefused, .inr ⟨hphase, fun hmem => ?_⟩⟩
    exact hoperational (hbus.mpr hmem)
  | launchEthercat hthread =>
    obtain ⟨hphase, hrefused, hmem⟩ := hplace
    simp only [EthercatMaster.phase, Prod.mk.injEq] at hphase
    refine ⟨hi.rounds_le, hi.waiting, ?_, hrefused, hmem⟩
    simp [EthercatMaster.phase, hphase]
  | overwriteEthercat hthread =>
    have hnone : s.ethercatThread.isSome = false := congrArg (fun phase => phase.2.1) hplace.1
    rw [hnone] at hthread
    cases hthread
  | launchDataCopy hthread =>
    obtain ⟨hphase, hrefused, hmem⟩ := hplace
    simp only [EthercatMaster.phase, Prod.mk.injEq] at hphase
    refine ⟨hi.rounds_le, hi.waiting, hrefused, .inl ⟨?_, hmem⟩⟩
    simp [EthercatMaster.phase, Phase.running, hphase]
  | overwriteDataCopy hthread =>
    have hnone : s.dataCopyThread.isSome = false := congrArg (fun phase => phase.2.2) hplace.1
    rw [hnone] at hthread
    cases hthread
  | report =>
    rw [answers_reportWkcnt]
    exact ⟨hi.rounds_le, hi.waiting, .inr ⟨hplace.1, rfl, hplace.2⟩⟩

theorem step (hi : StartInv answers s) {a : MasterAction} (hcall : a.isCall = false)
    (h : s.step a = some (s', new)) : StartInv (new.foldl BusAnswers.add answers) s' := by
  have hplace := hi.place
  cases step_cases h with
  | call hidle => cases hcall
  | setZMQPublish => exact hi.same rfl rfl rfl
  | getSlaves hpc hget =>
    rw [hpc] at hplace
    cases hplace
  | start hpc hstart => exact hi.startStep hpc hstart
  | join hjoin =>
    cases hjoin with
    | ethercat hpc | dataCopy hpc | destroy hpc =>
      rw [hpc] at hplace
      cases hplace
  | ethercat hloop =>
    obtain ⟨hanswers, hbus⟩ := ethercatStep_answers hloop answers
    rw [hanswers]
    exact hi.same hloop.phase hbus hloop.frame.main
  | dataCopy hloop =>
    obtain ⟨hanswers, hbus⟩ := dataCopyStep_answers hloop answers
    rw [hanswers]
    exact hi.same hloop.phase hbus hloop.frame.main

end StartInv

private theorem stopped_ne_running : Phase.stopped ≠ Phase.running := by decide

/-- On a stopped master, `start` goes through at most 201 rounds, of which only the last may find
the bus operational, and its error agrees with what it leaves running if and only if the bus
refused or became operational. -/
theorem start_reports_iff (start : EthercatMaster) (hstopped : start.phase = .stopped)
    (events : List MasterEvent) (s : EthercatMaster)
    (run : machine.Run (fun _ a => a.isCall = false) (start.beginCall .start) events s) :
    (BusAnswers.ofEvents events).rounds.length ≤ 201 ∧
      ecStateOperational ∉ (BusAnswers.ofEvents events).rounds.dropLast ∧
      ∀ error, s.main = .idle (some (.start, error)) →
        (s.ReportsSuccess error ↔ (BusAnswers.ofEvents events).refused = true ∨
          ecStateOperational ∈ (BusAnswers.ofEvents events).rounds) := by
  have hinv : StartInv (BusAnswers.ofEvents events) s := by
    refine run.invariant (I := fun events s => StartInv (BusAnswers.ofEvents events) s) ?_ ?_
    · exact ⟨Nat.zero_le _, nofun, hstopped, rfl, rfl⟩
    · intro events new s s' a hi hcall hstep
      rw [BusAnswers.ofEvents_append]
      exact hi.step hcall hstep
  refine ⟨hinv.rounds_le, hinv.waiting, fun error hreturned => ?_⟩
  have hstop : s.uiIssues (.call .stop) = true ↔ error = "" := by
    simp only [uiIssues, hreturned]
    split <;> simp_all
  have hplace := hinv.place
  rw [hreturned] at hplace
  rw [ReportsSuccess, hstop]
  rcases hplace with ⟨hrefused, herror, hphase⟩ | ⟨hrefused, rfl, ⟨hphase, hmem⟩ | ⟨hphase, hmem⟩⟩
  · simp [hrefused, herror, hphase, stopped_ne_running]
  · simp [hphase, hmem]
  · simp [hrefused, hphase, hmem, stopped_ne_running]

private def oneSlave : SlaveTable :=
  .single ⟨"KELO_ROBILE", 5001027, 34603265, 1, 4097, 0, 12, 12, 68⟩

/-- A discovered master, which is not running. -/
private def discovered : EthercatMaster :=
  { create (fun _ => 0) oneSlave ecStateSafeOp with
    slaves := slavesOfTable (fun _ => default) oneSlave
    main := .idle (some (.getSlaves, "")) }

/-- The steps of `start` before its loop. -/
private def enterLoop : List MasterAction :=
  [.main (.init true), .main (.config 1 oneSlave), .main (.configMap oneSlave ecStateSafeOp),
    .main .none, .main (.exchange 0 fun _ => 0)]

/-- One round in which the bus is in the given state. -/
private def round (state : UInt16) : List MasterAction :=
  [.main .none, .main (.exchange 3 fun _ => 0), .main (.state state)]

/-- The bus becomes operational in the second round. -/
theorem start_reports_second_round :
    ∃ events s, machine.Run (fun _ a => a.isCall = false) (discovered.beginCall .start) events s ∧
      s.main = .idle (some (.start, "")) ∧
      (BusAnswers.ofEvents events).rounds = [ecStateSafeOp, ecStateOperational] ∧
      s.ReportsSuccess "" := by
  have hexec : machine.exec (fun _ a => a.isCall = false) (discovered.beginCall .start)
      (enterLoop ++ round ecStateSafeOp ++ round ecStateOperational ++
        [.main .none, .main .none, .main .none, .main .none]) = some (_, _) := rfl
  have run := Machine.run_of_exec hexec
  obtain ⟨-, -, hreports⟩ := start_reports_iff discovered rfl _ _ run
  exact ⟨_, _, run, rfl, rfl, (hreports "" rfl).mpr (.inr (by decide))⟩

/-- A bus that stays in SAFE_OP uses up the retries. -/
private theorem exhaust_rounds {start : EthercatMaster} (numRetries : Nat) :
    ∀ {events : List MasterEvent} {s : EthercatMaster},
      machine.Run (fun _ a => a.isCall = false) start events s →
      s.main = .start (.roundSend numRetries) →
      ∃ events' s', machine.Run (fun _ a => a.isCall = false) start events' s' ∧
        s'.main = .idle (some (.start, "")) ∧ s'.phase = s.phase := by
  induction numRetries with
  | zero =>
    rintro events ⟨iomap, slaves, zmq, running, mutex, table, bus, main, ethercat, dataCopy⟩ run hpc
    dsimp only at hpc
    subst hpc
    have hrun := run.exec (show machine.exec (fun _ a => a.isCall = false) _
      (round ecStateSafeOp ++ [.main .none, .main .none]) = some (_, _) from rfl)
    exact ⟨_, _, hrun, rfl, rfl⟩
  | succ numRetries ih =>
    rintro events ⟨iomap, slaves, zmq, running, mutex, table, bus, main, ethercat, dataCopy⟩ run hpc
    dsimp only at hpc
    subst hpc
    have hrun := run.exec (show machine.exec (fun _ a => a.isCall = false) _
      (round ecStateSafeOp) = some (_, _) from rfl)
    obtain ⟨events', s', hend, hreturned, hphase⟩ := ih hrun rfl
    exact ⟨events', s', hend, hreturned, hphase⟩

/-- If the bus never becomes operational, the error is empty and nothing is running. -/
theorem start_reports_fails :
    ¬ ∀ start : EthercatMaster, start.phase = .stopped → ∀ events s,
      machine.Run (fun _ a => a.isCall = false) (start.beginCall .start) events s →
      (BusAnswers.ofEvents events).rounds.length ≤ 201 ∧
        ecStateOperational ∉ (BusAnswers.ofEvents events).rounds.dropLast ∧
        ∀ error, s.main = .idle (some (.start, error)) → s.ReportsSuccess error := by
  intro h
  have hexec : machine.exec (fun _ a => a.isCall = false) (discovered.beginCall .start)
      enterLoop = some (_, _) := rfl
  obtain ⟨events, s, run, hreturned, hphase⟩ := exhaust_rounds 200 (Machine.run_of_exec hexec) rfl
  obtain ⟨-, -, hreports⟩ := h discovered rfl events s run
  have hrunning := (hreports "" hreturned).1.mp rfl
  rw [hphase] at hrunning
  cases hrunning

end EthercatMaster

end Kddv
