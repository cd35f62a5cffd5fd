import Kddv.Master.Model

/-!
# The steps of the master

What each method and each loop can do in one step, as relations with a constructor for each
branch. The results about the master follow these cases.
-/

namespace Kddv

open Framework

namespace EthercatMaster

/-- A step of `getSlaves`. -/
inductive GetSlavesStep (s : EthercatMaster) :
    GetSlavesPc → Reply → EthercatMaster → List MasterEvent → Prop
  | init : GetSlavesStep s .init (.init true) { s with main := .getSlaves .config }
      [.ecInit .getSlaves true]
  | initFails : GetSlavesStep s .init (.init false)
      (s.finish .getSlaves "No socket connection. (try running with sudo)")
      [.ecInit .getSlaves false]
  | config {count : Int} {table : SlaveTable} (hcount : count > 0) :
      GetSlavesStep s .config (.config count table)
        { s with
          table := table
          main := .getSlaves .stateCheck } [.ecConfig .getSlaves count]
  | configFails {count : Int} {table : SlaveTable} (hcount : ¬ count > 0) :
      GetSlavesStep s .config (.config count table)
        ({ s with table := table }.finish .getSlaves "No slaves found") [.ecConfig .getSlaves count]
  | stateCheckFails {state : UInt16} {heap : Nat → FreshMemory} (hstate : state ≠ ecStateSafeOp) :
      GetSlavesStep s .stateCheck (.discover state heap)
        ({ s with busState := state }.finish .getSlaves "Not in SAFE_OP state")
        [.ecStatecheck .getSlaves state]
  | stateCheck {heap : Nat → FreshMemory} :
      GetSlavesStep s .stateCheck (.discover ecStateSafeOp heap)
        { s with
          busState := ecStateSafeOp
          slaves := slavesOfTable heap s.table
          main := .getSlaves .close } [.ecStatecheck .getSlaves ecStateSafeOp]
  | close : GetSlavesStep s .close .none (s.finish .getSlaves "") [.ecClose]

/-- A step of `start`. -/
inductive StartStep (s : EthercatMaster) :
    StartPc → Reply → EthercatMaster → List MasterEvent → Prop
  | init : StartStep s .init (.init true) { s with main := .start .config } [.ecInit .start true]
  | initFails : StartStep s .init (.init false)
      (s.finish .start "No socket connection. (try running with sudo)") [.ecInit .start false]
  | config {count : Int} {table : SlaveTable} (hcount : count > 0) :
      StartStep s .config (.config count table)
        { s with
          table := table
          main := .start .configMap } [.ecConfig .start count]
  | configFails {count : Int} {table : SlaveTable} (hcount : ¬ count > 0) :
      StartStep s .config (.config count table)
        ({ s with table := table }.finish .start "No slaves found") [.ecConfig .start count]
  | configMap {table : SlaveTable} {state : UInt16} :
      StartStep s .configMap (.configMap table state)
        { s with
          table := table
          busState := ecStateOperational
          main := .start .send } [.ecStatecheck .start state]
  | send : StartStep s .send .none { s with main := .start .receive }
      [.ecSendProcessdata s.sentOutputs]
  | receive {wkcnt : Int} {inputs : Nat → UInt8} :
      StartStep s .receive (.exchange wkcnt inputs)
        { s with
          iomap := s.table.receive inputs s.iomap
          main := .start (.roundSend 200) } [.ecReceiveProcessdata wkcnt]
  | roundSend {numRetries : Nat} :
      StartStep s (.roundSend numRetries) .none { s with main := .start (.roundReceive numRetries) }
        [.ecSendProcessdata s.sentOutputs]
  | roundReceive {numRetries : Nat} {wkcnt : Int} {inputs : Nat → UInt8} :
      StartStep s (.roundReceive numRetries) (.exchange wkcnt inputs)
        { s with
          iomap := s.table.receive inputs s.iomap
          main := .start (.roundCheck numRetries wkcnt) } [.ecReceiveProcessdata wkcnt]
  | retry {numRetries : Nat} {wkcnt : Int} {state : UInt16}
      (hretry : numRetries ≠ 0 ∧ state ≠ ecStateOperational) :
      StartStep s (.roundCheck numRetries wkcnt) (.state state)
        { s with
          busState := state
          main := .start (.roundSend (numRetries - 1)) } [.ecStatecheck .start state]
  | endRounds {numRetries : Nat} {wkcnt : Int} {state : UInt16}
      (hretry : ¬ (numRetries ≠ 0 ∧ state ≠ ecStateOperational)) :
      StartStep s (.roundCheck numRetries wkcnt) (.state state)
        { s with
          busState := state
          main := .start (.launch wkcnt) } [.ecStatecheck .start state]
  | launch {wkcnt : Int} (hstate : s.busState = ecStateOperational) :
      StartStep s (.launch wkcnt) .none
        { s with
          ethercatRunning := true
          main := .start (.launchEthercat wkcnt) } []
  | noLaunch {wkcnt : Int} (hstate : s.busState ≠ ecStateOperational) :
      StartStep s (.launch wkcnt) .none { s with main := .start (.report wkcnt) } []
  | launchEthercat {wkcnt : Int} (hthread : s.ethercatThread = none) :
      StartStep s (.launchEthercat wkcnt) .none
        { s with
          ethercatThread := some .check
          main := .start (.launchDataCopy wkcnt) } []
  | overwriteEthercat {wkcnt : Int} (hthread : s.ethercatThread.isSome = true) :
      StartStep s (.launchEthercat wkcnt) .none { s with main := .terminated } []
  | launchDataCopy {wkcnt : Int} (hthread : s.dataCopyThread = none) :
      StartStep s (.launchDataCopy wkcnt) .none
        { s with
          dataCopyThread := some .check
          main := .start (.report wkcnt) } []
  | overwriteDataCopy {wkcnt : Int} (hthread : s.dataCopyThread.isSome = true) :
      StartStep s (.launchDataCopy wkcnt) .none { s with main := .terminated } []
  | report {wkcnt : Int} :
      StartStep s (.report wkcnt) .none (s.finish .start "") (s.reportWkcnt wkcnt)

/-- A step of the calling thread that waits for the loops. -/
inductive JoinStep (s : EthercatMaster) : EthercatMaster → Prop
  | ethercat {call : Call} (hpc : s.main = .joinEthercat call)
      (hdone : s.ethercatThread = none ∨ s.ethercatThread = some .done) :
      JoinStep s { s with
        ethercatThread := none
        main := .joinDataCopy call }
  | dataCopy {call : Call} (hpc : s.main = .joinDataCopy call) (hcall : call ≠ .destroy)
      (hdone : s.dataCopyThread = none ∨ s.dataCopyThread = some .done) :
      JoinStep s ({ s with dataCopyThread := none }.finish call "")
  | destroy (hpc : s.main = .joinDataCopy .destroy)
      (hdone : s.dataCopyThread = none ∨ s.dataCopyThread = some .done) :
      JoinStep s { s with dataCopyThread := none }.destroyMembers

/-- A step of `ethercatLoop` or `copyData`. -/
inductive EthercatStep (s : EthercatMaster) :
    Reply → EthercatMaster → List MasterEvent → Prop
  | goOn (hpc : s.ethercatThread = some .check) (hrunning : s.ethercatRunning = true) :
      EthercatStep s .none { s with ethercatThread := some .send } []
  | leave (hpc : s.ethercatThread = some .check) (hrunning : s.ethercatRunning = false) :
      EthercatStep s .none { s with ethercatThread := some .close } []
  | send (hpc : s.ethercatThread = some .send) :
      EthercatStep s .none { s with ethercatThread := some .receive }
        [.ecSendProcessdata s.sentOutputs]
  | receive {wkcnt : Int} {inputs : Nat → UInt8} (hpc : s.ethercatThread = some .receive) :
      EthercatStep s (.exchange wkcnt inputs)
        { s with
          iomap := s.table.receive inputs s.iomap
          ethercatThread := some .tryLock }
        (.ecReceiveProcessdata wkcnt :: .cycle ⟨s.table, s.table.receive inputs s.iomap⟩ ::
          s.reportWkcnt wkcnt)
  | lock (hpc : s.ethercatThread = some .tryLock) (hfree : s.dataMutex = none) :
      EthercatStep s (.tryLock true)
        { s with
          dataMutex := some .ethercat
          ethercatThread := some (.copyRx 0) } [.copyData]
  | skip {ok : Bool} (hpc : s.ethercatThread = some .tryLock)
      (hbusy : ¬ (s.dataMutex = none ∧ ok = true)) :
      EthercatStep s (.tryLock ok) { s with ethercatThread := some .check } []
  | copyRx {i : Nat} {slave : EthercatSlave} (hpc : s.ethercatThread = some (.copyRx i))
      (hslave : s.slaves[i]? = some slave) :
      EthercatStep s .none
        { s with
          slaves := s.slaves.set i (slave.copyRx (s.image.outputs slave))
          ethercatThread := some (.copyTx i) } []
  | copyTx {i : Nat} {slave : EthercatSlave} (hpc : s.ethercatThread = some (.copyTx i))
      (hslave : s.slaves[i]? = some slave) :
      EthercatStep s .none
        { s with
          slaves := s.slaves.set i (slave.copyTx (s.image.inputs slave))
          ethercatThread := some (.copyRx (i + 1)) } []
  | unlock {i : Nat} (hpc : s.ethercatThread = some (.copyRx i)) (hend : s.slaves[i]? = none) :
      EthercatStep s .none
        { s with
          dataMutex := none
          ethercatThread := some .check } []
  | close (hpc : s.ethercatThread = some .close) :
      EthercatStep s .none { s with ethercatThread := some .done } [.ecClose]

/-- A step of `dataCopyLoop`. -/
inductive DataCopyStep (s : EthercatMaster) : EthercatMaster → List MasterEvent → Prop
  | goOn (hpc : s.dataCopyThread = some .check) (hrunning : s.ethercatRunning = true) :
      DataCopyStep s { s with dataCopyThread := some .lock } []
  | leave (hpc : s.dataCopyThread = some .check) (hrunning : s.ethercatRunning = false) :
      DataCopyStep s { s with dataCopyThread := some .close } []
  | lock (hpc : s.dataCopyThread = some .lock) (hfree : s.dataMutex = none) :
      DataCopyStep s
        { s with
          dataMutex := some .dataCopy
          dataCopyThread := some (.callback []) } [.lockGuard]
  | readCallback {read : List EthercatSlave} {slave : EthercatSlave}
      (hpc : s.dataCopyThread = some (.callback read))
      (hslave : s.slaves[read.length]? = some slave) :
      DataCopyStep s { s with dataCopyThread := some (.callback (read ++ [slave])) } []
  | callback {read : List EthercatSlave} (hpc : s.dataCopyThread = some (.callback read))
      (hend : s.slaves[read.length]? = none) :
      DataCopyStep s
        { s with
          dataCopyThread := some (if s.zmqPublishEnabled then .publish [] else .unlock) }
        [.callback read]
  | readPublish {read : List EthercatSlave} {slave : EthercatSlave}
      (hpc : s.dataCopyThread = some (.publish read))
      (hslave : s.slaves[read.length]? = some slave) :
      DataCopyStep s { s with dataCopyThread := some (.publish (read ++ [slave])) } []
  | publish {read : List EthercatSlave} (hpc : s.dataCopyThread = some (.publish read))
      (hend : s.slaves[read.length]? = none) :
      DataCopyStep s { s with dataCopyThread := some .unlock } [.publishMsg read]
  | unlock (hpc : s.dataCopyThread = some .unlock) :
      DataCopyStep s
        { s with
          dataMutex := none
          dataCopyThread := some .check } []
  | close (hpc : s.dataCopyThread = some .close) :
      DataCopyStep s { s with dataCopyThread := some .done } [.ecClose]

/-- A step of the master. -/
inductive Step (s : EthercatMaster) :
    MasterAction → EthercatMaster → List MasterEvent → Prop
  | call {call : Call} {last : Option (Call × String)} (hidle : s.main = .idle last) :
      Step s (.call call) (s.beginCall call) []
  | setZMQPublish {value : Bool} :
      Step s (.setZMQPublish value) { s with zmqPublishEnabled := value } []
  | getSlaves {pc : GetSlavesPc} {reply : Reply} {s' : EthercatMaster} {new : List MasterEvent}
      (hpc : s.main = .getSlaves pc) (h : GetSlavesStep s pc reply s' new) :
      Step s (.main reply) s' new
  | start {pc : StartPc} {reply : Reply} {s' : EthercatMaster} {new : List MasterEvent}
      (hpc : s.main = .start pc) (h : StartStep s pc reply s' new) : Step s (.main reply) s' new
  | join {reply : Reply} {s' : EthercatMaster} (h : JoinStep s s') : Step s (.main reply) s' []
  | ethercat {reply : Reply} {s' : EthercatMaster} {new : List MasterEvent}
      (h : EthercatStep s reply s' new) : Step s (.ethercat reply) s' new
  | dataCopy {s' : EthercatMaster} {new : List MasterEvent} (h : DataCopyStep s s' new) :
      Step s .dataCopy s' new

variable {s s' : EthercatMaster} {reply : Reply} {new : List MasterEvent}

theorem getSlavesStep_cases {pc : GetSlavesPc} (h : s.getSlavesStep pc reply = some (s', new)) :
    GetSlavesStep s pc reply s' new := by
  unfold getSlavesStep at h
  split at h
  · rename_i ok
    cases ok with
    | true => cases h; exact .init
    | false => cases h; exact .initFails
  · split at h
    · cases h
      exact .config ‹_›
    · cases h
      exact .configFails ‹_›
  · split at h
    · cases h
      exact .stateCheckFails ‹_›
    · rename_i hstate
      obtain rfl := not_not.mp hstate
      cases h
      exact .stateCheck
  · cases h
    exact .close
  · cases h

theorem startStep_cases {pc : StartPc} (h : s.startStep pc reply = some (s', new)) :
    StartStep s pc reply s' new := by
  unfold startStep at h
  split at h
  · rename_i ok
    cases ok with
    | true => cases h; exact .init
    | false => cases h; exact .initFails
  · split at h
    · cases h
      exact .config ‹_›
    · cases h
      exact .configFails ‹_›
  · cases h
    exact .configMap
  · cases h
    exact .send
  · cases h
    exact .receive
  · cases h
    exact .roundSend
  · cases h
    exact .roundReceive
  · split at h
    · cases h
      exact .retry ‹_›
    · cases h
      exact .endRounds ‹_›
  · split at h
    · cases h
      exact .launch ‹_›
    · cases h
      exact .noLaunch ‹_›
  · split at h
    · cases h
      exact .overwriteEthercat ‹_›
    · rename_i hthread
      cases h
      exact .launchEthercat (Option.not_isSome_iff_eq_none.mp hthread)
  · split at h
    · cases h
      exact .overwriteDataCopy ‹_›
    · rename_i hthread
      cases h
      exact .launchDataCopy (Option.not_isSome_iff_eq_none.mp hthread)
  · cases h
    exact .report
  · cases h

theorem ethercatStep_cases (h : s.ethercatStep reply = some (s', new)) :
    EthercatStep s reply s' new := by
  unfold ethercatStep at h
  split at h
  · cases h
    by_cases hrunning : s.ethercatRunning = true
    · rw [if_pos hrunning]
      exact .goOn ‹_› hrunning
    · rw [if_neg hrunning]
      exact .leave ‹_› (Bool.eq_false_iff.mpr hrunning)
  · cases h
    exact .send ‹_›
  · cases h
    exact .receive ‹_›
  · split at h
    · rename_i hpc hfree
      obtain ⟨hfree, rfl⟩ := hfree
      cases h
      exact .lock hpc hfree
    · cases h
      exact .skip ‹_› ‹_›
  · split at h
    · cases h
      exact .unlock ‹_› ‹_›
    · cases h
      exact .copyRx ‹_› ‹_›
  · split at h
    · cases h
    · cases h
      exact .copyTx ‹_› ‹_›
  · cases h
    exact .close ‹_›
  · cases h

theorem dataCopyStep_cases (h : s.dataCopyStep = some (s', new)) : DataCopyStep s s' new := by
  unfold dataCopyStep at h
  split at h
  · cases h
    by_cases hrunning : s.ethercatRunning = true
    · rw [if_pos hrunning]
      exact .goOn ‹_› hrunning
    · rw [if_neg hrunning]
      exact .leave ‹_› (Bool.eq_false_iff.mpr hrunning)
  · split at h
    · cases h
      exact .lock ‹_› ‹_›
    · cases h
  · split at h
    · cases h
      exact .readCallback ‹_› ‹_›
    · cases h
      exact .callback ‹_› ‹_›
  · split at h
    · cases h
      exact .readPublish ‹_› ‹_›
    · cases h
      exact .publish ‹_› ‹_›
  · cases h
    exact .unlock ‹_›
  · cases h
    exact .close ‹_›
  · cases h
  · cases h

private theorem mainStep_cases (h : s.mainStep reply = some (s', new)) :
    Step s (.main reply) s' new := by
  unfold mainStep at h
  split at h
  · exact .getSlaves ‹_› (getSlavesStep_cases h)
  · exact .start ‹_› (startStep_cases h)
  · rename_i call hpc
    unfold joinEthercatStep at h
    split at h
    · cases h
      exact .join (.ethercat hpc ‹_›)
    · cases h
  · rename_i call hpc
    unfold joinDataCopyStep at h
    split at h
    · split at h
      · rename_i hdone hcall
        subst hcall
        cases h
        exact .join (.destroy hpc hdone)
      · rename_i hdone hcall
        cases h
        exact .join (.dataCopy hpc hcall hdone)
    · cases h
  · cases h

theorem step_cases {a : MasterAction} (h : s.step a = some (s', new)) : Step s a s' new := by
  unfold step at h
  split at h
  · cases h
  · split at h
    · split at h
      · cases h
        exact .call ‹_›
      · cases h
    · cases h
      exact .setZMQPublish
    · exact mainStep_cases h
    · exact .ethercat (ethercatStep_cases h)
    · exact .dataCopy (dataCopyStep_cases h)

end EthercatMaster

end Kddv
