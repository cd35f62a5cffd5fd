import Kddv.Framework.Transition
import Kddv.Master.GetSlaves

/-!
# The EtherCAT master as a machine

`EthercatMaster` with the thread that calls its methods and the two threads that `start`
launches. A step is one access to shared data or one call of the EtherCAT library, whose
answers come with the action. The scheduler chooses the order of the steps.
-/

namespace Kddv

open Framework

/-- Methods that a user interface calls. -/
inductive Call
  | getSlaves
  | start
  | stop
  | destroy
deriving DecidableEq

/-- Where `getSlaves` is. -/
inductive GetSlavesPc
  | init
  | config
  | stateCheck
  | close
deriving DecidableEq

/-- Where `start` is. -/
inductive StartPc
  | init
  | config
  | configMap
  | send
  | receive
  | roundSend (numRetries : Nat)
  | roundReceive (numRetries : Nat)
  | roundCheck (numRetries : Nat) (wkcnt : Int)
  | launch (wkcnt : Int)
  | launchEthercat (wkcnt : Int)
  | launchDataCopy (wkcnt : Int)
  | report (wkcnt : Int)
deriving DecidableEq

/-- Where the calling thread is. Between the calls, the last call and its error message. -/
inductive MainPc
  | idle (last : Option (Call × String))
  | getSlaves (pc : GetSlavesPc)
  | start (pc : StartPc)
  | joinEthercat (call : Call)
  | joinDataCopy (call : Call)
  | terminated
  | destroyed
deriving DecidableEq

/-- Where `ethercatLoop` is, with the index of the slave that is copied. -/
inductive EthercatPc
  | check
  | send
  | receive
  | tryLock
  | copyRx (i : Nat)
  | copyTx (i : Nat)
  | close
  | done
deriving DecidableEq

/-- Where `dataCopyLoop` is, with the slaves that the callback or `convertToJson` has read. -/
inductive DataCopyPc
  | check
  | lock
  | callback (read : List EthercatSlave)
  | publish (read : List EthercatSlave)
  | unlock
  | close
  | done
deriving DecidableEq

inductive LoopThread
  | ethercat
  | dataCopy
deriving DecidableEq

structure EthercatMaster where
  iomap : Nat → UInt8
  slaves : List EthercatSlave
  zmqPublishEnabled : Bool
  ethercatRunning : Bool
  dataMutex : Option LoopThread
  /-- `ec_slave` from index 1 on, as the last configuration left it. -/
  table : SlaveTable
  /-- `ec_slave[0].state` -/
  busState : UInt16
  main : MainPc
  ethercatThread : Option EthercatPc
  dataCopyThread : Option DataCopyPc

/-- What the surroundings decide in a step: answers of the EtherCAT library, the memory of new
objects, and whether `try_lock` gets a mutex that is free. -/
inductive Reply
  | none
  | init (ok : Bool)
  | config (count : Int) (table : SlaveTable)
  | configMap (table : SlaveTable) (state : UInt16)
  | discover (state : UInt16) (heap : Nat → FreshMemory)
  | exchange (wkcnt : Int) (inputs : Nat → UInt8)
  | state (state : UInt16)
  | tryLock (ok : Bool)

inductive MasterAction
  | call (call : Call)
  | setZMQPublish (value : Bool)
  | main (reply : Reply)
  | ethercat (reply : Reply)
  | dataCopy

/-- `IOmap` with the table that divides it among the slaves. -/
structure ProcessImage where
  table : SlaveTable
  iomap : Nat → UInt8

/-- Calls of the library with their answers, and what the loops do that others can see. -/
inductive MasterEvent
  | ecInit (caller : Call) (ok : Bool)
  | ecConfig (caller : Call) (count : Int)
  | ecStatecheck (caller : Call) (state : UInt16)
  | ecClose
  | ecSendProcessdata (outputs : List (Nat × UInt8))
  | ecReceiveProcessdata (wkcnt : Int)
  | workingCounterIs (wkcnt expected : Int)
  | cycle (image : ProcessImage)
  | copyData
  | lockGuard
  | callback (slaves : List EthercatSlave)
  | publishMsg (slaves : List EthercatSlave)

namespace SlaveTable

/-- The positions of the outputs of all slaves in `IOmap`. -/
def outputPositions (table : SlaveTable) : List Nat :=
  table.slaves.flatMap fun slave => List.range' slave.outputs slave.outputBytes

def IsInput (table : SlaveTable) (position : Nat) : Prop :=
  ∃ slave ∈ table.slaves, slave.inputs ≤ position ∧ position < slave.inputs + slave.inputBytes

instance (table : SlaveTable) (position : Nat) : Decidable (table.IsInput position) := by
  unfold IsInput
  infer_instance

/-- `ec_slave[slave_number]` -/
def slaveAt (table : SlaveTable) (slaveNumber : Int) : EcSlave :=
  (table.slaves[slaveNumber.toNat - 1]?).getD default

/-- A reply of the bus changes the inputs only. -/
def receive (table : SlaveTable) (inputs iomap : Nat → UInt8) : Nat → UInt8 :=
  fun position => if table.IsInput position then inputs position else iomap position

end SlaveTable

namespace ProcessImage

/-- The pointer to a position of `IOmap`. -/
def pointer (image : ProcessImage) (position : Nat) : Pointer :=
  fun size => (List.range size).map fun i => image.iomap (position + i)

/-- `ec_slave[slave_number].outputs` -/
def outputs (image : ProcessImage) (slave : EthercatSlave) : Pointer :=
  image.pointer (image.table.slaveAt slave.slaveInfo.slaveNumber).outputs

/-- `ec_slave[slave_number].inputs` -/
def inputs (image : ProcessImage) (slave : EthercatSlave) : Pointer :=
  image.pointer (image.table.slaveAt slave.slaveInfo.slaveNumber).inputs

/-- One slave copied from the image. -/
def copy (image : ProcessImage) (slave : EthercatSlave) : EthercatSlave :=
  slave.copyData (image.outputs slave) (image.inputs slave)

end ProcessImage

namespace EthercatMaster

/-- The output bytes handed to `ec_send_processdata`, with their positions. -/
def sentOutputs (s : EthercatMaster) : List (Nat × UInt8) :=
  s.table.outputPositions.map fun position => (position, s.iomap position)

def expectedWkcnt (s : EthercatMaster) : Int := s.slaves.length * 3

def reportWkcnt (s : EthercatMaster) (wkcnt : Int) : List MasterEvent :=
  if s.expectedWkcnt ≠ wkcnt then [.workingCounterIs wkcnt s.expectedWkcnt] else []

def image (s : EthercatMaster) : ProcessImage := ⟨s.table, s.iomap⟩

/-- The object after its constructor, in memory with the given content. -/
def create (iomap : Nat → UInt8) (table : SlaveTable) (busState : UInt16) : EthercatMaster where
  iomap := iomap
  slaves := []
  zmqPublishEnabled := false
  ethercatRunning := false
  dataMutex := none
  table := table
  busState := busState
  main := .idle none
  ethercatThread := none
  dataCopyThread := none

/-- The call returns. -/
def finish (s : EthercatMaster) (call : Call) (error : String) : EthercatMaster :=
  { s with main := .idle (some (call, error)) }

/-- The end of the destructor: a thread object that is still joinable ends the program. -/
def destroyMembers (s : EthercatMaster) : EthercatMaster :=
  { s with main :=
      if s.ethercatThread.isSome ∨ s.dataCopyThread.isSome then .terminated else .destroyed }

/-- First step of a call. -/
def beginCall (s : EthercatMaster) (call : Call) : EthercatMaster :=
  match call with
  | .getSlaves => { s with slaves := [], main := .getSlaves .init }
  | .start => { s with main := .start .init }
  | .stop =>
    if s.ethercatRunning then { s with ethercatRunning := false, main := .joinEthercat .stop }
    else s.finish .stop ""
  | .destroy =>
    if s.ethercatRunning then { s with ethercatRunning := false, main := .joinEthercat .destroy }
    else s.destroyMembers

/-- One step of `getSlaves`. -/
def getSlavesStep (s : EthercatMaster) (pc : GetSlavesPc) (reply : Reply) :
    Option (EthercatMaster × List MasterEvent) :=
  match pc, reply with
  | .init, .init ok =>
    if ok then some ({ s with main := .getSlaves .config }, [.ecInit .getSlaves ok])
    else some (s.finish .getSlaves "No socket connection. (try running with sudo)",
      [.ecInit .getSlaves ok])
  | .config, .config count table =>
    if count > 0 then
      some ({ s with table := table, main := .getSlaves .stateCheck }, [.ecConfig .getSlaves count])
    else some ({ s with table := table }.finish .getSlaves "No slaves found",
      [.ecConfig .getSlaves count])
  | .stateCheck, .discover state heap =>
    if state ≠ ecStateSafeOp then
      some ({ s with busState := state }.finish .getSlaves "Not in SAFE_OP state",
        [.ecStatecheck .getSlaves state])
    else
      let slaves := slavesOfTable heap s.table
      some ({ s with busState := state, slaves := slaves, main := .getSlaves .close },
        [.ecStatecheck .getSlaves state])
  | .close, .none => some (s.finish .getSlaves "", [.ecClose])
  | _, _ => none

/-- One step of `start`. -/
def startStep (s : EthercatMaster) (pc : StartPc) (reply : Reply) :
    Option (EthercatMaster × List MasterEvent) :=
  match pc, reply with
  | .init, .init ok =>
    if ok then some ({ s with main := .start .config }, [.ecInit .start ok])
    else some (s.finish .start "No socket connection. (try running with sudo)",
      [.ecInit .start ok])
  | .config, .config count table =>
    if count > 0 then
      some ({ s with table := table, main := .start .configMap }, [.ecConfig .start count])
    else some ({ s with table := table }.finish .start "No slaves found", [.ecConfig .start count])
  | .configMap, .configMap table state =>
    some ({ s with table := table, busState := ecStateOperational, main := .start .send },
      [.ecStatecheck .start state])
  | .send, .none =>
    some ({ s with main := .start .receive }, [.ecSendProcessdata s.sentOutputs])
  | .receive, .exchange wkcnt inputs =>
    some ({ s with iomap := s.table.receive inputs s.iomap, main := .start (.roundSend 200) },
      [.ecReceiveProcessdata wkcnt])
  | .roundSend numRetries, .none =>
    some ({ s with main := .start (.roundReceive numRetries) }, [.ecSendProcessdata s.sentOutputs])
  | .roundReceive numRetries, .exchange wkcnt inputs =>
    let iomap := s.table.receive inputs s.iomap
    some ({ s with iomap := iomap, main := .start (.roundCheck numRetries wkcnt) },
      [.ecReceiveProcessdata wkcnt])
  | .roundCheck numRetries wkcnt, .state state =>
    -- the retries are counted down after they are compared with zero
    if numRetries ≠ 0 ∧ state ≠ ecStateOperational then
      some ({ s with busState := state, main := .start (.roundSend (numRetries - 1)) },
        [.ecStatecheck .start state])
    else
      some ({ s with busState := state, main := .start (.launch wkcnt) },
        [.ecStatecheck .start state])
  | .launch wkcnt, .none =>
    if s.busState = ecStateOperational then
      some ({ s with ethercatRunning := true, main := .start (.launchEthercat wkcnt) }, [])
    else some ({ s with main := .start (.report wkcnt) }, [])
  | .launchEthercat wkcnt, .none =>
    if s.ethercatThread.isSome then some ({ s with main := .terminated }, [])
    else
      some ({ s with ethercatThread := some .check, main := .start (.launchDataCopy wkcnt) }, [])
  | .launchDataCopy wkcnt, .none =>
    if s.dataCopyThread.isSome then some ({ s with main := .terminated }, [])
    else some ({ s with dataCopyThread := some .check, main := .start (.report wkcnt) }, [])
  | .report wkcnt, .none => some (s.finish .start "", s.reportWkcnt wkcnt)
  | _, _ => none

/-- The calling thread waits for `ethercatLoop`. -/
def joinEthercatStep (s : EthercatMaster) (call : Call) :
    Option (EthercatMaster × List MasterEvent) :=
  if s.ethercatThread = none ∨ s.ethercatThread = some .done then
    some ({ s with ethercatThread := none, main := .joinDataCopy call }, [])
  else none

/-- The calling thread waits for `dataCopyLoop`, and the call returns. -/
def joinDataCopyStep (s : EthercatMaster) (call : Call) :
    Option (EthercatMaster × List MasterEvent) :=
  if s.dataCopyThread = none ∨ s.dataCopyThread = some .done then
    if call = .destroy then some ({ s with dataCopyThread := none }.destroyMembers, [])
    else some ({ s with dataCopyThread := none }.finish call "", [])
  else none

/-- The rest of a call, one step of the calling thread at a time. -/
def mainStep (s : EthercatMaster) (reply : Reply) : Option (EthercatMaster × List MasterEvent) :=
  match s.main with
  | .getSlaves pc => s.getSlavesStep pc reply
  | .start pc => s.startStep pc reply
  | .joinEthercat call => s.joinEthercatStep call
  | .joinDataCopy call => s.joinDataCopyStep call
  | _ => none

/-- One step of `ethercatLoop` with `copyData`. -/
def ethercatStep (s : EthercatMaster) (reply : Reply) :
    Option (EthercatMaster × List MasterEvent) :=
  match s.ethercatThread, reply with
  | some .check, .none =>
    some ({ s with ethercatThread := some (if s.ethercatRunning then .send else .close) }, [])
  | some .send, .none =>
    some ({ s with ethercatThread := some .receive }, [.ecSendProcessdata s.sentOutputs])
  | some .receive, .exchange wkcnt inputs =>
    let iomap := s.table.receive inputs s.iomap
    some ({ s with iomap := iomap, ethercatThread := some .tryLock },
      .ecReceiveProcessdata wkcnt :: .cycle ⟨s.table, iomap⟩ :: s.reportWkcnt wkcnt)
  | some .tryLock, .tryLock ok =>
    if s.dataMutex = none ∧ ok then
      some ({ s with dataMutex := some .ethercat, ethercatThread := some (.copyRx 0) }, [.copyData])
    else some ({ s with ethercatThread := some .check }, [])
  | some (.copyRx i), .none =>
    match s.slaves[i]? with
    | none => some ({ s with dataMutex := none, ethercatThread := some .check }, [])
    | some slave =>
      let slaves := s.slaves.set i (slave.copyRx (s.image.outputs slave))
      some ({ s with slaves := slaves, ethercatThread := some (.copyTx i) }, [])
  | some (.copyTx i), .none =>
    match s.slaves[i]? with
    | none => none
    | some slave =>
      let slaves := s.slaves.set i (slave.copyTx (s.image.inputs slave))
      some ({ s with slaves := slaves, ethercatThread := some (.copyRx (i + 1)) }, [])
  | some .close, .none => some ({ s with ethercatThread := some .done }, [.ecClose])
  | _, _ => none

/-- One step of `dataCopyLoop`. The callback and `convertToJson` read slave after slave. -/
def dataCopyStep (s : EthercatMaster) : Option (EthercatMaster × List MasterEvent) :=
  match s.dataCopyThread with
  | some .check =>
    some ({ s with dataCopyThread := some (if s.ethercatRunning then .lock else .close) }, [])
  | some .lock =>
    if s.dataMutex = none then
      some ({ s with dataMutex := some .dataCopy, dataCopyThread := some (.callback []) },
        [.lockGuard])
    else none
  | some (.callback read) =>
    match s.slaves[read.length]? with
    | some slave => some ({ s with dataCopyThread := some (.callback (read ++ [slave])) }, [])
    | none =>
      let next := if s.zmqPublishEnabled then .publish [] else .unlock
      some ({ s with dataCopyThread := some next }, [.callback read])
  | some (.publish read) =>
    match s.slaves[read.length]? with
    | some slave => some ({ s with dataCopyThread := some (.publish (read ++ [slave])) }, [])
    | none => some ({ s with dataCopyThread := some .unlock }, [.publishMsg read])
  | some .unlock => some ({ s with dataMutex := none, dataCopyThread := some .check }, [])
  | some .close => some ({ s with dataCopyThread := some .done }, [.ecClose])
  | some .done => none
  | none => none

/-- Nothing runs any more after `std::terminate`. -/
def step (s : EthercatMaster) (action : MasterAction) :
    Option (EthercatMaster × List MasterEvent) :=
  if s.main = .terminated then none
  else
    match action with
    | .call call =>
      match s.main with
      | .idle _ => some (s.beginCall call, [])
      | _ => none
    | .setZMQPublish value => some ({ s with zmqPublishEnabled := value }, [])
    | .main reply => s.mainStep reply
    | .ethercat reply => s.ethercatStep reply
    | .dataCopy => s.dataCopyStep

def machine : Machine EthercatMaster MasterAction MasterEvent := ⟨step⟩

/-- The calls that the user interfaces make: slaves are discovered once, a source that failed
is dropped, and a source that was started is stopped or dropped before it is started again. -/
def uiIssues (s : EthercatMaster) : MasterAction → Bool
  | .call call =>
    match s.main with
    | .idle none => call = .getSlaves
    | .idle (some (.getSlaves, error)) =>
      if error = "" then call = .start ∨ call = .destroy else call = .destroy
    | .idle (some (.start, error)) =>
      if error = "" then call = .stop ∨ call = .destroy else call = .start ∨ call = .destroy
    | .idle (some (.stop, _)) => call = .start ∨ call = .destroy
    | _ => false
  | _ => true

end EthercatMaster

end Kddv
