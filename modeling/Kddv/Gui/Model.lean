import Kddv.Framework.Transition
import Kddv.Slave.Views

/-!
# The window as a machine

`GUI` with its event queue. User input and the `dataChanged` messages of the source's thread are
queued and delivered in order, by the event loop or by the nested loop of a dialog. A step of a
handler ends where it waits for another thread, for an answer from outside or for the user.
-/

namespace Kddv

open Framework

/-- The radio buttons for the data source. -/
inductive InputButton
  | ethercat
  | sniff
  | file
deriving DecidableEq

/-- The widgets that choose a data source, and the chosen files. -/
structure Controls where
  /-- Items of `if_combo_box`. -/
  interfaces : List String
  inputButton : Option InputButton
  interface : String
  ifComboBoxEnabled : Bool
  selectConfigFileEnabled : Bool
  selectPcapFileEnabled : Bool
  configFileName : String
  pcapFileName : String
  publishZmq : Bool
deriving DecidableEq

namespace Controls

def handleInputButtonChanged (c : Controls) : Controls :=
  match c.inputButton with
  | some .ethercat => { c with
    selectConfigFileEnabled := false
    selectPcapFileEnabled := false
    ifComboBoxEnabled := true }
  | some .sniff => { c with
    selectConfigFileEnabled := true
    selectPcapFileEnabled := false
    ifComboBoxEnabled := true }
  | some .file => { c with
    selectConfigFileEnabled := true
    selectPcapFileEnabled := true
    ifComboBoxEnabled := false }
  | none => { c with
    selectConfigFileEnabled := false
    selectPcapFileEnabled := false
    ifComboBoxEnabled := false }

def chooseInput (c : Controls) (button : InputButton) : Controls :=
  handleInputButtonChanged { c with inputButton := some button }

def selectSource (c : Controls) (src : String) : Controls :=
  if src = "ecat" then c.chooseInput .ethercat
  else if src = "sniffer" then c.chooseInput .sniff
  else if src = "pcap" then c.chooseInput .file
  else c

def selectNetworkInterface (c : Controls) (iface : String) : Controls :=
  if iface ∈ c.interfaces then { c with interface := iface } else c

/-- No interface has been chosen. -/
def NoInterface (c : Controls) : Prop := c.interface = "" ∨ c.interface = "Network Interface"

instance (c : Controls) : Decidable c.NoInterface := inferInstanceAs (Decidable (_ ∨ _))

end Controls

/-- Shared pointers to slaves, numbered in the order in which the objects are created. -/
abbrev SlavePtr := Nat

inductive SourceClass
  | ethercatMaster
  | packetSniffer
deriving DecidableEq

/-- `ecat_data_source`. `joinable` says whether it has a thread object that has to be joined. -/
structure DataSource where
  cls : SourceClass
  slaves : List SlavePtr
  zmqPublishEnabled : Bool
  ethercatRunning : Bool
  joinable : Bool
deriving DecidableEq

/-- How `EthercatMaster::start` ends. -/
inductive StartReply
  | noSocket
  | noSlaves
  | notOperational
  | operational
deriving DecidableEq

namespace DataSource

def new (cls : SourceClass) : DataSource := ⟨cls, [], false, false, false⟩

/-- The source after `start`, with the error message. A thread object that is assigned while it is
joinable ends the program. -/
def start (source : DataSource) (reply : StartReply) : Option (DataSource × String) :=
  match source.cls with
  | .packetSniffer =>
    if source.joinable then none else some ({ source with joinable := true }, "")
  | .ethercatMaster =>
    match reply with
    | .noSocket => some (source, "No socket connection. (try running with sudo)")
    | .noSlaves => some (source, "No slaves found")
    | .notOperational => some (source, "")
    | .operational =>
      if source.joinable then none
      else some ({ source with ethercatRunning := true, joinable := true }, "")

/-- The joins of `stop` and of the destructor. The master joins only while it is running. -/
def join (source : DataSource) : DataSource :=
  match source.cls with
  | .packetSniffer => { source with joinable := false }
  | .ethercatMaster =>
    if source.ethercatRunning then { source with ethercatRunning := false, joinable := false }
    else source

end DataSource

/-- A group box with the object names of its value labels. `slave` is the slave that
`handleDiscoverButton` built it from. -/
structure GroupBox where
  slave : SlavePtr
  objectName : String
  lines : List String
deriving DecidableEq

/-- Body of the loop of `handleDiscoverButton` over the slaves. -/
def groupBox (ptr : SlavePtr) (slave : EthercatSlave) : GroupBox where
  slave := ptr
  objectName := slave.slaveInfo.name ++ " " ++ toString slave.slaveInfo.slaveNumber
  lines := slave.getRxVariables.map ("RX" ++ ·) ++ slave.getTxVariables.map ("TX" ++ ·)

inductive UserInput
  | discoverButton
  | startButton
  | selectConfigFileButton
  | selectPcapFileButton
  | inputButton (button : InputButton)
  | ifComboBox (text : String)
  | publishZmqCheckbox (checked : Bool)
deriving DecidableEq

inductive Message
  | input (input : UserInput)
  | dataChanged (slaves : List SlavePtr)
deriving DecidableEq

inductive StartText
  | start
  | stop
deriving DecidableEq

/-- What the GUI thread is doing. `constructed` is the time before the event loop, when `main`
applies the command line. -/
inductive Handler
  | constructed
  | eventLoop
  | discoverReset
  | discoverSource
  | discoverError
  | start
  | startError
  | stop
  | selectConfigFile
  | selectPcapFile
  | terminated
deriving DecidableEq

/-- A dialog is open. Its event loop delivers messages, but the window gets no input. -/
def Handler.Modal (handler : Handler) : Prop :=
  handler = .discoverError ∨ handler = .startError ∨ handler = .selectConfigFile ∨
    handler = .selectPcapFile

instance (handler : Handler) : Decidable handler.Modal :=
  inferInstanceAs (Decidable (_ ∨ _ ∨ _ ∨ _))

structure Gui where
  controls : Controls
  startEnabled : Bool
  discoverEnabled : Bool
  startText : StartText
  wheelGroupBoxes : List GroupBox
  source : Option DataSource
  queue : List Message
  handler : Handler
  /-- `GUI::start` has called `handleDiscoverButton` and is to go on. -/
  startPending : Bool
  /-- Number of slave objects that have been created. -/
  created : Nat

/-- Answers to `handleDiscoverButton`: the error messages of the sniffer's constructor, of
`setConfigFile` and of `getSlaves`, and the slaves. -/
structure DiscoverReply where
  openError : String
  configError : String
  slaves : List EthercatSlave
  slavesError : String

inductive GuiReply
  | none
  | discover (reply : DiscoverReply)
  | start (reply : StartReply)
  | file (path : String)

/-- Settings from the command line. -/
inductive ProgramOption
  | selectSource (src : String)
  | selectNetworkInterface (iface : String)
  | setConfigFile (path : String)
  | setPcapFile (path : String)
  | enableZmq (enable : Bool)

inductive GuiAction
  | option (option : ProgramOption)
  | start
  | exec
  | input (input : UserInput)
  | post
  | deliver
  | handler (reply : GuiReply)

inductive GuiEvent
  | handleDiscoverButton (queue : List Message)
  | handleDataChanged (boxes : List GroupBox) (slaves : List SlavePtr)
  | critical (message : String)
  | nullDataSource
  | terminate

namespace Gui

/-- The state after the constructor. -/
def init (interfaces : List String) : Gui where
  controls := ⟨"Network Interface" :: interfaces, none, "Network Interface", false, false, false,
    "", "", false⟩
  startEnabled := false
  discoverEnabled := true
  startText := .start
  wheelGroupBoxes := []
  source := none
  queue := []
  handler := .constructed
  startPending := false
  created := 0

/-- `QCheckBox::setChecked` with `handleZMQCheckBox`, which runs when the state changes. -/
def setPublishZmq (s : Gui) (checked : Bool) : Gui :=
  if s.controls.publishZmq = checked then s
  else { s with
    controls := { s.controls with publishZmq := checked }
    source := s.source.map fun source => { source with zmqPublishEnabled := checked } }

def applyOption (s : Gui) : ProgramOption → Gui
  | .selectSource src => { s with controls := s.controls.selectSource src }
  | .selectNetworkInterface iface =>
    { s with controls := s.controls.selectNetworkInterface iface }
  | .setConfigFile path => { s with controls := { s.controls with configFileName := path } }
  | .setPcapFile path => { s with controls := { s.controls with pcapFileName := path } }
  | .enableZmq enable => s.setPublishZmq enable

def terminate (s : Gui) (event : GuiEvent) : Gui × List GuiEvent :=
  ({ s with handler := .terminated }, [event])

/-- First part of `handleStart`, up to the call of the source. -/
def handleStart (s : Gui) : Gui × List GuiEvent :=
  match s.source with
  | none => s.terminate .nullDataSource
  | some _ =>
    match s.startText with
    | .start => ({ s with handler := .start }, [])
    | .stop => ({ s with handler := .stop }, [])

/-- First part of `handleDiscoverButton`, up to `ecat_data_source.reset()`. -/
def handleDiscoverButton (s : Gui) : Gui × List GuiEvent :=
  ({ s with startEnabled := false, wheelGroupBoxes := [], handler := .discoverReset },
    [.handleDiscoverButton s.queue])

/-- `handleDiscoverButton` returns, to the event loop or to `GUI::start`. -/
def returnFromDiscover (s : Gui) : Gui × List GuiEvent :=
  if s.startPending ∧ s.startEnabled then { s with startPending := false }.handleStart
  else ({ s with startPending := false, handler := .eventLoop }, [])

/-- `ecat_data_source.reset()`: the destructor of a source that keeps a joinable thread object
ends the program. -/
def resetSource (s : Gui) : Option Gui :=
  match s.source with
  | none => some s
  | some source => if source.join.joinable then none else some { s with source := none }

/-- The source that `handleDiscoverButton` creates, or the text of its error box with the source
that is there while the box is shown. -/
def createSource (c : Controls) (reply : DiscoverReply) :
    Except (String × Option DataSource) DataSource :=
  match c.inputButton with
  | some .ethercat =>
    if c.NoInterface then .error ("Network Interface not selected", none)
    else .ok (.new .ethercatMaster)
  | some .sniff =>
    if c.NoInterface then .error ("Network Interface not selected", none)
    else if reply.openError ≠ "" then .error (reply.openError, some (.new .packetSniffer))
    else if c.configFileName ≠ "" then
      if reply.configError ≠ "" then .error (reply.configError, some (.new .packetSniffer))
      else .ok (.new .packetSniffer)
    else .error ("Config file not specified", some (.new .packetSniffer))
  | some .file =>
    if c.configFileName = "" then .error ("Config file not specified", none)
    else if c.pcapFileName = "" then .error ("PCAP file not specified", none)
    else if reply.openError ≠ "" then .error (reply.openError, some (.new .packetSniffer))
    else if reply.configError ≠ "" then .error (reply.configError, some (.new .packetSniffer))
    else .ok (.new .packetSniffer)
  | none => .error ("Select a data source first", none)

/-- The rest of `handleDiscoverButton` after the reset. -/
def discoverSource (s : Gui) (reply : DiscoverReply) : Gui × List GuiEvent :=
  match createSource s.controls reply with
  | .error (message, source) =>
    ({ s with source := source, handler := .discoverError }, [.critical message])
  | .ok new =>
    let ptrs := List.range' s.created reply.slaves.length
    let source := { new with slaves := ptrs, zmqPublishEnabled := s.controls.publishZmq }
    let s := { s with source := some source, created := s.created + reply.slaves.length }
    if reply.slavesError ≠ "" then
      ({ s with handler := .discoverError }, [.critical reply.slavesError])
    else
      let boxes := List.zipWith groupBox ptrs reply.slaves
      { s with wheelGroupBoxes := boxes, startEnabled := true }.returnFromDiscover

/-- The call of `start` in `handleStart`, with what follows. -/
def callStart (s : Gui) (reply : StartReply) : Gui × List GuiEvent :=
  match s.source with
  | none => s.terminate .nullDataSource
  | some source =>
    match source.start reply with
    | none => s.terminate .terminate
    | some (source, error) =>
      let s := { s with source := some source }
      if error ≠ "" then ({ s with handler := .startError }, [.critical error])
      else ({ s with discoverEnabled := false, startText := .stop, handler := .eventLoop }, [])

/-- The call of `stop` in `handleStart` returns. -/
def callStop (s : Gui) : Gui × List GuiEvent :=
  ({ s with
    source := s.source.map DataSource.join
    discoverEnabled := true
    startText := .start
    handler := .eventLoop }, [])

/-- Next step of the handler that is running. -/
def handlerStep (s : Gui) (reply : GuiReply) : Option (Gui × List GuiEvent) :=
  match s.handler, reply with
  | .discoverReset, .none =>
    match s.resetSource with
    | some s => some ({ s with handler := .discoverSource }, [])
    | none => some (s.terminate .terminate)
  | .discoverSource, .discover reply => some (s.discoverSource reply)
  | .discoverError, .none =>
    match s.resetSource with
    | some s => some s.returnFromDiscover
    | none => some (s.terminate .terminate)
  | .start, .start reply => some (s.callStart reply)
  | .startError, .none => some ({ s with handler := .eventLoop }, [])
  | .stop, .none => some s.callStop
  | .selectConfigFile, .file path =>
    let controls := { s.controls with configFileName := path }
    some ({ s with controls := controls, handler := .eventLoop }, [])
  | .selectPcapFile, .file path =>
    let controls := { s.controls with pcapFileName := path }
    some ({ s with controls := controls, handler := .eventLoop }, [])
  | _, _ => none

/-- The event loop delivers input, which has an effect only on a widget that is enabled. -/
def handleInput (s : Gui) : UserInput → Gui × List GuiEvent
  | .discoverButton => if s.discoverEnabled then s.handleDiscoverButton else (s, [])
  | .startButton => if s.startEnabled then s.handleStart else (s, [])
  | .selectConfigFileButton =>
    if s.controls.selectConfigFileEnabled then ({ s with handler := .selectConfigFile }, [])
    else (s, [])
  | .selectPcapFileButton =>
    if s.controls.selectPcapFileEnabled then ({ s with handler := .selectPcapFile }, [])
    else (s, [])
  | .inputButton button => ({ s with controls := s.controls.chooseInput button }, [])
  | .ifComboBox text =>
    if s.controls.ifComboBoxEnabled then
      ({ s with controls := s.controls.selectNetworkInterface text }, [])
    else (s, [])
  | .publishZmqCheckbox checked => (s.setPublishZmq checked, [])

/-- Delivery of the first message in the queue. -/
def deliver (s : Gui) : Option (Gui × List GuiEvent) :=
  match s.queue with
  | [] => none
  | .dataChanged slaves :: queue =>
    if s.handler = .eventLoop ∨ s.handler.Modal then
      some ({ s with queue := queue }, [.handleDataChanged s.wheelGroupBoxes slaves])
    else none
  | .input input :: queue =>
    if s.handler = .eventLoop then some ({ s with queue := queue }.handleInput input)
    else if s.handler.Modal then some ({ s with queue := queue }, [])
    else none

/-- The source's thread, while it has not been joined, posts a message with the source's slaves. -/
def post (s : Gui) : Option (Gui × List GuiEvent) :=
  match s.source with
  | none => none
  | some source =>
    if source.joinable then some ({ s with queue := s.queue ++ [.dataChanged source.slaves] }, [])
    else none

/-- Nothing happens any more once the program has ended. -/
def step (s : Gui) (action : GuiAction) : Option (Gui × List GuiEvent) :=
  if s.handler = .terminated then none
  else
    match action with
    | .option option =>
      if s.handler = .constructed then some (s.applyOption option, []) else none
    | .start =>
      if s.handler = .constructed then some { s with startPending := true }.handleDiscoverButton
      else none
    | .exec =>
      if s.handler = .constructed then some ({ s with handler := .eventLoop }, []) else none
    | .input input => some ({ s with queue := s.queue ++ [.input input] }, [])
    | .post => s.post
    | .deliver => s.deliver
    | .handler reply => s.handlerStep reply

def machine : Machine Gui GuiAction GuiEvent := ⟨step⟩

end Gui

end Kddv
