import Kddv.Framework.Progress
import Kddv.Ui.Grammar
import Kddv.Ui.Tui

/-!
# Starting with the same command line

What both programs do with the settings of the command line until they wait for the user: which
source they start, and which error message they show.
-/

namespace Kddv

open Framework

/-- The calls of `main` in the graphical interface after the argument loop. -/
def Settings.programOptions (s : Settings) : List ProgramOption :=
  let source : List ProgramOption :=
    if s.inputSource ≠ "" then [.selectSource s.inputSource] else []
  let iface : List ProgramOption :=
    if s.networkInterface ≠ "" then [.selectNetworkInterface s.networkInterface] else []
  let config : List ProgramOption := if s.configFile ≠ "" then [.setConfigFile s.configFile] else []
  let pcap : List ProgramOption := if s.pcapFile ≠ "" then [.setPcapFile s.pcapFile] else []
  let zmq : List ProgramOption := if s.publishZmq then [.enableZmq true] else []
  source ++ iface ++ config ++ pcap ++ zmq

/-- The window after these calls, on a computer with the given interfaces. -/
def Gui.ofSettings (interfaces : List String) (s : Settings) : Gui :=
  s.programOptions.foldl Gui.applyOption (.init interfaces)

/-- `main` of the terminal interface after its checks. -/
def Tui.ofSettings (s : Settings) : Tui :=
  .init s.inputSource s.configFile s.pcapFile s.publishZmq

/-- What the sniffer, the bus and the config file answer when the program starts. -/
structure StartAnswers where
  discover : DiscoverReply
  start : StartReply

/-- The steps of `GUI::start`, with these answers. -/
def Gui.Starting (start : Bool) (answers : StartAnswers) (g : Gui) : GuiAction → Prop
  | .start => start = true
  | .handler .none => g.handler = .discoverReset
  | .handler (.discover reply) => reply = answers.discover
  | .handler (.start reply) => reply = answers.start
  | _ => False

/-- The steps of `TUI::start` up to its loop, with these answers. -/
def Tui.Starting (answers : StartAnswers) (_ : Tui) : TuiAction → Prop
  | .create openError configError =>
    openError = answers.discover.openError ∧ configError = answers.discover.configError
  | .getSlaves slaves error =>
    slaves = answers.discover.slaves ∧ error = answers.discover.slavesError
  | .callStart reply => reply = answers.start
  | _ => False

/-- The error message that is shown, and the source with threads that run. -/
structure StartOutcome where
  error : Option String
  source : Option DataSource
deriving DecidableEq

/-- A dialog shows the last message. -/
def Gui.startOutcome (g : Gui) (events : List GuiEvent) : StartOutcome where
  error := (events.filterMap fun
    | .critical message => some message
    | _ => none).getLast?
  source := g.source.filter DataSource.joinable

/-- After an error the status line shows the last message. -/
def Tui.startOutcome (t : Tui) (events : List TuiEvent) : StartOutcome where
  error := if t.pc = .waitAfterError then (events.filterMap fun
      | .writeStatus message => some message
      | .dataCallback => none).getLast?
    else none
  source := t.member.source.filter DataSource.joinable

/-- Both programs get to a point where they wait for the user, in one way only, and there they show
the same. -/
def SameStart (interfaces : List String) (guiSettings tuiSettings : Settings)
    (answers : StartAnswers) : Prop :=
  (∃ events g, Gui.machine.StopsAt (Gui.Starting guiSettings.start answers)
    (.ofSettings interfaces guiSettings) events g) ∧
  (∃ events t, Tui.machine.StopsAt (Tui.Starting answers) (.ofSettings tuiSettings) events t) ∧
  ∀ guiEvents g tuiEvents t,
    Gui.machine.StopsAt (Gui.Starting guiSettings.start answers)
      (.ofSettings interfaces guiSettings) guiEvents g →
    Tui.machine.StopsAt (Tui.Starting answers) (.ofSettings tuiSettings) tuiEvents t →
    g.startOutcome guiEvents = t.startOutcome tuiEvents

/-! ## The source -/

/-- The interface can be chosen in the window. -/
def Settings.InterfaceListed (interfaces : List String) (s : Settings) : Prop :=
  s.networkInterface ∈ interfaces ∧ s.networkInterface ≠ "Network Interface"

instance (interfaces : List String) (s : Settings) : Decidable (s.InterfaceListed interfaces) :=
  inferInstanceAs (Decidable (_ ∧ _))

/-- What the settings ask for, if the interface is not looked up. -/
def createdClass (s : Settings) (reply : DiscoverReply) : Except String SourceClass :=
  if s.inputSource = "ecat" then .ok .ethercatMaster
  else if reply.openError ≠ "" then .error reply.openError
  else if reply.configError ≠ "" then .error reply.configError
  else .ok .packetSniffer

/-- An error keeps at most a source without threads. -/
def KeptSource (source : Option DataSource) : Prop := source.filter DataSource.joinable = none

theorem keptSource_new (cls : SourceClass) : KeptSource (some (.new cls)) := rfl

/-- A checked source other than EtherCAT comes with a config file, and a recording with its name. -/
theorem Settings.Checked.cases {s : Settings} (h : s.Checked) :
    s.inputSource = "ecat" ∧ s.networkInterface ≠ "" ∨
      s.inputSource = "sniffer" ∧ s.networkInterface ≠ "" ∧ s.configFile ≠ "" ∨
      s.inputSource = "pcap" ∧ s.configFile ≠ "" ∧ s.pcapFile ≠ "" := by
  obtain ⟨hsource, hneeded⟩ := h
  simp only [inputSources, List.mem_cons, List.not_mem_nil, or_false] at hsource
  rcases hsource with heq | heq | heq
  · rw [heq] at hneeded
    exact .inl ⟨heq, hneeded .iface (by decide)⟩
  · rw [heq] at hneeded
    exact .inr (.inl ⟨heq, hneeded .iface (by decide), hneeded .config (by decide)⟩)
  · rw [heq] at hneeded
    exact .inr (.inr ⟨heq, hneeded .config (by decide), hneeded .pcap (by decide)⟩)

theorem tui_createSource {s : Settings} (h : s.Checked) (reply : DiscoverReply) :
    match createdClass s reply with
    | .error message => ∃ source, KeptSource source ∧
        (Tui.ofSettings s).createSource reply.openError reply.configError =
          .error (message, source)
    | .ok cls => (Tui.ofSettings s).createSource reply.openError reply.configError =
        .ok (some (.new cls)) := by
  obtain ⟨source, iface, config, pcap, start, port, zmq⟩ := s
  simp only [createdClass, Tui.createSource, Tui.ofSettings, Tui.init]
  rcases h.cases with ⟨rfl, hiface⟩ | ⟨rfl, hiface, hconfig⟩ | ⟨rfl, hconfig, hpcap⟩
  · rfl
  · by_cases hopen : reply.openError = ""
    · by_cases hread : reply.configError = ""
      · simp [hopen, hread, hconfig]
      · simp [hopen, hread, hconfig, KeptSource]
    · simp [hopen, keptSource_new]
  · by_cases hopen : reply.openError = ""
    · by_cases hread : reply.configError = ""
      · simp [hopen, hread, hconfig, hpcap]
      · simp [hopen, hread, hconfig, hpcap, KeptSource]
    · simp [hopen, hconfig, hpcap, KeptSource]

/-- The widgets after the command line. -/
structure ChosenControls (interfaces : List String) (s : Settings) (c : Controls) : Prop where
  inputButton : c.inputButton =
    if s.inputSource = "ecat" then some .ethercat
    else if s.inputSource = "sniffer" then some .sniff
    else if s.inputSource = "pcap" then some .file
    else none
  noInterface : c.NoInterface ↔
    ¬ (s.networkInterface ≠ "" ∧ s.InterfaceListed interfaces)
  configFileName : c.configFileName = s.configFile
  pcapFileName : c.pcapFileName = s.pcapFile
  publishZmq : c.publishZmq = s.publishZmq

/-- The widgets that a list of options leaves behind. -/
private def optionControls (interfaces : List String) (s : Settings) : Controls :=
  let c := (Gui.init interfaces).controls.selectSource s.inputSource
  let c := if s.networkInterface ≠ "" then c.selectNetworkInterface s.networkInterface else c
  { c with configFileName := s.configFile, pcapFileName := s.pcapFile, publishZmq := s.publishZmq }

private theorem selectSource_fields (c : Controls) (src : String) :
    (c.selectSource src).interfaces = c.interfaces ∧
      (c.selectSource src).interface = c.interface ∧
      (c.selectSource src).configFileName = c.configFileName ∧
      (c.selectSource src).pcapFileName = c.pcapFileName ∧
      (c.selectSource src).publishZmq = c.publishZmq := by
  unfold Controls.selectSource Controls.chooseInput Controls.handleInputButtonChanged
  split_ifs <;> simp

private theorem selectNetworkInterface_fields (c : Controls) (iface : String) :
    (c.selectNetworkInterface iface).inputButton = c.inputButton ∧
      (c.selectNetworkInterface iface).configFileName = c.configFileName ∧
      (c.selectNetworkInterface iface).pcapFileName = c.pcapFileName ∧
      (c.selectNetworkInterface iface).publishZmq = c.publishZmq := by
  unfold Controls.selectNetworkInterface
  split <;> simp

private theorem ofSettings_eq (interfaces : List String) (s : Settings) :
    Gui.ofSettings interfaces s =
      { Gui.init interfaces with controls := optionControls interfaces s } := by
  obtain ⟨source, iface, config, pcap, start, port, zmq⟩ := s
  let c := (Gui.init interfaces).controls.selectSource source
  let c' := if iface ≠ "" then c.selectNetworkInterface iface else c
  obtain ⟨-, -, hconfig, hpcap, hzmq⟩ := selectSource_fields (Gui.init interfaces).controls source
  have hfields : c'.configFileName = "" ∧ c'.pcapFileName = "" ∧ c'.publishZmq = false := by
    obtain ⟨-, hconfig', hpcap', hzmq'⟩ := selectNetworkInterface_fields c iface
    dsimp only [c']
    split
    · exact ⟨hconfig'.trans hconfig, hpcap'.trans hpcap, hzmq'.trans hzmq⟩
    · exact ⟨hconfig, hpcap, hzmq⟩
  have hsource : (if source ≠ "" then [ProgramOption.selectSource source] else []).foldl
      Gui.applyOption (Gui.init interfaces) = { Gui.init interfaces with controls := c } := by
    by_cases hempty : source = ""
    · subst hempty
      rfl
    · rw [if_pos hempty]
      rfl
  have hiface : (if iface ≠ "" then [ProgramOption.selectNetworkInterface iface] else []).foldl
      Gui.applyOption { Gui.init interfaces with controls := c } =
        { Gui.init interfaces with controls := c' } := by
    dsimp only [c']
    split <;> rfl
  have hconfig : (if config ≠ "" then [ProgramOption.setConfigFile config] else []).foldl
      Gui.applyOption { Gui.init interfaces with controls := c' } =
        { Gui.init interfaces with controls := { c' with configFileName := config } } := by
    by_cases hempty : config = ""
    · rw [if_neg (not_not.mpr hempty), hempty, ← hfields.1]
      rfl
    · rw [if_pos hempty]
      rfl
  have hpcap : (if pcap ≠ "" then [ProgramOption.setPcapFile pcap] else []).foldl
      Gui.applyOption
        { Gui.init interfaces with controls := { c' with configFileName := config } } =
      { Gui.init interfaces with
        controls := { c' with configFileName := config, pcapFileName := pcap } } := by
    by_cases hempty : pcap = ""
    · rw [if_neg (not_not.mpr hempty), hempty, ← hfields.2.1]
      rfl
    · rw [if_pos hempty]
      rfl
  have hzmq : (if zmq then [ProgramOption.enableZmq true] else []).foldl Gui.applyOption
      { Gui.init interfaces with
        controls := { c' with configFileName := config, pcapFileName := pcap } } =
      { Gui.init interfaces with
        controls := ⟨c'.interfaces, c'.inputButton, c'.interface, c'.ifComboBoxEnabled,
          c'.selectConfigFileEnabled, c'.selectPcapFileEnabled, config, pcap, zmq⟩ } := by
    cases zmq with
    | false => simp [hfields.2.2]
    | true =>
      simp [Gui.applyOption, Gui.setPublishZmq, hfields.2.2, Gui.init]
  simp only [Gui.ofSettings, Settings.programOptions, List.foldl_append]
  rw [hsource, hiface, hconfig, hpcap, hzmq]
  rfl

private theorem optionControls_interface (interfaces : List String) (s : Settings) :
    (optionControls interfaces s).interface =
      if s.networkInterface ≠ "" ∧ s.networkInterface ∈ "Network Interface" :: interfaces then
        s.networkInterface
      else "Network Interface" := by
  obtain ⟨hinterfaces, hinterface, -⟩ :=
    selectSource_fields (Gui.init interfaces).controls s.inputSource
  have hlisted : ((Gui.init interfaces).controls.selectSource s.inputSource).interfaces =
      "Network Interface" :: interfaces := hinterfaces
  have hchosen : ((Gui.init interfaces).controls.selectSource s.inputSource).interface =
      "Network Interface" := hinterface
  simp only [optionControls]
  by_cases hempty : s.networkInterface = ""
  · rw [if_neg (not_not.mpr hempty), if_neg (fun h => h.1 hempty), hchosen]
  · rw [if_pos hempty, Controls.selectNetworkInterface, hlisted]
    by_cases hmem : s.networkInterface ∈ "Network Interface" :: interfaces
    · rw [if_pos hmem, if_pos ⟨hempty, hmem⟩]
    · rw [if_neg hmem, if_neg (fun h => hmem h.2), hchosen]

theorem gui_ofSettings (interfaces : List String) (s : Settings) :
    ∃ controls, ChosenControls interfaces s controls ∧
      Gui.ofSettings interfaces s = { Gui.init interfaces with controls := controls } := by
  refine ⟨optionControls interfaces s, ⟨?_, ?_, rfl, rfl, rfl⟩, ofSettings_eq interfaces s⟩
  · have hbutton : ((Gui.init interfaces).controls.selectSource s.inputSource).inputButton =
        if s.inputSource = "ecat" then some .ethercat
        else if s.inputSource = "sniffer" then some .sniff
        else if s.inputSource = "pcap" then some .file
        else none := by
      unfold Controls.selectSource Controls.chooseInput Controls.handleInputButtonChanged
      split_ifs <;> rfl
    rw [← hbutton]
    dsimp only [optionControls]
    split
    · exact (selectNetworkInterface_fields _ s.networkInterface).1
    · rfl
  · rw [Controls.NoInterface, optionControls_interface, Settings.InterfaceListed]
    by_cases hempty : s.networkInterface = ""
    · simp [hempty]
    · by_cases hheading : s.networkInterface = "Network Interface"
      · simp [hheading]
      · by_cases hmem : s.networkInterface ∈ interfaces
        · simp [hempty, hheading, hmem]
        · simp [hempty, hheading, hmem]

/-- The window asks for what the settings ask for, if the interface is in its list. -/
theorem gui_createSource {interfaces : List String} {s : Settings} {c : Controls}
    (hc : ChosenControls interfaces s c) (h : s.Checked)
    (hlisted : s.inputSource = "pcap" ∨ s.InterfaceListed interfaces) (reply : DiscoverReply) :
    match createdClass s reply with
    | .error message => ∃ source, KeptSource source ∧
        Gui.createSource c reply = .error (message, source)
    | .ok cls => Gui.createSource c reply = .ok (.new cls) := by
  obtain ⟨hbutton, hno, hconfig, hpcap, -⟩ := hc
  simp only [createdClass, Gui.createSource, hbutton, hconfig, hpcap]
  rcases h.cases with ⟨heq, hiface⟩ | ⟨heq, hiface, hne⟩ | ⟨heq, hne, hne'⟩
  · have hchosen : ¬ c.NoInterface := by
      rw [hno, not_not]
      exact ⟨hiface, hlisted.resolve_left (by simp [heq])⟩
    simp [heq, hchosen]
  · have hchosen : ¬ c.NoInterface := by
      rw [hno, not_not]
      exact ⟨hiface, hlisted.resolve_left (by simp [heq])⟩
    by_cases hopen : reply.openError = ""
    · by_cases hread : reply.configError = ""
      · simp [heq, hchosen, hopen, hread, hne]
      · simp [heq, hchosen, hopen, hread, hne, keptSource_new]
    · simp [heq, hchosen, hopen, keptSource_new]
  · by_cases hopen : reply.openError = ""
    · by_cases hread : reply.configError = ""
      · simp [heq, hopen, hread, hne, hne']
      · simp [heq, hopen, hread, hne, hne', keptSource_new]
    · simp [heq, hopen, hne, hne', keptSource_new]

theorem gui_createSource_unlisted {interfaces : List String} {s : Settings} {c : Controls}
    (hc : ChosenControls interfaces s c) (h : s.Checked)
    (hlisted : ¬ (s.inputSource = "pcap" ∨ s.InterfaceListed interfaces)) (reply : DiscoverReply) :
    Gui.createSource c reply = .error ("Network Interface not selected", none) := by
  rw [not_or] at hlisted
  have hno : c.NoInterface := hc.noInterface.mpr fun hchosen => hlisted.2 hchosen.2
  rw [Gui.createSource, hc.inputButton]
  rcases h.cases with ⟨heq, -⟩ | ⟨heq, -⟩ | ⟨heq, -⟩
  · simp [heq, hno]
  · simp [heq, hno]
  · exact absurd heq hlisted.1

/-! ## The runs -/

/-- What follows from the source that is created. -/
def outcomeOf (publishZmq : Bool) (created : Except String SourceClass) (answers : StartAnswers) :
    StartOutcome :=
  match created with
  | .error message => ⟨some message, none⟩
  | .ok cls =>
    if answers.discover.slavesError ≠ "" then ⟨some answers.discover.slavesError, none⟩
    else
      let ptrs := List.range answers.discover.slaves.length
      match (DataSource.mk cls ptrs publishZmq false false).start answers.start with
      | none => ⟨none, none⟩
      | some (source, error) =>
        ⟨if error ≠ "" then some error else none, (some source).filter DataSource.joinable⟩

/-- A start with an error message leaves no threads. -/
theorem start_error {cls : SourceClass} {ptrs : List SlavePtr} {zmq : Bool} {reply : StartReply}
    {source : DataSource} {error : String}
    (h : (DataSource.mk cls ptrs zmq false false).start reply = some (source, error))
    (herror : error ≠ "") : source.joinable = false := by
  unfold DataSource.start at h
  cases cls <;> cases reply <;> simp at h
  all_goals
    obtain ⟨rfl, rfl⟩ := h
    first
      | rfl
      | exact absurd rfl herror

theorem start_ne_none (cls : SourceClass) (ptrs : List SlavePtr) (zmq : Bool)
    (reply : StartReply) : (DataSource.mk cls ptrs zmq false false).start reply ≠ none := by
  cases cls <;> cases reply <;> simp [DataSource.start]

/-- Where the window can take the steps of `GUI::start`. -/
theorem gui_starting_cases {start : Bool} {answers : StartAnswers} {g : Gui} {a : GuiAction}
    (ha : g.Starting start answers a) (hstep : (Gui.machine.step g a).isSome) :
    g.handler = .constructed ∧ a = .start ∨
      g.handler = .discoverReset ∧ a = .handler .none ∨
      g.handler = .discoverSource ∧ a = .handler (.discover answers.discover) ∨
      g.handler = .start ∧ a = .handler (.start answers.start) := by
  obtain ⟨⟨g', new⟩, hstep⟩ := Option.isSome_iff_exists.mp hstep
  unfold Gui.Starting at ha
  split at ha
  · refine .inl ⟨?_, rfl⟩
    simp only [Gui.machine, Gui.step] at hstep
    grind
  · exact .inr (.inl ⟨ha, rfl⟩)
  · subst ha
    refine .inr (.inr (.inl ⟨?_, rfl⟩))
    simp only [Gui.machine, Gui.step, Gui.handlerStep] at hstep
    grind
  · subst ha
    refine .inr (.inr (.inr ⟨?_, rfl⟩))
    simp only [Gui.machine, Gui.step, Gui.handlerStep] at hstep
    grind
  · exact ha.elim

theorem gui_starting_only {start : Bool} {answers : StartAnswers} (g : Gui) (a a' : GuiAction)
    (ha : g.Starting start answers a) (ha' : g.Starting start answers a')
    (hstep : (Gui.machine.step g a).isSome) (hstep' : (Gui.machine.step g a').isSome) :
    a = a' := by
  rcases gui_starting_cases ha hstep with ⟨hat, rfl⟩ | ⟨hat, rfl⟩ | ⟨hat, rfl⟩ | ⟨hat, rfl⟩
  all_goals
    rcases gui_starting_cases ha' hstep' with ⟨hat', rfl⟩ | ⟨hat', rfl⟩ | ⟨hat', rfl⟩ | ⟨hat', rfl⟩
    all_goals
      first
      | rfl
      | rw [hat] at hat'
        cases hat'

/-- The window waits for the user. -/
theorem gui_not_canStep {start : Bool} {answers : StartAnswers} {g : Gui}
    (h : g.handler = .discoverError ∨ g.handler = .startError ∨ g.handler = .eventLoop) :
    ¬ Gui.machine.CanStep (Gui.Starting start answers) g := by
  rintro ⟨a, g', new, ha, hstep⟩
  have hcases := gui_starting_cases ha (by simp [hstep])
  rcases h with hat | hat | hat
  all_goals
    rw [hat] at hcases
    simp at hcases

/-- The window when `handleDiscoverButton` is about to create the source. -/
private def discovering (interfaces : List String) (c : Controls) : Gui :=
  { Gui.init interfaces with
    controls := c
    handler := .discoverSource
    startPending := true }

private theorem run_discovering (interfaces : List String) (c : Controls)
    (answers : StartAnswers) :
    Gui.machine.Run (Gui.Starting true answers) { Gui.init interfaces with controls := c }
      [.handleDiscoverButton []] (discovering interfaces c) := by
  let window : Gui := { Gui.init interfaces with controls := c }
  let cleared : Gui := { window with handler := .discoverReset, startPending := true }
  have hstart : window.Starting true answers .start := rfl
  have hreset : cleared.Starting true answers (.handler .none) := rfl
  have hfirst : Gui.machine.step window .start = some (cleared, [.handleDiscoverButton []]) := rfl
  have hsecond : Gui.machine.step cleared (.handler .none) =
      some (discovering interfaces c, []) := rfl
  exact (Machine.Run.nil.snoc hstart hfirst).snoc hreset hsecond

/-- `GUI::start` from the source that the widgets make it create. -/
theorem gui_stops (interfaces : List String) {c : Controls} {answers : StartAnswers}
    {created : Except String SourceClass}
    (hcreated : match created with
      | .error message => ∃ source, KeptSource source ∧
          Gui.createSource c answers.discover = .error (message, source)
      | .ok cls => Gui.createSource c answers.discover = .ok (.new cls)) :
    ∃ events g, Gui.machine.StopsAt (Gui.Starting true answers)
        { Gui.init interfaces with controls := c } events g ∧
      g.startOutcome events = outcomeOf c.publishZmq created answers := by
  have hrun := run_discovering interfaces c answers
  have hanswer : (discovering interfaces c).Starting true answers
      (.handler (.discover answers.discover)) := rfl
  have hdiscover : Gui.machine.step (discovering interfaces c)
      (.handler (.discover answers.discover)) =
        some ((discovering interfaces c).discoverSource answers.discover) := rfl
  rw [Gui.discoverSource, show (discovering interfaces c).controls = c from rfl] at hdiscover
  cases created with
  | error message =>
    obtain ⟨source, hkept, hcreate⟩ := hcreated
    rw [hcreate] at hdiscover
    refine ⟨_, _, ⟨hrun.snoc hanswer hdiscover, gui_not_canStep (.inl rfl)⟩, ?_⟩
    change StartOutcome.mk (some message) _ = StartOutcome.mk (some message) none
    rw [hkept]
  | ok cls =>
    dsimp only at hcreated
    rw [hcreated] at hdiscover
    simp only at hdiscover
    split at hdiscover
    · rename_i herror
      refine ⟨_, _, ⟨hrun.snoc hanswer hdiscover, gui_not_canStep (.inl rfl)⟩, ?_⟩
      rw [outcomeOf, if_pos herror]
      rfl
    · rename_i herror
      let ptrs := List.range' 0 answers.discover.slaves.length
      let source : DataSource := ⟨cls, ptrs, c.publishZmq, false, false⟩
      let started : Gui := { Gui.init interfaces with
        controls := c
        startEnabled := true
        wheelGroupBoxes := List.zipWith groupBox ptrs answers.discover.slaves
        source := some source
        handler := .start
        created := 0 + answers.discover.slaves.length }
      have hstarted : Gui.machine.step (discovering interfaces c)
          (.handler (.discover answers.discover)) = some (started, []) := hdiscover
      have hreply : started.Starting true answers (.handler (.start answers.start)) := rfl
      have hrun' := hrun.snoc hanswer hstarted
      have hcall : Gui.machine.step started (.handler (.start answers.start)) =
          some (started.callStart answers.start) := rfl
      rw [Gui.callStart, show started.source = some source from rfl] at hcall
      obtain ⟨⟨running, error⟩, hsource⟩ := Option.ne_none_iff_exists'.mp
        (start_ne_none cls ptrs c.publishZmq answers.start)
      have houtcome : outcomeOf c.publishZmq (.ok cls) answers =
          ⟨if error ≠ "" then some error else none,
            (some running).filter DataSource.joinable⟩ := by
        rw [outcomeOf, if_neg herror, List.range_eq_range']
        dsimp only
        rw [hsource]
      rw [houtcome]
      dsimp only at hcall
      rw [show source.start answers.start = some (running, error) from hsource] at hcall
      dsimp only at hcall
      split at hcall
      · rename_i herror
        refine ⟨_, _, ⟨hrun'.snoc hreply hcall, gui_not_canStep (.inr (.inl rfl))⟩, ?_⟩
        rw [if_pos herror]
        rfl
      · rename_i herror
        refine ⟨_, _, ⟨hrun'.snoc hreply hcall, gui_not_canStep (.inr (.inr rfl))⟩, ?_⟩
        rw [if_neg herror]
        rfl

/-- Where `TUI::start` can take its steps. -/
theorem tui_starting_cases {answers : StartAnswers} {t : Tui} {a : TuiAction}
    (ha : t.Starting answers a) (hstep : (Tui.machine.step t a).isSome) :
    t.pc = .create ∧ a = .create answers.discover.openError answers.discover.configError ∨
      t.pc = .getSlaves ∧ a = .getSlaves answers.discover.slaves answers.discover.slavesError ∨
      t.pc = .callStart ∧ a = .callStart answers.start := by
  obtain ⟨⟨t', new⟩, hstep⟩ := Option.isSome_iff_exists.mp hstep
  simp only [Tui.machine, Tui.step] at hstep
  unfold Tui.Starting at ha
  split at ha
  · obtain ⟨rfl, rfl⟩ := ha
    refine .inl ⟨?_, rfl⟩
    grind
  · obtain ⟨rfl, rfl⟩ := ha
    refine .inr (.inl ⟨?_, rfl⟩)
    grind
  · subst ha
    refine .inr (.inr ⟨?_, rfl⟩)
    grind
  · exact ha.elim

theorem tui_starting_only {answers : StartAnswers} (t : Tui) (a a' : TuiAction)
    (ha : t.Starting answers a) (ha' : t.Starting answers a')
    (hstep : (Tui.machine.step t a).isSome) (hstep' : (Tui.machine.step t a').isSome) :
    a = a' := by
  rcases tui_starting_cases ha hstep with ⟨hat, rfl⟩ | ⟨hat, rfl⟩ | ⟨hat, rfl⟩
  all_goals
    rcases tui_starting_cases ha' hstep' with ⟨hat', rfl⟩ | ⟨hat', rfl⟩ | ⟨hat', rfl⟩
    all_goals
      first
      | rfl
      | rw [hat] at hat'
        cases hat'

theorem tui_not_canStep {answers : StartAnswers} {t : Tui}
    (h : t.pc = .waitForKey ∨ t.pc = .waitAfterError) :
    ¬ Tui.machine.CanStep (Tui.Starting answers) t := by
  rintro ⟨a, t', new, ha, hstep⟩
  have hcases := tui_starting_cases ha (by simp [hstep])
  rcases h with hat | hat
  all_goals
    rw [hat] at hcases
    simp at hcases

/-- A source without threads is destroyed after an error. -/
theorem tui_failAndReset (t : Tui) (message : String) {source : DataSource}
    (h : source.joinable = false) : t.failAndReset message source = t.fail message none := by
  apply if_neg
  rw [DataSource.join_joinable fun _ hjoinable => absurd hjoinable (by simp [h])]
  exact Bool.false_ne_true

/-- `TUI::start` from the source that the settings make it create. -/
theorem tui_stops {s : Settings} {answers : StartAnswers} {created : Except String SourceClass}
    (hcreated : match created with
      | .error message => ∃ source, KeptSource source ∧
          (Tui.ofSettings s).createSource answers.discover.openError
            answers.discover.configError = .error (message, source)
      | .ok cls => (Tui.ofSettings s).createSource answers.discover.openError
          answers.discover.configError = .ok (some (.new cls))) :
    ∃ events t, Tui.machine.StopsAt (Tui.Starting answers) (Tui.ofSettings s) events t ∧
      t.startOutcome events = outcomeOf s.publishZmq created answers ∧
      (t.pc = .waitForKey ↔ (outcomeOf s.publishZmq created answers).error = none) := by
  have hanswer : (Tui.ofSettings s).Starting answers
      (.create answers.discover.openError answers.discover.configError) := ⟨rfl, rfl⟩
  have hcreate : Tui.machine.step (Tui.ofSettings s)
      (.create answers.discover.openError answers.discover.configError) =
      some ((Tui.ofSettings s).create answers.discover.openError
        answers.discover.configError) := rfl
  rw [Tui.create] at hcreate
  cases created with
  | error message =>
    obtain ⟨source, hkept, hsource⟩ := hcreated
    rw [hsource] at hcreate
    refine ⟨_, _, ⟨Machine.Run.nil.snoc hanswer hcreate, tui_not_canStep (.inr rfl)⟩, ?_, ?_⟩
    · change StartOutcome.mk (some message) _ = StartOutcome.mk (some message) none
      rw [hkept]
    · exact ⟨nofun, nofun⟩
  | ok cls =>
    dsimp only at hcreated
    rw [hcreated] at hcreate
    let new : DataSource := ⟨cls, [], s.publishZmq, false, false⟩
    let created : Tui := { Tui.ofSettings s with member := ⟨some new, false⟩, pc := .getSlaves }
    have hrun : Tui.machine.Run (Tui.Starting answers) (Tui.ofSettings s) [] created :=
      Machine.Run.nil.snoc hanswer hcreate
    have hanswer' : created.Starting answers
        (.getSlaves answers.discover.slaves answers.discover.slavesError) := ⟨rfl, rfl⟩
    have hslaves : Tui.machine.step created
        (.getSlaves answers.discover.slaves answers.discover.slavesError) =
        some (created.getSlaves answers.discover.slaves answers.discover.slavesError) := rfl
    rw [Tui.getSlaves, show created.member.source = some new from rfl] at hslaves
    dsimp only at hslaves
    split at hslaves
    · rename_i herror
      rw [tui_failAndReset _ _ rfl] at hslaves
      refine ⟨_, _, ⟨hrun.snoc hanswer' hslaves, tui_not_canStep (.inr rfl)⟩, ?_, ?_⟩
      · rw [outcomeOf, if_pos herror]
        rfl
      · rw [outcomeOf, if_pos herror]
        exact ⟨nofun, nofun⟩
    · rename_i herror
      let ptrs := List.range answers.discover.slaves.length
      let source : DataSource := ⟨cls, ptrs, s.publishZmq, false, false⟩
      let found : Tui := { created with member := ⟨some source, false⟩, pc := .callStart }
      have hreply : found.Starting answers (.callStart answers.start) := rfl
      have hrun' := hrun.snoc hanswer' hslaves
      have hcall : Tui.machine.step found (.callStart answers.start) =
          some (found.callStart answers.start) := rfl
      rw [Tui.callStart, show found.member.source = some source from rfl] at hcall
      obtain ⟨⟨running, error⟩, hsource⟩ := Option.ne_none_iff_exists'.mp
        (start_ne_none cls ptrs s.publishZmq answers.start)
      have houtcome : outcomeOf s.publishZmq (.ok cls) answers =
          ⟨if error ≠ "" then some error else none,
            (some running).filter DataSource.joinable⟩ := by
        rw [outcomeOf, if_neg herror]
        dsimp only
        rw [hsource]
      rw [houtcome]
      dsimp only at hcall
      rw [show source.start answers.start = some (running, error) from hsource] at hcall
      dsimp only at hcall
      split at hcall
      · rename_i herror
        have hjoinable := start_error hsource herror
        rw [tui_failAndReset _ _ hjoinable] at hcall
        refine ⟨_, _, ⟨hrun'.snoc hreply hcall, tui_not_canStep (.inr rfl)⟩, ?_, ?_⟩
        · rw [if_pos herror, Option.filter, hjoinable]
          rfl
        · rw [if_pos herror]
          exact ⟨nofun, nofun⟩
      · rename_i herror
        refine ⟨_, _, ⟨hrun'.snoc hreply hcall, tui_not_canStep (.inl rfl)⟩, ?_, ?_⟩
        · rw [if_neg herror]
          rfl
        · simp [herror]

/-! ## Both programs -/

theorem sameStart_of_created {interfaces : List String} {s : Settings} {answers : StartAnswers}
    (hstart : s.start = true) (h : s.Checked)
    (hlisted : s.inputSource = "pcap" ∨ s.InterfaceListed interfaces) :
    SameStart interfaces s s answers := by
  obtain ⟨c, hc, hwindow⟩ := gui_ofSettings interfaces s
  obtain ⟨guiEvents, g, hguiStops, hgui⟩ :=
    gui_stops interfaces (gui_createSource hc h hlisted answers.discover)
  obtain ⟨tuiEvents, t, htuiStops, htui, -⟩ := tui_stops (tui_createSource h answers.discover)
  rw [hc.publishZmq] at hgui
  rw [SameStart, hstart, hwindow]
  refine ⟨⟨_, _, hguiStops⟩, ⟨_, _, htuiStops⟩, ?_⟩
  intro guiEvents' g' tuiEvents' t' hguiStops' htuiStops'
  obtain ⟨rfl, rfl⟩ := hguiStops.unique gui_starting_only hguiStops'
  obtain ⟨rfl, rfl⟩ := htuiStops.unique tui_starting_only htuiStops'
  exact hgui.trans htui.symm

/-- Everything that the program asks for is there. -/
private def favourable : StartAnswers := ⟨⟨"", "", [], ""⟩, .operational⟩

private theorem outcomeOf_favourable (s : Settings) :
    (outcomeOf s.publishZmq (createdClass s favourable.discover) favourable).error = none := by
  have hcreated : ∃ cls, createdClass s favourable.discover = .ok cls := by
    by_cases hsource : s.inputSource = "ecat"
    · exact ⟨_, if_pos hsource⟩
    · exact ⟨_, if_neg hsource⟩
  obtain ⟨cls, hcls⟩ := hcreated
  rw [hcls]
  cases cls <;> rfl

theorem not_sameStart {interfaces : List String} {s : Settings} (hstart : s.start = true)
    (h : s.Checked) (hlisted : ¬ (s.inputSource = "pcap" ∨ s.InterfaceListed interfaces)) :
    ¬ SameStart interfaces s s favourable := by
  intro hsame
  obtain ⟨c, hc, hwindow⟩ := gui_ofSettings interfaces s
  have hcreated := gui_createSource_unlisted hc h hlisted favourable.discover
  obtain ⟨guiEvents, g, hguiStops, hgui⟩ :=
    @gui_stops interfaces c favourable (.error "Network Interface not selected")
      ⟨none, rfl, hcreated⟩
  obtain ⟨tuiEvents, t, htuiStops, htui, -⟩ := tui_stops (tui_createSource h favourable.discover)
  rw [SameStart, hstart, hwindow] at hsame
  have houtcome := hsame.2.2 _ _ _ _ hguiStops htuiStops
  rw [hgui, htui] at houtcome
  have herror := congrArg StartOutcome.error houtcome
  rw [outcomeOf_favourable] at herror
  cases herror

/-- A command line with which both programs start makes them do the same, whatever the sniffer, the
bus and the config file answer, if and only if it names a recording or an interface that the window
lists. -/
theorem same_start_iff (interfaces arguments : List String) (guiSettings tuiSettings : Settings)
    (hgui : guiMain arguments = .ok guiSettings) (htui : tuiMain arguments = .ok tuiSettings)
    (hstart : guiSettings.start = true) :
    (∀ answers, SameStart interfaces guiSettings tuiSettings answers) ↔
      tuiSettings.inputSource = "pcap" ∨ tuiSettings.InterfaceListed interfaces := by
  obtain rfl := guiMain_eq_tuiMain hgui htui
  have hchecked := checked_of_tuiMain htui
  constructor
  · intro hsame
    by_contra hlisted
    exact not_sameStart hstart hchecked hlisted (hsame favourable)
  · intro hlisted answers
    exact sameStart_of_created hstart hchecked hlisted

private def onInterface : Settings := ⟨"ecat", "enp2s0", "", "", true, "9872", false⟩

/-- With an interface that is there, and without. -/
theorem same_start_ecat :
    (∀ answers, SameStart ["lo", "enp2s0"] onInterface onInterface answers) ∧
      ¬ ∀ answers, SameStart ["lo"] onInterface onInterface answers := by
  have hiff (interfaces : List String) := same_start_iff interfaces
    ["--src", "ecat", "--iface", "enp2s0", "--start"] onInterface onInterface rfl rfl rfl
  rw [hiff, hiff]
  decide

end Kddv
