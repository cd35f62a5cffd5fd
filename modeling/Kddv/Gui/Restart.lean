import Kddv.Framework.Progress
import Kddv.Gui.Widgets

/-!
# The window goes on

Left to itself the window comes to rest in its event loop, and from every state that it can get to
the user can have any source shown that is there.
-/

namespace Kddv

open Framework

/-- Steps that a handler takes at most before it returns to the event loop. -/
def Handler.left : Handler → Nat
  | .constructed => 5
  | .discoverReset => 4
  | .discoverSource => 3
  | .start => 2
  | .discoverError | .startError | .stop | .selectConfigFile | .selectPcapFile => 1
  | .eventLoop | .terminated => 0

/-- Steps without which the program would hang: `main` goes on, what is queued is delivered, and a
handler gets the answer or the click that it waits for. -/
def GuiAction.GoesOn : GuiAction → Prop
  | .start | .exec | .deliver | .handler _ => True
  | .option _ | .input _ | .post => False

namespace Gui

variable {s s' : Gui} {new : List GuiEvent}

/-- The event loop waits, and nothing is queued. -/
def AtRest (s : Gui) : Prop := s.handler = .eventLoop ∧ s.queue = []

/-! ## Coming to rest -/

/-- A queued message may start one handler. -/
def left (s : Gui) : Nat := 5 * s.queue.length + s.handler.left

theorem left_setPublishZmq (s : Gui) (checked : Bool) : (s.setPublishZmq checked).left = s.left := by
  unfold setPublishZmq
  split <;> rfl

theorem left_applyOption (s : Gui) (option : ProgramOption) :
    (s.applyOption option).left = s.left := by
  cases option with
  | enableZmq enable => exact left_setPublishZmq s enable
  | _ => rfl

/-- Input starts a handler with fewer steps than a message counts for. -/
theorem left_inputStep {input : UserInput} (hstep : InputStep s input s' new)
    (hhandler : s.handler = .eventLoop) : s'.left ≤ s.left + 4 := by
  cases hstep with
  | publish checked =>
    rw [left_setPublishZmq]
    omega
  | _ => simp [left, hhandler, Handler.left]

theorem left_handlerStep {reply : GuiReply} (hstep : HandlerStep s reply s' new) :
    s'.left < s.left := by
  cases hstep with
  | discovered hhandler =>
    simp only [left, Gui.discovered, hhandler]
    split <;> simp [Handler.left]
  | stopped hhandler => simp [left, callStop, hhandler, Handler.left]
  | discoverReset hhandler => simp [left, hhandler, Handler.left]
  | createError hhandler => simp [left, hhandler, Handler.left]
  | slavesError hhandler => simp [left, hhandler, Handler.left]
  | closeError hhandler => simp [left, hhandler, Handler.left]
  | startError hhandler => simp [left, hhandler, Handler.left]
  | started hhandler => simp [left, hhandler, Handler.left]
  | closeStartError hhandler => simp [left, hhandler, Handler.left]
  | configFile path hhandler => simp [left, hhandler, Handler.left]
  | pcapFile path hhandler => simp [left, hhandler, Handler.left]

theorem left_windowStep {a : GuiAction} (hgoesOn : a.GoesOn) (hstep : WindowStep s a s' new) :
    s'.left < s.left := by
  cases hstep with
  | option => exact hgoesOn.elim
  | input => exact hgoesOn.elim
  | post => exact hgoesOn.elim
  | start hhandler => simp [left, hhandler, Handler.left]
  | exec hhandler => simp [left, hhandler, Handler.left]
  | refresh hqueue =>
    simp only [left, hqueue, List.length_cons]
    omega
  | blocked hqueue =>
    simp only [left, hqueue, List.length_cons]
    omega
  | deliver hqueue hhandler hinput =>
    have hle := left_inputStep hinput hhandler
    simp only [left, hqueue, List.length_cons] at hle ⊢
    omega
  | handler hstep => exact left_handlerStep hstep

/-- The step that the window takes next, if it gets these answers. -/
def next (s : Gui) (discover : DiscoverReply) (start : StartReply) : GuiAction :=
  match s.handler with
  | .constructed => .exec
  | .eventLoop => .deliver
  | .discoverSource => .handler (.discover discover)
  | .start => .handler (.start start)
  | .selectConfigFile | .selectPcapFile => .handler (.file "")
  | _ => .handler .none

theorem next_isSome (h : s.LifeCycle) (hrest : ¬ s.AtRest) (discover : DiscoverReply)
    (start : StartReply) : (machine.step s (s.next discover start)).isSome = true := by
  show (s.step (s.next discover start)).isSome = true
  unfold Gui.step
  rw [if_neg h.alive]
  cases hhandler : s.handler with
  | terminated => exact absurd hhandler h.alive
  | eventLoop =>
    have hqueue : s.queue ≠ [] := fun hnil => hrest ⟨hhandler, hnil⟩
    obtain ⟨message, queue, hcons⟩ := List.exists_cons_of_ne_nil hqueue
    cases message with
    | input input => simp [next, hhandler, Gui.deliver, hcons]
    | dataChanged slaves => simp [next, hhandler, Gui.deliver, hcons]
  | discoverReset => simp [next, hhandler, Gui.handlerStep, h.resetSource]
  | discoverError => simp [next, hhandler, Gui.handlerStep, h.resetSource]
  | _ => simp [next, hhandler, Gui.handlerStep]

/-- The window comes to rest by whatever steps of this kind, if those that it takes with some
answers are among them. -/
theorem reaches_rest {progress : Gui → GuiAction → Prop}
    (hgoesOn : ∀ s a, progress s a → a.GoesOn) {discover : DiscoverReply} {start : StartReply}
    (hnext : ∀ s, progress s (s.next discover start)) (h : s.LifeCycle) :
    machine.ReachesWithin (fun _ a => ∃ option, a = .option option) progress AtRest
      (5 * s.queue.length + 5) s := by
  have hleft : s.left ≤ 5 * s.queue.length + 5 := by
    unfold left
    cases s.handler <;> simp [Handler.left]
  refine Machine.reachesWithin_of_measure left ?_ ?_ ?_ h hleft
  · rintro s _ s' new h ⟨option, rfl⟩ hstep
    have hs : s.step (.option option) = some (s', new) := hstep
    have hlife := (h.step hs).1
    cases h.windowStep hstep with
    | option => exact ⟨hlife, (left_applyOption s option).le⟩
  · intro s a s' new h _ ha hstep
    exact ⟨(h.step hstep).1, left_windowStep (hgoesOn s a ha) (h.windowStep hstep)⟩
  · intro s h hrest
    exact Machine.canStep_of_isSome (hnext s) (next_isSome h hrest discover start)

end Gui

/-- What the user may want to see. -/
inductive Choice
  | ethercat (interface : String)
  | sniff (interface configFile : String)
  | file (configFile pcapFile : String)

namespace Choice

/-- The interface is in the list, below its heading, and the files have names. -/
def Available (interfaces : List String) : Choice → Prop
  | .ethercat interface =>
    interface ∈ interfaces ∧ interface ≠ "" ∧ interface ≠ "Network Interface"
  | .sniff interface configFile =>
    (interface ∈ interfaces ∧ interface ≠ "" ∧ interface ≠ "Network Interface") ∧ configFile ≠ ""
  | .file configFile pcapFile => configFile ≠ "" ∧ pcapFile ≠ ""

def cls : Choice → SourceClass
  | .ethercat _ => .ethercatMaster
  | .sniff _ _ | .file _ _ => .packetSniffer

/-- The widgets show the choice. -/
def Shown (c : Controls) : Choice → Prop
  | .ethercat interface => c.inputButton = some .ethercat ∧ c.interface = interface
  | .sniff interface configFile =>
    c.inputButton = some .sniff ∧ c.interface = interface ∧ c.configFileName = configFile
  | .file configFile pcapFile =>
    c.inputButton = some .file ∧ c.configFileName = configFile ∧ c.pcapFileName = pcapFile

theorem createSource {interfaces : List String} {c : Controls} {choice : Choice}
    (havailable : choice.Available interfaces) (hshown : choice.Shown c)
    (slaves : List EthercatSlave) :
    Gui.createSource c ⟨"", "", slaves, ""⟩ = .ok (.new choice.cls) := by
  cases choice with
  | ethercat interface =>
    obtain ⟨hbutton, hinterface⟩ := hshown
    obtain ⟨-, hne, hheading⟩ := havailable
    simp [Gui.createSource, hbutton, Controls.NoInterface, hinterface, hne, hheading, cls]
  | sniff interface configFile =>
    obtain ⟨hbutton, hinterface, hconfig⟩ := hshown
    obtain ⟨⟨-, hne, hheading⟩, hfile⟩ := havailable
    simp [Gui.createSource, hbutton, Controls.NoInterface, hinterface, hne, hheading, hconfig, hfile,
      cls]
  | file configFile pcapFile =>
    obtain ⟨hbutton, hconfig, hpcap⟩ := hshown
    obtain ⟨hfile, hname⟩ := havailable
    simp [Gui.createSource, hbutton, hconfig, hfile, hpcap, hname, cls]

end Choice

/-- No message comes, and the source answers with these slaves and without an error. -/
def GuiAction.Answers (slaves : List EthercatSlave) : GuiAction → Prop
  | .post => False
  | .handler (.discover reply) => reply = ⟨"", "", slaves, ""⟩
  | .handler (.start reply) => reply = .operational
  | _ => True

namespace Gui

/-- The chosen source runs, and the boxes show its slaves. -/
structure Runs (choice : Choice) (slaves : List EthercatSlave) (s : Gui) : Prop where
  rest : s.AtRest
  text : s.startText = .stop
  shown : choice.Shown s.controls
  source : ∃ source ∈ s.source, source.cls = choice.cls ∧ source.joinable = true ∧
    source.zmqPublishEnabled = s.controls.publishZmq ∧
    source.slaves.length = slaves.length ∧
    s.wheelGroupBoxes = List.zipWith groupBox source.slaves slaves

section

variable {slaves : List EthercatSlave} {goal : Gui → Prop}

/-- The window can get there by input and by answers without an error. -/
abbrev CanReach (slaves : List EthercatSlave) (goal : Gui → Prop) (s : Gui) : Prop :=
  machine.Leads (fun _ a => a.Answers slaves) goal s

/-- The user gives input to a window at rest. -/
theorem canReach_input (hrest : s.AtRest) (input : UserInput)
    (h : CanReach slaves goal (s.handleInput input).1) : CanReach slaves goal s := by
  obtain ⟨hhandler, hqueue⟩ := hrest
  have hinput : machine.step s (.input input) =
      some ({ s with queue := [.input input] }, []) := by
    show s.step (.input input) = _
    simp [Gui.step, hhandler, hqueue]
  have hdeliver : machine.step { s with queue := [.input input] } .deliver =
      some (s.handleInput input) := by
    have hempty : { s with queue := [] } = s := by rw [← hqueue]
    have halive : s.handler ≠ .terminated := by simp [hhandler]
    calc machine.step { s with queue := [.input input] } .deliver
        = Gui.deliver { s with queue := [.input input] } := if_neg halive
      _ = some (Gui.handleInput { s with queue := [] } input) := if_pos hhandler
      _ = some (s.handleInput input) := by rw [hempty]
  have hadmits : (GuiAction.input input).Answers slaves := trivial
  have hadmits' : GuiAction.deliver.Answers slaves := trivial
  exact .step hadmits hinput (.step hadmits' hdeliver h)

/-- A running source is stopped. -/
theorem canReach_startText (h : s.LifeCycle) (hrest : s.AtRest) :
    CanReach slaves (fun s => s.AtRest ∧ s.startText = .start) s := by
  cases htext : s.startText with
  | start => exact .here ⟨hrest, htext⟩
  | stop =>
    have henabled := (h.stopText htext).1
    apply canReach_input hrest .startButton
    have hclick : s.handleInput .startButton = ({ s with handler := .stop }, []) := by
      rw [handleInput, if_pos henabled, h.handleStart_eq henabled, htext]
      rfl
    rw [hclick]
    have hadmits : (GuiAction.handler .none).Answers slaves := trivial
    have hstep : machine.step { s with handler := .stop } (.handler .none) = some s.callStop := rfl
    exact .step hadmits hstep (.here ⟨⟨rfl, hrest.2⟩, rfl⟩)

theorem canReach_button (hrest : s.AtRest) (button : InputButton)
    (h : CanReach slaves goal { s with controls := s.controls.chooseInput button }) :
    CanReach slaves goal s :=
  canReach_input hrest (.inputButton button) h

/-- The user picks the config file in its dialog. -/
theorem canReach_configFile (hrest : s.AtRest) (henabled : s.controls.selectConfigFileEnabled = true)
    (path : String)
    (h : CanReach slaves goal { s with
      controls := { s.controls with configFileName := path }
      handler := .eventLoop }) : CanReach slaves goal s := by
  apply canReach_input hrest .selectConfigFileButton
  rw [handleInput, if_pos henabled]
  have hadmits : (GuiAction.handler (.file path)).Answers slaves := trivial
  exact .step hadmits rfl h

theorem canReach_pcapFile (hrest : s.AtRest) (henabled : s.controls.selectPcapFileEnabled = true)
    (path : String)
    (h : CanReach slaves goal { s with
      controls := { s.controls with pcapFileName := path }
      handler := .eventLoop }) : CanReach slaves goal s := by
  apply canReach_input hrest .selectPcapFileButton
  rw [handleInput, if_pos henabled]
  have hadmits : (GuiAction.handler (.file path)).Answers slaves := trivial
  exact .step hadmits rfl h

theorem canReach_interface (hrest : s.AtRest) (henabled : s.controls.ifComboBoxEnabled = true)
    {interface : String} (hlisted : interface ∈ s.controls.interfaces)
    (h : CanReach slaves goal { s with controls := { s.controls with interface := interface } }) :
    CanReach slaves goal s := by
  apply canReach_input hrest (.ifComboBox interface)
  rw [handleInput, if_pos henabled, Controls.selectNetworkInterface, if_pos hlisted]
  exact h

/-- The user chooses a source, then what it needs. -/
theorem canReach_shown {interfaces : List String} {choice : Choice}
    (havailable : choice.Available interfaces) (h : s.Widgets interfaces) (hrest : s.AtRest)
    (htext : s.startText = .start) :
    CanReach slaves (fun s => s.AtRest ∧ s.startText = .start ∧ choice.Shown s.controls) s := by
  have hlisted {interface : String} (hmem : interface ∈ interfaces) (button : InputButton) :
      interface ∈ (s.controls.chooseInput button).interfaces := by
    rw [(h.controls.chooseInput button).interfaces]
    exact List.mem_cons_of_mem _ hmem
  obtain ⟨hhandler, hqueue⟩ := hrest
  cases choice with
  | ethercat interface =>
    apply canReach_button ⟨hhandler, hqueue⟩ .ethercat
    refine canReach_interface ⟨hhandler, hqueue⟩ rfl (hlisted havailable.1 .ethercat) ?_
    exact .here ⟨⟨hhandler, hqueue⟩, htext, rfl, rfl⟩
  | sniff interface configFile =>
    apply canReach_button ⟨hhandler, hqueue⟩ .sniff
    refine canReach_interface ⟨hhandler, hqueue⟩ rfl (hlisted havailable.1.1 .sniff) ?_
    refine canReach_configFile ⟨hhandler, hqueue⟩ rfl configFile ?_
    exact .here ⟨⟨rfl, hqueue⟩, htext, rfl, rfl, rfl⟩
  | file configFile pcapFile =>
    apply canReach_button ⟨hhandler, hqueue⟩ .file
    refine canReach_configFile ⟨hhandler, hqueue⟩ rfl configFile ?_
    refine canReach_pcapFile ⟨rfl, hqueue⟩ rfl pcapFile ?_
    exact .here ⟨⟨rfl, hqueue⟩, htext, rfl, rfl, rfl⟩

/-- Discover drops the source that is there. -/
theorem step_discoverReset (h : s.LifeCycle) (hhandler : s.handler = .discoverReset) :
    machine.step s (.handler .none) =
      some ({ s with source := none, handler := .discoverSource }, []) := by
  show s.step (.handler .none) = _
  unfold Gui.step
  simp [Gui.handlerStep, hhandler, h.resetSource]

/-- The user clicks Discover, then Start. -/
theorem canReach_runs {interfaces : List String} {choice : Choice}
    (havailable : choice.Available interfaces) (hlife : s.LifeCycle) (h : s.Widgets interfaces)
    (hrest : s.AtRest) (htext : s.startText = .start) (hshown : choice.Shown s.controls) :
    CanReach slaves (Runs choice slaves) s := by
  obtain ⟨hhandler, hqueue⟩ := hrest
  have hne : s.handler ≠ .discoverError := by simp [hhandler]
  have hdiscover := h.discover.mpr htext
  have hpending := h.notPending (by rw [hhandler]; rfl)
  have hcreate := choice.createSource havailable hshown slaves
  have hcleared := hlife.handleDiscoverButton htext hne
  let cleared : Gui := { s with
    source := none
    startEnabled := false
    wheelGroupBoxes := []
    handler := .discoverSource }
  let found : Gui := cleared.discovered choice.cls slaves
  -- Discover, up to the answers of the source
  apply canReach_input ⟨hhandler, hqueue⟩ .discoverButton
  rw [handleInput, if_pos hdiscover]
  have hreset : machine.step s.handleDiscoverButton.1 (.handler .none) = some (cleared, []) :=
    step_discoverReset hcleared rfl
  have hadmits : (GuiAction.handler .none).Answers slaves := trivial
  refine Machine.Leads.step hadmits hreset ?_
  have hdiscovered : cleared.discoverSource ⟨"", "", slaves, ""⟩ = (found, []) :=
    discoverSource_ok (s := cleared) htext hcreate rfl
  have hanswer : machine.step cleared (.handler (.discover ⟨"", "", slaves, ""⟩)) =
      some (found, []) := congrArg some hdiscovered
  have hadmits' : (GuiAction.handler (.discover ⟨"", "", slaves, ""⟩)).Answers slaves := rfl
  refine Machine.Leads.step hadmits' hanswer ?_
  -- Start
  have hfound : found.AtRest := by
    refine ⟨?_, hqueue⟩
    show (if s.startPending then Handler.start else .eventLoop) = .eventLoop
    rw [hpending]
    rfl
  apply canReach_input hfound .startButton
  have hclick : found.handleInput .startButton = ({ found with handler := .start }, []) := by
    show found.handleStart = _
    simp only [Gui.handleStart, found, Gui.discovered, cleared, htext]
  rw [hclick]
  let running : DataSource :=
    ⟨choice.cls, List.range' s.created slaves.length, s.controls.publishZmq,
      choice.cls = .ethercatMaster, true⟩
  have hstart : machine.step { found with handler := .start } (.handler (.start .operational)) =
      some ({ found with
        source := some running
        discoverEnabled := false
        startText := .stop
        handler := .eventLoop }, []) := by
    cases choice <;> rfl
  have hadmits'' : (GuiAction.handler (.start .operational)).Answers slaves := rfl
  refine Machine.Leads.step hadmits'' hstart ?_
  exact .here ⟨⟨rfl, hqueue⟩, rfl, hshown, running, rfl, rfl, rfl, rfl, List.length_range', rfl⟩

end

end Gui

end Kddv
