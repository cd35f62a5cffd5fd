import Kddv.Gui.Branches

/-!
# Widgets of the window

The widgets that are enabled are those that the chosen source needs, so the user can supply what
Discover finds missing. What the start button starts is what the last Discover has found, whatever
has been chosen since then.
-/

namespace Kddv

open Framework

/-- The widgets for the source fit the chosen button and the list of interfaces. -/
structure Controls.Consistent (interfaces : List String) (c : Controls) : Prop where
  configFile : c.selectConfigFileEnabled = true ↔
    c.inputButton = some .sniff ∨ c.inputButton = some .file
  pcapFile : c.selectPcapFileEnabled = true ↔ c.inputButton = some .file
  ifComboBox : c.ifComboBoxEnabled = true ↔
    c.inputButton = some .ethercat ∨ c.inputButton = some .sniff
  listed : c.interface ∈ c.interfaces
  interfaces : c.interfaces = "Network Interface" :: interfaces

namespace Controls.Consistent

variable {interfaces : List String} {c : Controls}

theorem chooseInput (h : c.Consistent interfaces) (button : InputButton) :
    (c.chooseInput button).Consistent interfaces := by
  cases button with
  | ethercat => exact ⟨by simp [Controls.chooseInput, handleInputButtonChanged],
      by simp [Controls.chooseInput, handleInputButtonChanged],
      by simp [Controls.chooseInput, handleInputButtonChanged], h.listed, h.interfaces⟩
  | sniff => exact ⟨by simp [Controls.chooseInput, handleInputButtonChanged],
      by simp [Controls.chooseInput, handleInputButtonChanged],
      by simp [Controls.chooseInput, handleInputButtonChanged], h.listed, h.interfaces⟩
  | file => exact ⟨by simp [Controls.chooseInput, handleInputButtonChanged],
      by simp [Controls.chooseInput, handleInputButtonChanged],
      by simp [Controls.chooseInput, handleInputButtonChanged], h.listed, h.interfaces⟩

theorem selectSource (h : c.Consistent interfaces) (src : String) :
    (c.selectSource src).Consistent interfaces := by
  unfold Controls.selectSource
  split
  · exact h.chooseInput _
  · split
    · exact h.chooseInput _
    · split
      · exact h.chooseInput _
      · exact h

theorem selectNetworkInterface (h : c.Consistent interfaces) (iface : String) :
    (c.selectNetworkInterface iface).Consistent interfaces := by
  unfold Controls.selectNetworkInterface
  by_cases hlisted : iface ∈ c.interfaces
  · rw [if_pos hlisted]
    exact ⟨h.configFile, h.pcapFile, h.ifComboBox, hlisted, h.interfaces⟩
  · rw [if_neg hlisted]
    exact h

theorem withFiles (h : c.Consistent interfaces) (config pcap : String) :
    Controls.Consistent interfaces { c with configFileName := config, pcapFileName := pcap } :=
  ⟨h.configFile, h.pcapFile, h.ifComboBox, h.listed, h.interfaces⟩

end Controls.Consistent

/-- Discover has begun and has not returned. -/
def Handler.discovering : Handler → Bool
  | .discoverReset | .discoverSource | .discoverError => true
  | _ => false

namespace DataSource

theorem start_cls {source source' : DataSource} {reply : StartReply} {error : String}
    (h : source.start reply = some (source', error)) : source'.cls = source.cls := by
  obtain ⟨cls, slaves, publish, running, joinable⟩ := source
  cases cls with
  | packetSniffer =>
    simp only [start] at h
    split at h
    · cases h
    · cases h
      rfl
  | ethercatMaster =>
    cases reply with
    | operational =>
      simp only [start] at h
      split at h
      · cases h
      · cases h
        rfl
    | _ =>
      cases h
      rfl

theorem join_cls (source : DataSource) : source.join.cls = source.cls := by
  unfold join
  split
  · rfl
  · split <;> rfl

end DataSource

namespace Gui

/-- The widgets and the two buttons. `GUI::start` is only to go on while Discover is running. -/
structure Widgets (interfaces : List String) (s : Gui) : Prop where
  controls : s.controls.Consistent interfaces
  discover : s.discoverEnabled = true ↔ s.startText = .start
  pending : s.startPending = true → s.handler.discovering = true

namespace Widgets

variable {interfaces : List String} {s s' : Gui} {new : List GuiEvent}

theorem notPending (h : s.Widgets interfaces) (hhandler : s.handler.discovering = false) :
    s.startPending = false := by
  by_contra hpending
  rw [h.pending (by simpa using hpending)] at hhandler
  cases hhandler

theorem withQueue (h : s.Widgets interfaces) (queue : List Message) :
    Widgets interfaces { s with queue := queue } :=
  ⟨h.controls, h.discover, h.pending⟩

theorem setPublishZmq (h : s.Widgets interfaces) (checked : Bool) :
    (s.setPublishZmq checked).Widgets interfaces := by
  unfold Gui.setPublishZmq
  split
  · exact h
  · exact ⟨⟨h.controls.configFile, h.controls.pcapFile, h.controls.ifComboBox, h.controls.listed,
      h.controls.interfaces⟩, h.discover, h.pending⟩

theorem applyOption (h : s.Widgets interfaces) (option : ProgramOption) :
    (s.applyOption option).Widgets interfaces := by
  cases option with
  | selectSource src => exact ⟨h.controls.selectSource src, h.discover, h.pending⟩
  | selectNetworkInterface iface =>
    exact ⟨h.controls.selectNetworkInterface iface, h.discover, h.pending⟩
  | setConfigFile path => exact ⟨h.controls.withFiles path _, h.discover, h.pending⟩
  | setPcapFile path => exact ⟨h.controls.withFiles _ path, h.discover, h.pending⟩
  | enableZmq enable => exact h.setPublishZmq enable

theorem inputStep {input : UserInput} (h : s.Widgets interfaces)
    (hpending : s.startPending = false) (hstep : InputStep s input s' new) :
    s'.Widgets interfaces := by
  cases hstep with
  | button button => exact ⟨h.controls.chooseInput button, h.discover, h.pending⟩
  | interface text => exact ⟨h.controls.selectNetworkInterface text, h.discover, h.pending⟩
  | publish checked => exact h.setPublishZmq checked
  | disabled => exact h
  | _ => exact ⟨h.controls, h.discover, by simp [hpending]⟩

theorem handlerStep {reply : GuiReply} (h : s.Widgets interfaces)
    (hstep : HandlerStep s reply s' new) : s'.Widgets interfaces := by
  cases hstep with
  | discoverReset => exact ⟨h.controls, h.discover, fun _ => rfl⟩
  | createError => exact ⟨h.controls, h.discover, fun _ => rfl⟩
  | slavesError => exact ⟨h.controls, h.discover, fun _ => rfl⟩
  | discovered => exact ⟨h.controls, h.discover, by simp [Gui.discovered]⟩
  | closeError => exact ⟨h.controls, h.discover, by simp⟩
  | startError hhandler =>
    have hidle := h.notPending (by rw [hhandler]; rfl)
    exact ⟨h.controls, h.discover, by simp [hidle]⟩
  | started hhandler =>
    have hidle := h.notPending (by rw [hhandler]; rfl)
    exact ⟨h.controls, by simp, by simp [hidle]⟩
  | closeStartError hhandler =>
    have hidle := h.notPending (by rw [hhandler]; rfl)
    exact ⟨h.controls, h.discover, by simp [hidle]⟩
  | stopped hhandler =>
    have hidle := h.notPending (by rw [hhandler]; rfl)
    exact ⟨h.controls, by simp [callStop], by simp [callStop, hidle]⟩
  | configFile path hhandler =>
    have hidle := h.notPending (by rw [hhandler]; rfl)
    exact ⟨h.controls.withFiles path _, h.discover, by simp [hidle]⟩
  | pcapFile path hhandler =>
    have hidle := h.notPending (by rw [hhandler]; rfl)
    exact ⟨h.controls.withFiles _ path, h.discover, by simp [hidle]⟩

theorem windowStep {a : GuiAction} (h : s.Widgets interfaces) (hstep : WindowStep s a s' new) :
    s'.Widgets interfaces := by
  cases hstep with
  | option option => exact h.applyOption option
  | start => exact ⟨h.controls, h.discover, fun _ => rfl⟩
  | exec hhandler =>
    have hidle := h.notPending (by rw [hhandler]; rfl)
    exact ⟨h.controls, h.discover, by simp [hidle]⟩
  | input input => exact h.withQueue _
  | post => exact h.withQueue _
  | refresh => exact h.withQueue _
  | blocked => exact h.withQueue _
  | deliver hqueue hhandler hinput =>
    have hidle := h.notPending (by rw [hhandler]; rfl)
    apply inputStep ?_ ?_ hinput
    · exact h.withQueue _
    · exact hidle
  | handler hstep => exact h.handlerStep hstep

end Widgets

theorem init_widgets (interfaces : List String) : (init interfaces).Widgets interfaces := by
  refine ⟨⟨?_, ?_, ?_, ?_, rfl⟩, ?_, ?_⟩ <;> simp [init]

variable {interfaces : List String} {s : Gui} {events : List GuiEvent}

theorem reachable_widgets (run : machine.Run (fun _ _ => True) (init interfaces) events s) :
    s.LifeCycle ∧ s.Widgets interfaces :=
  reachable_invariant run (init_widgets interfaces) fun _ _ _ _ _ h hstep => h.windowStep hstep

/-- Something that the user has to give, with the complaint about it. The widget for it is
enabled. -/
inductive Missing (s : Gui) : String → Prop
  | interface (h : s.controls.NoInterface) (henabled : s.controls.ifComboBoxEnabled = true) :
      Missing s "Network Interface not selected"
  | configFile (h : s.controls.configFileName = "")
      (henabled : s.controls.selectConfigFileEnabled = true) :
      Missing s "Config file not specified"
  | pcapFile (h : s.controls.pcapFileName = "")
      (henabled : s.controls.selectPcapFileEnabled = true) : Missing s "PCAP file not specified"
  | source (h : s.controls.inputButton = none) : Missing s "Select a data source first"

/-- If nothing fails outside, Discover creates a source or complains about something missing. -/
theorem createSource_or_missing (h : s.controls.Consistent interfaces) {reply : DiscoverReply}
    (hopen : reply.openError = "") (hconfig : reply.configError = "") :
    (∃ cls, createSource s.controls reply = .ok (.new cls)) ∨
      ∃ message source, createSource s.controls reply = .error (message, source) ∧
        s.Missing message := by
  unfold createSource
  cases hbutton : s.controls.inputButton with
  | none => exact .inr ⟨_, _, rfl, .source hbutton⟩
  | some button =>
    cases button with
    | ethercat =>
      have henabled := h.ifComboBox.mpr (.inl hbutton)
      by_cases hinterface : s.controls.NoInterface
      · simp only [hinterface, if_true]
        exact .inr ⟨_, _, rfl, .interface hinterface henabled⟩
      · simp only [hinterface, if_false]
        exact .inl ⟨_, rfl⟩
    | sniff =>
      have henabled := h.ifComboBox.mpr (.inr hbutton)
      have hconfigEnabled := h.configFile.mpr (.inl hbutton)
      by_cases hinterface : s.controls.NoInterface
      · simp only [hinterface, if_true]
        exact .inr ⟨_, _, rfl, .interface hinterface henabled⟩
      · by_cases hfile : s.controls.configFileName = ""
        · simp only [hinterface, if_false, hopen, hfile, ne_eq, not_true_eq_false]
          exact .inr ⟨_, _, rfl, .configFile hfile hconfigEnabled⟩
        · simp only [hinterface, if_false, hopen, hconfig, hfile, ne_eq, not_true_eq_false,
            not_false_eq_true, if_true]
          exact .inl ⟨_, rfl⟩
    | file =>
      have hconfigEnabled := h.configFile.mpr (.inr hbutton)
      have hpcapEnabled := h.pcapFile.mpr hbutton
      by_cases hfile : s.controls.configFileName = ""
      · simp only [hfile, if_true]
        exact .inr ⟨_, _, rfl, .configFile hfile hconfigEnabled⟩
      · by_cases hpcap : s.controls.pcapFileName = ""
        · simp only [hfile, hpcap, if_false, if_true]
          exact .inr ⟨_, _, rfl, .pcapFile hpcap hpcapEnabled⟩
        · simp only [hfile, hpcap, hopen, hconfig, if_false, ne_eq, not_true_eq_false]
          exact .inl ⟨_, rfl⟩

/-- The widgets and the answers of the last Discover that has come to create a source. -/
def recordDiscover (s : Gui) (a : GuiAction) (last : Option (Controls × DiscoverReply)) :
    Option (Controls × DiscoverReply) :=
  match a with
  | .handler (.discover reply) => some (s.controls, reply)
  | _ => last

/-- The source is the one that Discover has created with these widgets and answers, and the boxes
show its slaves. -/
structure Found (c : Controls) (reply : DiscoverReply) (boxes : List GroupBox)
    (source : DataSource) : Prop where
  created : createSource c reply = .ok (.new source.cls)
  answered : reply.slavesError = ""
  slaves : source.slaves.length = reply.slaves.length
  boxes : boxes = List.zipWith groupBox source.slaves reply.slaves

/-- A source that can be started has been found by the last Discover. -/
def FoundLast (last : Option (Controls × DiscoverReply)) (s : Gui) : Prop :=
  s.startEnabled = true → ∃ source ∈ s.source, ∃ c reply, last = some (c, reply) ∧
    Found c reply s.wheelGroupBoxes source

namespace FoundLast

variable {last : Option (Controls × DiscoverReply)} {s' : Gui} {new : List GuiEvent}

/-- A step that keeps the class and the slaves of the source. -/
theorem withSource (h : FoundLast last s) (henabled : s'.startEnabled = s.startEnabled)
    (hboxes : s'.wheelGroupBoxes = s.wheelGroupBoxes)
    (hsource : ∀ source ∈ s.source, ∃ source' ∈ s'.source, source'.cls = source.cls ∧
      source'.slaves = source.slaves) : FoundLast last s' := by
  intro hstart
  rw [henabled] at hstart
  obtain ⟨source, hmem, c, reply, hlast, hfound⟩ := h hstart
  obtain ⟨source', hmem', hcls, hslaves⟩ := hsource source hmem
  refine ⟨source', hmem', c, reply, hlast, ?_, hfound.answered, ?_, ?_⟩
  · rw [hcls]
    exact hfound.created
  · rw [hslaves]
    exact hfound.slaves
  · rw [hboxes, hslaves]
    exact hfound.boxes

/-- A step that does not touch the source. -/
theorem same (h : FoundLast last s) (henabled : s'.startEnabled = s.startEnabled)
    (hboxes : s'.wheelGroupBoxes = s.wheelGroupBoxes) (hsource : s'.source = s.source) :
    FoundLast last s' := by
  apply h.withSource henabled hboxes
  intro source hmem
  rw [hsource]
  exact ⟨source, hmem, rfl, rfl⟩

/-- The start button is disabled. -/
theorem disabled (h : s.startEnabled = false) : FoundLast last s := by
  intro hstart
  rw [h] at hstart
  cases hstart

theorem setPublishZmq (h : FoundLast last s) (checked : Bool) :
    FoundLast last (s.setPublishZmq checked) := by
  unfold Gui.setPublishZmq
  split
  · exact h
  · refine h.withSource rfl rfl ?_
    intro source hmem
    exact ⟨_, Option.mem_map_of_mem _ hmem, rfl, rfl⟩

theorem inputStep {input : UserInput} (h : FoundLast last s) (hstep : InputStep s input s' new) :
    FoundLast last s' := by
  cases hstep with
  | discover => exact disabled rfl
  | publish checked => exact h.setPublishZmq checked
  | disabled => exact h
  | _ => exact h.same rfl rfl rfl

theorem handlerStep {reply : GuiReply} (hlife : s.LifeCycle) (h : FoundLast last s)
    (hstep : HandlerStep s reply s' new) :
    FoundLast (recordDiscover s (.handler reply) last) s' := by
  cases hstep with
  | discoverReset hhandler => exact disabled (hlife.discovering (.inl hhandler)).1
  | createError hhandler => exact disabled (hlife.discovering (.inr (.inl hhandler))).1
  | slavesError hhandler => exact disabled (hlife.discovering (.inr (.inl hhandler))).1
  | discovered hhandler hcreate herror =>
    intro _
    exact ⟨_, rfl, _, _, rfl, hcreate, herror, List.length_range', rfl⟩
  | closeError hhandler => exact disabled (hlife.discovering (.inr (.inr hhandler))).1
  | started hhandler hsource hstart =>
    refine h.withSource rfl rfl ?_
    intro source hmem
    rw [hsource, Option.mem_some_iff] at hmem
    subst hmem
    exact ⟨_, rfl, DataSource.start_cls hstart, (DataSource.start_spec hstart).1⟩
  | stopped hhandler =>
    refine h.withSource rfl rfl ?_
    intro source hmem
    exact ⟨_, Option.mem_map_of_mem _ hmem, source.join_cls, source.join_slaves⟩
  | _ => exact h.same rfl rfl rfl

theorem windowStep {a : GuiAction} (hlife : s.LifeCycle) (h : FoundLast last s)
    (hstep : WindowStep s a s' new) : FoundLast (recordDiscover s a last) s' := by
  cases hstep with
  | option option =>
    cases option with
    | enableZmq enable => exact h.setPublishZmq enable
    | _ => exact h.same rfl rfl rfl
  | start => exact disabled rfl
  | deliver hqueue hhandler hinput =>
    apply inputStep ?_ hinput
    exact h.same rfl rfl rfl
  | handler hstep => exact h.handlerStep hlife hstep
  | _ => exact h.same rfl rfl rfl

end FoundLast

/-- In every reachable state a source that can be started, or that has a thread, is of the class
that the last Discover was asked for and was created without an error. It has as many slaves as the
answer to that Discover, and the boxes show them. -/
theorem started_is_discovered (interfaces : List String) (events : List GuiEvent) (s : Gui)
    (last : Option (Controls × DiscoverReply))
    (run : (machine.withHistory recordDiscover).Run (fun _ _ => True) (init interfaces, none)
      events (s, last)) :
    ∀ source ∈ s.source, s.startEnabled = true ∨ source.joinable = true →
      ∃ c reply, last = some (c, reply) ∧ Found c reply s.wheelGroupBoxes source := by
  have hinv : s.LifeCycle ∧ FoundLast last s := by
    apply run.stateInvariant (I := fun r => r.1.LifeCycle ∧ FoundLast r.2 r.1)
    · exact ⟨init_lifeCycle interfaces, FoundLast.disabled rfl⟩
    · intro new r r' a h _ hstep
      obtain ⟨hs, hlast⟩ := Machine.withHistory_step hstep
      rw [hlast]
      exact ⟨(h.1.step hs).1, h.2.windowStep h.1 (h.1.windowStep hs)⟩
  obtain ⟨hlife, hfound⟩ := hinv
  intro source hmem hused
  have henabled : s.startEnabled = true :=
    hused.elim id fun hjoinable => (hlife.joinable hmem hjoinable).1
  obtain ⟨source', hmem', c, reply, hlast, hsource⟩ := hfound henabled
  obtain rfl := Option.mem_unique hmem hmem'
  exact ⟨c, reply, hlast, hsource⟩

/-- The user chooses another source while a recorded file is running. -/
theorem started_is_discovered_file : ∃ events s last,
    (machine.withHistory recordDiscover).Run (fun _ _ => True) (init [], none) events (s, last) ∧
      s.controls.inputButton = some .ethercat ∧ s.startText = .stop ∧
      ∀ source ∈ s.source, s.startEnabled = true ∨ source.joinable = true →
        ∃ c reply, last = some (c, reply) ∧ Found c reply s.wheelGroupBoxes source := by
  have hexec : (machine.withHistory recordDiscover).exec (fun _ _ => True) (init [], none)
      (startOnFile ++ [GuiAction.input (.inputButton .ethercat), .deliver]) =
      some ((_, _), [.handleDiscoverButton []]) := rfl
  have run := Machine.run_of_exec hexec
  exact ⟨_, _, _, run, rfl, rfl, started_is_discovered [] _ _ _ run⟩

end Gui

end Kddv
