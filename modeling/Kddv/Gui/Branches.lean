import Kddv.Gui.LifeCycle

/-!
# Branches of the window

The steps of the window as relations, with a constructor for each branch that a window whose
buttons and source are consistent can take. The branches that end the program are not among them.
-/

namespace Kddv

open Framework

namespace Gui

/-- The widget that the input is meant for is enabled. -/
def Enabled (s : Gui) : UserInput → Bool
  | .discoverButton => s.discoverEnabled
  | .startButton => s.startEnabled
  | .selectConfigFileButton => s.controls.selectConfigFileEnabled
  | .selectPcapFileButton => s.controls.selectPcapFileEnabled
  | .inputButton _ => true
  | .ifComboBox _ => s.controls.ifComboBoxEnabled
  | .publishZmqCheckbox _ => true

/-- Input that the event loop delivers. -/
inductive InputStep (s : Gui) : UserInput → Gui → List GuiEvent → Prop
  | disabled (input : UserInput) (h : s.Enabled input = false) : InputStep s input s []
  | discover (h : s.discoverEnabled = true) (htext : s.startText = .start) :
      InputStep s .discoverButton
        { s with startEnabled := false, wheelGroupBoxes := [], handler := .discoverReset }
        [.handleDiscoverButton s.queue]
  | start (h : s.startEnabled = true) (htext : s.startText = .start) :
      InputStep s .startButton { s with handler := .start } []
  | stop (h : s.startEnabled = true) (htext : s.startText = .stop) :
      InputStep s .startButton { s with handler := .stop } []
  | configFile (h : s.controls.selectConfigFileEnabled = true) :
      InputStep s .selectConfigFileButton { s with handler := .selectConfigFile } []
  | pcapFile (h : s.controls.selectPcapFileEnabled = true) :
      InputStep s .selectPcapFileButton { s with handler := .selectPcapFile } []
  | button (button : InputButton) :
      InputStep s (.inputButton button) { s with controls := s.controls.chooseInput button } []
  | interface (text : String) (h : s.controls.ifComboBoxEnabled = true) :
      InputStep s (.ifComboBox text)
        { s with controls := s.controls.selectNetworkInterface text } []
  | publish (checked : Bool) :
      InputStep s (.publishZmqCheckbox checked) (s.setPublishZmq checked) []

/-- The window after a Discover without an error. -/
def discovered (s : Gui) (cls : SourceClass) (slaves : List EthercatSlave) : Gui :=
  let ptrs := List.range' s.created slaves.length
  { s with
    startEnabled := true
    wheelGroupBoxes := List.zipWith groupBox ptrs slaves
    source := some ⟨cls, ptrs, s.controls.publishZmq, false, false⟩
    startPending := false
    created := s.created + slaves.length
    handler := if s.startPending then .start else .eventLoop }

/-- A handler that goes on with an answer. -/
inductive HandlerStep (s : Gui) : GuiReply → Gui → List GuiEvent → Prop
  | discoverReset (h : s.handler = .discoverReset) :
      HandlerStep s .none { s with source := none, handler := .discoverSource } []
  | createError {reply : DiscoverReply} {message : String} {source : Option DataSource}
      (h : s.handler = .discoverSource)
      (hcreate : createSource s.controls reply = .error (message, source))
      (hidle : ∀ new ∈ source, new.joinable = false) :
      HandlerStep s (.discover reply) { s with source := source, handler := .discoverError }
        [.critical message]
  | slavesError {reply : DiscoverReply} {cls : SourceClass} (h : s.handler = .discoverSource)
      (hcreate : createSource s.controls reply = .ok (.new cls)) (herror : reply.slavesError ≠ "") :
      HandlerStep s (.discover reply)
        { s with
          source := some ⟨cls, List.range' s.created reply.slaves.length, s.controls.publishZmq,
            false, false⟩
          created := s.created + reply.slaves.length
          handler := .discoverError }
        [.critical reply.slavesError]
  | discovered {reply : DiscoverReply} {cls : SourceClass} (h : s.handler = .discoverSource)
      (hcreate : createSource s.controls reply = .ok (.new cls)) (herror : reply.slavesError = "") :
      HandlerStep s (.discover reply) (s.discovered cls reply.slaves) []
  | closeError (h : s.handler = .discoverError) :
      HandlerStep s .none
        { s with source := none, startPending := false, handler := .eventLoop } []
  | startError {reply : StartReply} {source : DataSource} {error : String}
      (h : s.handler = .start) (hsource : s.source = some source)
      (hstart : source.start reply = some (source, error)) (herror : error ≠ "") :
      HandlerStep s (.start reply) { s with handler := .startError } [.critical error]
  | started {reply : StartReply} {source running : DataSource} (h : s.handler = .start)
      (hsource : s.source = some source) (hstart : source.start reply = some (running, "")) :
      HandlerStep s (.start reply)
        { s with
          source := some running
          discoverEnabled := false
          startText := .stop
          handler := .eventLoop } []
  | closeStartError (h : s.handler = .startError) :
      HandlerStep s .none { s with handler := .eventLoop } []
  | stopped (h : s.handler = .stop) : HandlerStep s .none s.callStop.1 []
  | configFile (path : String) (h : s.handler = .selectConfigFile) :
      HandlerStep s (.file path)
        { s with controls := { s.controls with configFileName := path }, handler := .eventLoop } []
  | pcapFile (path : String) (h : s.handler = .selectPcapFile) :
      HandlerStep s (.file path)
        { s with controls := { s.controls with pcapFileName := path }, handler := .eventLoop } []

/-- A step of the window. -/
inductive WindowStep (s : Gui) : GuiAction → Gui → List GuiEvent → Prop
  | option (option : ProgramOption) (h : s.handler = .constructed) :
      WindowStep s (.option option) (s.applyOption option) []
  | start (h : s.handler = .constructed) :
      WindowStep s .start
        { s with
          startPending := true
          startEnabled := false
          wheelGroupBoxes := []
          handler := .discoverReset }
        [.handleDiscoverButton s.queue]
  | exec (h : s.handler = .constructed) : WindowStep s .exec { s with handler := .eventLoop } []
  | input (input : UserInput) :
      WindowStep s (.input input) { s with queue := s.queue ++ [.input input] } []
  | post {source : DataSource} (hsource : s.source = some source)
      (hjoinable : source.joinable = true) :
      WindowStep s .post { s with queue := s.queue ++ [.dataChanged source.slaves] } []
  | refresh {slaves : List SlavePtr} {queue : List Message}
      (hqueue : s.queue = .dataChanged slaves :: queue)
      (h : s.handler = .eventLoop ∨ s.handler.Modal) :
      WindowStep s .deliver { s with queue := queue } [.handleDataChanged s.wheelGroupBoxes slaves]
  | blocked {input : UserInput} {queue : List Message} (hqueue : s.queue = .input input :: queue)
      (h : s.handler.Modal) : WindowStep s .deliver { s with queue := queue } []
  | deliver {input : UserInput} {queue : List Message} {s' : Gui} {new : List GuiEvent}
      (hqueue : s.queue = .input input :: queue) (h : s.handler = .eventLoop)
      (hinput : InputStep { s with queue := queue } input s' new) : WindowStep s .deliver s' new
  | handler {reply : GuiReply} {s' : Gui} {new : List GuiEvent}
      (hstep : HandlerStep s reply s' new) : WindowStep s (.handler reply) s' new

variable {s s' : Gui} {new : List GuiEvent}

/-- Discover returns with a source that can be started. -/
theorem returnFromDiscover_enabled (henabled : s.startEnabled = true) (htext : s.startText = .start)
    {source : DataSource} (hsource : s.source = some source) :
    s.returnFromDiscover =
      ({ s with
        startPending := false
        handler := if s.startPending then .start else .eventLoop }, []) := by
  by_cases hpending : s.startPending = true
  · rw [returnFromDiscover, if_pos ⟨hpending, henabled⟩, Gui.handleStart]
    simp [hsource, htext, hpending]
  · rw [returnFromDiscover, if_neg fun h => hpending h.1]
    simp [hpending]

/-- Discover with a source that answers without an error. -/
theorem discoverSource_ok (htext : s.startText = .start) {reply : DiscoverReply} {cls : SourceClass}
    (hcreate : createSource s.controls reply = .ok (.new cls)) (herror : reply.slavesError = "") :
    s.discoverSource reply = (s.discovered cls reply.slaves, []) := by
  unfold Gui.discoverSource
  rw [hcreate]
  dsimp only
  rw [if_neg (not_not.mpr herror)]
  exact returnFromDiscover_enabled rfl htext rfl

namespace LifeCycle

/-- An enabled start button finds a source. -/
theorem handleStart_eq (h : s.LifeCycle) (henabled : s.startEnabled = true) :
    s.handleStart =
      ({ s with handler := if s.startText = .start then .start else .stop }, []) := by
  obtain ⟨source, hsource, -⟩ := h.enabled henabled
  unfold Gui.handleStart
  rw [Option.mem_def.mp hsource]
  cases s.startText <;> rfl

private theorem inputStep (h : s.LifeCycle) (input : UserInput)
    (hinput : s.handleInput input = (s', new)) : InputStep s input s' new := by
  by_cases henabled : s.Enabled input = true
  · cases input with
    | discoverButton =>
      have hdiscover : s.discoverEnabled = true := henabled
      have htext : s.startText = .start := by
        cases htext : s.startText with
        | start => rfl
        | stop => simp [(h.stopText htext).2] at hdiscover
      rw [Gui.handleInput, if_pos hdiscover] at hinput
      cases hinput
      exact .discover hdiscover htext
    | startButton =>
      have hstart : s.startEnabled = true := henabled
      rw [Gui.handleInput, if_pos hstart, h.handleStart_eq hstart] at hinput
      cases hinput
      by_cases htext : s.startText = .start
      · rw [if_pos htext]
        exact .start hstart htext
      · have hstop : s.startText = .stop := by
          cases heq : s.startText with
          | start => exact absurd heq htext
          | stop => rfl
        rw [if_neg htext]
        exact .stop hstart hstop
    | selectConfigFileButton =>
      have hwidget : s.controls.selectConfigFileEnabled = true := henabled
      rw [Gui.handleInput, if_pos hwidget] at hinput
      cases hinput
      exact .configFile henabled
    | selectPcapFileButton =>
      have hwidget : s.controls.selectPcapFileEnabled = true := henabled
      rw [Gui.handleInput, if_pos hwidget] at hinput
      cases hinput
      exact .pcapFile henabled
    | inputButton button =>
      cases hinput
      exact .button button
    | ifComboBox text =>
      have hwidget : s.controls.ifComboBoxEnabled = true := henabled
      rw [Gui.handleInput, if_pos hwidget] at hinput
      cases hinput
      exact .interface text henabled
    | publishZmqCheckbox checked =>
      cases hinput
      exact .publish checked
  · have hdisabled : s.Enabled input = false := by simpa using henabled
    have hsame : s.handleInput input = (s, []) := by
      cases input with
      | inputButton button => exact absurd rfl henabled
      | publishZmqCheckbox checked => exact absurd rfl henabled
      | _ => exact if_neg henabled
    rw [hsame] at hinput
    cases hinput
    exact .disabled input hdisabled

private theorem discoverStep (h : s.LifeCycle) (hhandler : s.handler = .discoverSource)
    (reply : DiscoverReply) (hdiscover : s.discoverSource reply = (s', new)) :
    HandlerStep s (.discover reply) s' new := by
  have htext := (h.discovering (.inr (.inl hhandler))).2
  rcases createSource_new s.controls reply with ⟨cls, hnew⟩ | ⟨message, source, herror, hsource⟩
  · by_cases herror : reply.slavesError = ""
    · rw [discoverSource_ok htext hnew herror] at hdiscover
      cases hdiscover
      exact .discovered hhandler hnew herror
    · unfold Gui.discoverSource at hdiscover
      rw [hnew] at hdiscover
      dsimp only at hdiscover
      rw [if_pos herror] at hdiscover
      cases hdiscover
      exact .slavesError hhandler hnew herror
  · unfold Gui.discoverSource at hdiscover
    rw [herror] at hdiscover
    cases hdiscover
    exact .createError hhandler herror fun new hm => (hsource new hm).1

private theorem startStep (h : s.LifeCycle) (hhandler : s.handler = .start) (reply : StartReply)
    (hcall : s.callStart reply = (s', new)) : HandlerStep s (.start reply) s' new := by
  obtain ⟨henabled, htext⟩ := h.starting hhandler
  obtain ⟨source, hsource, -⟩ := h.enabled henabled
  have hidle := h.startText htext source hsource
  obtain ⟨⟨running, error⟩, hstart⟩ :=
    Option.isSome_iff_exists.mp (DataSource.start_isSome hidle reply)
  rw [Option.mem_def] at hsource
  simp only [Gui.callStart, hsource, hstart] at hcall
  by_cases herror : error = ""
  · subst herror
    cases hcall
    exact .started hhandler hsource hstart
  · have hsame : running = source := (DataSource.start_spec hstart).2.2.1 herror
    rw [hsame] at hstart
    simp only [ne_eq, herror, not_false_eq_true, if_true, hsame, ← hsource] at hcall
    cases hcall
    exact .startError hhandler hsource hstart herror

private theorem answerStep (h : s.LifeCycle) (reply : GuiReply)
    (hstep : s.handlerStep reply = some (s', new)) : HandlerStep s reply s' new := by
  unfold Gui.handlerStep at hstep
  split at hstep
  · rename_i hhandler
    rw [h.resetSource] at hstep
    cases hstep
    exact .discoverReset hhandler
  · rename_i reply hhandler
    exact h.discoverStep hhandler reply (Option.some.inj hstep)
  · rename_i hhandler
    obtain ⟨hdisabled, -⟩ := h.discovering (.inr (.inr hhandler))
    have hwait : ¬ (s.startPending = true ∧ s.startEnabled = true) := by simp [hdisabled]
    rw [h.resetSource] at hstep
    dsimp only at hstep
    rw [Gui.returnFromDiscover, if_neg hwait] at hstep
    cases hstep
    exact .closeError hhandler
  · rename_i reply hhandler
    exact h.startStep hhandler reply (Option.some.inj hstep)
  · rename_i hhandler
    cases hstep
    exact .closeStartError hhandler
  · rename_i hhandler
    cases hstep
    exact .stopped hhandler
  · rename_i path hhandler
    cases hstep
    exact .configFile path hhandler
  · rename_i path hhandler
    cases hstep
    exact .pcapFile path hhandler
  · cases hstep

private theorem deliverStep (h : s.LifeCycle) (hstep : s.deliver = some (s', new)) :
    WindowStep s .deliver s' new := by
  unfold Gui.deliver at hstep
  split at hstep
  · cases hstep
  · rename_i slaves queue hqueue
    split at hstep
    · rename_i hhandler
      cases hstep
      exact .refresh hqueue hhandler
    · cases hstep
  · rename_i input queue hqueue
    split at hstep
    · rename_i hhandler
      exact .deliver hqueue hhandler ((h.withQueue queue).inputStep input (Option.some.inj hstep))
    · split at hstep
      · rename_i hmodal
        cases hstep
        exact .blocked hqueue hmodal
      · cases hstep

private theorem postStep (hstep : s.post = some (s', new)) : WindowStep s .post s' new := by
  unfold Gui.post at hstep
  split at hstep
  · cases hstep
  · rename_i source hsource
    split at hstep
    · rename_i hjoinable
      cases hstep
      exact .post hsource hjoinable
    · cases hstep

/-- A window whose buttons and source are consistent takes one of these branches. -/
theorem windowStep {a : GuiAction} (h : s.LifeCycle) (hstep : machine.step s a = some (s', new)) :
    WindowStep s a s' new := by
  have hmachine : s.step a = some (s', new) := hstep
  unfold Gui.step at hmachine
  rw [if_neg h.alive] at hmachine
  cases a with
  | option option =>
    by_cases hhandler : s.handler = .constructed
    · simp only [hhandler, if_true] at hmachine
      cases hmachine
      exact .option option hhandler
    · simp [hhandler] at hmachine
  | start =>
    by_cases hhandler : s.handler = .constructed
    · simp only [hhandler, if_true] at hmachine
      cases hmachine
      exact .start hhandler
    · simp [hhandler] at hmachine
  | exec =>
    by_cases hhandler : s.handler = .constructed
    · simp only [hhandler, if_true] at hmachine
      cases hmachine
      exact .exec hhandler
    · simp [hhandler] at hmachine
  | input input =>
    cases hmachine
    exact .input input
  | post => exact postStep hmachine
  | deliver => exact h.deliverStep hmachine
  | handler reply => exact .handler (h.answerStep reply hmachine)

end LifeCycle

/-- What holds of the window at first and is kept by each branch holds in every reachable state. -/
theorem reachable_invariant {interfaces : List String} {events : List GuiEvent}
    (run : machine.Run (fun _ _ => True) (init interfaces) events s) {I : Gui → Prop}
    (hinit : I (init interfaces))
    (hstep : ∀ s s' a new, s.LifeCycle → I s → WindowStep s a s' new → I s') :
    s.LifeCycle ∧ I s := by
  apply run.stateInvariant (I := fun s => s.LifeCycle ∧ I s) ⟨init_lifeCycle interfaces, hinit⟩
  intro new s s' a h _ hs
  exact ⟨(h.1.step hs).1, hstep s s' a new h.1 h.2 (h.1.windowStep hs)⟩

end Gui

end Kddv
