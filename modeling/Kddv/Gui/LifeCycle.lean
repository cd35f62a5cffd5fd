import Kddv.Gui.Steps

/-!
# Buttons and data source

The window keeps its two buttons, the check box, the group boxes and the data source
consistent. In particular no handler finds a null source, and no thread object is assigned
over or destroyed while it is joinable.
-/

namespace Kddv

open Framework

namespace Gui

/-- What holds in every state, with what a handler that is waiting has found before. -/
structure LifeCycle (s : Gui) : Prop where
  enabled : s.startEnabled = true →
    ∃ source ∈ s.source, source.slaves = s.wheelGroupBoxes.map GroupBox.slave
  stopText : s.startText = .stop → s.startEnabled = true ∧ s.discoverEnabled = false
  startText : s.startText = .start → ∀ source ∈ s.source, source.joinable = false
  running : ∀ source ∈ s.source, source.cls = .ethercatMaster → source.joinable = true →
    source.ethercatRunning = true
  publish : s.handler ≠ .discoverError →
    ∀ source ∈ s.source, source.zmqPublishEnabled = s.controls.publishZmq
  constructed : s.handler = .constructed → s.source = none ∧ s.startText = .start
  discovering : s.handler = .discoverReset ∨ s.handler = .discoverSource ∨
    s.handler = .discoverError → s.startEnabled = false ∧ s.startText = .start
  starting : s.handler = .start → s.startEnabled = true ∧ s.startText = .start
  alive : s.handler ≠ .terminated

namespace LifeCycle

variable {s s' : Gui} {new : List GuiEvent}

/-- A joinable thread object belongs to a source that can be stopped. -/
theorem joinable (h : s.LifeCycle) {source : DataSource} (hsource : source ∈ s.source)
    (hjoinable : source.joinable = true) : s.startEnabled = true ∧ s.discoverEnabled = false := by
  cases htext : s.startText with
  | stop => exact h.stopText htext
  | start =>
    rw [h.startText htext source hsource] at hjoinable
    cases hjoinable

/-- A change to a handler that waits for nothing, or for something that has no effect here. -/
theorem withHandler (h : s.LifeCycle) {handler : Handler} (hold : s.handler ≠ .discoverError)
    (hhandler : handler ∉ [.constructed, .discoverReset, .discoverSource, .discoverError, .start,
      .terminated]) : LifeCycle { s with handler := handler } := by
  simp only [List.mem_cons, List.not_mem_nil, or_false, not_or] at hhandler
  obtain ⟨hconstructed, hreset, hsource, herror, hstart, hterminated⟩ := hhandler
  exact ⟨h.enabled, h.stopText, h.startText, h.running, fun _ => h.publish hold,
    fun heq => absurd heq hconstructed, fun heq => by simp_all, fun heq => absurd heq hstart,
    hterminated⟩

theorem withControls (h : s.LifeCycle) {controls : Controls}
    (hcontrols : controls.publishZmq = s.controls.publishZmq) :
    LifeCycle { s with controls := controls } :=
  ⟨h.enabled, h.stopText, h.startText, h.running, fun hne => hcontrols ▸ h.publish hne,
    h.constructed, h.discovering, h.starting, h.alive⟩

theorem withStartPending (h : s.LifeCycle) (pending : Bool) :
    LifeCycle { s with startPending := pending } :=
  ⟨h.enabled, h.stopText, h.startText, h.running, h.publish, h.constructed, h.discovering,
    h.starting, h.alive⟩

theorem withQueue (h : s.LifeCycle) (queue : List Message) : LifeCycle { s with queue := queue } :=
  ⟨h.enabled, h.stopText, h.startText, h.running, h.publish, h.constructed, h.discovering,
    h.starting, h.alive⟩

theorem setPublishZmq (h : s.LifeCycle) (checked : Bool) :
    (s.setPublishZmq checked).LifeCycle := by
  rw [Gui.setPublishZmq]
  split
  · exact h
  · refine ⟨?_, h.stopText, ?_, ?_, ?_, ?_, h.discovering, h.starting, h.alive⟩
    · intro henabled
      obtain ⟨source, hsource, hslaves⟩ := h.enabled henabled
      exact ⟨_, Option.mem_map_of_mem _ hsource, hslaves⟩
    · intro htext source hm
      obtain ⟨old, hold, rfl⟩ := Option.mem_map.mp hm
      exact h.startText htext old hold
    · intro source hm
      obtain ⟨old, hold, rfl⟩ := Option.mem_map.mp hm
      exact h.running old hold
    · intro _ source hm
      obtain ⟨old, hold, rfl⟩ := Option.mem_map.mp hm
      rfl
    · intro hconstructed
      obtain ⟨hnone, htext⟩ := h.constructed hconstructed
      refine ⟨?_, htext⟩
      show s.source.map _ = none
      rw [hnone]
      rfl

/-- No handler runs into a null source, and no thread object is lost. -/
def NoFault (events : List GuiEvent) : Prop :=
  .nullDataSource ∉ events ∧ .terminate ∉ events

theorem noFault_nil : NoFault [] := by simp [NoFault]

theorem handleStart (h : s.LifeCycle) (henabled : s.startEnabled = true)
    (hhandler : s.handler ≠ .discoverError) :
    s.handleStart.1.LifeCycle ∧ NoFault s.handleStart.2 := by
  obtain ⟨source, hsource, -⟩ := h.enabled henabled
  rw [Gui.handleStart]
  split
  · rename_i hnone
    rw [hnone] at hsource
    cases hsource
  · split
    · rename_i htext
      refine ⟨⟨h.enabled, h.stopText, h.startText, h.running, fun _ => h.publish hhandler, ?_, ?_,
        ?_, ?_⟩, noFault_nil⟩
      · simp
      · simp
      · exact fun _ => ⟨henabled, htext⟩
      · simp
    · exact ⟨h.withHandler hhandler (by decide), noFault_nil⟩

theorem handleDiscoverButton (h : s.LifeCycle) (htext : s.startText = .start)
    (hhandler : s.handler ≠ .discoverError) : s.handleDiscoverButton.1.LifeCycle := by
  refine ⟨?_, ?_, h.startText, h.running, fun _ => h.publish hhandler, ?_, ?_, ?_, ?_⟩
  · simp [Gui.handleDiscoverButton]
  · simp [Gui.handleDiscoverButton, htext]
  · simp [Gui.handleDiscoverButton]
  · exact fun _ => ⟨rfl, htext⟩
  · simp [Gui.handleDiscoverButton]
  · simp [Gui.handleDiscoverButton]

/-- Discover returns with the error box closed and the source dropped, or with new boxes. -/
theorem returnFromDiscover (h : s.LifeCycle) (hhandler : s.handler = .eventLoop) :
    s.returnFromDiscover.1.LifeCycle ∧ NoFault s.returnFromDiscover.2 := by
  have hne : s.handler ≠ .discoverError := by
    rw [hhandler]
    decide
  rw [Gui.returnFromDiscover]
  split
  · rename_i hpending
    exact (h.withStartPending false).handleStart hpending.2 hne
  · exact ⟨(h.withStartPending false).withHandler hne (by decide), noFault_nil⟩

/-- The destructor of the source joins every thread object. -/
theorem resetSource (h : s.LifeCycle) :
    s.resetSource = some { s with source := none } := by
  unfold Gui.resetSource
  split
  · rename_i hnone
    rw [← hnone]
  · rename_i source hsource
    rw [DataSource.join_joinable (h.running source hsource)]
    rfl

theorem discoverReset (h : s.LifeCycle) (hhandler : s.handler = .discoverReset) :
    LifeCycle { s with source := none, handler := .discoverSource } := by
  obtain ⟨hdisabled, htext⟩ := h.discovering (.inl hhandler)
  refine ⟨?_, h.stopText, ?_, ?_, ?_, ?_, fun _ => ⟨hdisabled, htext⟩, ?_, ?_⟩
  · intro henabled
    rw [hdisabled] at henabled
    cases henabled
  all_goals simp

/-- The error box of Discover has been closed. -/
theorem discoverError (h : s.LifeCycle) (hhandler : s.handler = .discoverError) :
    LifeCycle { s with source := none, handler := .eventLoop } := by
  obtain ⟨hdisabled, -⟩ := h.discovering (.inr (.inr hhandler))
  refine ⟨?_, h.stopText, ?_, ?_, ?_, ?_, ?_, ?_, ?_⟩
  · intro henabled
    rw [hdisabled] at henabled
    cases henabled
  all_goals simp

theorem discoverSource (h : s.LifeCycle) (hhandler : s.handler = .discoverSource)
    (reply : DiscoverReply) :
    (s.discoverSource reply).1.LifeCycle ∧ NoFault (s.discoverSource reply).2 := by
  obtain ⟨hdisabled, htext⟩ := h.discovering (.inr (.inl hhandler))
  have hstop : s.startText ≠ .stop := by
    rw [htext]
    decide
  have hcritical (message : String) : NoFault [.critical message] := by simp [NoFault]
  -- an error box, with any source that has no thread behind it
  have herrorBox (source : Option DataSource) (created : Nat)
      (hsource : ∀ new ∈ source, new.joinable = false) :
      LifeCycle { s with
        source := source
        created := created
        handler := .discoverError } := by
    refine ⟨?_, fun heq => absurd heq hstop, fun _ => hsource, ?_, ?_, ?_,
      fun _ => ⟨hdisabled, htext⟩, ?_, ?_⟩
    · intro henabled
      rw [hdisabled] at henabled
      cases henabled
    · intro new hnew _ hjoinable
      rw [hsource new hnew] at hjoinable
      cases hjoinable
    all_goals simp
  rw [Gui.discoverSource]
  rcases createSource_new s.controls reply with ⟨cls, hnew⟩ | ⟨message, source, herror, hsource⟩
  · rw [hnew]
    dsimp only
    split
    · exact ⟨herrorBox _ _ (by simp [DataSource.new]), hcritical _⟩
    · rw [← returnFromDiscover_handler _ .eventLoop]
      refine returnFromDiscover ?_ rfl
      refine ⟨fun _ => ⟨_, rfl, (map_slave_zipWith_groupBox _ _).symm⟩,
        fun heq => absurd heq hstop, ?_, ?_, ?_, ?_, ?_, ?_, ?_⟩
      all_goals simp [DataSource.new]
  · rw [herror]
    exact ⟨herrorBox _ _ fun new hm => (hsource new hm).1, hcritical _⟩

theorem callStart (h : s.LifeCycle) (hhandler : s.handler = .start) (reply : StartReply) :
    (s.callStart reply).1.LifeCycle ∧ NoFault (s.callStart reply).2 := by
  obtain ⟨henabled, htext⟩ := h.starting hhandler
  have hne : s.handler ≠ .discoverError := by
    rw [hhandler]
    decide
  obtain ⟨source, hsource, hslaves⟩ := h.enabled henabled
  have hnotJoinable := h.startText htext source hsource
  obtain ⟨⟨started, error⟩, hstart⟩ :=
    Option.isSome_iff_exists.mp (DataSource.start_isSome hnotJoinable reply)
  obtain ⟨hsame, hpublish, hfailed, hrunning⟩ := DataSource.start_spec hstart
  rw [Option.mem_def] at hsource
  simp only [Gui.callStart, hsource, hstart]
  split
  · rename_i herror
    rw [hfailed herror, ← hsource]
    exact ⟨h.withHandler hne (by decide), by simp [NoFault]⟩
  · refine ⟨⟨fun _ => ⟨started, rfl, hsame.trans hslaves⟩, fun _ => ⟨henabled, rfl⟩, ?_, ?_, ?_, ?_,
      ?_, ?_, ?_⟩, noFault_nil⟩
    · simp
    · rintro new hm
      cases hm
      exact hrunning (h.running source hsource)
    · rintro _ new hm
      cases hm
      exact hpublish.trans (h.publish hne source hsource)
    all_goals simp

theorem callStop (h : s.LifeCycle) (hhandler : s.handler = .stop) : s.callStop.1.LifeCycle := by
  have hne : s.handler ≠ .discoverError := by
    rw [hhandler]
    decide
  have hjoined : ∀ source ∈ s.source.map DataSource.join, source.joinable = false := by
    intro source hm
    obtain ⟨old, hold, rfl⟩ := Option.mem_map.mp hm
    exact DataSource.join_joinable (h.running old hold)
  refine ⟨?_, ?_, fun _ => hjoined, ?_, ?_, ?_, ?_, ?_, ?_⟩
  · intro henabled
    obtain ⟨source, hsource, hslaves⟩ := h.enabled henabled
    exact ⟨_, Option.mem_map_of_mem _ hsource, (DataSource.join_slaves source).trans hslaves⟩
  · simp [Gui.callStop]
  · intro source hm _ hjoinable
    rw [hjoined source hm] at hjoinable
    cases hjoinable
  · intro _ source hm
    obtain ⟨old, hold, rfl⟩ := Option.mem_map.mp hm
    exact (DataSource.join_zmqPublishEnabled old).trans (h.publish hne old hold)
  all_goals simp [Gui.callStop]

theorem handlerStep (h : s.LifeCycle) (reply : GuiReply)
    (hstep : s.handlerStep reply = some (s', new)) : s'.LifeCycle ∧ NoFault new := by
  unfold Gui.handlerStep at hstep
  split at hstep
  · rename_i hhandler
    rw [h.resetSource] at hstep
    cases hstep
    exact ⟨h.discoverReset hhandler, noFault_nil⟩
  · rename_i hhandler
    obtain ⟨rfl, rfl⟩ := Prod.mk.inj (Option.some.inj hstep)
    exact h.discoverSource hhandler _
  · rename_i hhandler
    rw [h.resetSource] at hstep
    have hreturn := (h.discoverError hhandler).returnFromDiscover rfl
    rw [returnFromDiscover_handler { s with source := none }, Option.some.inj hstep] at hreturn
    exact hreturn
  · rename_i hhandler
    obtain ⟨rfl, rfl⟩ := Prod.mk.inj (Option.some.inj hstep)
    exact h.callStart hhandler _
  · rename_i hhandler
    cases hstep
    exact ⟨h.withHandler (by simp [hhandler]) (by decide), noFault_nil⟩
  · rename_i hhandler
    cases hstep
    exact ⟨h.callStop hhandler, noFault_nil⟩
  · rename_i hhandler
    cases hstep
    exact ⟨(h.withControls (by rfl)).withHandler (by simp [hhandler]) (by decide), noFault_nil⟩
  · rename_i hhandler
    cases hstep
    exact ⟨(h.withControls (by rfl)).withHandler (by simp [hhandler]) (by decide), noFault_nil⟩
  · cases hstep

theorem handleInput (h : s.LifeCycle) (hhandler : s.handler = .eventLoop) (input : UserInput) :
    (s.handleInput input).1.LifeCycle ∧ NoFault (s.handleInput input).2 := by
  have hne : s.handler ≠ .discoverError := by
    rw [hhandler]
    decide
  cases input with
  | discoverButton =>
    simp only [Gui.handleInput]
    split
    · rename_i henabled
      have htext : s.startText = .start := by
        cases htext : s.startText with
        | start => rfl
        | stop =>
          rw [(h.stopText htext).2] at henabled
          cases henabled
      exact ⟨h.handleDiscoverButton htext hne, by simp [Gui.handleDiscoverButton, NoFault]⟩
    · exact ⟨h, noFault_nil⟩
  | startButton =>
    simp only [Gui.handleInput]
    split
    · rename_i henabled
      exact h.handleStart henabled hne
    · exact ⟨h, noFault_nil⟩
  | selectConfigFileButton =>
    simp only [Gui.handleInput]
    split
    · exact ⟨h.withHandler hne (by decide), noFault_nil⟩
    · exact ⟨h, noFault_nil⟩
  | selectPcapFileButton =>
    simp only [Gui.handleInput]
    split
    · exact ⟨h.withHandler hne (by decide), noFault_nil⟩
    · exact ⟨h, noFault_nil⟩
  | inputButton button => exact ⟨h.withControls (Controls.chooseInput_publishZmq _ _), noFault_nil⟩
  | ifComboBox text =>
    simp only [Gui.handleInput]
    split
    · exact ⟨h.withControls (Controls.selectNetworkInterface_publishZmq _ _), noFault_nil⟩
    · exact ⟨h, noFault_nil⟩
  | publishZmqCheckbox checked => exact ⟨h.setPublishZmq checked, noFault_nil⟩

theorem applyOption (h : s.LifeCycle) (option : ProgramOption) : (s.applyOption option).LifeCycle := by
  cases option with
  | selectSource src => exact h.withControls (Controls.selectSource_publishZmq _ _)
  | selectNetworkInterface iface =>
    exact h.withControls (Controls.selectNetworkInterface_publishZmq _ _)
  | setConfigFile path => exact h.withControls rfl
  | setPcapFile path => exact h.withControls rfl
  | enableZmq enable => exact h.setPublishZmq enable

theorem deliver (h : s.LifeCycle) (hstep : s.deliver = some (s', new)) :
    s'.LifeCycle ∧ NoFault new := by
  unfold Gui.deliver at hstep
  split at hstep
  · cases hstep
  · rename_i slaves queue hqueue
    split at hstep
    · cases hstep
      exact ⟨h.withQueue queue, by simp [NoFault]⟩
    · cases hstep
  · rename_i input queue hqueue
    split at hstep
    · rename_i hhandler
      have hinput := (h.withQueue queue).handleInput hhandler input
      rw [Option.some.inj hstep] at hinput
      exact hinput
    · split at hstep
      · cases hstep
        exact ⟨h.withQueue queue, noFault_nil⟩
      · cases hstep

theorem post (h : s.LifeCycle) (hstep : s.post = some (s', new)) :
    s'.LifeCycle ∧ NoFault new := by
  unfold Gui.post at hstep
  split at hstep
  · cases hstep
  · split at hstep
    · cases hstep
      exact ⟨h.withQueue _, noFault_nil⟩
    · cases hstep

theorem step {a : GuiAction} (h : s.LifeCycle) (hstep : s.step a = some (s', new)) :
    s'.LifeCycle ∧ NoFault new := by
  unfold Gui.step at hstep
  split at hstep
  · cases hstep
  · cases a with
    | option option =>
      dsimp only at hstep
      split at hstep
      · cases hstep
        exact ⟨h.applyOption option, noFault_nil⟩
      · cases hstep
    | start =>
      dsimp only at hstep
      split at hstep
      · rename_i hconstructed
        cases hstep
        have htext := (h.constructed hconstructed).2
        exact ⟨(h.withStartPending true).handleDiscoverButton htext (by simp [hconstructed]),
          by simp [NoFault]⟩
      · cases hstep
    | exec =>
      dsimp only at hstep
      split at hstep
      · rename_i hconstructed
        cases hstep
        exact ⟨h.withHandler (by simp [hconstructed]) (by decide), noFault_nil⟩
      · cases hstep
    | input input =>
      cases hstep
      exact ⟨h.withQueue _, noFault_nil⟩
    | post => exact h.post hstep
    | deliver => exact h.deliver hstep
    | handler reply => exact h.handlerStep reply hstep

end LifeCycle

theorem init_lifeCycle (interfaces : List String) : (init interfaces).LifeCycle := by
  constructor <;> simp [init]

/-- The life-cycle invariant holds in every reachable state, and no handler has met a null source
or lost a joinable thread. While Discover shows an error box, the source that it is about to
drop need not have the flag of the check box. -/
theorem lifeCycle_reachable (interfaces : List String) (events : List GuiEvent) (s : Gui)
    (run : machine.Run (fun _ _ => True) (init interfaces) events s) :
    (s.startEnabled = true →
      ∃ source ∈ s.source, source.slaves = s.wheelGroupBoxes.map GroupBox.slave) ∧
    (s.startText = .stop → s.startEnabled = true ∧ s.discoverEnabled = false) ∧
    (s.startText = .start → ∀ source ∈ s.source, source.joinable = false) ∧
    (s.handler ≠ .discoverError →
      ∀ source ∈ s.source, source.zmqPublishEnabled = s.controls.publishZmq) ∧
    .nullDataSource ∉ events ∧ .terminate ∉ events := by
  have hinv : s.LifeCycle ∧ LifeCycle.NoFault events := by
    refine run.invariant (I := fun events s => s.LifeCycle ∧ LifeCycle.NoFault events)
      ⟨init_lifeCycle interfaces, LifeCycle.noFault_nil⟩ ?_
    rintro events new s s' a ⟨h, hold⟩ - hstep
    obtain ⟨h', hnew⟩ := h.step hstep
    exact ⟨h', by simp [hold.1, hnew.1], by simp [hold.2, hnew.2]⟩
  obtain ⟨h, hfaults⟩ := hinv
  exact ⟨h.enabled, h.stopText, h.startText, h.publish, hfaults⟩

/-- A slave with nothing in its records. -/
def battery : EthercatSlave :=
  ⟨⟨"KELO_ROBILE", robileBatterySlaveType, 1, 5001027, 1, 34603265, 4097, 0, 12⟩,
    .robileBatterySlave, Packed.layout.decode [], Packed.layout.decode []⟩

/-- The window is started on a recorded file with one slave. -/
def startOnFile : List GuiAction :=
  [.option (.selectSource "pcap"), .option (.setConfigFile "config.json"),
    .option (.setPcapFile "data.pcapng"), .start, .handler .none,
    .handler (.discover ⟨"", "", [battery], ""⟩), .handler (.start .operational)]

/-- The source is started from the command line with publishing enabled, and stopped. -/
theorem lifeCycle_reachable_file : ∃ events s,
    machine.Run (fun _ _ => True) (init []) events s ∧
      (s.startEnabled = true →
        ∃ source ∈ s.source, source.slaves = s.wheelGroupBoxes.map GroupBox.slave) ∧
      (s.startText = .stop → s.startEnabled = true ∧ s.discoverEnabled = false) ∧
      (s.startText = .start → ∀ source ∈ s.source, source.joinable = false) ∧
      (s.handler ≠ .discoverError →
        ∀ source ∈ s.source, source.zmqPublishEnabled = s.controls.publishZmq) ∧
      .nullDataSource ∉ events ∧ .terminate ∉ events := by
  have hexec : machine.exec (fun _ _ => True) (init []) (.option (.enableZmq true) ::
      startOnFile ++ [GuiAction.input .startButton, .deliver, .handler .none]) =
      some (_, [.handleDiscoverButton []]) := rfl
  exact ⟨_, _, Machine.run_of_exec hexec,
    lifeCycle_reachable [] _ _ (Machine.run_of_exec hexec)⟩

end Gui

end Kddv
