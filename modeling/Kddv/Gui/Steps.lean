import Kddv.Gui.Model

/-!
# Steps of the window

What the handlers of the window do to the queue, the group boxes and the data source.
-/

namespace Kddv

open Framework

theorem map_slave_zipWith_groupBox (slaves : List EthercatSlave) (start : Nat) :
    (List.zipWith groupBox (List.range' start slaves.length) slaves).map GroupBox.slave =
      List.range' start slaves.length := by
  induction slaves generalizing start with
  | nil => rfl
  | cons slave slaves ih =>
    rw [List.length_cons, List.range'_succ, List.zipWith_cons_cons, List.map_cons, ih]
    rfl

namespace Controls

/-- Choosing a source does not touch the check box. -/
theorem chooseInput_publishZmq (c : Controls) (button : InputButton) :
    (c.chooseInput button).publishZmq = c.publishZmq := by
  cases button <;> rfl

theorem selectSource_publishZmq (c : Controls) (src : String) :
    (c.selectSource src).publishZmq = c.publishZmq := by
  unfold selectSource
  split
  · exact chooseInput_publishZmq _ _
  · split
    · exact chooseInput_publishZmq _ _
    · split
      · exact chooseInput_publishZmq _ _
      · rfl

theorem selectNetworkInterface_publishZmq (c : Controls) (iface : String) :
    (c.selectNetworkInterface iface).publishZmq = c.publishZmq := by
  unfold selectNetworkInterface
  split <;> rfl

end Controls

namespace DataSource

theorem join_joinable {source : DataSource}
    (h : source.cls = .ethercatMaster → source.joinable = true → source.ethercatRunning = true) :
    source.join.joinable = false := by
  obtain ⟨cls, slaves, publish, running, joinable⟩ := source
  cases cls with
  | packetSniffer => rfl
  | ethercatMaster =>
    cases running with
    | true => rfl
    | false =>
      cases joinable with
      | false => rfl
      | true => cases h rfl rfl

theorem join_slaves (source : DataSource) : source.join.slaves = source.slaves := by
  unfold join
  split
  · rfl
  · split <;> rfl

theorem join_zmqPublishEnabled (source : DataSource) :
    source.join.zmqPublishEnabled = source.zmqPublishEnabled := by
  unfold join
  split
  · rfl
  · split <;> rfl

/-- Without a joinable thread object, `start` does not assign over one. -/
theorem start_isSome {source : DataSource} (h : source.joinable = false) (reply : StartReply) :
    (source.start reply).isSome = true := by
  obtain ⟨cls, slaves, publish, running, joinable⟩ := source
  cases h
  cases cls <;> cases reply <;> rfl

/-- What `start` leaves as it is, and that a source that reports an error has no new threads. -/
theorem start_spec {source source' : DataSource} {reply : StartReply} {error : String}
    (h : source.start reply = some (source', error)) :
    source'.slaves = source.slaves ∧ source'.zmqPublishEnabled = source.zmqPublishEnabled ∧
      (error ≠ "" → source' = source) ∧
      ((source.cls = .ethercatMaster → source.joinable = true → source.ethercatRunning = true) →
        source'.cls = .ethercatMaster → source'.joinable = true →
          source'.ethercatRunning = true) := by
  obtain ⟨cls, slaves, publish, running, joinable⟩ := source
  cases cls with
  | packetSniffer =>
    simp only [start] at h
    split at h
    · cases h
    · cases h
      simp
  | ethercatMaster =>
    cases reply with
    | noSocket => cases h; simp
    | noSlaves => cases h; simp
    | notOperational => cases h; simp
    | operational =>
      simp only [start] at h
      split at h
      · cases h
      · cases h
        simp

end DataSource

namespace Gui

/-- Discover creates a new source or shows an error box, perhaps in front of a new source. -/
theorem createSource_new (c : Controls) (reply : DiscoverReply) :
    (∃ cls, createSource c reply = .ok (.new cls)) ∨
      ∃ message source, createSource c reply = .error (message, source) ∧
        ∀ new ∈ source, new.joinable = false ∧ new.slaves = [] := by
  unfold createSource
  split
  · split
    · exact .inr ⟨_, _, rfl, by simp⟩
    · exact .inl ⟨_, rfl⟩
  · split
    · exact .inr ⟨_, _, rfl, by simp⟩
    · split
      · exact .inr ⟨_, _, rfl, by simp [DataSource.new]⟩
      · split
        · split
          · exact .inr ⟨_, _, rfl, by simp [DataSource.new]⟩
          · exact .inl ⟨_, rfl⟩
        · exact .inr ⟨_, _, rfl, by simp [DataSource.new]⟩
  · split
    · exact .inr ⟨_, _, rfl, by simp⟩
    · split
      · exact .inr ⟨_, _, rfl, by simp⟩
      · split
        · exact .inr ⟨_, _, rfl, by simp [DataSource.new]⟩
        · split
          · exact .inr ⟨_, _, rfl, by simp [DataSource.new]⟩
          · exact .inl ⟨_, rfl⟩
  · exact .inr ⟨_, _, rfl, by simp⟩

theorem resetSource_eq {s s' : Gui} (h : s.resetSource = some s') :
    s' = { s with source := none } := by
  obtain ⟨controls, startEnabled, discoverEnabled, startText, boxes, source, queue, handler⟩ := s
  cases source with
  | none => exact (Option.some.inj h).symm
  | some source =>
    simp only [resetSource] at h
    split at h
    · cases h
    · exact (Option.some.inj h).symm

theorem returnFromDiscover_handler (s : Gui) (handler : Handler) :
    { s with handler := handler }.returnFromDiscover = s.returnFromDiscover := by
  unfold returnFromDiscover handleStart terminate
  rfl

/-- A step that delivers no message to `handleDataChanged`: new boxes are built from new slaves, and
Discover records the queue that it finds. -/
structure Moves (s s' : Gui) (new : List GuiEvent) : Prop where
  queue : s'.queue = s.queue
  created : s.created ≤ s'.created
  boxes : ∀ box ∈ s'.wheelGroupBoxes, box ∈ s.wheelGroupBoxes ∨ s.created ≤ box.slave
  slaves : ∀ source ∈ s'.source, ∀ ptr ∈ source.slaves,
    (∃ old ∈ s.source, ptr ∈ old.slaves) ∨ ptr < s'.created
  refreshes : ∀ boxes slaves, .handleDataChanged boxes slaves ∉ new
  discovers : ∀ queue, .handleDiscoverButton queue ∈ new →
    queue = s.queue ∧ s'.wheelGroupBoxes = []

namespace Moves

variable {s s₁ s₂ : Gui} {new : List GuiEvent}

theorem trans (h₁ : Moves s s₁ []) (h₂ : Moves s₁ s₂ new) : Moves s s₂ new := by
  refine ⟨h₂.queue.trans h₁.queue, h₁.created.trans h₂.created, ?_, ?_, h₂.refreshes, ?_⟩
  · intro box hm
    rcases h₂.boxes box hm with hold | hnew
    · exact h₁.boxes box hold
    · exact .inr (h₁.created.trans hnew)
  · intro source hm ptr hptr
    rcases h₂.slaves source hm ptr hptr with ⟨old, hold, hmem⟩ | hlt
    · exact (h₁.slaves old hold ptr hmem).imp_right fun hlt => hlt.trans_le h₂.created
    · exact .inr hlt
  · intro queue hm
    exact ⟨(h₂.discovers queue hm).1.trans h₁.queue, (h₂.discovers queue hm).2⟩

/-- Neither the boxes nor the slaves change, and nothing is recorded that matters here. -/
theorem same (hqueue : s₁.queue = s.queue) (hcreated : s₁.created = s.created)
    (hboxes : s₁.wheelGroupBoxes = s.wheelGroupBoxes)
    (hslaves : ∀ source ∈ s₁.source, ∃ old ∈ s.source, source.slaves = old.slaves)
    (hrefreshes : ∀ boxes slaves, .handleDataChanged boxes slaves ∉ new)
    (hdiscovers : ∀ queue, .handleDiscoverButton queue ∉ new) : Moves s s₁ new := by
  refine ⟨hqueue, hcreated.ge, ?_, ?_, hrefreshes, fun queue hm => absurd hm (hdiscovers queue)⟩
  · intro box hm
    rw [hboxes] at hm
    exact .inl hm
  · intro source hm ptr hptr
    obtain ⟨old, hold, heq⟩ := hslaves source hm
    exact .inl ⟨old, hold, heq ▸ hptr⟩

/-- A step that only changes widgets or the handler. -/
theorem quiet (hqueue : s₁.queue = s.queue) (hcreated : s₁.created = s.created)
    (hboxes : s₁.wheelGroupBoxes = s.wheelGroupBoxes) (hsource : s₁.source = s.source) :
    Moves s s₁ [] := by
  refine .same hqueue hcreated hboxes (fun source hm => ?_) (by simp) (by simp)
  rw [hsource] at hm
  exact ⟨source, hm, rfl⟩

/-- The program ends. -/
theorem terminate (event : GuiEvent) (hevent : event = .nullDataSource ∨ event = .terminate) :
    Moves s (s.terminate event).1 (s.terminate event).2 := by
  refine .same rfl rfl rfl (fun source hm => ⟨source, hm, rfl⟩) ?_ ?_
  · rcases hevent with rfl | rfl <;> simp [Gui.terminate]
  · rcases hevent with rfl | rfl <;> simp [Gui.terminate]

theorem setPublishZmq (checked : Bool) : Moves s (s.setPublishZmq checked) [] := by
  rw [Gui.setPublishZmq]
  split
  · exact .quiet rfl rfl rfl rfl
  · refine .same rfl rfl rfl (fun source hm => ?_) (by simp) (by simp)
    obtain ⟨old, hold, rfl⟩ := Option.mem_map.mp hm
    exact ⟨old, hold, rfl⟩

theorem handleStart : Moves s s.handleStart.1 s.handleStart.2 := by
  rw [Gui.handleStart]
  split
  · exact .terminate _ (.inl rfl)
  · split <;> exact .quiet rfl rfl rfl rfl

theorem handleDiscoverButton :
    Moves s s.handleDiscoverButton.1 s.handleDiscoverButton.2 := by
  refine ⟨rfl, le_refl _, by simp [Gui.handleDiscoverButton], ?_,
    by simp [Gui.handleDiscoverButton], by simp [Gui.handleDiscoverButton]⟩
  exact fun source hm ptr hptr => .inl ⟨source, hm, hptr⟩

theorem returnFromDiscover : Moves s s.returnFromDiscover.1 s.returnFromDiscover.2 := by
  rw [Gui.returnFromDiscover]
  split
  · have hpending : Moves s { s with startPending := false } [] := .quiet rfl rfl rfl rfl
    exact hpending.trans handleStart
  · exact .quiet rfl rfl rfl rfl

theorem discoverSource (reply : DiscoverReply) :
    Moves s (s.discoverSource reply).1 (s.discoverSource reply).2 := by
  rw [Gui.discoverSource]
  rcases createSource_new s.controls reply with ⟨cls, hnew⟩ | ⟨message, source, herror, hsource⟩
  · rw [hnew]
    dsimp only
    have hlt : ∀ ptr ∈ List.range' s.created reply.slaves.length,
        ptr < s.created + reply.slaves.length := fun ptr hm => (List.mem_range'_1.mp hm).2
    split
    · refine ⟨rfl, Nat.le_add_right _ _, fun box hm => .inl hm, ?_, by simp, by simp⟩
      rintro source hm ptr hptr
      cases hm
      exact .inr (hlt ptr hptr)
    · refine trans ?_ returnFromDiscover
      refine ⟨rfl, Nat.le_add_right _ _, ?_, ?_, by simp, by simp⟩
      · intro box hm
        have hslave := List.mem_map_of_mem (f := GroupBox.slave) hm
        rw [map_slave_zipWith_groupBox] at hslave
        exact .inr (List.mem_range'_1.mp hslave).1
      · rintro source hm ptr hptr
        cases hm
        exact .inr (hlt ptr hptr)
  · rw [herror]
    refine ⟨rfl, le_refl _, fun box hm => .inl hm, ?_, by simp, by simp⟩
    intro new hm ptr hptr
    rw [(hsource new hm).2] at hptr
    cases hptr

theorem callStart (reply : StartReply) :
    Moves s (s.callStart reply).1 (s.callStart reply).2 := by
  rw [Gui.callStart]
  split
  · exact .terminate _ (.inl rfl)
  · rename_i source hsource
    split
    · exact .terminate _ (.inr rfl)
    · rename_i started error hstart
      have hslaves : ∀ new ∈ some started, ∃ old ∈ s.source, new.slaves = old.slaves := by
        rintro new hm
        cases hm
        exact ⟨source, hsource, (DataSource.start_spec hstart).1⟩
      dsimp only
      split
      · exact .same rfl rfl rfl hslaves (by simp) (by simp)
      · exact .same rfl rfl rfl hslaves (by simp) (by simp)

theorem callStop : Moves s s.callStop.1 s.callStop.2 := by
  refine .same rfl rfl rfl (fun source hm => ?_) (by simp [Gui.callStop]) (by simp [Gui.callStop])
  obtain ⟨old, hold, rfl⟩ := Option.mem_map.mp hm
  exact ⟨old, hold, DataSource.join_slaves old⟩

theorem handlerStep {s' : Gui} (reply : GuiReply) (hstep : s.handlerStep reply = some (s', new)) :
    Moves s s' new := by
  unfold Gui.handlerStep at hstep
  split at hstep
  · split at hstep
    · rename_i dropped hreset
      rw [resetSource_eq hreset] at hstep
      cases hstep
      exact .same rfl rfl rfl (by simp) (by simp) (by simp)
    · cases hstep
      exact .terminate _ (.inr rfl)
  · obtain ⟨rfl, rfl⟩ := Prod.mk.inj (Option.some.inj hstep)
    exact discoverSource _
  · split at hstep
    · rename_i dropped hreset
      rw [resetSource_eq hreset] at hstep
      obtain ⟨rfl, rfl⟩ := Prod.mk.inj (Option.some.inj hstep)
      have hdropped : Moves s { s with source := none } [] :=
        .same rfl rfl rfl (by simp) (by simp) (by simp)
      exact hdropped.trans returnFromDiscover
    · cases hstep
      exact .terminate _ (.inr rfl)
  · obtain ⟨rfl, rfl⟩ := Prod.mk.inj (Option.some.inj hstep)
    exact callStart _
  · cases hstep
    exact .quiet rfl rfl rfl rfl
  · cases hstep
    exact callStop
  · cases hstep
    exact .quiet rfl rfl rfl rfl
  · cases hstep
    exact .quiet rfl rfl rfl rfl
  · cases hstep

theorem handleInput (input : UserInput) :
    Moves s (s.handleInput input).1 (s.handleInput input).2 := by
  cases input with
  | discoverButton =>
    simp only [Gui.handleInput]
    split
    · exact handleDiscoverButton
    · exact .quiet rfl rfl rfl rfl
  | startButton =>
    simp only [Gui.handleInput]
    split
    · exact handleStart
    · exact .quiet rfl rfl rfl rfl
  | selectConfigFileButton =>
    simp only [Gui.handleInput]
    split
    · exact .quiet rfl rfl rfl rfl
    · exact .quiet rfl rfl rfl rfl
  | selectPcapFileButton =>
    simp only [Gui.handleInput]
    split
    · exact .quiet rfl rfl rfl rfl
    · exact .quiet rfl rfl rfl rfl
  | inputButton button =>
    simp only [Gui.handleInput]
    exact .quiet rfl rfl rfl rfl
  | ifComboBox text =>
    simp only [Gui.handleInput]
    split
    · exact .quiet rfl rfl rfl rfl
    · exact .quiet rfl rfl rfl rfl
  | publishZmqCheckbox checked => exact setPublishZmq checked

theorem applyOption (option : ProgramOption) : Moves s (s.applyOption option) [] := by
  cases option with
  | enableZmq enable => exact setPublishZmq enable
  | selectSource src => exact .quiet rfl rfl rfl rfl
  | selectNetworkInterface iface => exact .quiet rfl rfl rfl rfl
  | setConfigFile path => exact .quiet rfl rfl rfl rfl
  | setPcapFile path => exact .quiet rfl rfl rfl rfl

end Moves

end Gui

end Kddv
