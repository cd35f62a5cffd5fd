import Kddv.Gui.LifeCycle

/-!
# Messages and group boxes

`handleDataChanged` indexes the group boxes by the positions of the slaves in its message, while
Discover clears and rebuilds the boxes. A message fits the boxes exactly as long as no Discover
intervenes between the post and the delivery.
-/

namespace Kddv

open Framework

/-- There is a group box at the position of each slave, and it was built from this slave. -/
def FitsBoxes (boxes : List GroupBox) (slaves : List SlavePtr) : Prop :=
  slaves.length ≤ boxes.length ∧ ∀ i < slaves.length, (boxes[i]?).map GroupBox.slave = slaves[i]?

/-- Every run of `handleDataChanged` finds the boxes of its slaves. -/
def RefreshesFit (events : List GuiEvent) : Prop :=
  ∀ boxes slaves, .handleDataChanged boxes slaves ∈ events → FitsBoxes boxes slaves

/-- Every Discover finds no message with slaves in the queue. -/
def DiscoversWithoutMessages (events : List GuiEvent) : Prop :=
  ∀ queue, .handleDiscoverButton queue ∈ events →
    ∀ slaves, .dataChanged slaves ∈ queue → slaves = []

namespace FitsBoxes

theorem nil (boxes : List GroupBox) : FitsBoxes boxes [] :=
  ⟨Nat.zero_le _, fun i hi => absurd hi (Nat.not_lt_zero i)⟩

theorem of_eq {boxes : List GroupBox} {slaves : List SlavePtr}
    (h : slaves = boxes.map GroupBox.slave) : FitsBoxes boxes slaves := by
  subst h
  exact ⟨by rw [List.length_map], fun i _ => by rw [List.getElem?_map]⟩

/-- A message whose first slave has no box does not fit. -/
theorem not_cons {boxes : List GroupBox} {ptr : SlavePtr} {rest : List SlavePtr}
    (h : ∀ box ∈ boxes, box.slave ≠ ptr) : ¬ FitsBoxes boxes (ptr :: rest) := by
  rintro ⟨hlength, hbuilt⟩
  have hfirst := hbuilt 0 (by simp)
  cases boxes with
  | nil => cases hfirst
  | cons box boxes =>
    have heq : box.slave = ptr := by simpa using hfirst
    exact h box List.mem_cons_self heq

end FitsBoxes

namespace Gui

/-- What a step that delivers no message may do to the group boxes. -/
structure BoxStep (s s' : Gui) (new : List GuiEvent) : Prop where
  boxes : s'.wheelGroupBoxes = s.wheelGroupBoxes ∨
    s'.wheelGroupBoxes = [] ∧ .handleDiscoverButton s.queue ∈ new ∨ s.handler = .discoverSource
  discovering : s'.handler = .discoverReset ∨ s'.handler = .discoverSource →
    s'.wheelGroupBoxes = [] ∨
      (s.handler = .discoverReset ∨ s.handler = .discoverSource) ∧
        s'.wheelGroupBoxes = s.wheelGroupBoxes

namespace BoxStep

variable {s s' : Gui} {new : List GuiEvent}

/-- The boxes stay as they are outside of Discover. -/
theorem same (hboxes : s'.wheelGroupBoxes = s.wheelGroupBoxes)
    (hhandler : s'.handler = s.handler ∨
      s'.handler ≠ .discoverReset ∧ s'.handler ≠ .discoverSource) : BoxStep s s' new := by
  refine ⟨.inl hboxes, fun hdiscovering => ?_⟩
  rcases hhandler with heq | ⟨hreset, hsource⟩
  · rw [heq] at hdiscovering
    exact .inr ⟨hdiscovering, hboxes⟩
  · rcases hdiscovering with heq | heq
    · exact absurd heq hreset
    · exact absurd heq hsource

theorem handleStart : BoxStep s s.handleStart.1 s.handleStart.2 := by
  rw [Gui.handleStart]
  split
  · exact .same rfl (.inr (by simp [Gui.terminate]))
  · split
    · exact .same rfl (.inr (by simp))
    · exact .same rfl (.inr (by simp))

theorem handleDiscoverButton : BoxStep s s.handleDiscoverButton.1 s.handleDiscoverButton.2 :=
  ⟨.inr (.inl ⟨rfl, List.mem_cons_self⟩), fun _ => .inl rfl⟩

theorem returnFromDiscover_boxes :
    s.returnFromDiscover.1.wheelGroupBoxes = s.wheelGroupBoxes ∧
      s.returnFromDiscover.1.handler ≠ .discoverReset ∧
        s.returnFromDiscover.1.handler ≠ .discoverSource := by
  unfold Gui.returnFromDiscover
  split
  · unfold Gui.handleStart
    split
    · simp [Gui.terminate]
    · split <;> simp
  · simp

theorem discoverSource (hhandler : s.handler = .discoverSource) (reply : DiscoverReply) :
    BoxStep s (s.discoverSource reply).1 (s.discoverSource reply).2 := by
  have hdone : (s.discoverSource reply).1.handler ≠ .discoverReset ∧
      (s.discoverSource reply).1.handler ≠ .discoverSource := by
    unfold Gui.discoverSource
    split
    · simp
    · dsimp only
      split
      · simp
      · exact returnFromDiscover_boxes.2
  refine ⟨.inr (.inr hhandler), fun hdiscovering => ?_⟩
  rcases hdiscovering with heq | heq
  · exact absurd heq hdone.1
  · exact absurd heq hdone.2

theorem callStart (reply : StartReply) : BoxStep s (s.callStart reply).1 (s.callStart reply).2 := by
  rw [Gui.callStart]
  split
  · exact .same rfl (.inr (by simp [Gui.terminate]))
  · split
    · exact .same rfl (.inr (by simp [Gui.terminate]))
    · dsimp only
      split
      · exact .same rfl (.inr (by simp))
      · exact .same rfl (.inr (by simp))

theorem handlerStep (reply : GuiReply) (hstep : s.handlerStep reply = some (s', new)) :
    BoxStep s s' new := by
  unfold Gui.handlerStep at hstep
  split at hstep
  · rename_i hhandler
    split at hstep
    · rename_i dropped hreset
      rw [resetSource_eq hreset] at hstep
      cases hstep
      exact ⟨.inl rfl, fun _ => .inr ⟨.inl hhandler, rfl⟩⟩
    · cases hstep
      exact .same rfl (.inr (by simp))
  · rename_i hhandler
    obtain ⟨rfl, rfl⟩ := Prod.mk.inj (Option.some.inj hstep)
    exact .discoverSource hhandler _
  · split at hstep
    · rename_i dropped hreset
      rw [resetSource_eq hreset] at hstep
      obtain ⟨rfl, rfl⟩ := Prod.mk.inj (Option.some.inj hstep)
      obtain ⟨hboxes, hdone⟩ := returnFromDiscover_boxes (s := { s with source := none })
      exact .same hboxes (.inr hdone)
    · cases hstep
      exact .same rfl (.inr (by simp))
  · obtain ⟨rfl, rfl⟩ := Prod.mk.inj (Option.some.inj hstep)
    exact .callStart _
  · cases hstep
    exact .same rfl (.inr (by simp))
  · cases hstep
    exact .same rfl (.inr (by simp))
  · cases hstep
    exact .same rfl (.inr (by simp))
  · cases hstep
    exact .same rfl (.inr (by simp))
  · cases hstep

theorem setPublishZmq (checked : Bool) : BoxStep s (s.setPublishZmq checked) [] := by
  rw [Gui.setPublishZmq]
  split
  · exact .same rfl (.inl rfl)
  · exact .same rfl (.inl rfl)

theorem handleInput (input : UserInput) :
    BoxStep s (s.handleInput input).1 (s.handleInput input).2 := by
  cases input with
  | discoverButton =>
    simp only [Gui.handleInput]
    split
    · exact .handleDiscoverButton
    · exact .same rfl (.inl rfl)
  | startButton =>
    simp only [Gui.handleInput]
    split
    · exact .handleStart
    · exact .same rfl (.inl rfl)
  | selectConfigFileButton =>
    simp only [Gui.handleInput]
    split
    · exact .same rfl (.inr (by simp))
    · exact .same rfl (.inl rfl)
  | selectPcapFileButton =>
    simp only [Gui.handleInput]
    split
    · exact .same rfl (.inr (by simp))
    · exact .same rfl (.inl rfl)
  | inputButton button => exact .same rfl (.inl rfl)
  | ifComboBox text =>
    simp only [Gui.handleInput]
    split
    · exact .same rfl (.inl rfl)
    · exact .same rfl (.inl rfl)
  | publishZmqCheckbox checked => exact .setPublishZmq checked

theorem applyOption (option : ProgramOption) : BoxStep s (s.applyOption option) [] := by
  cases option with
  | enableZmq enable => exact .setPublishZmq enable
  | selectSource src => exact .same rfl (.inl rfl)
  | selectNetworkInterface iface => exact .same rfl (.inl rfl)
  | setConfigFile path => exact .same rfl (.inl rfl)
  | setPcapFile path => exact .same rfl (.inl rfl)

end BoxStep

/-- The queued messages fit the boxes, which Discover has cleared before it builds new ones. -/
structure BoxInv (s : Gui) : Prop where
  lifeCycle : s.LifeCycle
  cleared : s.handler = .discoverReset ∨ s.handler = .discoverSource → s.wheelGroupBoxes = []
  messages : ∀ slaves, .dataChanged slaves ∈ s.queue → FitsBoxes s.wheelGroupBoxes slaves

namespace BoxInv

variable {s s' : Gui} {new : List GuiEvent}

theorem withQueue (h : s.BoxInv) {queue : List Message}
    (hqueue : ∀ slaves, .dataChanged slaves ∈ queue → FitsBoxes s.wheelGroupBoxes slaves) :
    BoxInv { s with queue := queue } :=
  ⟨h.lifeCycle.withQueue queue, h.cleared, hqueue⟩

/-- A step that delivers no message keeps the invariant, if a Discover in it finds no message with
slaves. -/
theorem moves (h : s.BoxInv) (hmoves : Moves s s' new) (hboxes : BoxStep s s' new)
    (hlife : s'.LifeCycle) (hdiscover : DiscoversWithoutMessages new) : s'.BoxInv := by
  refine ⟨hlife, fun hdiscovering => ?_, fun slaves hm => ?_⟩
  · rcases hboxes.discovering hdiscovering with hempty | ⟨hold, hsame⟩
    · exact hempty
    · rw [hsame]
      exact h.cleared hold
  · rw [hmoves.queue] at hm
    rcases hboxes.boxes with hsame | ⟨-, hevent⟩ | hsource
    · rw [hsame]
      exact h.messages slaves hm
    · rw [hdiscover s.queue hevent slaves hm]
      exact .nil _
    · have hfits := (h.messages slaves hm).1
      rw [h.cleared (.inr hsource)] at hfits
      rw [List.length_eq_zero_iff.mp (Nat.le_zero.mp hfits)]
      exact .nil _

theorem deliver (h : s.BoxInv) (hstep : s.deliver = some (s', new)) (hlife : s'.LifeCycle)
    (hdiscover : DiscoversWithoutMessages new) : s'.BoxInv ∧ RefreshesFit new := by
  unfold Gui.deliver at hstep
  split at hstep
  · cases hstep
  · rename_i slaves queue hqueue
    split at hstep
    · cases hstep
      have hfirst : FitsBoxes s.wheelGroupBoxes slaves :=
        h.messages slaves (by rw [hqueue]; exact List.mem_cons_self)
      refine ⟨h.withQueue fun rest hm => h.messages rest ?_, ?_⟩
      · rw [hqueue]
        exact List.mem_cons_of_mem _ hm
      · intro boxes refreshed hm
        cases List.mem_singleton.mp hm
        exact hfirst
    · cases hstep
  · rename_i input queue hqueue
    have hrest : BoxInv { s with queue := queue } := h.withQueue fun rest hm => h.messages rest (by
      rw [hqueue]
      exact List.mem_cons_of_mem _ hm)
    split at hstep
    · obtain ⟨rfl, rfl⟩ := Prod.mk.inj (Option.some.inj hstep)
      refine ⟨hrest.moves (.handleInput input) (.handleInput input) hlife hdiscover, ?_⟩
      exact fun boxes refreshed hm => absurd hm ((Moves.handleInput input).refreshes _ _)
    · split at hstep
      · cases hstep
        exact ⟨hrest, by simp [RefreshesFit]⟩
      · cases hstep

theorem post (h : s.BoxInv) (hstep : s.post = some (s', new)) : s'.BoxInv ∧ new = [] := by
  unfold Gui.post at hstep
  split at hstep
  · cases hstep
  · rename_i source hsource
    split at hstep
    · rename_i hjoinable
      cases hstep
      refine ⟨h.withQueue fun slaves hm => ?_, rfl⟩
      rcases List.mem_append.mp hm with hold | hnew
      · exact h.messages slaves hold
      · cases List.mem_singleton.mp hnew
        obtain ⟨built, hbuilt, hslaves⟩ :=
          h.lifeCycle.enabled (h.lifeCycle.joinable hsource hjoinable).1
        obtain rfl : built = source := Option.mem_unique hbuilt hsource
        exact .of_eq hslaves
    · cases hstep

theorem step {a : GuiAction} (h : s.BoxInv) (hstep : s.step a = some (s', new))
    (hdiscover : DiscoversWithoutMessages new) : s'.BoxInv ∧ RefreshesFit new := by
  have hlife := (h.lifeCycle.step hstep).1
  have hquiet : RefreshesFit [] := by simp [RefreshesFit]
  unfold Gui.step at hstep
  split at hstep
  · cases hstep
  · cases a with
    | option option =>
      dsimp only at hstep
      split at hstep
      · cases hstep
        exact ⟨h.moves (.applyOption option) (.applyOption option) hlife hdiscover, hquiet⟩
      · cases hstep
    | start =>
      dsimp only at hstep
      split at hstep
      · cases hstep
        have hpending : Moves s { s with startPending := true } [] := .quiet rfl rfl rfl rfl
        refine ⟨h.moves (hpending.trans .handleDiscoverButton) ?_ hlife hdiscover, ?_⟩
        · exact ⟨.inr (.inl ⟨rfl, List.mem_cons_self⟩), fun _ => .inl rfl⟩
        · simp [RefreshesFit]
      · cases hstep
    | exec =>
      dsimp only at hstep
      split at hstep
      · cases hstep
        exact ⟨h.moves (.quiet rfl rfl rfl rfl) (.same rfl (.inr (by simp))) hlife hdiscover,
          hquiet⟩
      · cases hstep
    | input input =>
      cases hstep
      refine ⟨h.withQueue fun slaves hm => ?_, hquiet⟩
      rcases List.mem_append.mp hm with hold | hnew
      · exact h.messages slaves hold
      · cases List.mem_singleton.mp hnew
    | post =>
      obtain ⟨hinv, rfl⟩ := h.post hstep
      exact ⟨hinv, hquiet⟩
    | deliver => exact h.deliver hstep hlife hdiscover
    | handler reply =>
      have hmoves := Moves.handlerStep reply hstep
      refine ⟨h.moves hmoves (.handlerStep reply hstep) hlife hdiscover, ?_⟩
      exact fun boxes slaves hm => absurd hm (hmoves.refreshes boxes slaves)

end BoxInv

theorem init_boxInv (interfaces : List String) : (init interfaces).BoxInv :=
  ⟨init_lifeCycle interfaces, fun _ => rfl, by simp [init]⟩

/-- A message that no Discover can make fit again: its first slave has no box, and new boxes are
built from new slaves. -/
def Stale (s : Gui) : Prop :=
  ∃ ptr rest, .dataChanged (ptr :: rest) ∈ s.queue ∧ ptr < s.created ∧
    ∀ box ∈ s.wheelGroupBoxes, box.slave ≠ ptr

/-- The slaves of the source and of the messages have been created. -/
structure Created (s : Gui) : Prop where
  source : ∀ source ∈ s.source, ∀ ptr ∈ source.slaves, ptr < s.created
  messages : ∀ slaves, .dataChanged slaves ∈ s.queue → ∀ ptr ∈ slaves, ptr < s.created

namespace Moves

variable {s s' : Gui} {new : List GuiEvent}

theorem createdInv (h : Moves s s' new) (hcreated : s.Created) : s'.Created := by
  refine ⟨fun source hm ptr hptr => ?_, fun slaves hm ptr hptr => ?_⟩
  · rcases h.slaves source hm ptr hptr with ⟨old, hold, hmem⟩ | hlt
    · exact (hcreated.source old hold ptr hmem).trans_le h.created
    · exact hlt
  · rw [h.queue] at hm
    exact (hcreated.messages slaves hm ptr hptr).trans_le h.created

theorem stale (h : Moves s s' new) (hstale : s.Stale) : s'.Stale := by
  obtain ⟨ptr, rest, hm, hlt, hboxes⟩ := hstale
  refine ⟨ptr, rest, h.queue ▸ hm, hlt.trans_le h.created, fun box hbox => ?_⟩
  rcases h.boxes box hbox with hold | hge
  · exact hboxes box hold
  · exact (hlt.trans_le hge).ne'

/-- A Discover that finds a message with slaves makes it stale. -/
theorem discover_stale (h : Moves s s' new) (hcreated : s.Created)
    (hdiscover : ¬ DiscoversWithoutMessages new) : s'.Stale := by
  simp only [DiscoversWithoutMessages, not_forall] at hdiscover
  obtain ⟨queue, hqueue, slaves, hm, hslaves⟩ := hdiscover
  obtain ⟨rfl, hcleared⟩ := h.discovers queue hqueue
  cases slaves with
  | nil => exact absurd rfl hslaves
  | cons ptr rest =>
    refine ⟨ptr, rest, h.queue ▸ hm, ?_, ?_⟩
    · exact (hcreated.messages _ hm ptr List.mem_cons_self).trans_le h.created
    · rw [hcleared]
      simp

end Moves

/-- A Discover has found a message with slaves only if a refresh has failed or is going to. -/
def StaleInv (events : List GuiEvent) (s : Gui) : Prop :=
  s.Created ∧ (RefreshesFit events → ¬ DiscoversWithoutMessages events → s.Stale)

theorem refreshesFit_append {events new : List GuiEvent} :
    RefreshesFit (events ++ new) ↔ RefreshesFit events ∧ RefreshesFit new := by
  simp only [RefreshesFit, List.mem_append, or_imp, forall_and]

theorem discoversWithoutMessages_append {events new : List GuiEvent} :
    DiscoversWithoutMessages (events ++ new) ↔
      DiscoversWithoutMessages events ∧ DiscoversWithoutMessages new := by
  simp only [DiscoversWithoutMessages, List.mem_append, or_imp, forall_and]

namespace StaleInv

variable {s s' : Gui} {events new : List GuiEvent}

theorem moves (h : StaleInv events s) (hmoves : Moves s s' new) : StaleInv (events ++ new) s' := by
  refine ⟨hmoves.createdInv h.1, fun hfit hdiscovers => ?_⟩
  rw [refreshesFit_append] at hfit
  rw [discoversWithoutMessages_append] at hdiscovers
  by_cases hold : DiscoversWithoutMessages events
  · exact hmoves.discover_stale h.1 fun hnew => hdiscovers ⟨hold, hnew⟩
  · exact hmoves.stale (h.2 hfit.1 hold)

/-- A new message at the end of the queue. -/
theorem append (h : StaleInv events s) {message : Message}
    (hmessage : ∀ slaves, message = .dataChanged slaves → ∀ ptr ∈ slaves, ptr < s.created) :
    StaleInv events { s with queue := s.queue ++ [message] } := by
  refine ⟨⟨h.1.source, fun slaves hm => ?_⟩, fun hfit hdiscovers => ?_⟩
  · rcases List.mem_append.mp hm with hold | hnew
    · exact h.1.messages slaves hold
    · exact hmessage slaves (List.mem_singleton.mp hnew).symm
  · obtain ⟨ptr, rest, hm, hlt, hboxes⟩ := h.2 hfit hdiscovers
    exact ⟨ptr, rest, List.mem_append_left _ hm, hlt, hboxes⟩

/-- Delivery of a message that is not stale. -/
theorem tail (h : StaleInv events s) {message : Message} {queue : List Message}
    (hqueue : s.queue = message :: queue)
    (hmessage : ∀ ptr rest, message = .dataChanged (ptr :: rest) →
      ∃ box ∈ s.wheelGroupBoxes, box.slave = ptr) :
    StaleInv events { s with queue := queue } := by
  refine ⟨⟨h.1.source, fun slaves hm => h.1.messages slaves ?_⟩, fun hfit hdiscovers => ?_⟩
  · rw [hqueue]
    exact List.mem_cons_of_mem _ hm
  · obtain ⟨ptr, rest, hm, hlt, hboxes⟩ := h.2 hfit hdiscovers
    rw [hqueue] at hm
    rcases List.mem_cons.mp hm with heq | hrest
    · obtain ⟨box, hbox, hslave⟩ := hmessage ptr rest heq.symm
      exact absurd hslave (hboxes box hbox)
    · exact ⟨ptr, rest, hrest, hlt, hboxes⟩

theorem deliver (h : StaleInv events s) (hstep : s.deliver = some (s', new)) :
    StaleInv (events ++ new) s' := by
  unfold Gui.deliver at hstep
  split at hstep
  · cases hstep
  · rename_i slaves queue hqueue
    split at hstep
    · cases hstep
      have hcreated : Created { s with queue := queue } :=
        ⟨h.1.source, fun slaves hm => h.1.messages slaves (by
          rw [hqueue]
          exact List.mem_cons_of_mem _ hm)⟩
      refine ⟨hcreated, fun hfit hdiscovers => ?_⟩
      rw [refreshesFit_append] at hfit
      have hfits := hfit.2 _ _ List.mem_cons_self
      have htail := h.tail hqueue (by
        rintro ptr rest heq
        cases heq
        by_contra hnone
        push Not at hnone
        exact FitsBoxes.not_cons hnone hfits)
      refine htail.2 hfit.1 fun hold => hdiscovers ?_
      rw [discoversWithoutMessages_append]
      exact ⟨hold, by simp [DiscoversWithoutMessages]⟩
    · cases hstep
  · rename_i input queue hqueue
    have htail := h.tail hqueue (by rintro ptr rest heq; cases heq)
    split at hstep
    · obtain ⟨rfl, rfl⟩ := Prod.mk.inj (Option.some.inj hstep)
      exact htail.moves (.handleInput input)
    · split at hstep
      · cases hstep
        rwa [List.append_nil]
      · cases hstep

theorem step {a : GuiAction} (h : StaleInv events s) (hstep : s.step a = some (s', new)) :
    StaleInv (events ++ new) s' := by
  unfold Gui.step at hstep
  split at hstep
  · cases hstep
  · cases a with
    | option option =>
      dsimp only at hstep
      split at hstep
      · cases hstep
        exact h.moves (.applyOption option)
      · cases hstep
    | start =>
      dsimp only at hstep
      split at hstep
      · cases hstep
        have hpending : Moves s { s with startPending := true } [] := .quiet rfl rfl rfl rfl
        exact h.moves (hpending.trans .handleDiscoverButton)
      · cases hstep
    | exec =>
      dsimp only at hstep
      split at hstep
      · cases hstep
        exact h.moves (.quiet rfl rfl rfl rfl)
      · cases hstep
    | input input =>
      cases hstep
      rw [List.append_nil]
      exact h.append (by simp)
    | post =>
      simp only [Gui.post] at hstep
      split at hstep
      · cases hstep
      · rename_i source hsource
        split at hstep
        · cases hstep
          rw [List.append_nil]
          refine h.append ?_
          rintro slaves heq
          cases heq
          exact h.1.source source hsource
        · cases hstep
    | deliver => exact h.deliver hstep
    | handler reply => exact h.moves (.handlerStep reply hstep)

end StaleInv

/-- In every run of the window, every `handleDataChanged` finds the group boxes of its slaves if
every Discover found no message with slaves in the queue. Once all messages have been delivered,
this is also necessary. -/
theorem refreshesFit_iff (interfaces : List String) (events : List GuiEvent) (s : Gui)
    (run : machine.Run (fun _ _ => True) (init interfaces) events s) :
    (DiscoversWithoutMessages events → RefreshesFit events) ∧
      (s.queue = [] → (RefreshesFit events ↔ DiscoversWithoutMessages events)) := by
  have hfits : DiscoversWithoutMessages events → s.BoxInv ∧ RefreshesFit events := by
    refine run.invariant (I := fun events s =>
      DiscoversWithoutMessages events → s.BoxInv ∧ RefreshesFit events)
      (fun _ => ⟨init_boxInv interfaces, by simp [RefreshesFit]⟩) ?_
    intro events new s s' a ih _ hstep hdiscovers
    rw [discoversWithoutMessages_append] at hdiscovers
    obtain ⟨hinv, hold⟩ := ih hdiscovers.1
    obtain ⟨hinv', hnew⟩ := hinv.step hstep hdiscovers.2
    exact ⟨hinv', refreshesFit_append.mpr ⟨hold, hnew⟩⟩
  have hstale : StaleInv events s := by
    refine run.invariant ⟨⟨by simp [init], by simp [init]⟩, ?_⟩
      fun _ _ _ _ _ h _ hstep => h.step hstep
    exact fun _ hdiscovers => absurd (by simp [DiscoversWithoutMessages]) hdiscovers
  refine ⟨fun h => (hfits h).2, fun hempty => ⟨fun hfit => ?_, fun h => (hfits h).2⟩⟩
  by_contra hdiscovers
  obtain ⟨ptr, rest, hm, -⟩ := hstale.2 hfit hdiscovers
  rw [hempty] at hm
  cases hm

/-- The user stops the source, and its thread posts a last message before it is joined. The
message is delivered before the user clicks Discover. -/
theorem refreshesFit_late_discover : ∃ events s,
    machine.Run (fun _ _ => True) (init ["eth0"]) events s ∧
      .handleDataChanged [groupBox 0 battery] [0] ∈ events ∧ RefreshesFit events := by
  have hexec : ∃ s, machine.exec (fun _ _ => True) (init ["eth0"]) (startOnFile ++
      ([.post, .deliver, .input .startButton, .deliver, .post, .handler .none, .deliver,
        .input .discoverButton, .deliver, .handler .none,
        .handler (.discover ⟨"", "", [battery, battery], ""⟩)] : List GuiAction)) =
      some (s, [.handleDiscoverButton [], .handleDataChanged [groupBox 0 battery] [0],
        .handleDataChanged [groupBox 0 battery] [0], .handleDiscoverButton []]) := ⟨_, rfl⟩
  obtain ⟨s, hexec⟩ := hexec
  have hrun := Machine.run_of_exec hexec
  refine ⟨_, s, hrun, by simp, ?_⟩
  apply (refreshesFit_iff ["eth0"] _ s hrun).1
  intro queue hm slaves hslaves
  have hempty : queue = [] := by simpa using hm
  rw [hempty] at hslaves
  cases hslaves

/-- The user clicks Discover while `stop` waits for the thread, which then posts a last message.
The config file cannot be read any more: the message meets no boxes. -/
theorem refreshesFit_fails : ¬ ∀ (interfaces : List String) (events : List GuiEvent) (s : Gui),
    machine.Run (fun _ _ => True) (init interfaces) events s → RefreshesFit events := by
  intro h
  have hexec : ∃ s, machine.exec (fun _ _ => True) (init []) (startOnFile ++
      ([.input .startButton, .deliver, .input .discoverButton, .post, .handler .none, .deliver,
        .handler .none, .handler (.discover ⟨"", "Could not open file config.json", [], ""⟩),
        .deliver] : List GuiAction)) =
      some (s, [.handleDiscoverButton [], .handleDiscoverButton [.dataChanged [0]],
        .critical "Could not open file config.json", .handleDataChanged [] [0]]) := ⟨_, rfl⟩
  obtain ⟨s, hexec⟩ := hexec
  have hfits := h [] _ s (Machine.run_of_exec hexec) [] [0] (by simp)
  exact FitsBoxes.not_cons (by simp) hfits

end Gui

end Kddv
