import Kddv.Framework.Simulation
import Kddv.Gui.Branches

/-!
# What a data source is to a user interface

The window and the terminal interface are modelled with a data source that has no threads of its
own, only a record of whether there are some. Here it is a machine, which the master and the
sniffer with their threads are compared with.
-/

namespace Kddv

open Framework

/-- A method of the source takes effect, or one of its threads calls back. -/
inductive SourceAction
  | getSlaves (slaves : List SlavePtr) (error : String)
  | start (reply : StartReply)
  | stop
  | destroy
  | setZMQPublish (value : Bool)
  | callback

/-- What a user interface notices of it. -/
inductive SourceEvent
  | getSlaves (error : String)
  | start (error : String)
  | stop
  | destroyed
  | callback
deriving DecidableEq

namespace DataSource

/-- The steps that the windows take with their source. The slaves are discovered and the source is
started only while it has no thread, and only then it can be destroyed. -/
def step (source : DataSource) : SourceAction → Option (DataSource × List SourceEvent)
  | .getSlaves slaves error =>
    if source.joinable then none else some ({ source with slaves := slaves }, [.getSlaves error])
  | .start reply =>
    if source.joinable then none
    else (source.start reply).map fun r => (r.1, [.start r.2])
  | .stop => some (source.join, [.stop])
  | .destroy => if source.join.joinable then none else some (source.join, [.destroyed])
  | .setZMQPublish value => some ({ source with zmqPublishEnabled := value }, [])
  | .callback => if source.joinable then some (source, [.callback]) else none

def machine : Machine DataSource SourceAction SourceEvent := ⟨step⟩

/-- The source has been started without an error, and has done nothing but call back since. -/
def Started (trace : List SourceEvent) : Prop :=
  ∃ before n, trace = before ++ .start "" :: List.replicate n .callback

/-- Every callback comes from a source that has been started. -/
def CallbacksAfterStart (trace : List SourceEvent) : Prop :=
  ∀ before after, trace = before ++ .callback :: after → Started before

/-- A source with a thread has been started. -/
structure TraceInv (trace : List SourceEvent) (source : DataSource) : Prop where
  started : source.joinable = true → Started trace
  running : source.cls = .ethercatMaster → source.joinable = true → source.ethercatRunning = true
  callbacks : CallbacksAfterStart trace

namespace TraceInv

variable {trace : List SourceEvent} {source source' : DataSource}

theorem callbacks_append {new : List SourceEvent} (h : CallbacksAfterStart trace)
    (hnew : .callback ∉ new) : CallbacksAfterStart (trace ++ new) := by
  intro before after heq
  rcases List.append_eq_append_iff.mp heq.symm with ⟨rest, rfl, hrest⟩ | ⟨rest, rfl, hrest⟩
  · cases rest with
    | nil =>
      rw [List.nil_append] at hrest
      simp [← hrest] at hnew
    | cons first rest =>
      rw [List.cons_append, List.cons_eq_cons] at hrest
      obtain ⟨rfl, -⟩ := hrest
      exact h before rest rfl
  · rw [hrest] at hnew
    simp at hnew

/-- The source has no thread after the step. -/
theorem idle {new : List SourceEvent} (h : TraceInv trace source) (hidle : source'.joinable = false)
    (hnew : .callback ∉ new) : TraceInv (trace ++ new) source' := by
  refine ⟨?_, ?_, callbacks_append h.callbacks hnew⟩
  · simp [hidle]
  · simp [hidle]

theorem callback (h : TraceInv trace source) (hjoinable : source.joinable = true) :
    TraceInv (trace ++ [.callback]) source := by
  obtain ⟨before, n, htrace⟩ := h.started hjoinable
  refine ⟨fun _ => ⟨before, n + 1, ?_⟩, h.running, ?_⟩
  · rw [htrace, List.replicate_succ']
    simp
  · intro front after heq
    rcases List.eq_nil_or_concat' after with rfl | ⟨rest, last, rfl⟩
    · obtain ⟨rfl, -⟩ := List.append_inj' heq rfl
      exact ⟨before, n, htrace⟩
    · rw [← List.cons_append, ← List.append_assoc] at heq
      obtain ⟨hfront, -⟩ := List.append_inj' heq rfl
      exact h.callbacks front rest hfront

theorem start {reply : StartReply} {error : String} (h : TraceInv trace source)
    (hidle : source.joinable = false) (hstart : source.start reply = some (source', error)) :
    TraceInv (trace ++ [.start error]) source' := by
  obtain ⟨-, -, hfailed, hrunning⟩ := DataSource.start_spec hstart
  refine ⟨?_, hrunning h.running, callbacks_append h.callbacks (by simp)⟩
  intro hjoinable
  by_cases herror : error = ""
  · exact ⟨trace, 0, by rw [herror]; rfl⟩
  · rw [hfailed herror, hidle] at hjoinable
    cases hjoinable

theorem step {a : SourceAction} {new : List SourceEvent} (h : TraceInv trace source)
    (hstep : source.step a = some (source', new)) : TraceInv (trace ++ new) source' := by
  have hjoined := DataSource.join_joinable h.running
  cases a with
  | getSlaves slaves error =>
    simp only [DataSource.step] at hstep
    split at hstep
    · cases hstep
    · rename_i hidle
      cases hstep
      exact h.idle (by simpa using hidle) (by simp)
  | start reply =>
    simp only [DataSource.step] at hstep
    split at hstep
    · cases hstep
    · rename_i hidle
      obtain ⟨⟨started, error⟩, hstart, heq⟩ := Option.map_eq_some_iff.mp hstep
      cases heq
      exact h.start (by simpa using hidle) hstart
  | stop =>
    cases hstep
    exact h.idle hjoined (by simp)
  | destroy =>
    simp only [DataSource.step, hjoined] at hstep
    cases hstep
    exact h.idle hjoined (by simp)
  | setZMQPublish value =>
    cases hstep
    rw [List.append_nil]
    exact ⟨h.started, h.running, h.callbacks⟩
  | callback =>
    simp only [DataSource.step] at hstep
    split at hstep
    · rename_i hjoinable
      cases hstep
      exact h.callback hjoinable
    · cases hstep

end TraceInv

/-- A new source calls back only between a start without an error and whatever the user interface
does with it next. -/
theorem callbacksAfterStart {cls : SourceClass} {trace : List SourceEvent} {source : DataSource}
    (run : machine.Run (fun _ _ => True) (.new cls) trace source) : CallbacksAfterStart trace := by
  have hinv : TraceInv trace source := by
    apply run.invariant
    · refine ⟨?_, ?_, ?_⟩
      · simp [DataSource.new]
      · simp [DataSource.new]
      · intro before after heq
        simp at heq
    · intro trace new source source' a h _ hstep
      exact h.step hstep
  exact hinv.callbacks

end DataSource

/-! ## The window's source -/

/-- The source of a window before and after a step: it stays, it takes a step of its own, a new one
is created, or one without threads is dropped. -/
inductive SourceUse : Option DataSource → Option DataSource → Prop
  | same (source : Option DataSource) : SourceUse source source
  | step {source source' : DataSource} {a : SourceAction} {seen : List SourceEvent}
      (h : DataSource.machine.step source a = some (source', seen)) :
      SourceUse (some source) (some source')
  | create {cls : SourceClass} {trace : List SourceEvent} {source : DataSource}
      (run : DataSource.machine.Run (fun _ _ => True) (.new cls) trace source) :
      SourceUse none (some source)
  | drop {source source' : DataSource} {seen : List SourceEvent}
      (h : DataSource.machine.step source .destroy = some (source', seen)) :
      SourceUse (some source) none

namespace Gui

variable {s s' : Gui} {new : List GuiEvent}

/-- Discover has dropped the old source when it comes to create one. -/
def SourceDropped (s : Gui) : Prop := s.handler = .discoverSource → s.source = none

theorem SourceDropped.setPublishZmq (h : s.SourceDropped) (checked : Bool) :
    (s.setPublishZmq checked).SourceDropped := by
  unfold Gui.setPublishZmq
  split
  · exact h
  · intro hhandler
    simp [h hhandler]

theorem SourceDropped.windowStep {a : GuiAction} (h : s.SourceDropped)
    (hstep : WindowStep s a s' new) : s'.SourceDropped := by
  cases hstep with
  | option option hhandler =>
    cases option with
    | enableZmq enable => exact h.setPublishZmq enable
    | _ => exact h
  | deliver hqueue hhandler hinput =>
    cases hinput with
    | publish checked =>
      apply setPublishZmq
      exact h
    | disabled => exact h
    | button => exact h
    | interface => exact h
    | _ => simp [SourceDropped]
  | handler hhandler =>
    cases hhandler with
    | discovered =>
      simp only [SourceDropped, Gui.discovered]
      split <;> simp
    | discoverReset => exact fun _ => rfl
    | _ => simp [SourceDropped, callStop]
  | input => exact h
  | post => exact h
  | refresh => exact h
  | blocked => exact h
  | _ => simp [SourceDropped]

theorem setPublishZmq_source (s : Gui) (checked : Bool) :
    SourceUse s.source (s.setPublishZmq checked).source := by
  unfold setPublishZmq
  split
  · exact .same _
  · cases s.source with
    | none => exact .same _
    | some source => exact .step (a := .setZMQPublish checked) rfl

theorem inputStep_source {input : UserInput} (hstep : InputStep s input s' new) :
    SourceUse s.source s'.source := by
  cases hstep with
  | publish checked => exact setPublishZmq_source s checked
  | _ => exact .same _

/-- A source that is dropped has no thread, or one that its destructor joins. -/
theorem drop_source (h : s.LifeCycle) : SourceUse s.source none := by
  cases hsource : s.source with
  | none => exact .same _
  | some source =>
    have hjoined := DataSource.join_joinable (h.running source hsource)
    have hdestroy : DataSource.machine.step source .destroy = some (source.join, [.destroyed]) := by
      simp [DataSource.machine, DataSource.step, hjoined]
    exact .drop hdestroy

/-- A new source that has been asked for its slaves. -/
theorem create_source (cls : SourceClass) (slaves : List SlavePtr) (publish : Bool)
    (error : String) : SourceUse none (some ⟨cls, slaves, publish, false, false⟩) := by
  have hexec : DataSource.machine.exec (fun _ _ => True) (.new cls)
      [.setZMQPublish publish, .getSlaves slaves error] =
      some (⟨cls, slaves, publish, false, false⟩, [.getSlaves error]) := rfl
  exact .create (Machine.run_of_exec hexec)

theorem createSource_error {c : Controls} {reply : DiscoverReply} {message : String}
    {source : Option DataSource} (h : createSource c reply = .error (message, source)) :
    source = none ∨ source = some (.new .packetSniffer) := by
  unfold createSource at h
  repeat' split at h
  all_goals cases h
  all_goals first
    | exact .inl rfl
    | exact .inr rfl

theorem handlerStep_source {reply : GuiReply} (h : s.LifeCycle) (hdropped : s.SourceDropped)
    (hstep : HandlerStep s reply s' new) : SourceUse s.source s'.source := by
  cases hstep with
  | discoverReset => exact drop_source h
  | closeError => exact drop_source h
  | createError hhandler hcreate =>
    rw [hdropped hhandler]
    rcases createSource_error hcreate with rfl | rfl
    · exact .same _
    · exact .create .nil
  | slavesError hhandler hcreate =>
    rw [hdropped hhandler]
    exact create_source _ _ _ ""
  | discovered hhandler hcreate =>
    rw [hdropped hhandler]
    exact create_source _ _ _ ""
  | startError => exact .same _
  | @started reply source running hhandler hsource hstart =>
    have hidle := h.startText (h.starting hhandler).2 source hsource
    rw [hsource]
    have hstep : DataSource.machine.step source (.start reply) = some (running, [.start ""]) := by
      simp [DataSource.machine, DataSource.step, hidle, hstart]
    exact .step hstep
  | stopped =>
    show SourceUse s.source (s.source.map DataSource.join)
    cases s.source with
    | none => exact .same _
    | some source => exact .step (a := .stop) rfl
  | _ => exact .same _

/-- In every step that a reachable window takes, its source is used as a data source can be: it is
started and asked for slaves only without a thread, and dropped only when its destructor leaves
none. A message is posted only where the source can call back. -/
theorem window_uses_source (interfaces : List String) (events : List GuiEvent) (s : Gui)
    (run : machine.Run (fun _ _ => True) (init interfaces) events s) (a : GuiAction) (s' : Gui)
    (new : List GuiEvent) (hstep : machine.step s a = some (s', new)) :
    SourceUse s.source s'.source ∧
      (a = .post → ∃ source ∈ s.source,
        DataSource.machine.step source .callback = some (source, [.callback])) := by
  have hinit : (init interfaces).SourceDropped := by simp [SourceDropped, init]
  obtain ⟨hlife, hdropped⟩ := reachable_invariant run hinit
    fun _ _ _ _ _ h hstep => h.windowStep hstep
  have hwindow := hlife.windowStep hstep
  constructor
  · cases hwindow with
    | option option =>
      cases option with
      | enableZmq enable => exact setPublishZmq_source s enable
      | _ => exact .same _
    | deliver hqueue hhandler hinput =>
      have hsource := inputStep_source hinput
      exact hsource
    | handler hs => exact handlerStep_source hlife hdropped hs
    | _ => exact .same _
  · rintro rfl
    cases hwindow with
    | post hsource hjoinable =>
      refine ⟨_, hsource, ?_⟩
      simp [DataSource.machine, DataSource.step, hjoinable]

end Gui

end Kddv
