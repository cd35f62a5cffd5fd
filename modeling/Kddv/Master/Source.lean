import Kddv.Gui.Source
import Kddv.Master.Mutex

/-!
# The master as a data source

The EtherCAT master with its two threads does what the data source of the user interfaces does.
`start` takes effect when the second thread is launched, `stop` and the destructor when both have
been joined.
-/

namespace Kddv

open Framework

/-- The threads count from the end of their launch to the end of their joins. -/
def MainPc.inEffect (main : MainPc) (ethercatRunning : Bool) : Bool :=
  match main with
  | .start (.launchEthercat _) | .start (.launchDataCopy _) => false
  | .joinEthercat _ | .joinDataCopy _ => true
  | _ => ethercatRunning

def MainPc.inGetSlaves : MainPc → Bool
  | .getSlaves _ => true
  | _ => false

namespace EthercatMaster

/-- What a user interface sees of a step of the calling thread. -/
def seenOfMain (main main' : MainPc) : List SourceEvent :=
  match main, main' with
  | .getSlaves _, .idle (some (_, error)) => [.getSlaves error]
  | .start (.report _), _ => []
  | .start _, .idle (some (_, error)) => [.start error]
  | .start _, .start (.report _) => [.start ""]
  | .joinDataCopy _, .idle _ => [.stop]
  | .joinDataCopy _, .destroyed => [.destroyed]
  | _, _ => []

def seenOfCallback (event : MasterEvent) : Option SourceEvent :=
  match event with
  | .callback _ => some .callback
  | _ => none

/-- What a user interface sees of a step. -/
def seen (s : EthercatMaster) (a : MasterAction) (s' : EthercatMaster) (new : List MasterEvent) :
    List SourceEvent :=
  match a with
  | .call .stop => if s'.main = .idle (some (.stop, "")) then [.stop] else []
  | .call .destroy => if s'.main = .destroyed then [.destroyed] else []
  | .main _ => seenOfMain s.main s'.main
  | .dataCopy => new.filterMap seenOfCallback
  | _ => []

/-- The message of `start` with this answer. -/
def startError : StartReply → String
  | .noSocket => "No socket connection. (try running with sudo)"
  | .noSlaves => "No slaves found"
  | .notOperational | .operational => ""

theorem start_eq {source : DataSource} (hcls : source.cls = .ethercatMaster)
    (hrunning : source.ethercatRunning = false) (hidle : source.joinable = false)
    (answer : StartReply) :
    source.start answer =
      some ({ source with
        ethercatRunning := decide (answer = .operational)
        joinable := decide (answer = .operational) }, startError answer) := by
  obtain ⟨cls, slaves, publish, running, joinable⟩ := source
  cases hcls
  cases hrunning
  cases hidle
  cases answer <;> rfl

/-- The data source that stands for the master. -/
structure Represents (s : EthercatMaster) (source : DataSource) : Prop where
  lifecycle : s.Lifecycle
  cls : source.cls = .ethercatMaster
  publish : source.zmqPublishEnabled = s.zmqPublishEnabled
  slaves : s.main.inGetSlaves = false → source.slaves.length = s.slaves.length
  running : source.ethercatRunning = s.main.inEffect s.ethercatRunning
  joinable : source.joinable = s.main.inEffect s.ethercatRunning

namespace Represents

variable {s s' : EthercatMaster} {source : DataSource} {reply : Reply} {new : List MasterEvent}

/-- A step of which nothing is seen. -/
theorem stutter (h : s.Represents source) (hlife : s'.Lifecycle)
    (hpublish : s'.zmqPublishEnabled = s.zmqPublishEnabled)
    (hslaves : s'.main.inGetSlaves = false → s.main.inGetSlaves = false ∧
      s'.slaves.length = s.slaves.length)
    (heffect : s'.main.inEffect s'.ethercatRunning = s.main.inEffect s.ethercatRunning) :
    s'.Represents source := by
  refine ⟨hlife, h.cls, h.publish.trans hpublish.symm, ?_, h.running.trans heffect.symm,
    h.joinable.trans heffect.symm⟩
  intro hdone
  obtain ⟨hdone', hlength⟩ := hslaves hdone
  rw [h.slaves hdone', hlength]

/-- Between the calls the flag says whether the threads exist. -/
theorem notRunning (h : s.Represents source) (hstopped : s.phase = .stopped)
    (heffect : s.main.inEffect s.ethercatRunning = s.ethercatRunning) :
    source.ethercatRunning = false ∧ source.joinable = false := by
  have hflag : s.ethercatRunning = false := congrArg Prod.fst hstopped
  rw [h.running, h.joinable, heffect, hflag]
  exact ⟨rfl, rfl⟩

theorem join_idle (h : s.Represents source) (hrunning : source.ethercatRunning = false) :
    source.join = source := by
  obtain ⟨cls, slaves, publish, running, joinable⟩ := source
  cases h.cls
  cases hrunning
  rfl

/-- `getSlaves` returns. -/
theorem getSlaves_returns {pc : GetSlavesPc} {error : String} (h : s.Represents source)
    (hpc : s.main = .getSlaves pc) (hlife : s'.Lifecycle)
    (hmain : s'.main = .idle (some (.getSlaves, error)))
    (hpublish : s'.zmqPublishEnabled = s.zmqPublishEnabled)
    (hrunning : s'.ethercatRunning = s.ethercatRunning) :
    DataSource.machine.Matches Represents source (seenOfMain s.main s'.main) s' := by
  have hphase := h.lifecycle.phase
  rw [hpc] at hphase
  obtain ⟨-, hidle⟩ := h.notRunning hphase (by rw [hpc]; rfl)
  have hstep : DataSource.machine.step source
      (.getSlaves (List.range s'.slaves.length) error) =
        some ({ source with slaves := List.range s'.slaves.length }, [.getSlaves error]) := by
    simp [DataSource.machine, DataSource.step, hidle]
  have heffect : s'.main.inEffect s'.ethercatRunning = s.main.inEffect s.ethercatRunning := by
    rw [hmain, hpc, hrunning]
    rfl
  rw [hpc, hmain]
  refine .step hstep ⟨hlife, h.cls, h.publish.trans hpublish.symm, ?_, ?_, ?_⟩
  · intro _
    exact List.length_range
  · exact h.running.trans heffect.symm
  · exact h.joinable.trans heffect.symm

theorem getSlavesStep {pc : GetSlavesPc} (h : s.Represents source) (hpc : s.main = .getSlaves pc)
    (hlife : s'.Lifecycle) (hstep : s.GetSlavesStep pc reply s' new) :
    DataSource.machine.Matches Represents source (seenOfMain s.main s'.main) s' := by
  cases hstep with
  | init =>
    rw [hpc]
    exact .stutter (h.stutter hlife rfl (by simp [MainPc.inGetSlaves]) (by rw [hpc]; rfl))
  | config hcount =>
    rw [hpc]
    exact .stutter (h.stutter hlife rfl (by simp [MainPc.inGetSlaves]) (by rw [hpc]; rfl))
  | stateCheck =>
    rw [hpc]
    exact .stutter (h.stutter hlife rfl (by simp [MainPc.inGetSlaves]) (by rw [hpc]; rfl))
  | initFails => exact h.getSlaves_returns hpc hlife rfl rfl rfl
  | configFails => exact h.getSlaves_returns hpc hlife rfl rfl rfl
  | stateCheckFails => exact h.getSlaves_returns hpc hlife rfl rfl rfl
  | close => exact h.getSlaves_returns hpc hlife rfl rfl rfl

/-- `start` takes effect with this answer. -/
theorem start_takesEffect {pc : StartPc} (h : s.Represents source) (hpc : s.main = .start pc)
    (hstopped : source.ethercatRunning = false ∧ source.joinable = false) (answer : StartReply)
    (hlife : s'.Lifecycle) (hseen : seenOfMain s.main s'.main = [.start (startError answer)])
    (hpublish : s'.zmqPublishEnabled = s.zmqPublishEnabled) (hslaves : s'.slaves = s.slaves)
    (heffect : s'.main.inEffect s'.ethercatRunning = decide (answer = .operational)) :
    DataSource.machine.Matches Represents source (seenOfMain s.main s'.main) s' := by
  obtain ⟨hflag, hidle⟩ := hstopped
  have hstart := start_eq h.cls hflag hidle answer
  have hstep : DataSource.machine.step source (.start answer) =
      some ({ source with
        ethercatRunning := decide (answer = .operational)
        joinable := decide (answer = .operational) }, [.start (startError answer)]) := by
    simp [DataSource.machine, DataSource.step, hidle, hstart]
  rw [hseen]
  refine .step hstep ⟨hlife, h.cls, h.publish.trans hpublish.symm, ?_, heffect.symm, heffect.symm⟩
  intro _
  rw [hslaves]
  exact h.slaves (by rw [hpc]; rfl)

/-- A step of `start` that is not the one that takes effect. -/
theorem start_stutters {pc : StartPc} (h : s.Represents source) (hpc : s.main = .start pc)
    (hlife : s'.Lifecycle) (hseen : seenOfMain s.main s'.main = [])
    (hpublish : s'.zmqPublishEnabled = s.zmqPublishEnabled) (hslaves : s'.slaves = s.slaves)
    (heffect : s'.main.inEffect s'.ethercatRunning = s.main.inEffect s.ethercatRunning) :
    DataSource.machine.Matches Represents source (seenOfMain s.main s'.main) s' := by
  rw [hseen]
  refine .stutter (h.stutter hlife hpublish ?_ heffect)
  intro _
  exact ⟨by rw [hpc]; rfl, by rw [hslaves]⟩

theorem startStep {pc : StartPc} (h : s.Represents source) (hpc : s.main = .start pc)
    (hlife : s'.Lifecycle) (hstep : s.StartStep pc reply s' new) :
    DataSource.machine.Matches Represents source (seenOfMain s.main s'.main) s' := by
  have hphase := h.lifecycle.phase
  rw [hpc] at hphase
  cases hstep with
  | initFails =>
    have hflag : s.ethercatRunning = false := congrArg Prod.fst hphase
    exact h.start_takesEffect hpc (h.notRunning hphase (by rw [hpc]; rfl)) .noSocket hlife
      (by rw [hpc]; rfl) rfl rfl hflag
  | configFails =>
    have hflag : s.ethercatRunning = false := congrArg Prod.fst hphase
    exact h.start_takesEffect hpc (h.notRunning hphase (by rw [hpc]; rfl)) .noSlaves hlife
      (by rw [hpc]; rfl) rfl rfl hflag
  | noLaunch =>
    have hflag : s.ethercatRunning = false := congrArg Prod.fst hphase
    exact h.start_takesEffect hpc (h.notRunning hphase (by rw [hpc]; rfl)) .notOperational hlife
      (by rw [hpc]; rfl) rfl rfl hflag
  | launch =>
    have hflag : s.ethercatRunning = false := congrArg Prod.fst hphase
    refine h.start_stutters hpc hlife (by rw [hpc]; rfl) rfl rfl ?_
    rw [hpc]
    exact hflag.symm
  | launchEthercat => exact h.start_stutters hpc hlife (by rw [hpc]; rfl) rfl rfl (by rw [hpc]; rfl)
  | launchDataCopy =>
    have hflag : s.ethercatRunning = true := congrArg Prod.fst hphase
    have hstopped : source.ethercatRunning = false ∧ source.joinable = false := by
      rw [h.running, h.joinable, hpc]
      exact ⟨rfl, rfl⟩
    exact h.start_takesEffect hpc hstopped .operational hlife (by rw [hpc]; rfl) rfl rfl hflag
  | overwriteEthercat => exact hlife.phase.elim
  | overwriteDataCopy => exact hlife.phase.elim
  | _ => exact h.start_stutters hpc hlife (by rw [hpc]; rfl) rfl rfl (by rw [hpc]; rfl)

/-- Both threads have been joined. -/
theorem stop_takesEffect (h : s.Represents source) (hlife : s'.Lifecycle)
    (hinGetSlaves : s.main.inGetSlaves = false)
    (hpublish : s'.zmqPublishEnabled = s.zmqPublishEnabled) (hslaves : s'.slaves = s.slaves)
    (heffect : s'.main.inEffect s'.ethercatRunning = false) :
    s'.Represents source.join ∧ source.join.joinable = false := by
  obtain ⟨cls, slaves, publish, running, joinable⟩ := source
  cases h.cls
  have hsame : running = joinable := h.running.trans h.joinable.symm
  subst hsame
  have hlength := h.slaves hinGetSlaves
  rw [← hslaves] at hlength
  cases running with
  | true =>
    exact ⟨⟨hlife, rfl, h.publish.trans hpublish.symm, fun _ => hlength, heffect.symm,
      heffect.symm⟩, rfl⟩
  | false =>
    exact ⟨⟨hlife, rfl, h.publish.trans hpublish.symm, fun _ => hlength, heffect.symm,
      heffect.symm⟩, rfl⟩

theorem joinStep (h : s.Represents source) (hlife : s'.Lifecycle) (hstep : s.JoinStep s') :
    DataSource.machine.Matches Represents source (seenOfMain s.main s'.main) s' := by
  have hphase := h.lifecycle.phase
  cases hstep with
  | ethercat hpc hdone =>
    rw [hpc]
    refine .stutter (h.stutter hlife rfl ?_ (by rw [hpc]; rfl))
    intro _
    exact ⟨by rw [hpc]; rfl, rfl⟩
  | dataCopy hpc hcall hdone =>
    rw [hpc] at hphase
    have hflag : s.ethercatRunning = false := congrArg Prod.fst hphase.2
    obtain ⟨hjoined, -⟩ := h.stop_takesEffect hlife (by rw [hpc]; rfl) rfl rfl hflag
    rw [hpc]
    exact .step (b := .stop) rfl hjoined
  | destroy hpc hdone =>
    rw [hpc] at hphase
    obtain ⟨-, hthreads⟩ := hphase
    have hflag : s.ethercatRunning = false := congrArg Prod.fst hthreads
    have hthread : s.ethercatThread.isSome = false := congrArg (·.2.1) hthreads
    have hmain : ({ s with dataCopyThread := none }.destroyMembers).main = .destroyed := by
      simp [destroyMembers, hthread]
    obtain ⟨hjoined, hidle⟩ := h.stop_takesEffect hlife (by rw [hpc]; rfl) rfl rfl
      (by rw [hmain]; exact hflag)
    have hseen : seenOfMain s.main ({ s with dataCopyThread := none }.destroyMembers).main =
        [.destroyed] := by
      rw [hmain, hpc]
      rfl
    have hdestroy : DataSource.machine.step source .destroy = some (source.join, [.destroyed]) := by
      simp [DataSource.machine, DataSource.step, hidle]
    rw [hseen]
    exact .step hdestroy hjoined

theorem beginCall {call : Call} {last : Option (Call × String)} (h : s.Represents source)
    (hidle : s.main = .idle last) (hui : s.uiIssues (.call call) = true) :
    DataSource.machine.Matches Represents source (s.seen (.call call) (s.beginCall call) [])
      (s.beginCall call) := by
  have hlife := h.lifecycle.beginCall hidle hui
  cases call with
  | getSlaves =>
    exact .stutter (h.stutter hlife rfl (by simp [EthercatMaster.beginCall, MainPc.inGetSlaves])
      (by rw [hidle]; rfl))
  | start =>
    refine .stutter (h.stutter hlife rfl ?_ (by rw [hidle]; rfl))
    intro _
    exact ⟨by rw [hidle]; rfl, rfl⟩
  | stop =>
    by_cases hrunning : s.ethercatRunning = true
    · have hbegin : s.beginCall .stop =
          { s with ethercatRunning := false, main := .joinEthercat .stop } := if_pos hrunning
      rw [hbegin] at hlife ⊢
      refine .stutter (h.stutter hlife rfl ?_ ?_)
      · intro _
        exact ⟨by rw [hidle]; rfl, rfl⟩
      · rw [hidle]
        exact hrunning.symm
    · have hbegin : s.beginCall .stop = s.finish .stop "" := if_neg hrunning
      have hflag : s.ethercatRunning = false := by simpa using hrunning
      rw [hbegin] at hlife ⊢
      obtain ⟨hjoined, -⟩ := h.stop_takesEffect hlife (by rw [hidle]; rfl) rfl rfl hflag
      exact .step (b := .stop) rfl hjoined
  | destroy =>
    by_cases hrunning : s.ethercatRunning = true
    · have hbegin : s.beginCall .destroy =
          { s with ethercatRunning := false, main := .joinEthercat .destroy } := if_pos hrunning
      rw [hbegin] at hlife ⊢
      refine .stutter (h.stutter hlife rfl ?_ ?_)
      · intro _
        exact ⟨by rw [hidle]; rfl, rfl⟩
      · rw [hidle]
        exact hrunning.symm
    · have hbegin : s.beginCall .destroy = s.destroyMembers := if_neg hrunning
      have hflag : s.ethercatRunning = false := by simpa using hrunning
      rw [hbegin] at hlife ⊢
      have hmain : s.destroyMembers.main = .destroyed := by
        have hphase := hlife.phase
        unfold destroyMembers at hphase ⊢
        split at hphase
        · exact hphase.elim
        · rename_i hnone
          exact if_neg hnone
      obtain ⟨hjoined, hnone⟩ := h.stop_takesEffect hlife (by rw [hidle]; rfl) rfl rfl
        (by rw [hmain]; exact hflag)
      have hdestroy : DataSource.machine.step source .destroy =
          some (source.join, [.destroyed]) := by
        simp [DataSource.machine, DataSource.step, hnone]
      rw [seen, if_pos hmain]
      exact .step hdestroy hjoined

theorem ethercatStep (h : s.Represents source) (hlife : s'.Lifecycle)
    (hstep : s.EthercatStep reply s' new) : s'.Represents source := by
  have hframe := hstep.frame
  refine h.stutter hlife hframe.zmqPublishEnabled ?_ ?_
  · intro hdone
    rw [hframe.main] at hdone
    refine ⟨hdone, ?_⟩
    cases hstep <;> simp
  · rw [hframe.main, hframe.ethercatRunning]

/-- The copying thread exists only while the source has a thread. -/
theorem joinable_of_thread (h : s.Represents source) (hthread : s.dataCopyThread.isSome = true) :
    source.joinable = true := by
  have hphase := h.lifecycle.phase
  rw [h.joinable]
  unfold MainPc.Allows at hphase
  unfold MainPc.inEffect
  split at hphase
  all_goals simp_all [EthercatMaster.phase, Phase.stopped, Phase.running]

theorem dataCopyStep (h : s.Represents source) (hlife : s'.Lifecycle)
    (hstep : s.DataCopyStep s' new) :
    DataSource.machine.Matches Represents source (new.filterMap seenOfCallback) s' := by
  have hframe := hstep.frame
  have hnext : s'.Represents source := by
    refine h.stutter hlife ?_ ?_ ?_
    · cases hstep <;> rfl
    · intro hdone
      rw [hframe.main] at hdone
      exact ⟨hdone, by rw [hframe.slaves]⟩
    · rw [hframe.main, hframe.ethercatRunning]
  cases hstep with
  | callback hpc hend =>
    have hjoinable := h.joinable_of_thread (by rw [hpc]; rfl)
    have hcallback : DataSource.machine.step source .callback = some (source, [.callback]) := by
      simp [DataSource.machine, DataSource.step, hjoinable]
    exact .step hcallback hnext
  | _ => exact .stutter hnext

theorem step {a : MasterAction} (h : s.Represents source) (hui : s.uiIssues a = true)
    (hstep : machine.step s a = some (s', new)) :
    DataSource.machine.Matches Represents source (s.seen a s' new) s' := by
  have hmachine : s.step a = some (s', new) := hstep
  have hlife := h.lifecycle.step hui hmachine
  cases step_cases hmachine with
  | call hidle => exact h.beginCall hidle hui
  | @setZMQPublish value =>
    refine .step (b := .setZMQPublish value) rfl ?_
    exact ⟨hlife, h.cls, rfl, h.slaves, h.running, h.joinable⟩
  | getSlaves hpc hs => exact h.getSlavesStep hpc hlife hs
  | start hpc hs => exact h.startStep hpc hlife hs
  | join hs => exact h.joinStep hlife hs
  | ethercat hs => exact .stutter (h.ethercatStep hlife hs)
  | dataCopy hs => exact h.dataCopyStep hlife hs

end Represents

/-- The master as the user interface sees it. -/
def observed : Machine EthercatMaster MasterAction SourceEvent := machine.observe seen

theorem represents_create (iomap : Nat → UInt8) (table : SlaveTable) (busState : UInt16) :
    (create iomap table busState).Represents (.new .ethercatMaster) :=
  ⟨lifecycle_create iomap table busState, rfl, rfl, fun _ => rfl, rfl, rfl⟩

theorem simulates : DataSource.machine.Simulates observed (fun s a => s.uiIssues a = true)
    Represents := by
  intro s source a s' shown h hui hstep
  obtain ⟨new, hs, rfl⟩ := Machine.observe_step hstep
  exact h.step hui hs

/-- Whatever a user interface sees of the master, however its threads are scheduled and whatever
the bus answers, the data source of the interfaces can show as well. Between the calls they agree
on the flags, the threads and the number of slaves. -/
theorem master_is_data_source (iomap : Nat → UInt8) (table : SlaveTable) (busState : UInt16)
    (trace : List SourceEvent) (s : EthercatMaster)
    (run : observed.Run (fun s a => s.uiIssues a = true) (create iomap table busState) trace s) :
    ∃ source, DataSource.machine.Run (fun _ _ => True) (.new .ethercatMaster) trace source ∧
      ∀ last, s.main = .idle last →
        source.zmqPublishEnabled = s.zmqPublishEnabled ∧
        source.ethercatRunning = s.ethercatRunning ∧
        (source.joinable = true ↔ s.ethercatThread.isSome = true) ∧
        (source.joinable = true ↔ s.dataCopyThread.isSome = true) ∧
        source.slaves.length = s.slaves.length := by
  obtain ⟨source, run', h⟩ := simulates.run (represents_create iomap table busState) run
  refine ⟨source, run', ?_⟩
  intro last hidle
  have hrunning := h.running
  have hjoinable := h.joinable
  have hphase := h.lifecycle.phase
  rw [hidle] at hrunning hjoinable hphase
  have hthreads : s.phase = .stopped ∨ s.phase = .running := by
    rcases last with _ | ⟨_ | _ | _ | _, error⟩
    · exact .inl hphase
    · exact .inl hphase
    · exact hphase.imp_right And.right
    · exact .inl hphase
    · exact hphase.elim
  refine ⟨h.publish, hrunning, ?_, ?_, h.slaves (by rw [hidle]; rfl)⟩
  · rw [hjoinable]
    rcases hthreads with hthreads | hthreads
    · simp_all [EthercatMaster.phase, Phase.stopped, MainPc.inEffect]
    · simp_all [EthercatMaster.phase, Phase.running, MainPc.inEffect]
  · rw [hjoinable]
    rcases hthreads with hthreads | hthreads
    · simp_all [EthercatMaster.phase, Phase.stopped, MainPc.inEffect]
    · simp_all [EthercatMaster.phase, Phase.running, MainPc.inEffect]

/-- The master is stopped after its first callback. -/
theorem master_is_data_source_stopped : ∃ s source,
    observed.Run (fun s a => s.uiIssues a = true) (create (fun _ => 0) batteryOnBus 0)
      [.getSlaves "", .start "", .callback, .stop] s ∧
      DataSource.machine.Run (fun _ _ => True) (.new .ethercatMaster)
        [.getSlaves "", .start "", .callback, .stop] source ∧ source.slaves.length = 1 := by
  have hexec : observed.exec (fun s a => s.uiIssues a = true) (create (fun _ => 0) batteryOnBus 0)
      (discoverBattery ++ startBattery ++ firstCycle ++
        [MasterAction.dataCopy, .dataCopy, .dataCopy, .dataCopy, .call .stop, .dataCopy, .dataCopy,
          .ethercat .none, .ethercat .none, .main .none, .dataCopy, .main .none]) =
      some (_, [.getSlaves "", .start "", .callback, .stop]) := rfl
  have run := Machine.run_of_exec hexec
  obtain ⟨source, run', hagree⟩ := master_is_data_source (fun _ => 0) batteryOnBus 0 _ _ run
  exact ⟨_, source, run, run', (hagree _ rfl).2.2.2.2⟩

end EthercatMaster

end Kddv
