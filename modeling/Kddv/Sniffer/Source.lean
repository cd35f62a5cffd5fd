import Kddv.Master.Source
import Kddv.Sniffer.Bounds
import Kddv.Sniffer.GetSlaves

/-!
# The sniffer as a data source

`PacketSniffer` with the thread that runs its loop does what the data source of the user
interfaces does. So neither source calls back before it has been started or after it has been
stopped.
-/

namespace Kddv

open Framework

/-- Where `sniffer_thread` is. The object stays joinable when the loop has returned. -/
inductive SnifferThread
  | sniffLoop
  | returned
deriving DecidableEq

/-- Where the thread is that calls the methods. -/
inductive SnifferCaller
  | idle
  | joinStop
  | joinDestroy
  | destroyed
  | terminated
deriving DecidableEq

structure SnifferObject where
  sniffer : PacketSniffer
  snifferThread : Option SnifferThread
  caller : SnifferCaller

inductive SnifferAction
  | getSlaves (heap : Nat → FreshMemory) (config : Json)
  | setZMQPublish (value : Bool)
  | start
  | stop
  | destroy
  | join
  | packet (frame : Memory) (millisecSinceEpoch : Int)
  | loopReturns

inductive SnifferEvent
  | getSlaves (error : String)
  | start
  | stop
  | destroyed
  | fault (fault : Fault)
  | output (output : SnifferOutput)

namespace SnifferObject

def new : SnifferObject := ⟨⟨[], false⟩, none, .idle⟩

/-- `getSlaves` of the sniffer with the document that `loadConfig` has read. -/
def getSlaves (s : SnifferObject) (heap : Nat → FreshMemory) (config : Json) :
    SnifferObject × List SnifferEvent :=
  match PacketSniffer.getSlaves heap config with
  | .ok (slaves, error) =>
    ({ s with sniffer := { s.sniffer with slaves := slaves } }, [.getSlaves error])
  | .error fault => ({ s with caller := .terminated }, [.fault fault])

/-- A thread object that is assigned while it is joinable ends the program. -/
def start (s : SnifferObject) : SnifferObject × List SnifferEvent :=
  if s.snifferThread.isSome then ({ s with caller := .terminated }, [])
  else ({ s with snifferThread := some .sniffLoop }, [.start])

/-- `stop` after `stop_sniff`, up to the join. -/
def stop (s : SnifferObject) : SnifferObject × List SnifferEvent :=
  if s.snifferThread.isSome then ({ s with caller := .joinStop }, []) else (s, [.stop])

/-- The destructor up to the join. -/
def destroy (s : SnifferObject) : SnifferObject × List SnifferEvent :=
  if s.snifferThread.isSome then ({ s with caller := .joinDestroy }, [])
  else ({ s with caller := .destroyed }, [.destroyed])

/-- The loop of the thread has returned. -/
def join (s : SnifferObject) : Option (SnifferObject × List SnifferEvent) :=
  match s.caller, s.snifferThread with
  | .joinStop, some .returned => some ({ s with snifferThread := none, caller := .idle }, [.stop])
  | .joinDestroy, some .returned =>
    some ({ s with snifferThread := none, caller := .destroyed }, [.destroyed])
  | _, _ => none

/-- The loop calls the callback. -/
def packet (s : SnifferObject) (frame : Memory) (millisecSinceEpoch : Int) :
    SnifferObject × List SnifferEvent :=
  let result := packetCallback s.sniffer frame millisecSinceEpoch
  let thread := if result.continueSniffing then SnifferThread.sniffLoop else .returned
  ({ s with sniffer := result.sniffer, snifferThread := some thread },
    result.outputs.map .output)

def step (s : SnifferObject) (action : SnifferAction) :
    Option (SnifferObject × List SnifferEvent) :=
  if s.caller = .terminated then none
  else
    match action with
    | .getSlaves heap config => if s.caller = .idle then some (s.getSlaves heap config) else none
    | .setZMQPublish value =>
      some ({ s with sniffer := { s.sniffer with zmqPublishEnabled := value } }, [])
    | .start => if s.caller = .idle then some s.start else none
    | .stop => if s.caller = .idle then some s.stop else none
    | .destroy => if s.caller = .idle then some s.destroy else none
    | .join => s.join
    | .packet frame millis =>
      if s.snifferThread = some .sniffLoop then some (s.packet frame millis) else none
    | .loopReturns =>
      if s.snifferThread = some .sniffLoop then
        some ({ s with snifferThread := some .returned }, [])
      else none

def machine : Machine SnifferObject SnifferAction SnifferEvent := ⟨step⟩

/-- The user interfaces look for slaves on a new source, and start a source that has no thread. -/
def uiIssues (s : SnifferObject) : SnifferAction → Bool
  | .getSlaves _ _ | .start => s.snifferThread.isNone
  | _ => true

def seenOfEvent : SnifferEvent → Option SourceEvent
  | .getSlaves error => some (.getSlaves error)
  | .start => some (.start "")
  | .stop => some .stop
  | .destroyed => some .destroyed
  | .output (.dataCallback _) => some .callback
  | _ => none

/-- The sniffer as the user interface sees it. -/
def observed : Machine SnifferObject SnifferAction SourceEvent :=
  machine.observe fun _ _ _ new => new.filterMap seenOfEvent

/-- The data source that stands for the sniffer. -/
structure Represents (s : SnifferObject) (source : DataSource) : Prop where
  cls : source.cls = .packetSniffer
  publish : source.zmqPublishEnabled = s.sniffer.zmqPublishEnabled
  slaves : s.caller ≠ .terminated → source.slaves.length = s.sniffer.slaves.length
  joinable : source.joinable = s.snifferThread.isSome

theorem packetCallback_publish (sniffer : PacketSniffer) (frame : Memory) (millis : Int) :
    (packetCallback sniffer frame millis).sniffer.zmqPublishEnabled =
      sniffer.zmqPublishEnabled := by
  by_cases h : Accepted frame
  · rw [packetCallback_accepted sniffer frame millis h]
  · rw [(packetCallback_rejected sniffer frame millis h).1]

theorem packetCallback_slaves_length (sniffer : PacketSniffer) (frame : Memory) (millis : Int) :
    (packetCallback sniffer frame millis).sniffer.slaves.length = sniffer.slaves.length := by
  rw [packetCallback_slaves]
  split
  · exact List.length_map _
  · rfl

/-- One callback is seen of an accepted frame, and nothing of another one. -/
theorem seen_packet (sniffer : PacketSniffer) (frame : Memory) (millis : Int) :
    ((packetCallback sniffer frame millis).outputs.map SnifferEvent.output).filterMap seenOfEvent =
      if Accepted frame then [.callback] else [] := by
  by_cases h : Accepted frame
  · rw [packetCallback_outputs sniffer frame millis h, if_pos h]
    unfold mismatchOutputs consumerOutputs
    dsimp only
    split <;> split <;> rfl
  · rw [(packetCallback_rejected sniffer frame millis h).2, if_neg h]
    rfl

namespace Represents

variable {s s' : SnifferObject} {source : DataSource} {new : List SnifferEvent}

theorem getSlaves (h : s.Represents source) (hthread : s.snifferThread = none)
    (heap : Nat → FreshMemory) (config : Json) :
    DataSource.machine.Matches Represents source ((s.getSlaves heap config).2.filterMap seenOfEvent)
      (s.getSlaves heap config).1 := by
  have hidle : source.joinable = false := by rw [h.joinable, hthread]; rfl
  unfold SnifferObject.getSlaves
  cases PacketSniffer.getSlaves heap config with
  | error fault => exact .stutter ⟨h.cls, h.publish, by simp, h.joinable⟩
  | ok found =>
    obtain ⟨slaves, error⟩ := found
    have hstep : DataSource.machine.step source (.getSlaves (List.range slaves.length) error) =
        some ({ source with slaves := List.range slaves.length }, [.getSlaves error]) := by
      simp [DataSource.machine, DataSource.step, hidle]
    exact .step hstep ⟨h.cls, h.publish, fun _ => List.length_range, h.joinable⟩

theorem start (h : s.Represents source) (hthread : s.snifferThread = none) :
    DataSource.machine.Matches Represents source (s.start.2.filterMap seenOfEvent) s.start.1 := by
  obtain ⟨cls, slaves, publish, running, joinable⟩ := source
  cases h.cls
  have hidle : joinable = false := h.joinable.trans (by rw [hthread]; rfl)
  subst hidle
  unfold SnifferObject.start
  rw [if_neg (by simp [hthread])]
  exact .step (b := .start .operational) rfl ⟨rfl, h.publish, h.slaves, rfl⟩

/-- The thread has been joined, or there was none. -/
theorem joined (h : s.Represents source) (halive : s.caller ≠ .terminated)
    (hsniffer : s'.sniffer = s.sniffer) (hthread : s'.snifferThread = none) :
    s'.Represents source.join ∧ source.join.joinable = false := by
  obtain ⟨cls, slaves, publish, running, joinable⟩ := source
  cases h.cls
  refine ⟨⟨rfl, ?_, ?_, ?_⟩, rfl⟩
  · rw [hsniffer]
    exact h.publish
  · intro _
    rw [hsniffer]
    exact h.slaves halive
  · rw [hthread]
    rfl

theorem stopped (h : s.Represents source) (halive : s.caller ≠ .terminated)
    (hsniffer : s'.sniffer = s.sniffer) (hthread : s'.snifferThread = none) :
    DataSource.machine.Matches Represents source [.stop] s' :=
  .step (b := .stop) rfl (h.joined halive hsniffer hthread).1

theorem destroyed (h : s.Represents source) (halive : s.caller ≠ .terminated)
    (hsniffer : s'.sniffer = s.sniffer) (hthread : s'.snifferThread = none) :
    DataSource.machine.Matches Represents source [.destroyed] s' := by
  obtain ⟨hjoined, hidle⟩ := h.joined halive hsniffer hthread
  have hstep : DataSource.machine.step source .destroy = some (source.join, [.destroyed]) := by
    simp [DataSource.machine, DataSource.step, hidle]
  exact .step hstep hjoined

theorem packet (h : s.Represents source) (hthread : s.snifferThread = some .sniffLoop)
    (frame : Memory) (millis : Int) :
    DataSource.machine.Matches Represents source
      ((s.packet frame millis).2.filterMap seenOfEvent) (s.packet frame millis).1 := by
  have hjoinable : source.joinable = true := by rw [h.joinable, hthread]; rfl
  have hnext : (s.packet frame millis).1.Represents source := by
    refine ⟨h.cls, ?_, ?_, hjoinable⟩
    · exact h.publish.trans (packetCallback_publish _ _ _).symm
    · intro halive
      exact (h.slaves halive).trans (packetCallback_slaves_length _ _ _).symm
  have hseen : (s.packet frame millis).2.filterMap seenOfEvent =
      if Accepted frame then [.callback] else [] := seen_packet _ _ _
  rw [hseen]
  by_cases haccepted : Accepted frame
  · rw [if_pos haccepted]
    have hcallback : DataSource.machine.step source .callback = some (source, [.callback]) := by
      simp [DataSource.machine, DataSource.step, hjoinable]
    exact .step hcallback hnext
  · rw [if_neg haccepted]
    exact .stutter hnext

theorem join (h : s.Represents source) (halive : s.caller ≠ .terminated)
    (hstep : s.join = some (s', new)) :
    DataSource.machine.Matches Represents source (new.filterMap seenOfEvent) s' := by
  unfold SnifferObject.join at hstep
  split at hstep
  · cases hstep
    exact h.stopped halive rfl rfl
  · cases hstep
    exact h.destroyed halive rfl rfl
  · cases hstep

end Represents

theorem represents_new : new.Represents (.new .packetSniffer) := ⟨rfl, rfl, fun _ => rfl, rfl⟩

theorem simulates : DataSource.machine.Simulates observed (fun s a => s.uiIssues a = true)
    Represents := by
  intro s source a s' shown h hui hobserved
  obtain ⟨new, hmachine, rfl⟩ := Machine.observe_step hobserved
  have hstep : s.step a = some (s', new) := hmachine
  unfold SnifferObject.step at hstep
  split at hstep
  · cases hstep
  · rename_i halive
    cases a with
    | getSlaves heap config =>
      have hthread : s.snifferThread = none := by simpa [uiIssues] using hui
      dsimp only at hstep
      split at hstep
      · obtain ⟨rfl, rfl⟩ := Prod.mk.inj (Option.some.inj hstep)
        exact h.getSlaves hthread heap config
      · cases hstep
    | setZMQPublish value =>
      cases hstep
      exact .step (b := .setZMQPublish value) rfl ⟨h.cls, rfl, h.slaves, h.joinable⟩
    | start =>
      have hthread : s.snifferThread = none := by simpa [uiIssues] using hui
      dsimp only at hstep
      split at hstep
      · obtain ⟨rfl, rfl⟩ := Prod.mk.inj (Option.some.inj hstep)
        exact h.start hthread
      · cases hstep
    | stop =>
      dsimp only at hstep
      split at hstep
      · cases hthread : s.snifferThread with
        | none =>
          rw [SnifferObject.stop, if_neg (by simp [hthread])] at hstep
          cases hstep
          exact h.stopped halive rfl hthread
        | some thread =>
          rw [SnifferObject.stop, if_pos (by simp [hthread])] at hstep
          cases hstep
          exact .stutter ⟨h.cls, h.publish, fun _ => h.slaves halive, h.joinable⟩
      · cases hstep
    | destroy =>
      dsimp only at hstep
      split at hstep
      · cases hthread : s.snifferThread with
        | none =>
          rw [SnifferObject.destroy, if_neg (by simp [hthread])] at hstep
          cases hstep
          exact h.destroyed halive rfl hthread
        | some thread =>
          rw [SnifferObject.destroy, if_pos (by simp [hthread])] at hstep
          cases hstep
          exact .stutter ⟨h.cls, h.publish, fun _ => h.slaves halive, h.joinable⟩
      · cases hstep
    | join => exact h.join halive hstep
    | packet frame millis =>
      dsimp only at hstep
      split at hstep
      · rename_i hthread
        obtain ⟨rfl, rfl⟩ := Prod.mk.inj (Option.some.inj hstep)
        exact h.packet hthread frame millis
      · cases hstep
    | loopReturns =>
      dsimp only at hstep
      split at hstep
      · rename_i hthread
        cases hstep
        have hjoinable : source.joinable = true := by rw [h.joinable, hthread]; rfl
        exact .stutter ⟨h.cls, h.publish, h.slaves, hjoinable⟩
      · cases hstep

/-- Whatever a user interface sees of the sniffer, for all frames and config files, the data
source of the interfaces can show as well. They agree on the flag, the thread and, unless the
config file has ended the program, the number of slaves. -/
theorem sniffer_is_data_source (trace : List SourceEvent) (s : SnifferObject)
    (run : observed.Run (fun s a => s.uiIssues a = true) new trace s) :
    ∃ source, DataSource.machine.Run (fun _ _ => True) (.new .packetSniffer) trace source ∧
      source.zmqPublishEnabled = s.sniffer.zmqPublishEnabled ∧
      (source.joinable = true ↔ s.snifferThread.isSome = true) ∧
      (s.caller ≠ .terminated → source.slaves.length = s.sniffer.slaves.length) := by
  obtain ⟨source, run', h⟩ := simulates.run represents_new run
  exact ⟨source, run', h.publish, by rw [h.joinable], h.slaves⟩

private def batteryConfig : Json :=
  .object [("Slaves", .array [.object [("Address", .int 4097), ("EEP ID", .int 34603265),
    ("EEP Man", .int 5001027), ("EEP Rev", .int 1), ("Name", .string "KELO_ROBILE"),
    ("RX start offset", .int 0), ("Slave ID", .int 1), ("TX start offset", .int 12)]])]

/-- Two frames, of which the first is not a logical read-write datagram, and then the end. -/
theorem sniffer_is_data_source_stopped : ∃ s source,
    observed.Run (fun s a => s.uiIssues a = true) new
      [.getSlaves "", .start "", .callback, .stop] s ∧
      DataSource.machine.Run (fun _ _ => True) (.new .packetSniffer)
        [.getSlaves "", .start "", .callback, .stop] source ∧
      source.joinable = false := by
  have hexec : observed.exec (fun s a => s.uiIssues a = true) new
      [.getSlaves (fun _ => default) batteryConfig, .start, .packet ⟨[], fun _ => 0⟩ 0,
        .packet (lrwBytes 80 82) 5, .stop, .loopReturns, .join] =
      some (_, [.getSlaves "", .start "", .callback, .stop]) := rfl
  have run := Machine.run_of_exec hexec
  obtain ⟨source, run', -, hjoinable, -⟩ := sniffer_is_data_source _ _ run
  exact ⟨_, source, run, run', by simpa using hjoinable⟩

end SnifferObject

end Kddv
