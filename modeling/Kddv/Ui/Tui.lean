import Kddv.Gui.Steps
import Kddv.Ui.Shutdown

/-!
# The terminal interface

`TUI::start` creates a source, starts it and waits for the key `q`. It returns only after the
source has been stopped, or if it was never running.
-/

namespace Kddv

open Framework

inductive Key
  | quit
  | left
  | right
  | other
deriving DecidableEq

/-- Where `start` is. A null pointer or an index out of range ends the program. -/
inductive TuiPc
  | create
  | getSlaves
  | callStart
  | waitForKey
  | stop
  | waitAfterError
  | returned
  | crashed
deriving DecidableEq

structure Tui where
  ecatSrc : String
  configFileName : String
  pcapFileName : String
  enableZmq : Bool
  selectedSlave : Int
  member : SourceMember
  pc : TuiPc

/-- Steps of `start`, with the answers of the source, and steps of the source's threads. -/
inductive TuiAction
  | create (openError configError : String)
  | getSlaves (slaves : List EthercatSlave) (error : String)
  | callStart (reply : StartReply)
  | key (key : Key)
  | stop
  | loopReturns
  | callback

inductive TuiEvent
  | writeStatus (message : String)
  | dataCallback
deriving DecidableEq

namespace Tui

/-- The state in which `start` begins. -/
def init (ecatSrc configFileName pcapFileName : String) (enableZmq : Bool) : Tui where
  ecatSrc := ecatSrc
  configFileName := configFileName
  pcapFileName := pcapFileName
  enableZmq := enableZmq
  selectedSlave := 0
  member := ⟨none, false⟩
  pc := .create

/-- The source that `start` creates, or an error message with the source that is kept. No source
and no error follow from a value of `ecat_src` that names none. -/
def createSource (t : Tui) (openError configError : String) :
    Except (String × Option DataSource) (Option DataSource) :=
  if t.ecatSrc = "ecat" then .ok (some (.new .ethercatMaster))
  else if t.ecatSrc = "sniffer" then
    if openError ≠ "" then .error (openError, some (.new .packetSniffer))
    else if t.configFileName ≠ "" then
      if configError ≠ "" then .error (configError, none)
      else .ok (some (.new .packetSniffer))
    else .error ("Config file not specified", none)
  else if t.ecatSrc = "pcap" then
    if t.configFileName = "" then .error ("Config file not specified", none)
    else if t.pcapFileName = "" then .error ("PCAP file not specified", none)
    else if openError ≠ "" then .error (openError, none)
    else if configError ≠ "" then .error (configError, none)
    else .ok (some (.new .packetSniffer))
  else .ok none

/-- `writeStatus` with an error, after which `start` waits for the key `q`. -/
def fail (t : Tui) (message : String) (source : Option DataSource) : Tui × List TuiEvent :=
  ({ t with member := ⟨source, false⟩, pc := .waitAfterError }, [.writeStatus message])

/-- `ecat_data_source.reset()` after an error. -/
def failAndReset (t : Tui) (message : String) (source : DataSource) : Tui × List TuiEvent :=
  if source.join.joinable then ({ t with pc := .crashed }, [.writeStatus message])
  else t.fail message none

/-- `start` up to the creation of the source. -/
def create (t : Tui) (openError configError : String) : Tui × List TuiEvent :=
  match t.createSource openError configError with
  | .error (message, source) => t.fail message source
  | .ok none => ({ t with pc := .crashed }, [])
  | .ok (some source) =>
    let source := { source with zmqPublishEnabled := t.enableZmq }
    ({ t with member := ⟨some source, false⟩, pc := .getSlaves }, [])

def getSlaves (t : Tui) (slaves : List EthercatSlave) (error : String) : Tui × List TuiEvent :=
  match t.member.source with
  | none => ({ t with pc := .crashed }, [])
  | some source =>
    if error ≠ "" then t.failAndReset error source
    else
      let source := { source with slaves := List.range slaves.length }
      ({ t with member := ⟨some source, false⟩, pc := .callStart },
        [.writeStatus ("Found " ++ toString slaves.length ++ " slaves")])

def callStart (t : Tui) (reply : StartReply) : Tui × List TuiEvent :=
  match t.member.source with
  | none => ({ t with pc := .crashed }, [])
  | some source =>
    match source.start reply with
    | none => ({ t with pc := .crashed }, [])
    | some (source, error) =>
      if error ≠ "" then t.failAndReset error source
      else ({ t with member := ⟨some source, false⟩, pc := .waitForKey }, [])

/-- The key that `getch` returns while the source is running. -/
def handleKey (t : Tui) : Key → Tui
  | .quit => { t with pc := .stop }
  | .left => { t with selectedSlave := t.selectedSlave - 1 }
  | .right => { t with selectedSlave := t.selectedSlave + 1 }
  | .other => t

/-- The call of `stop` returns, and `start` with it. -/
def callStop (t : Tui) : Tui :=
  { t with
    member := { t.member with source := t.member.source.map DataSource.join }
    pc := .returned }

/-- `selected_slave` as `dataCallback` brings it into range. -/
def clampSelected (t : Tui) (count : Nat) : Int :=
  if max t.selectedSlave 0 ≥ count then (count : Int) - 1 else max t.selectedSlave 0

/-- `dataCallback` indexes the slaves with the selection. -/
def dataCallback (t : Tui) (slaves : List SlavePtr) : Tui :=
  if t.clampSelected slaves.length < 0 then
    { t with selectedSlave := t.clampSelected slaves.length, pc := .crashed }
  else { t with selectedSlave := t.clampSelected slaves.length }

def step (t : Tui) (action : TuiAction) : Option (Tui × List TuiEvent) :=
  match action with
  | .create openError configError =>
    if t.pc = .create then some (t.create openError configError) else none
  | .getSlaves slaves error =>
    if t.pc = .getSlaves then some (t.getSlaves slaves error) else none
  | .callStart reply => if t.pc = .callStart then some (t.callStart reply) else none
  | .key key =>
    match t.pc with
    | .waitForKey => some (t.handleKey key, [])
    | .waitAfterError => some (if key = .quit then { t with pc := .returned } else t, [])
    | _ => none
  | .stop => if t.pc = .stop then some (t.callStop, []) else none
  | .loopReturns =>
    if t.pc = .crashed then none
    else t.member.loopReturns.map fun member => ({ t with member := member }, [])
  | .callback =>
    match t.member.source with
    | none => none
    | some source =>
      if t.pc ≠ .crashed ∧ t.member.ThreadRuns then
        some (t.dataCallback source.slaves, [.dataCallback])
      else none

def machine : Machine Tui TuiAction TuiEvent := ⟨step⟩

/-- The threads of the source exist only while `start` waits for a key or in `stop`. -/
structure Stoppable (t : Tui) : Prop where
  joinable : (∃ source ∈ t.member.source, source.joinable = true) →
    t.pc = .waitForKey ∨ t.pc = .stop ∨ t.pc = .crashed
  running : ∀ source ∈ t.member.source, source.cls = .ethercatMaster → source.joinable = true →
    source.ethercatRunning = true

namespace Stoppable

variable {t t' : Tui} {new : List TuiEvent}

/-- A state whose source, if there is one, has no threads. -/
private theorem ofNotJoinable (h : ∀ source ∈ t.member.source, source.joinable = false) :
    t.Stoppable := by
  refine ⟨fun ⟨source, hsource, hjoinable⟩ => ?_, fun source hsource _ hjoinable => ?_⟩
  · rw [h source hsource] at hjoinable
    cases hjoinable
  · rw [h source hsource] at hjoinable
    cases hjoinable

/-- The program ends, or only the selection changes. -/
private theorem withPc (h : t.Stoppable) (selected : Int) {pc : TuiPc}
    (hpc : pc = t.pc ∨ pc = .stop ∨ pc = .crashed) :
    Stoppable { t with selectedSlave := selected, pc := pc } := by
  refine ⟨fun hjoinable => ?_, h.running⟩
  rcases hpc with rfl | rfl | rfl
  · exact h.joinable hjoinable
  · exact .inr (.inl rfl)
  · exact .inr (.inr rfl)

private theorem notJoinable (h : t.Stoppable)
    (hpc : t.pc ≠ .waitForKey ∧ t.pc ≠ .stop ∧ t.pc ≠ .crashed) :
    ∀ source ∈ t.member.source, source.joinable = false := by
  intro source hsource
  by_contra hjoinable
  rw [Bool.not_eq_false] at hjoinable
  rcases h.joinable ⟨source, hsource, hjoinable⟩ with heq | heq | heq
  · exact hpc.1 heq
  · exact hpc.2.1 heq
  · exact hpc.2.2 heq

private theorem failAndReset (h : t.Stoppable) (message : String) (source : DataSource) :
    (t.failAndReset message source).1.Stoppable := by
  unfold Tui.failAndReset
  split
  · exact h.withPc t.selectedSlave (.inr (.inr rfl))
  · exact ofNotJoinable nofun

private theorem createSource_not_joinable (openError configError : String) :
    (∀ message source, t.createSource openError configError = .error (message, some source) →
      source.joinable = false) ∧
    ∀ source, t.createSource openError configError = .ok (some source) →
      source.joinable = false := by
  unfold Tui.createSource
  refine ⟨fun message source herror => ?_, fun source hok => ?_⟩
  · repeat' split at herror
    all_goals first
      | cases herror; rfl
      | cases herror
  · repeat' split at hok
    all_goals first
      | cases hok; rfl
      | cases hok

private theorem create (h : t.Stoppable) (openError configError : String) :
    (t.create openError configError).1.Stoppable := by
  obtain ⟨herrors, hsources⟩ := createSource_not_joinable (t := t) openError configError
  unfold Tui.create
  split
  · rename_i message source herror
    refine ofNotJoinable fun kept hkept => ?_
    obtain rfl : source = some kept := hkept
    exact herrors message kept herror
  · exact h.withPc t.selectedSlave (.inr (.inr rfl))
  · rename_i source hok
    refine ofNotJoinable fun new hnew => ?_
    obtain rfl := Option.some.inj hnew
    exact hsources source hok

private theorem getSlaves (h : t.Stoppable) (hpc : t.pc = .getSlaves)
    (slaves : List EthercatSlave) (error : String) :
    (t.getSlaves slaves error).1.Stoppable := by
  have hnot := h.notJoinable (by simp [hpc])
  unfold Tui.getSlaves
  split
  · exact h.withPc t.selectedSlave (.inr (.inr rfl))
  · rename_i source hsource
    split
    · exact h.failAndReset error source
    · refine ofNotJoinable fun new hnew => ?_
      obtain rfl := Option.some.inj hnew
      exact hnot source hsource

private theorem callStart (h : t.Stoppable) (reply : StartReply) :
    (t.callStart reply).1.Stoppable := by
  unfold Tui.callStart
  split
  · exact h.withPc t.selectedSlave (.inr (.inr rfl))
  · rename_i source hsource
    split
    · exact h.withPc t.selectedSlave (.inr (.inr rfl))
    · rename_i started error hstart
      split
      · exact h.failAndReset error started
      · refine ⟨fun _ => .inl rfl, fun new hnew => ?_⟩
        obtain rfl := Option.some.inj hnew
        exact (DataSource.start_spec hstart).2.2.2 (h.running source hsource)

private theorem callStop (h : t.Stoppable) :
    ∀ source ∈ t.callStop.member.source, source.joinable = false := by
  intro source hsource
  obtain ⟨old, hold, rfl⟩ := Option.mem_map.mp hsource
  exact DataSource.join_joinable (h.running old hold)

private theorem dataCallback (h : t.Stoppable) (slaves : List SlavePtr) :
    (t.dataCallback slaves).Stoppable := by
  unfold Tui.dataCallback
  split
  · exact h.withPc _ (.inr (.inr rfl))
  · exact h.withPc _ (.inl rfl)

theorem step {a : TuiAction} (h : t.Stoppable) (hstep : t.step a = some (t', new)) :
    t'.Stoppable := by
  unfold Tui.step at hstep
  split at hstep
  · rename_i openError configError
    split at hstep
    · obtain rfl := congrArg Prod.fst (Option.some.inj hstep)
      exact h.create openError configError
    · cases hstep
  · rename_i slaves error
    split at hstep
    · rename_i hpc
      obtain rfl := congrArg Prod.fst (Option.some.inj hstep)
      exact h.getSlaves hpc slaves error
    · cases hstep
  · rename_i reply
    split at hstep
    · obtain rfl := congrArg Prod.fst (Option.some.inj hstep)
      exact h.callStart reply
    · cases hstep
  · rename_i key
    split at hstep
    · cases hstep
      cases key with
      | quit => exact h.withPc t.selectedSlave (.inr (.inl rfl))
      | left => exact h.withPc _ (.inl rfl)
      | right => exact h.withPc _ (.inl rfl)
      | other => exact h
    · rename_i hpc
      cases hstep
      split
      · exact ofNotJoinable (h.notJoinable (by simp [hpc]))
      · exact h
    · cases hstep
  · split at hstep
    · cases hstep
      exact ofNotJoinable h.callStop
    · cases hstep
  · split at hstep
    · cases hstep
    · obtain ⟨member, hreturns, heq⟩ := Option.map_eq_some_iff.mp hstep
      unfold SourceMember.loopReturns at hreturns
      split at hreturns
      · cases hreturns
        cases heq
        exact ⟨h.joinable, h.running⟩
      · cases hreturns
  · split at hstep
    · cases hstep
    · split at hstep
      · obtain rfl := congrArg Prod.fst (Option.some.inj hstep)
        exact h.dataCallback _
      · cases hstep

end Stoppable

/-- When `start` returns, whichever keys were pressed, nothing calls back any more. -/
theorem callbackFree_returned {ecatSrc configFileName pcapFileName : String} {enableZmq : Bool}
    {events : List TuiEvent} {t : Tui}
    (run : machine.Run (fun _ _ => True) (init ecatSrc configFileName pcapFileName enableZmq)
      events t) (hreturned : t.pc = .returned) : Shutdown.CallbackFree t.member := by
  have hinv : t.Stoppable := by
    refine run.stateInvariant (I := Stoppable) ?_ fun _ _ _ _ h _ hstep => h.step hstep
    exact ⟨fun ⟨_, hsource, _⟩ => (nomatch hsource), nofun⟩
  rw [Shutdown.callbackFree_iff_not_threadRuns]
  rintro ⟨hjoinable, -⟩
  rcases hinv.joinable hjoinable with heq | heq | heq
  all_goals
    rw [hreturned] at heq
    cases heq

end Tui

end Kddv
