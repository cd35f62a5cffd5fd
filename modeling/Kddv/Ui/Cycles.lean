import Kddv.Master.Mutex
import Kddv.Ui.Playback

/-!
# Cycles on the screen

The terminal interface on the bus: `TUI::start` calls the methods of an `EthercatMaster`, whose
`dataCopyLoop` calls `TUI::dataCallback` under the mutex. What is shown and published is compared
with the cycles of `ethercatLoop`.
-/

namespace Kddv

open Framework

/-- The program from `TUI::start` on, with `ecat` as its source. -/
structure EcatTui where
  enableZmq : Bool
  pc : TuiPc
  /-- The slaves that `getSlaves` has returned, with the records that they had then. -/
  slaves : List EthercatSlave
  master : EthercatMaster
  display : Display

/-- A step of `start` between the calls of the source, a key, or a step of the source. -/
inductive EcatTuiAction
  | start
  | key (key : Key)
  | source (action : MasterAction) (millisecSinceEpoch : Int)

inductive EcatTuiEvent
  | writeStatus (message : String)
  | window (event : DisplayEvent)
  | publishMsg (document : Json)
  | source (event : MasterEvent)

namespace EcatTui

/-- The program before `start`. -/
def init (enableZmq : Bool) (iomap : Nat → UInt8) (table : SlaveTable) (busState : UInt16) :
    EcatTui where
  enableZmq := enableZmq
  pc := .create
  slaves := []
  master := .create iomap table busState
  display := .init

/-- `writeStatus` with an error, and `ecat_data_source.reset()`. -/
def fail (t : EcatTui) (message : String) : EcatTui × List EcatTuiEvent :=
  ({ t with master := t.master.beginCall .destroy, pc := .waitAfterError }, [.writeStatus message])

/-- What `start` does next when the source has returned. -/
def startStep (t : EcatTui) : Option (EcatTui × List EcatTuiEvent) :=
  match t.pc, t.master.main with
  | .create, .idle none =>
    let master := { t.master with zmqPublishEnabled := t.enableZmq }
    some ({ t with master := master.beginCall .getSlaves, pc := .getSlaves }, [])
  | .getSlaves, .idle (some (.getSlaves, error)) =>
    if error ≠ "" then some (t.fail error)
    else
      some ({ t with
          slaves := t.master.slaves
          master := t.master.beginCall .start
          pc := .callStart },
        [.writeStatus ("Found " ++ toString t.master.slaves.length ++ " slaves")])
  | .callStart, .idle (some (.start, error)) =>
    if error ≠ "" then some (t.fail error) else some ({ t with pc := .waitForKey }, [])
  | .stop, .idle (some (.stop, _)) => some ({ t with pc := .returned }, [])
  | _, _ => none

/-- The key that `getch` returns. After `q` the source is stopped. -/
def handleKey (t : EcatTui) (key : Key) : Option (EcatTui × List EcatTuiEvent) :=
  match t.pc with
  | .waitForKey =>
    (t.display.step (.key key)).map fun (display, shown) =>
      if key = .quit then
        ({ t with display := display, master := t.master.beginCall .stop, pc := .stop },
          shown.map .window)
      else ({ t with display := display }, shown.map .window)
  | .waitAfterError => some (if key = .quit then { t with pc := .returned } else t, [])
  | _ => none

/-- What `TUI::dataCallback` and the publisher do in an event of the source. -/
def respond (display : Display) (millisecSinceEpoch : Int) :
    MasterEvent → Display × List EcatTuiEvent
  | .callback slaves =>
    match display.step (.callback slaves) with
    | none => (display, [])
    | some (display, shown) => (display, shown.map .window)
  | .publishMsg slaves => (display, [.publishMsg (convertToJson millisecSinceEpoch slaves)])
  | _ => (display, [])

def deliver (display : Display) (millisecSinceEpoch : Int) :
    List MasterEvent → Display × List EcatTuiEvent
  | [] => (display, [])
  | event :: events =>
    let shown := respond display millisecSinceEpoch event
    let rest := deliver shown.1 millisecSinceEpoch events
    (rest.1, .source event :: shown.2 ++ rest.2)

/-- Steps of the source that are not decided by `start`. -/
def sourceStep (t : EcatTui) (action : MasterAction) (millisecSinceEpoch : Int) :
    Option (EcatTui × List EcatTuiEvent) :=
  match action with
  | .call _ => none
  | .setZMQPublish _ => none
  | action =>
    (t.master.step action).map fun (master, new) =>
      let shown := deliver t.display millisecSinceEpoch new
      ({ t with master := master, display := shown.1 }, shown.2)

/-- Nothing runs any more after a vector access out of range. -/
def step (t : EcatTui) (action : EcatTuiAction) : Option (EcatTui × List EcatTuiEvent) :=
  if t.display.crashed then none
  else
    match action with
    | .start => t.startStep
    | .key key => t.handleKey key
    | .source action millis => t.sourceStep action millis

def machine : Machine EcatTui EcatTuiAction EcatTuiEvent := ⟨step⟩

/-- A key keeps the selection in the type `int`. -/
def Guarded (t : EcatTui) : EcatTuiAction → Prop
  | .key key => IntRange (t.display.selectedSlave + key.move)
  | _ => True

instance (t : EcatTui) : (a : EcatTuiAction) → Decidable (Guarded t a)
  | .key key => inferInstanceAs (Decidable (IntRange (t.display.selectedSlave + key.move)))
  | .start => inferInstanceAs (Decidable True)
  | .source _ _ => inferInstanceAs (Decidable True)

/-! ## What is seen of a run -/

/-- The part of the source. -/
def sourceEvents (events : List EcatTuiEvent) : List MasterEvent :=
  events.filterMap fun
    | .source event => some event
    | _ => none

/-- The part of the keyboard and the screen. -/
def windowEvents (events : List EcatTuiEvent) : List DisplayEvent :=
  events.filterMap fun
    | .window event => some event
    | _ => none

/-- The published messages. -/
def messages (events : List EcatTuiEvent) : List Json :=
  events.filterMap fun
    | .publishMsg document => some document
    | _ => none

/-- The slaves of each screen. -/
def screens (events : List EcatTuiEvent) : List (List EthercatSlave) :=
  (windowEvents events).filterMap fun
    | .displayed _ slaves _ => some slaves
    | _ => none

/-- The cycles and what the iterations of `dataCopyLoop` have read. -/
def history (events : List EcatTuiEvent) : History := .ofEvents (sourceEvents events)

@[simp] theorem sourceEvents_append (left right : List EcatTuiEvent) :
    sourceEvents (left ++ right) = sourceEvents left ++ sourceEvents right :=
  List.filterMap_append

@[simp] theorem windowEvents_append (left right : List EcatTuiEvent) :
    windowEvents (left ++ right) = windowEvents left ++ windowEvents right :=
  List.filterMap_append

@[simp] theorem messages_append (left right : List EcatTuiEvent) :
    messages (left ++ right) = messages left ++ messages right :=
  List.filterMap_append

@[simp] theorem screens_append (left right : List EcatTuiEvent) :
    screens (left ++ right) = screens left ++ screens right := by
  simp [screens]

@[simp] theorem sourceEvents_map_source (seen : List MasterEvent) :
    sourceEvents (seen.map .source) = seen := by
  induction seen with
  | nil => rfl
  | cons event seen ih => exact congrArg (event :: ·) ih

@[simp] theorem windowEvents_map_source (seen : List MasterEvent) :
    windowEvents (seen.map .source) = [] := by
  simp [windowEvents, List.filterMap_map]

@[simp] theorem messages_map_source (seen : List MasterEvent) :
    messages (seen.map .source) = [] := by
  simp [messages, List.filterMap_map]

theorem history_append (left right : List EcatTuiEvent) :
    history (left ++ right) = (sourceEvents right).foldl History.add (history left) := by
  rw [history, sourceEvents_append, History.ofEvents_append]
  rfl

/-! ## Events that do not concern the user interface -/

/-- What `dataCopyLoop` does between its lock and its unlock. -/
def IsDelivery : MasterEvent → Prop
  | .lockGuard => True
  | .callback _ => True
  | .publishMsg _ => True
  | _ => False

theorem deliver_of_not_isDelivery {new : List MasterEvent} (h : ∀ event ∈ new, ¬ IsDelivery event)
    (display : Display) (millis : Int) :
    deliver display millis new = (display, new.map .source) := by
  induction new with
  | nil => rfl
  | cons event new ih =>
    obtain ⟨hfirst, hnew⟩ := List.forall_mem_cons.mp h
    have hrespond : respond display millis event = (display, []) := by
      cases event with
      | callback slaves => exact absurd trivial hfirst
      | publishMsg slaves => exact absurd trivial hfirst
      | _ => rfl
    rw [deliver, hrespond, ih hnew]
    rfl

theorem foldl_add_deliveries {new : List MasterEvent} (h : ∀ event ∈ new, ¬ IsDelivery event)
    (history : History) : (new.foldl History.add history).deliveries = history.deliveries := by
  induction new generalizing history with
  | nil => rfl
  | cons event new ih =>
    obtain ⟨hfirst, hnew⟩ := List.forall_mem_cons.mp h
    rw [List.foldl_cons, ih hnew]
    cases event with
    | lockGuard => exact absurd trivial hfirst
    | callback slaves => exact absurd trivial hfirst
    | publishMsg slaves => exact absurd trivial hfirst
    | _ => rfl

theorem not_isDelivery_reportWkcnt (s : EthercatMaster) (wkcnt : Int) :
    ∀ event ∈ s.reportWkcnt wkcnt, ¬ IsDelivery event := by
  unfold EthercatMaster.reportWkcnt
  split
  · simp [IsDelivery]
  · simp

/-- Only `dataCopyLoop` reads the slaves. -/
theorem not_isDelivery_of_step {s s' : EthercatMaster} {a : MasterAction} {new : List MasterEvent}
    (hstep : s.Step a s' new) (ha : a ≠ .dataCopy) : ∀ event ∈ new, ¬ IsDelivery event := by
  cases hstep with
  | call => simp
  | setZMQPublish => simp
  | getSlaves hpc h => cases h <;> simp [IsDelivery]
  | start hpc h =>
    cases h with
    | report => exact not_isDelivery_reportWkcnt s _
    | _ => simp [IsDelivery]
  | join => simp
  | ethercat h =>
    cases h with
    | receive =>
      simp only [List.forall_mem_cons]
      exact ⟨id, id, not_isDelivery_reportWkcnt s _⟩
    | _ => simp [IsDelivery]
  | dataCopy => exact absurd rfl ha

theorem zmqPublishEnabled_of_step {s s' : EthercatMaster} {a : MasterAction}
    {new : List MasterEvent} (hstep : s.Step a s' new) (ha : ∀ value, a ≠ .setZMQPublish value) :
    s'.zmqPublishEnabled = s.zmqPublishEnabled := by
  cases hstep with
  | @call call =>
    unfold EthercatMaster.beginCall
    cases call with
    | getSlaves => rfl
    | start => rfl
    | stop => dsimp only; split <;> rfl
    | destroy => dsimp only; split <;> rfl
  | setZMQPublish => exact absurd rfl (ha _)
  | getSlaves hpc h => cases h <;> rfl
  | start hpc h => cases h <;> rfl
  | join h => cases h <;> rfl
  | ethercat h => exact h.frame.zmqPublishEnabled
  | dataCopy h => cases h <;> rfl

/-! ## Calls -/

/-- Where the calling thread can be in the source, for each place in `start`. -/
def Calls : TuiPc → MainPc → Prop
  | .create, main => main = .idle none
  | .getSlaves, main => (∃ pc, main = .getSlaves pc) ∨
      ∃ error, main = .idle (some (.getSlaves, error))
  | .callStart, main => (∃ pc, main = .start pc) ∨ ∃ error, main = .idle (some (.start, error))
  | .waitForKey, main => main = .idle (some (.start, ""))
  | .stop, main => main = .joinEthercat .stop ∨ main = .joinDataCopy .stop ∨
      ∃ error, main = .idle (some (.stop, error))
  | .waitAfterError, main => main = .destroyed
  | .returned, main => main = .destroyed ∨ ∃ error, main = .idle (some (.stop, error))
  | .crashed, _ => False

/-- The calling thread goes on in the method that was called. -/
inductive MainMove : MainPc → MainPc → Prop
  | stay (main : MainPc) : MainMove main main
  | getSlaves (pc pc' : GetSlavesPc) : MainMove (.getSlaves pc) (.getSlaves pc')
  | getSlavesReturns (pc : GetSlavesPc) (error : String) :
      MainMove (.getSlaves pc) (.idle (some (.getSlaves, error)))
  | start (pc pc' : StartPc) : MainMove (.start pc) (.start pc')
  | startReturns (pc : StartPc) (error : String) :
      MainMove (.start pc) (.idle (some (.start, error)))
  | join (call : Call) : MainMove (.joinEthercat call) (.joinDataCopy call)
  | joinReturns (call : Call) : MainMove (.joinDataCopy call) (.idle (some (call, "")))
  | destroyed : MainMove (.joinDataCopy .destroy) .destroyed

theorem mainMove_of_step {s s' : EthercatMaster} {a : MasterAction} {new : List MasterEvent}
    (hstep : s.Step a s' new) (ha : ∀ call, a ≠ .call call) (hl : s'.Lifecycle) :
    MainMove s.main s'.main := by
  have hphase := hl.phase
  cases hstep with
  | call => exact absurd rfl (ha _)
  | setZMQPublish => exact .stay _
  | getSlaves hpc h =>
    rw [hpc]
    cases h with
    | init => exact .getSlaves _ _
    | config => exact .getSlaves _ _
    | stateCheck => exact .getSlaves _ _
    | _ => exact .getSlavesReturns _ _
  | start hpc h =>
    rw [hpc]
    cases h with
    | initFails => exact .startReturns _ _
    | configFails => exact .startReturns _ _
    | report => exact .startReturns _ _
    | overwriteEthercat => cases hphase
    | overwriteDataCopy => cases hphase
    | _ => exact .start _ _
  | join h =>
    cases h with
    | ethercat hpc =>
      rw [hpc]
      exact .join _
    | dataCopy hpc =>
      rw [hpc]
      exact .joinReturns _
    | destroy hpc =>
      rw [hpc]
      unfold EthercatMaster.destroyMembers at hphase ⊢
      dsimp only at hphase ⊢
      split at hphase
      · cases hphase
      · rename_i hjoined
        rw [if_neg hjoined]
        exact .destroyed
  | ethercat h =>
    rw [h.frame.main]
    exact .stay _
  | dataCopy h =>
    rw [h.frame.main]
    exact .stay _

theorem Calls.move {pc : TuiPc} {main main' : MainPc} (h : Calls pc main)
    (hmove : MainMove main main') : Calls pc main' := by
  cases hmove <;> cases pc <;> simp_all [Calls]

/-! ## Steps -/

/-- What the program can do in one step. -/
inductive Step (t : EcatTui) : EcatTuiAction → EcatTui → List EcatTuiEvent → Prop
  | create (hpc : t.pc = .create) (hmain : t.master.main = .idle none) :
      Step t .start
        { t with
          master := { t.master with zmqPublishEnabled := t.enableZmq }.beginCall .getSlaves
          pc := .getSlaves } []
  | notFound {error : String} (hpc : t.pc = .getSlaves)
      (hmain : t.master.main = .idle (some (.getSlaves, error))) (herror : error ≠ "") :
      Step t .start { t with master := t.master.beginCall .destroy, pc := .waitAfterError }
        [.writeStatus error]
  | found (hpc : t.pc = .getSlaves) (hmain : t.master.main = .idle (some (.getSlaves, ""))) :
      Step t .start
        { t with
          slaves := t.master.slaves
          master := t.master.beginCall .start
          pc := .callStart }
        [.writeStatus ("Found " ++ toString t.master.slaves.length ++ " slaves")]
  | notStarted {error : String} (hpc : t.pc = .callStart)
      (hmain : t.master.main = .idle (some (.start, error))) (herror : error ≠ "") :
      Step t .start { t with master := t.master.beginCall .destroy, pc := .waitAfterError }
        [.writeStatus error]
  | started (hpc : t.pc = .callStart) (hmain : t.master.main = .idle (some (.start, ""))) :
      Step t .start { t with pc := .waitForKey } []
  | stopped {error : String} (hpc : t.pc = .stop)
      (hmain : t.master.main = .idle (some (.stop, error))) :
      Step t .start { t with pc := .returned } []
  | key {key : Key} {display : Display} {shown : List DisplayEvent} (hpc : t.pc = .waitForKey)
      (hkey : t.display.step (.key key) = some (display, shown)) :
      Step t (.key key) { t with display := display } (shown.map .window)
  | quit {display : Display} {shown : List DisplayEvent} (hpc : t.pc = .waitForKey)
      (hkey : t.display.step (.key .quit) = some (display, shown)) :
      Step t (.key .quit)
        { t with
          display := display
          master := t.master.beginCall .stop
          pc := .stop } (shown.map .window)
  | keyAfterError {key : Key} (hpc : t.pc = .waitAfterError) : Step t (.key key) t []
  | quitAfterError (hpc : t.pc = .waitAfterError) :
      Step t (.key .quit) { t with pc := .returned } []
  | source {a : MasterAction} {millis : Int} {master : EthercatMaster} {new : List MasterEvent}
      (hcall : ∀ call, a ≠ .call call) (hpublish : ∀ value, a ≠ .setZMQPublish value)
      (hstep : t.master.step a = some (master, new)) :
      Step t (.source a millis)
        { t with
          master := master
          display := (deliver t.display millis new).1 } (deliver t.display millis new).2

variable {t t' : EcatTui} {events new : List EcatTuiEvent}

theorem startStep_cases (h : t.startStep = some (t', new)) : Step t .start t' new := by
  unfold startStep at h
  split at h
  · cases h
    exact .create ‹_› ‹_›
  · rename_i error hpc hmain
    split at h
    · rename_i herror
      cases h
      exact .notFound hpc hmain herror
    · rename_i herror
      obtain rfl := not_not.mp herror
      cases h
      exact .found hpc hmain
  · rename_i error hpc hmain
    split at h
    · rename_i herror
      cases h
      exact .notStarted hpc hmain herror
    · rename_i herror
      obtain rfl := not_not.mp herror
      cases h
      exact .started hpc hmain
  · cases h
    exact .stopped ‹_› ‹_›
  · cases h

theorem handleKey_cases {key : Key} (h : t.handleKey key = some (t', new)) :
    Step t (.key key) t' new := by
  unfold handleKey at h
  split at h
  · obtain ⟨⟨display, shown⟩, hkey, heq⟩ := Option.map_eq_some_iff.mp h
    dsimp only at heq
    split at heq
    · rename_i hpc hquit
      subst hquit
      cases heq
      exact .quit hpc hkey
    · cases heq
      exact .key ‹_› hkey
  · simp only [Option.some.injEq, Prod.mk.injEq] at h
    obtain ⟨rfl, rfl⟩ := h
    split
    · rename_i hpc hquit
      subst hquit
      exact .quitAfterError hpc
    · exact .keyAfterError ‹_›
  · cases h

theorem sourceStep_cases {a : MasterAction} {millis : Int}
    (h : t.sourceStep a millis = some (t', new)) : Step t (.source a millis) t' new := by
  unfold sourceStep at h
  split at h
  · cases h
  · cases h
  · rename_i hcall hpublish
    obtain ⟨⟨master, shown⟩, hstep, heq⟩ := Option.map_eq_some_iff.mp h
    cases heq
    exact .source hcall hpublish hstep

theorem step_cases {a : EcatTuiAction} (h : t.step a = some (t', new)) :
    t.display.crashed = false ∧ Step t a t' new := by
  unfold step at h
  split at h
  · cases h
  · rename_i hcrashed
    refine ⟨Bool.eq_false_iff.mpr hcrashed, ?_⟩
    cases a with
    | start => exact startStep_cases h
    | key key => exact handleKey_cases h
    | source a millis => exact sourceStep_cases h

/-- A stopped source is destroyed at once. -/
theorem beginCall_destroy {s : EthercatMaster} (hphase : s.phase = .stopped) :
    (s.beginCall .destroy).main = .destroyed := by
  simp only [EthercatMaster.phase, Phase.stopped, Prod.mk.injEq] at hphase
  obtain ⟨hrunning, hethercat, hdataCopy⟩ := hphase
  simp [EthercatMaster.beginCall, EthercatMaster.destroyMembers, hrunning, hethercat, hdataCopy]

theorem calls_beginCall_stop (s : EthercatMaster) : Calls .stop (s.beginCall .stop).main := by
  unfold EthercatMaster.beginCall
  dsimp only
  split
  · exact .inl rfl
  · exact .inr (.inr ⟨"", rfl⟩)

/-- The calls of `start` are in the order in which user interfaces call their source. -/
theorem Step.lifecycle {a : EcatTuiAction} (h : Step t a t' new) (hl : t.master.Lifecycle)
    (hcalls : Calls t.pc t.master.main) : t'.master.Lifecycle ∧ Calls t'.pc t'.master.main := by
  have hphase := hl.phase
  cases h with
  | create hpc hmain =>
    have hl' : { t.master with zmqPublishEnabled := t.enableZmq }.Lifecycle :=
      ⟨hl.phase, hl.ethercat, hl.dataCopy⟩
    have hui : { t.master with zmqPublishEnabled := t.enableZmq }.uiIssues (.call .getSlaves) =
        true := by
      simp [EthercatMaster.uiIssues, hmain]
    exact ⟨hl'.beginCall hmain hui, .inl ⟨.init, rfl⟩⟩
  | notFound hpc hmain herror =>
    have hui : t.master.uiIssues (.call .destroy) = true := by
      simp [EthercatMaster.uiIssues, hmain, herror]
    rw [hmain] at hphase
    exact ⟨hl.beginCall hmain hui, beginCall_destroy hphase⟩
  | found hpc hmain =>
    have hui : t.master.uiIssues (.call .start) = true := by
      simp [EthercatMaster.uiIssues, hmain]
    exact ⟨hl.beginCall hmain hui, .inl ⟨.init, rfl⟩⟩
  | notStarted hpc hmain herror =>
    have hstopped : t.master.phase = .stopped := by
      rw [hmain] at hphase
      exact hphase.resolve_right fun h => herror h.1
    have hui : t.master.uiIssues (.call .destroy) = true := by
      simp [EthercatMaster.uiIssues, hmain, herror]
    exact ⟨hl.beginCall hmain hui, beginCall_destroy hstopped⟩
  | started hpc hmain => exact ⟨hl, hmain⟩
  | stopped hpc hmain => exact ⟨hl, .inr ⟨_, hmain⟩⟩
  | key hpc => exact ⟨hl, hcalls⟩
  | quit hpc =>
    have hmain : t.master.main = .idle (some (.start, "")) := by rwa [hpc] at hcalls
    have hui : t.master.uiIssues (.call .stop) = true := by
      simp [EthercatMaster.uiIssues, hmain]
    exact ⟨hl.beginCall hmain hui, calls_beginCall_stop t.master⟩
  | keyAfterError hpc => exact ⟨hl, hcalls⟩
  | quitAfterError hpc =>
    rw [hpc] at hcalls
    exact ⟨hl, .inl hcalls⟩
  | @source a _ _ _ hcall hpublish hstep =>
    have hui : t.master.uiIssues a = true := by
      cases a with
      | call call => exact absurd rfl (hcall call)
      | _ => rfl
    have hl' := hl.step hui hstep
    exact ⟨hl', hcalls.move (mainMove_of_step (EthercatMaster.step_cases hstep) hcall hl')⟩

/-! ## Iterations -/

/-- Each iteration has called back, and has published if that was asked for. -/
def Complete (enableZmq : Bool) (deliveries : List (List (List EthercatSlave))) : Prop :=
  ∀ seen ∈ deliveries, seen.length = if enableZmq then 2 else 1

/-- The iterations of `dataCopyLoop`, the latest first. Only the latest can be incomplete. -/
def Iterations (enableZmq : Bool) :
    Option DataCopyPc → List (List (List EthercatSlave)) → Prop
  | some (.callback _), deliveries => ∃ earlier, deliveries = [] :: earlier ∧ Complete enableZmq earlier
  | some (.publish _), deliveries =>
    enableZmq = true ∧ ∃ slaves earlier, deliveries = [slaves] :: earlier ∧ Complete enableZmq earlier
  | _, deliveries => Complete enableZmq deliveries

/-- What the callbacks have seen, the first one first. -/
def calledBack (deliveries : List (List (List EthercatSlave))) : List (List EthercatSlave) :=
  (deliveries.filterMap fun seen => seen[0]?).reverse

/-- What has been published, the first one first. -/
def published (deliveries : List (List (List EthercatSlave))) : List (List EthercatSlave) :=
  (deliveries.filterMap fun seen => seen[1]?).reverse

section

variable {first : List EthercatSlave} {images : List ProcessImage}
  {deliveries : List (List (List EthercatSlave))} {stamps : List Nat}

/-- Readers of complete iterations have seen the records of the cycle of the iteration. -/
theorem filterMap_getElem (k n : Nat)
    (hseen : List.Forall₂ (fun seen stamp => ∀ slaves ∈ seen, slaves = snapshot first images stamp)
      deliveries stamps)
    (hlength : ∀ seen ∈ deliveries, seen.length = n) :
    deliveries.filterMap (fun seen => seen[k]?) =
      if k < n then stamps.map (snapshot first images) else [] := by
  induction hseen with
  | nil => simp
  | @cons seen stamp deliveries stamps hfirst _ ih =>
    obtain ⟨hlen, hrest⟩ := List.forall_mem_cons.mp hlength
    by_cases hk : k < n
    · have hget : seen[k]? = some (snapshot first images stamp) := by
        have hk' : k < seen.length := by omega
        rw [List.getElem?_eq_getElem hk', hfirst _ (List.getElem_mem hk')]
      simp only [List.filterMap_cons, hget, ih hrest, if_pos hk, List.map_cons]
    · have hget : seen[k]? = none := by
        rw [List.getElem?_eq_none_iff]
        omega
      simp only [List.filterMap_cons, hget, ih hrest, if_neg hk]

/-- Every complete iteration has called back, and has published if that was asked for. -/
theorem Complete.readings {enableZmq : Bool} (h : Complete enableZmq deliveries)
    (hseen : List.Forall₂ (fun seen stamp => ∀ slaves ∈ seen, slaves = snapshot first images stamp)
      deliveries stamps) :
    calledBack deliveries = stamps.reverse.map (snapshot first images) ∧
      published deliveries =
        if enableZmq then stamps.reverse.map (snapshot first images) else [] := by
  rw [calledBack, published, filterMap_getElem 0 _ hseen h, filterMap_getElem 1 _ hseen h,
    List.map_reverse]
  cases enableZmq with
  | false => simp
  | true => simp

/-- The cycles of the callbacks, and those of the messages, which lag behind by one at most. -/
theorem cycles_of_iterations {enableZmq : Bool} {pc : Option DataCopyPc}
    (hseen : List.Forall₂ (fun seen stamp => ∀ slaves ∈ seen, slaves = snapshot first images stamp)
      deliveries stamps)
    (h : Iterations enableZmq pc deliveries) :
    ∃ (cycles : List Nat) (n : Nat), cycles.Sublist stamps.reverse ∧
      calledBack deliveries = cycles.map (snapshot first images) ∧
      published deliveries = (cycles.take n).map (snapshot first images) ∧
      (enableZmq = false → n = 0) ∧ (enableZmq = true → cycles.length ≤ n + 1) := by
  have hcomplete {deliveries : List (List (List EthercatSlave))} {stamps : List Nat}
      (hseen : List.Forall₂
        (fun seen stamp => ∀ slaves ∈ seen, slaves = snapshot first images stamp) deliveries stamps)
      (h : Complete enableZmq deliveries) :
      ∃ n, calledBack deliveries = stamps.reverse.map (snapshot first images) ∧
        published deliveries = (stamps.reverse.take n).map (snapshot first images) ∧
        (enableZmq = false → n = 0) ∧ (enableZmq = true → n = stamps.length) := by
    obtain ⟨hcalled, hpublished⟩ := h.readings hseen
    cases enableZmq with
    | false => exact ⟨0, hcalled, hpublished, fun _ => rfl, nofun⟩
    | true =>
      refine ⟨stamps.length, hcalled, ?_, nofun, fun _ => rfl⟩
      rw [hpublished, List.take_of_length_le (by simp)]
      rfl
  unfold Iterations at h
  split at h
  · -- the latest iteration has not called back
    obtain ⟨earlier, rfl, hearlier⟩ := h
    obtain ⟨stamp, stamps, -, hrest, rfl⟩ := List.forall₂_cons_left_iff.mp hseen
    obtain ⟨n, hcalled, hpublished, hoff, hon⟩ := hcomplete hrest hearlier
    refine ⟨stamps.reverse, n, ?_, hcalled, hpublished, hoff, ?_⟩
    · simp
    · intro hz
      rw [hon hz, List.length_reverse]
      exact Nat.le_succ _
  · -- it has called back and has not published
    obtain ⟨rfl, slaves, earlier, rfl, hearlier⟩ := h
    obtain ⟨stamp, stamps, hlatest, hrest, rfl⟩ := List.forall₂_cons_left_iff.mp hseen
    obtain ⟨hcalled, hpublished⟩ := hearlier.readings hrest
    rw [if_pos rfl] at hpublished
    refine ⟨(stamp :: stamps).reverse, stamps.length, .refl _, ?_, ?_, nofun, ?_⟩
    · rw [List.reverse_cons, List.map_append, ← hcalled, List.map_singleton,
        ← hlatest slaves (List.mem_singleton_self slaves)]
      simp [calledBack]
    · have htake : (stamps.reverse ++ [stamp]).take stamps.length = stamps.reverse :=
        List.take_left' (List.length_reverse)
      rw [List.reverse_cons, htake, ← hpublished]
      simp [published]
    · intro _
      simp
  · obtain ⟨n, hcalled, hpublished, hoff, hon⟩ := hcomplete hseen h
    refine ⟨stamps.reverse, n, .refl _, hcalled, hpublished, hoff, ?_⟩
    intro hz
    rw [hon hz, List.length_reverse]
    exact Nat.le_succ _

end

/-- Between the iterations, and after a publication, all are complete. -/
theorem iterations_iff {enableZmq : Bool} {pc : Option DataCopyPc}
    {deliveries : List (List (List EthercatSlave))}
    (hcallback : ∀ read, pc ≠ some (.callback read)) (hpublish : ∀ read, pc ≠ some (.publish read)) :
    Iterations enableZmq pc deliveries ↔ Complete enableZmq deliveries := by
  unfold Iterations
  split
  · exact absurd rfl (hcallback _)
  · exact absurd rfl (hpublish _)
  · rfl

/-! ## Invariants -/

/-- Before the slaves are found nothing is shown. -/
structure Waiting (events : List EcatTuiEvent) (t : EcatTui) : Prop where
  slaves : t.slaves = []
  display : t.display = .init
  history : history events = ⟨[], [], []⟩
  windowEvents : windowEvents events = []
  messages : messages events = []
  dataMutex : t.master.dataMutex = none
  publish : t.pc = .getSlaves → t.master.zmqPublishEnabled = t.enableZmq

/-- Afterwards the screens and the messages are what the iterations have read. -/
structure Showing (events : List EcatTuiEvent) (t : EcatTui) : Prop where
  consistent : ∃ current stamps, Consistent t.slaves (history events) t.master current stamps
  publish : t.master.zmqPublishEnabled = t.enableZmq
  display : Display.machine.Run Display.Guarded .init (windowEvents events) t.display
  screens : screens events = calledBack (history events).deliveries
  messages : List.Forall₂ (fun slaves document => ∃ millis, document = convertToJson millis slaves)
    (published (history events).deliveries) (messages events)
  iterations : Iterations t.enableZmq t.master.dataCopyThread (history events).deliveries

namespace Showing

/-- Nothing is shown, and no iteration goes on. -/
theorem quiet (h : Showing events t) (more : List EcatTuiEvent) (s' : EthercatMaster) (pc : TuiPc)
    (hwindow : windowEvents more = []) (hmessages : EcatTui.messages more = [])
    (hsource : ∀ event ∈ sourceEvents more, ¬ IsDelivery event)
    (hconsistent : ∃ current stamps, Consistent t.slaves
      ((sourceEvents more).foldl History.add (history events)) s' current stamps)
    (hpublish : s'.zmqPublishEnabled = t.master.zmqPublishEnabled)
    (hiterations : Iterations t.enableZmq s'.dataCopyThread (history events).deliveries) :
    Showing (events ++ more) { t with master := s', pc := pc } := by
  have hdeliveries : (history (events ++ more)).deliveries = (history events).deliveries := by
    rw [history_append, foldl_add_deliveries hsource]
  constructor
  · rw [history_append]
    exact hconsistent
  · rw [hpublish]
    exact h.publish
  · rw [windowEvents_append, hwindow, List.append_nil]
    exact h.display
  · rw [screens_append, hdeliveries, ← h.screens, EcatTui.screens, EcatTui.screens, hwindow]
    exact List.append_nil _
  · rw [messages_append, hmessages, List.append_nil, hdeliveries]
    exact h.messages
  · rw [hdeliveries]
    exact hiterations

/-- The records that an iteration reads are those of the slaves that were found. -/
theorem read_eq (h : Showing events t) (hreading : DataCopyPc.Reading t.master.dataCopyThread) :
    t.master.slaves.length = t.slaves.length := by
  obtain ⟨current, stamps, hc⟩ := h.consistent
  rw [hc.slaves_of_reading hreading]
  exact (snapshot_sameSlaves _ _ _).length_eq

/-- A step of the calling thread or of `ethercatLoop`. -/
theorem source_quiet {a : MasterAction} {s' : EthercatMaster} {seen : List MasterEvent}
    {more : List EcatTuiEvent} (h : Showing events t) (hl : t.master.Lifecycle)
    (hui : t.master.uiIssues a = true) (hpublish : ∀ value, a ≠ .setZMQPublish value)
    (hcopy : a ≠ .dataCopy) (hstep : t.master.step a = some (s', seen))
    (hsource : sourceEvents more = seen) (hwindow : windowEvents more = [])
    (hmessages : EcatTui.messages more = []) (pc : TuiPc) :
    Showing (events ++ more) { t with master := s', pc := pc } := by
  have hcases := EthercatMaster.step_cases hstep
  obtain ⟨current, stamps, hc⟩ := h.consistent
  apply h.quiet more s' pc hwindow hmessages
  · rw [hsource]
    exact not_isDelivery_of_step hcases hcopy
  · obtain ⟨current', stamps', hc', -⟩ := hc.step hl hui hstep
    rw [hsource]
    exact ⟨current', stamps', hc'⟩
  · exact zmqPublishEnabled_of_step hcases hpublish
  · have hiterations := h.iterations
    rcases EthercatMaster.step_frame_or_loop hl hc.discovered hui hstep with
      ⟨hframe, -⟩ | ⟨reply, -, hloop⟩ | ⟨heq, -⟩
    · rcases hframe.dataCopyThread with hsame | ⟨hold, hnew⟩
      · rw [hsame]
        exact hiterations
      · rw [iterations_iff] at hiterations ⊢
        · exact hiterations
        · rcases hnew with hnew | hnew <;> simp [hnew]
        · rcases hnew with hnew | hnew <;> simp [hnew]
        · rcases hold with hold | hold <;> simp [hold]
        · rcases hold with hold | hold <;> simp [hold]
    · rw [hloop.frame.dataCopyThread]
      exact hiterations
    · exact absurd heq hcopy

/-- The events that `deliver` adds to those of the source. -/
theorem sourceEvents_deliver (display : Display) (millis : Int) (seen : List MasterEvent) :
    sourceEvents (deliver display millis seen).2 = seen := by
  induction seen generalizing display with
  | nil => rfl
  | cons event seen ih =>
    have hrespond : sourceEvents (respond display millis event).2 = [] := by
      cases event with
      | callback slaves =>
        unfold respond
        dsimp only
        split
        · rfl
        · simp [sourceEvents]
      | _ => rfl
    rw [deliver, List.cons_append, ← List.singleton_append, sourceEvents_append,
      sourceEvents_append, hrespond, ih]
    rfl

/-- An iteration begins. -/
theorem lock {s' : EthercatMaster} (h : Showing events t)
    (hpc : t.master.dataCopyThread = some .lock)
    (hconsistent : ∃ current stamps, Consistent t.slaves
      ([MasterEvent.lockGuard].foldl History.add (history events)) s' current stamps)
    (hpublish : s'.zmqPublishEnabled = t.master.zmqPublishEnabled)
    (hpc' : s'.dataCopyThread = some (.callback [])) :
    Showing (events ++ [.source .lockGuard]) { t with master := s' } := by
  have hiterations := h.iterations
  rw [hpc, iterations_iff (by simp) (by simp)] at hiterations
  have hdeliveries : (history (events ++ [.source .lockGuard])).deliveries =
      [] :: (history events).deliveries := by
    rw [history_append]
    rfl
  constructor
  · rw [history_append]
    exact hconsistent
  · rw [hpublish]
    exact h.publish
  · simpa [windowEvents] using h.display
  · rw [screens_append, h.screens, hdeliveries]
    simp [EcatTui.screens, windowEvents, calledBack]
  · rw [messages_append, hdeliveries]
    simpa [EcatTui.messages, published] using h.messages
  · rw [hpc', hdeliveries]
    exact ⟨_, rfl, hiterations⟩

/-- The callback of an iteration draws a screen. -/
theorem callback {s' : EthercatMaster} {read : List EthercatSlave} (h : Showing events t)
    (hread : read ≠ []) (hcrashed : t.display.crashed = false) (millis : Int)
    (hpc : t.master.dataCopyThread = some (.callback read))
    (hconsistent : ∃ current stamps, Consistent t.slaves
      ([MasterEvent.callback read].foldl History.add (history events)) s' current stamps)
    (hpublish : s'.zmqPublishEnabled = t.master.zmqPublishEnabled)
    (hpc' : s'.dataCopyThread = some (if t.master.zmqPublishEnabled then .publish [] else .unlock)) :
    Showing (events ++ (deliver t.display millis [.callback read]).2)
      { t with master := s', display := (deliver t.display millis [.callback read]).1 } := by
  have hrange := (Display.run_selectedSlave h.display).2.1
  have hdisplay := Playback.display_step_callback hread hcrashed hrange
  obtain ⟨earlier, hlatest, hearlier⟩ : ∃ earlier, (history events).deliveries = [] :: earlier ∧
      Complete t.enableZmq earlier := by
    have hiterations := h.iterations
    rwa [hpc] at hiterations
  have hdeliver : deliver t.display millis [.callback read] =
      ({ t.display with selectedSlave := Playback.nearest read hread t.display.selectedSlave },
        [.source (.callback read), .window (.displayed
          (Playback.nearest read hread t.display.selectedSlave) read
          (Display.screen read (Playback.nearest read hread t.display.selectedSlave)))]) := by
    simp [deliver, respond, hdisplay]
  rw [hdeliver]
  have hdeliveries (shown : DisplayEvent) :
      (history (events ++ [.source (.callback read), .window shown])).deliveries =
        [read] :: earlier := by
    rw [history_append]
    show History.deliver read (history events).deliveries = _
    rw [hlatest]
    rfl
  constructor
  · rw [history_append]
    exact hconsistent
  · rw [hpublish]
    exact h.publish
  · rw [windowEvents_append]
    have hguard : Display.Guarded t.display (.callback read) := hread
    exact h.display.snoc hguard hdisplay
  · rw [screens_append, h.screens, hdeliveries, hlatest]
    simp [EcatTui.screens, windowEvents, calledBack]
  · have hmessages := h.messages
    rw [hlatest] at hmessages
    rw [messages_append, hdeliveries]
    simpa [EcatTui.messages, published] using hmessages
  · rw [hpc', hdeliveries, h.publish]
    cases henable : t.enableZmq with
    | false =>
      rw [henable] at hearlier
      exact List.forall_mem_cons.mpr ⟨rfl, hearlier⟩
    | true =>
      rw [henable] at hearlier
      exact ⟨rfl, read, earlier, rfl, hearlier⟩

/-- The publisher of an iteration sends a message. -/
theorem publishMsg {s' : EthercatMaster} {read : List EthercatSlave} (h : Showing events t)
    (millis : Int) (hpc : t.master.dataCopyThread = some (.publish read))
    (hconsistent : ∃ current stamps, Consistent t.slaves
      ([MasterEvent.publishMsg read].foldl History.add (history events)) s' current stamps)
    (hpublish : s'.zmqPublishEnabled = t.master.zmqPublishEnabled)
    (hpc' : s'.dataCopyThread = some .unlock) :
    Showing (events ++ [.source (.publishMsg read), .publishMsg (convertToJson millis read)])
      { t with master := s' } := by
  obtain ⟨henable, slaves, earlier, hlatest, hearlier⟩ : t.enableZmq = true ∧ ∃ slaves earlier,
      (history events).deliveries = [slaves] :: earlier ∧ Complete t.enableZmq earlier := by
    have hiterations := h.iterations
    rwa [hpc] at hiterations
  have hdeliveries : (history (events ++ [.source (.publishMsg read),
      .publishMsg (convertToJson millis read)])).deliveries = [slaves, read] :: earlier := by
    rw [history_append]
    show History.deliver read (history events).deliveries = _
    rw [hlatest]
    rfl
  constructor
  · rw [history_append]
    exact hconsistent
  · rw [hpublish]
    exact h.publish
  · simpa [windowEvents] using h.display
  · rw [screens_append, h.screens, hdeliveries, hlatest]
    simp [EcatTui.screens, windowEvents, calledBack]
  · have hmessages := h.messages
    rw [hlatest] at hmessages
    rw [messages_append, hdeliveries]
    have hnew : List.Forall₂ (fun slaves document => ∃ millis, document = convertToJson millis slaves)
        [read] [convertToJson millis read] := .cons ⟨millis, rfl⟩ .nil
    simpa [EcatTui.messages, published] using List.rel_append hmessages hnew
  · rw [hpc', hdeliveries, henable]
    rw [henable] at hearlier
    exact List.forall_mem_cons.mpr ⟨rfl, hearlier⟩

/-- A step of `dataCopyLoop`. -/
theorem dataCopy {millis : Int} {s' : EthercatMaster} {seen : List MasterEvent}
    (h : Showing events t) (hne : t.slaves ≠ []) (hcrashed : t.display.crashed = false)
    (hstep : t.master.DataCopyStep s' seen) :
    Showing (events ++ (deliver t.display millis seen).2)
      { t with master := s', display := (deliver t.display millis seen).1 } := by
  obtain ⟨current, stamps, hc⟩ := h.consistent
  obtain ⟨stamps', hc'⟩ := hc.dataCopyStep hstep
  have hconsistent : ∃ current stamps, Consistent t.slaves
      (seen.foldl History.add (history events)) s' current stamps := ⟨current, stamps', hc'⟩
  have hiterations := h.iterations
  have hquiet : ∀ event ∈ ([] : List MasterEvent), ¬ IsDelivery event := by simp
  cases hstep with
  | goOn hpc =>
    rw [hpc, iterations_iff (by simp) (by simp)] at hiterations
    exact h.quiet [] _ t.pc rfl rfl hquiet hconsistent rfl hiterations
  | leave hpc =>
    rw [hpc, iterations_iff (by simp) (by simp)] at hiterations
    exact h.quiet [] _ t.pc rfl rfl hquiet hconsistent rfl hiterations
  | lock hpc => exact h.lock hpc hconsistent rfl rfl
  | readCallback hpc =>
    rw [hpc] at hiterations
    exact h.quiet [] _ t.pc rfl rfl hquiet hconsistent rfl hiterations
  | @callback read hpc hend =>
    have hread : read ≠ [] := by
      intro hnil
      have hlength := h.read_eq (by rw [hpc]; trivial)
      rw [hnil, List.length_nil, List.getElem?_eq_none_iff, hlength] at hend
      exact hne (List.eq_nil_of_length_eq_zero (by omega))
    exact h.callback hread hcrashed millis hpc hconsistent rfl rfl
  | readPublish hpc =>
    rw [hpc] at hiterations
    exact h.quiet [] _ t.pc rfl rfl hquiet hconsistent rfl hiterations
  | publish hpc => exact h.publishMsg millis hpc hconsistent rfl rfl
  | unlock hpc =>
    rw [hpc, iterations_iff (by simp) (by simp)] at hiterations
    exact h.quiet [] _ t.pc rfl rfl hquiet hconsistent rfl hiterations
  | close hpc =>
    rw [hpc, iterations_iff (by simp) (by simp)] at hiterations
    have hclose : ∀ event ∈ [MasterEvent.ecClose], ¬ IsDelivery event := by simp [IsDelivery]
    exact h.quiet [.source .ecClose] _ t.pc rfl rfl hclose hconsistent rfl hiterations

end Showing

/-- What holds at every place in `start`. -/
structure Inv (events : List EcatTuiEvent) (t : EcatTui) : Prop where
  lifecycle : t.master.Lifecycle
  calls : Calls t.pc t.master.main
  waiting : t.pc = .create ∨ t.pc = .getSlaves → Waiting events t
  showing : t.pc ≠ .create → t.pc ≠ .getSlaves → t.slaves ≠ [] → Showing events t

theorem inv_init (enableZmq : Bool) (iomap : Nat → UInt8) (table : SlaveTable)
    (busState : UInt16) : Inv [] (init enableZmq iomap table busState) where
  lifecycle := EthercatMaster.lifecycle_create iomap table busState
  calls := rfl
  waiting := fun _ => ⟨rfl, rfl, rfl, rfl, rfl, rfl, by simp [init]⟩
  showing := fun h => absurd rfl h

/-- The slaves have been found. Nothing has been read yet. -/
theorem showing_found (hl : t.master.Lifecycle) (hw : Waiting events t) (hpc : t.pc = .getSlaves)
    (hmain : t.master.main = .idle (some (.getSlaves, ""))) (message : String) :
    Showing (events ++ [.writeStatus message])
      { t with
        slaves := t.master.slaves
        master := t.master.beginCall .start
        pc := .callStart } := by
  have hphase : t.master.phase = .stopped := by
    have h := hl.phase
    rwa [hmain] at h
  have hidle : t.master.Idle := ⟨hmain, hphase, hw.dataMutex⟩
  have hui : t.master.uiIssues (.call .start) = true := by
    simp [EthercatMaster.uiIssues, hmain]
  have hstep : t.master.step (.call .start) = some (t.master.beginCall .start, []) := by
    simp [EthercatMaster.step, hmain]
  have hthread : t.master.dataCopyThread = none := by
    simp only [EthercatMaster.phase, Phase.stopped, Prod.mk.injEq] at hphase
    simpa using hphase.2.2
  have hhistory : history (events ++ [.writeStatus message]) = ⟨[], [], []⟩ := by
    rw [history_append]
    exact hw.history
  have hwindow : windowEvents (events ++ [.writeStatus message]) = [] := by
    rw [windowEvents_append, hw.windowEvents]
    rfl
  constructor
  · obtain ⟨current, stamps, hc, -⟩ := hidle.consistent.step hl hui hstep
    rw [hhistory]
    exact ⟨current, stamps, hc⟩
  · exact hw.publish hpc
  · rw [hwindow, hw.display]
    exact .nil
  · rw [screens, hwindow, hhistory]
    rfl
  · rw [messages_append, hw.messages, hhistory]
    exact .nil
  · rw [hhistory]
    show Iterations _ t.master.dataCopyThread []
    rw [hthread]
    exact fun _ h => absurd h List.not_mem_nil

/-- While the slaves are looked for, no loop exists. -/
theorem Waiting.source {a : MasterAction} {s' : EthercatMaster} {seen : List MasterEvent}
    {millis : Int} (h : Waiting events t) (hl : t.master.Lifecycle)
    (hpc : t.pc = .create ∨ t.pc = .getSlaves) (hcalls : Calls t.pc t.master.main)
    (hcall : ∀ call, a ≠ .call call) (hpublish : ∀ value, a ≠ .setZMQPublish value)
    (hstep : t.master.Step a s' seen) :
    Waiting (events ++ (deliver t.display millis seen).2)
      { t with master := s', display := (deliver t.display millis seen).1 } := by
  have hmain : t.master.main = .idle none ∨ (∃ pc, t.master.main = .getSlaves pc) ∨
      ∃ error, t.master.main = .idle (some (.getSlaves, error)) := by
    rcases hpc with hpc | hpc
    · rw [hpc] at hcalls
      exact .inl hcalls
    · rw [hpc] at hcalls
      exact .inr hcalls
  have hphase : t.master.phase = .stopped := by
    have h := hl.phase
    rcases hmain with hmain | ⟨pc, hmain⟩ | ⟨error, hmain⟩
    all_goals rwa [hmain] at h
  simp only [EthercatMaster.phase, Phase.stopped, Prod.mk.injEq] at hphase
  cases hstep with
  | call => exact absurd rfl (hcall _)
  | setZMQPublish => exact absurd rfl (hpublish _)
  | getSlaves hpc hget =>
    have hquiet : ∀ event ∈ seen, ¬ IsDelivery event := by cases hget <;> simp [IsDelivery]
    have hkept : s'.dataMutex = t.master.dataMutex ∧
        s'.zmqPublishEnabled = t.master.zmqPublishEnabled := by
      cases hget <;> exact ⟨rfl, rfl⟩
    rw [deliver_of_not_isDelivery hquiet]
    constructor
    · exact h.slaves
    · exact h.display
    · rw [history_append, sourceEvents_map_source, h.history]
      cases hget <;> rfl
    · simp [h.windowEvents]
    · simp [h.messages]
    · exact hkept.1.trans h.dataMutex
    · intro hget'
      exact hkept.2.trans (h.publish hget')
  | start hpc => simp [hpc] at hmain
  | join hjoin => cases hjoin <;> simp_all
  | ethercat hloop =>
    have hsome := hloop.frame.isSome.1
    rw [hphase.2.1] at hsome
    cases hsome
  | dataCopy hloop =>
    have hsome := hloop.frame.isSome.1
    rw [hphase.2.2] at hsome
    cases hsome

/-- Calls of the destructor and of `stop` show nothing. -/
theorem Showing.call {call : Call} {last : Option (Call × String)} {more : List EcatTuiEvent}
    (h : Showing events t) (hl : t.master.Lifecycle) (hmain : t.master.main = .idle last)
    (hui : t.master.uiIssues (.call call) = true) (pc : TuiPc) (hsource : sourceEvents more = [])
    (hwindow : windowEvents more = []) (hmessages : EcatTui.messages more = []) :
    Showing (events ++ more) { t with master := t.master.beginCall call, pc := pc } := by
  have hstep : t.master.step (.call call) = some (t.master.beginCall call, []) := by
    simp [EthercatMaster.step, hmain]
  exact h.source_quiet hl hui (by simp) (by simp) hstep hsource hwindow hmessages pc

/-- A key that `start` reads while the source runs. -/
theorem Showing.key {key : Key} {display : Display} {shown : List DisplayEvent}
    (h : Showing events t) (hguard : IntRange (t.display.selectedSlave + key.move))
    (hkey : t.display.step (.key key) = some (display, shown)) :
    Showing (events ++ shown.map .window) { t with display := display } := by
  obtain ⟨-, -, hcrashed⟩ := Display.run_selectedSlave h.display
  have hshown : shown = [.key key] := by
    simp only [Display.step, hcrashed, Bool.false_eq_true, if_false, Option.some.injEq,
      Prod.mk.injEq] at hkey
    exact hkey.2.symm
  subst hshown
  have hguard' : Display.Guarded t.display (.key key) := hguard
  have hhistory : history (events ++ [DisplayEvent.key key].map .window) = history events := by
    rw [history_append]
    rfl
  constructor
  · rw [hhistory]
    exact h.consistent
  · exact h.publish
  · rw [windowEvents_append]
    exact h.display.snoc hguard' hkey
  · rw [hhistory, screens_append, ← h.screens]
    simp [EcatTui.screens, windowEvents]
  · rw [hhistory, messages_append]
    simpa [EcatTui.messages] using h.messages
  · rw [hhistory]
    exact h.iterations

theorem Showing.withPc (h : Showing events t) (pc : TuiPc) :
    Showing (events ++ []) { t with pc := pc } := by
  rw [List.append_nil]
  exact ⟨h.consistent, h.publish, h.display, h.screens, h.messages, h.iterations⟩

/-- A step while the slaves are looked for. -/
theorem Step.waiting {a : EcatTuiAction} (hcases : Step t a t' new) (h : Inv events t)
    (hpc' : t'.pc = .create ∨ t'.pc = .getSlaves) : Waiting (events ++ new) t' := by
  cases hcases with
  | create hpc =>
    have hw := h.waiting (.inl hpc)
    rw [List.append_nil]
    exact ⟨hw.slaves, hw.display, hw.history, hw.windowEvents, hw.messages, hw.dataMutex,
      fun _ => rfl⟩
  | key hpc => simp [hpc] at hpc'
  | keyAfterError hpc => simp [hpc] at hpc'
  | source hcall hpublish hsource =>
    exact (h.waiting hpc').source h.lifecycle hpc' h.calls hcall hpublish
      (EthercatMaster.step_cases hsource)
  | _ => simp at hpc'

/-- A step after the slaves have been found. -/
theorem Step.showing {a : EcatTuiAction} (hcases : Step t a t' new) (h : Inv events t)
    (hcrashed : t.display.crashed = false) (hguard : Guarded t a) (hcreate : t'.pc ≠ .create)
    (hget : t'.pc ≠ .getSlaves) (hne : t'.slaves ≠ []) : Showing (events ++ new) t' := by
  have hl := h.lifecycle
  cases hcases with
  | create => exact absurd rfl hget
  | notFound hpc => exact absurd (h.waiting (.inr hpc)).slaves hne
  | found hpc hmain => exact showing_found hl (h.waiting (.inr hpc)) hpc hmain _
  | notStarted hpc hmain herror =>
    have hui : t.master.uiIssues (.call .destroy) = true := by
      simp [EthercatMaster.uiIssues, hmain, herror]
    exact (h.showing (by simp [hpc]) (by simp [hpc]) hne).call hl hmain hui _ rfl rfl rfl
  | started hpc => exact (h.showing (by simp [hpc]) (by simp [hpc]) hne).withPc _
  | stopped hpc => exact (h.showing (by simp [hpc]) (by simp [hpc]) hne).withPc _
  | key hpc hkey => exact (h.showing (by simp [hpc]) (by simp [hpc]) hne).key hguard hkey
  | quit hpc hkey =>
    have hmain : t.master.main = .idle (some (.start, "")) := by
      have hcalls := h.calls
      rwa [hpc] at hcalls
    have hui : t.master.uiIssues (.call .stop) = true := by
      simp [EthercatMaster.uiIssues, hmain]
    have hshowing := (h.showing (by simp [hpc]) (by simp [hpc]) hne).key hguard hkey
    have hnil : sourceEvents [] = [] := rfl
    have hstopped := hshowing.call hl hmain hui .stop hnil rfl rfl
    rwa [List.append_nil] at hstopped
  | keyAfterError hpc =>
    rw [List.append_nil]
    exact h.showing hcreate hget hne
  | quitAfterError hpc => exact (h.showing (by simp [hpc]) (by simp [hpc]) hne).withPc _
  | @source a millis s' seen hcall hpublish hsource =>
    have hshowing := h.showing hcreate hget hne
    have hmaster := EthercatMaster.step_cases hsource
    by_cases hcopy : a = .dataCopy
    · subst hcopy
      cases hmaster with
      | dataCopy hloop => exact hshowing.dataCopy hne hcrashed hloop
    · have hui : t.master.uiIssues a = true := by
        cases a with
        | call call => exact absurd rfl (hcall call)
        | _ => rfl
      rw [deliver_of_not_isDelivery (not_isDelivery_of_step hmaster hcopy)]
      exact hshowing.source_quiet hl hui hpublish hcopy hsource (sourceEvents_map_source seen)
        (windowEvents_map_source seen) (messages_map_source seen) t.pc

theorem Inv.step {a : EcatTuiAction} (h : Inv events t) (hguard : Guarded t a)
    (hstep : t.step a = some (t', new)) : Inv (events ++ new) t' := by
  obtain ⟨hcrashed, hcases⟩ := step_cases hstep
  obtain ⟨hl', hcalls'⟩ := hcases.lifecycle h.lifecycle h.calls
  exact ⟨hl', hcalls', hcases.waiting h, hcases.showing h hcrashed hguard⟩

/-- When `start` has returned no thread is left. -/
theorem Inv.step_returned (h : Inv events t) (hpc : t.pc = .returned) (a : EcatTuiAction) :
    t.step a = none := by
  have hcalls := h.calls
  rw [hpc] at hcalls
  have hphase : t.master.phase = .stopped := by
    have hphase := h.lifecycle.phase
    rcases hcalls with hmain | ⟨error, hmain⟩
    all_goals rwa [hmain] at hphase
  simp only [EthercatMaster.phase, Phase.stopped, Prod.mk.injEq] at hphase
  rw [Option.eq_none_iff_forall_ne_some]
  rintro ⟨t', new⟩ hstep
  obtain ⟨-, hcases⟩ := step_cases hstep
  cases hcases with
  | source hcall hpublish hsource =>
    cases EthercatMaster.step_cases hsource with
    | call => exact hcall _ rfl
    | setZMQPublish => exact hpublish _ rfl
    | getSlaves hmain => simp [Calls, hmain] at hcalls
    | start hmain => simp [Calls, hmain] at hcalls
    | join hjoin => cases hjoin <;> simp_all [Calls]
    | ethercat hloop =>
      have hsome := hloop.frame.isSome.1
      rw [hphase.2.1] at hsome
      cases hsome
    | dataCopy hloop =>
      have hsome := hloop.frame.isSome.1
      rw [hphase.2.2] at hsome
      cases hsome
  | _ => simp_all

/-- The cycles of the screens and of the messages. -/
theorem Showing.cycles (h : Showing events t) :
    ∃ cycles : List Nat, cycles.Pairwise (· ≤ ·) ∧
      (∀ cycle ∈ cycles, cycle = 0 ∨ cycle ∈ (history events).copied) ∧
      EcatTui.screens events = cycles.map (snapshot t.slaves (history events).images) ∧
      List.Forall₂ (fun cycle document => ∃ millis,
          document = convertToJson millis (snapshot t.slaves (history events).images cycle))
        (cycles.take (EcatTui.messages events).length) (EcatTui.messages events) ∧
      (t.enableZmq = false → EcatTui.messages events = []) ∧
      (t.enableZmq = true → cycles.length ≤ (EcatTui.messages events).length + 1) := by
  obtain ⟨current, stamps, hc⟩ := h.consistent
  obtain ⟨cycles, n, hsub, hcalled, hpublished, hoff, hon⟩ :=
    cycles_of_iterations hc.seen h.iterations
  have hmessages := h.messages
  rw [hpublished, List.forall₂_map_left_iff] at hmessages
  have hlength : (EcatTui.messages events).length = min n cycles.length := by
    rw [← hmessages.length_eq, List.length_take]
  refine ⟨cycles, ?_, ?_, ?_, ?_, ?_, ?_⟩
  · exact (List.pairwise_reverse.mpr hc.sorted).sublist hsub
  · intro cycle hcycle
    exact hc.stamps_copied cycle (List.mem_reverse.mp (hsub.subset hcycle))
  · rw [h.screens, hcalled]
  · have htake : cycles.take (EcatTui.messages events).length = cycles.take n := by
      rw [hlength, List.take_eq_take_iff]
      omega
    rw [htake]
    exact hmessages
  · intro henable
    rw [hoff henable, Nat.zero_min] at hlength
    exact List.eq_nil_of_length_eq_zero hlength
  · intro henable
    have hbehind := hon henable
    omega

/-- Up to the loop that reads the keys. -/
private def startBatteryTui : List EcatTuiAction :=
  let source := fun action => EcatTuiAction.source action 0
  .start :: EthercatMaster.discoverBattery.tail.map source ++
    .start :: EthercatMaster.startBattery.tail.map source ++ [.start]

/-- One cycle that is shown and published, and then `q`. -/
private def showBattery : List EcatTuiAction :=
  let source := fun action => EcatTuiAction.source action 7
  EthercatMaster.firstCycle.map source ++
    [source .dataCopy, source .dataCopy, .key .right, source .dataCopy, source .dataCopy,
      source .dataCopy, source .dataCopy, .key .quit, source .dataCopy, source .dataCopy,
      source .dataCopy, source (.ethercat .none), source (.ethercat .none), source (.main .none),
      source (.main .none), .start]

end EcatTui

end Kddv
