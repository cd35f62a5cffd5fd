import Kddv.Master.Lifecycle

/-!
# Opening and closing the bus

`getSlaves` closes the bus only when it succeeds, `start` leaves it open, and both loops close
it. So the calls of `ec_init` and `ec_close` come in pairs only as long as `start` never opens
the bus.
-/

namespace Kddv

open Framework

/-- What a sequence of events says about the socket. -/
structure SocketUse where
  /-- For each successful `ec_init`, the latest first: the calls of `ec_close` before the next
  `ec_init`. -/
  closes : List Nat
  /-- The last `ec_init` was successful. -/
  counting : Bool
  /-- `ec_close` has been called since the last `ec_init`. -/
  closed : Bool
  /-- Process data has been exchanged between an `ec_close` and the next `ec_init`. -/
  exchangedClosed : Bool

namespace SocketUse

def add (use : SocketUse) : MasterEvent → SocketUse
  | .ecInit _ ok =>
    { use with
      closes := if ok then 0 :: use.closes else use.closes
      counting := ok
      closed := false }
  | .ecClose =>
    { use with
      closes := if use.counting then use.closes.modifyHead (· + 1) else use.closes
      closed := true }
  | .ecSendProcessdata _ => { use with exchangedClosed := use.exchangedClosed || use.closed }
  | .ecReceiveProcessdata _ => { use with exchangedClosed := use.exchangedClosed || use.closed }
  | _ => use

def ofEvents (events : List MasterEvent) : SocketUse := events.foldl add ⟨[], false, false, false⟩

theorem ofEvents_append (events new : List MasterEvent) :
    ofEvents (events ++ new) = new.foldl add (ofEvents events) :=
  List.foldl_append

end SocketUse

/-- In a life of the object: each successful `ec_init` is followed by exactly one `ec_close`
before the next `ec_init` or the end, and no process data is exchanged in between. -/
def OpenedAndClosedInPairs (events : List MasterEvent) : Prop :=
  (∀ closes ∈ (SocketUse.ofEvents events).closes, closes = 1) ∧
    (SocketUse.ofEvents events).exchangedClosed = false

/-- The answer does not let `start` open the bus, nor `getSlaves` fail after opening it. -/
def MasterEvent.KeepsPairs : MasterEvent → Prop
  | .ecInit .start ok => ok = false
  | .ecConfig .getSlaves count => count > 0
  | .ecStatecheck .getSlaves state => state = ecStateSafeOp
  | _ => True

/-- The bus is opened by successful discoveries only. -/
def OpenedByDiscovery (events : List MasterEvent) : Prop := ∀ event ∈ events, event.KeepsPairs

/-- Loops that still have to call `ec_close`. -/
def EthercatPc.pending : Option EthercatPc → Nat
  | none => 0
  | some .done => 0
  | some _ => 1

def DataCopyPc.pending : Option DataCopyPc → Nat
  | none => 0
  | some .done => 0
  | some _ => 1

/-- Between the launches of the two threads, the second one is still to come. -/
def MainPc.pending : MainPc → Nat
  | .start (.launchDataCopy _) => 1
  | _ => 0

namespace EthercatMaster

def pending (s : EthercatMaster) : Nat :=
  s.main.pending + EthercatPc.pending s.ethercatThread + DataCopyPc.pending s.dataCopyThread

end EthercatMaster

/-- Before the first `ec_init`. -/
def MainPc.Fresh : MainPc → Prop
  | .idle none => True
  | .getSlaves .init => True
  | _ => False

/-- `getSlaves` has opened the bus. -/
def MainPc.Discovering : MainPc → Prop
  | .getSlaves .init => False
  | .getSlaves _ => True
  | _ => False

/-- `start` has opened the bus and not yet launched both threads. -/
def MainPc.Opened : MainPc → Prop
  | .start .init => False
  | .start (.report _) => False
  | .start _ => True
  | _ => False

/-- The socket against the state of the master. As soon as `start` has opened the bus, the
closes so far and those still to come are an even number. -/
structure SocketInv (events : List MasterEvent) (use : SocketUse) (s : EthercatMaster) : Prop where
  fresh : s.main.Fresh → OpenedByDiscovery events ∧ use.closes = []
  discovering : s.main.Discovering →
    OpenedByDiscovery events ∧ use.closes = [0] ∧ use.counting = true
  opened : s.main.Opened ∨ s.ethercatThread.isSome ∨ s.dataCopyThread.isSome →
    use.counting = true ∧ ¬ OpenedByDiscovery events
  good : OpenedByDiscovery events → use.exchangedClosed = false ∧
    (¬ s.main.Discovering → ∀ closes ∈ use.closes, closes = 1)
  bad : ¬ OpenedByDiscovery events →
    ∃ closes earlier, use.closes = closes :: earlier ∧ Even (closes + s.pending)

@[simp] theorem openedByDiscovery_append (events new : List MasterEvent) :
    OpenedByDiscovery (events ++ new) ↔
      OpenedByDiscovery events ∧ ∀ event ∈ new, event.KeepsPairs := by
  simp only [OpenedByDiscovery, List.mem_append, or_imp, forall_and]

namespace EthercatMaster

/-- `start` has opened the bus, and its loops, if launched, still exist. -/
def Live (s : EthercatMaster) : Prop :=
  s.main.Opened ∨ s.ethercatThread.isSome = true ∨ s.dataCopyThread.isSome = true

/-- A step that neither opens nor closes the bus. -/
structure NeutralStep (s s' : EthercatMaster) (new : List MasterEvent) : Prop where
  keepsPairs : ∀ event ∈ new, event.KeepsPairs
  closes : ∀ use : SocketUse, (new.foldl SocketUse.add use).closes = use.closes
  counting : ∀ use : SocketUse, (new.foldl SocketUse.add use).counting = use.counting
  exchanged : s.Live ∨ ∀ use : SocketUse,
    (new.foldl SocketUse.add use).exchangedClosed = use.exchangedClosed
  fresh : s'.main.Fresh → s.main.Fresh
  discovering : s'.main.Discovering ↔ s.main.Discovering
  live : s'.Live → s.Live
  pending : Even s'.pending ↔ Even s.pending

theorem pending_of_stopped {s : EthercatMaster} (h : s.phase = .stopped)
    (hmain : s.main.pending = 0) : s.pending = 0 := by
  simp only [phase, Phase.stopped, Prod.mk.injEq, Option.isSome_eq_false_iff,
    Option.isNone_iff_eq_none] at h
  rw [pending, hmain, h.2.1, h.2.2]
  rfl

end EthercatMaster

namespace SocketInv

variable {events new : List MasterEvent} {use : SocketUse} {s s' : EthercatMaster} {reply : Reply}

theorem neutral (h : SocketInv events use s) (hn : s.NeutralStep s' new) :
    SocketInv (events ++ new) (new.foldl SocketUse.add use) s' := by
  have hiff : OpenedByDiscovery (events ++ new) ↔ OpenedByDiscovery events := by
    rw [openedByDiscovery_append, and_iff_left hn.keepsPairs]
  refine ⟨?_, ?_, ?_, ?_, ?_⟩
  · intro hf
    rw [hiff, hn.closes]
    exact h.fresh (hn.fresh hf)
  · intro hd
    rw [hiff, hn.closes, hn.counting]
    exact h.discovering (hn.discovering.mp hd)
  · intro hl
    rw [hiff, hn.counting]
    exact h.opened (hn.live hl)
  · intro ho
    rw [hiff] at ho
    rw [hn.closes, hn.discovering]
    refine ⟨?_, (h.good ho).2⟩
    rcases hn.exchanged with hlive | hex
    · exact absurd ho (h.opened hlive).2
    · rw [hex]
      exact (h.good ho).1
  · intro ho
    rw [hiff] at ho
    simp only [hn.closes, Nat.even_add, hn.pending]
    simpa only [Nat.even_add] using h.bad ho

end SocketInv

namespace EthercatMaster

variable {s s' : EthercatMaster} {reply : Reply} {new : List MasterEvent}

private theorem foldl_add_report (s : EthercatMaster) (wkcnt : Int) (use : SocketUse) :
    (s.reportWkcnt wkcnt).foldl SocketUse.add use = use := by
  unfold reportWkcnt
  split <;> rfl

private theorem keepsPairs_report (s : EthercatMaster) (wkcnt : Int) (event : MasterEvent)
    (h : event ∈ s.reportWkcnt wkcnt) : event.KeepsPairs := by
  unfold reportWkcnt at h
  split at h
  · rw [List.mem_singleton.mp h]
    trivial
  · cases h

theorem startStep_neutral {pc : StartPc} (hl : s.Lifecycle) (hpc : s.main = .start pc)
    (hinit : pc ≠ .init) (h : s.StartStep pc reply s' new) : s.NeutralStep s' new := by
  have hphase := hl.phase
  cases h <;> constructor <;>
    simp_all [MainPc.Allows, phase, Phase.stopped, Phase.running, finish, Live, MainPc.Fresh,
      MainPc.Discovering, MainPc.Opened, pending, MainPc.pending, EthercatPc.pending,
      DataCopyPc.pending, SocketUse.add, MasterEvent.KeepsPairs, foldl_add_report]
  -- the launches: two more calls of `ec_close` are to come, and one is counted in advance
  case launchDataCopy.pending => rw [Nat.add_comm]
  case report.keepsPairs => exact keepsPairs_report s _

theorem joinStep_neutral (h : s.JoinStep s') : s.NeutralStep s' [] := by
  cases h with
  | ethercat hpc hdone =>
    constructor <;>
      simp_all [Live, MainPc.Fresh, MainPc.Discovering, MainPc.Opened, pending, MainPc.pending]
    rcases hdone with hdone | hdone <;> simp [hdone, EthercatPc.pending]
  | dataCopy hpc hcall hdone =>
    have hpending : DataCopyPc.pending s.dataCopyThread = 0 := by
      rcases hdone with hdone | hdone <;> rw [hdone] <;> rfl
    constructor <;>
      simp_all [Live, MainPc.Fresh, MainPc.Discovering, MainPc.Opened, pending, MainPc.pending,
        DataCopyPc.pending, finish]
  | destroy hpc hdone =>
    have hpending : DataCopyPc.pending s.dataCopyThread = 0 := by
      rcases hdone with hdone | hdone <;> rw [hdone] <;> rfl
    by_cases hjoinable : s.ethercatThread.isSome = true <;> constructor <;>
      simp_all [Live, MainPc.Fresh, MainPc.Discovering, MainPc.Opened, pending, MainPc.pending,
        DataCopyPc.pending, destroyMembers]

theorem beginCall_neutral {call : Call} {last : Option (Call × String)}
    (hidle : s.main = .idle last) (hui : s.uiIssues (.call call) = true) :
    s.NeutralStep (s.beginCall call) [] := by
  have hpending : s.main.pending = 0 := by
    rw [hidle]
    rfl
  rcases uiIssues_call hidle hui with ⟨rfl, rfl⟩ | ⟨rfl, -⟩ | ⟨rfl, -⟩ | ⟨rfl, -⟩
  · constructor <;>
      simp_all [beginCall, Live, MainPc.Fresh, MainPc.Discovering, MainPc.Opened, pending,
        MainPc.pending]
  · constructor <;>
      simp_all [beginCall, Live, MainPc.Fresh, MainPc.Discovering, MainPc.Opened, pending,
        MainPc.pending]
  · rw [beginCall]
    split <;> constructor <;>
      simp_all [finish, Live, MainPc.Fresh, MainPc.Discovering, MainPc.Opened, pending,
        MainPc.pending]
  · rw [beginCall]
    split
    · constructor <;>
        simp_all [Live, MainPc.Fresh, MainPc.Discovering, MainPc.Opened, pending, MainPc.pending]
    · by_cases hjoinable : s.ethercatThread.isSome ∨ s.dataCopyThread.isSome <;> constructor <;>
        simp_all [destroyMembers, Live, MainPc.Fresh, MainPc.Discovering, MainPc.Opened, pending,
          MainPc.pending]

/-- A step of a loop other than its last one. -/
theorem ethercatStep_neutral (hclose : s.ethercatThread ≠ some .close)
    (h : s.EthercatStep reply s' new) : s.NeutralStep s' new := by
  have hlive : s.Live := .inr (.inl h.frame.isSome.1)
  cases h <;> constructor <;>
    simp_all [SocketUse.add, MasterEvent.KeepsPairs, foldl_add_report, pending,
      EthercatPc.pending]
  case receive.keepsPairs => exact keepsPairs_report s _

theorem dataCopyStep_neutral (hclose : s.dataCopyThread ≠ some .close)
    (h : s.DataCopyStep s' new) : s.NeutralStep s' new := by
  have hlive : s.Live := .inr (.inr h.frame.isSome.1)
  cases h <;> constructor <;>
    simp_all [SocketUse.add, MasterEvent.KeepsPairs, pending, DataCopyPc.pending]
  case callback.pending => split <;> rename_i heq <;> split at heq <;> cases heq <;> rfl

end EthercatMaster

namespace SocketInv

variable {events new : List MasterEvent} {use : SocketUse} {s s' : EthercatMaster} {reply : Reply}

/-- A loop closes the socket: one call that was to come has been made. -/
private theorem close (h : SocketInv events use s) (hlive : s.Live)
    (hmain : ∃ call, s'.main = .joinEthercat call ∨ s'.main = .joinDataCopy call)
    (hpending : s'.pending + 1 = s.pending) :
    SocketInv (events ++ [MasterEvent.ecClose]) (use.add .ecClose) s' := by
  obtain ⟨hcounting, hnot⟩ := h.opened hlive
  have hnot' : ¬ OpenedByDiscovery (events ++ [MasterEvent.ecClose]) := by
    rw [openedByDiscovery_append]
    exact fun ho => hnot ho.1
  have hfresh : ¬ s'.main.Fresh ∧ ¬ s'.main.Discovering := by
    obtain ⟨call, hmain | hmain⟩ := hmain <;> rw [hmain] <;> exact ⟨id, id⟩
  refine ⟨fun hf => absurd hf hfresh.1, fun hd => absurd hd hfresh.2,
    fun _ => ⟨hcounting, hnot'⟩, fun ho => absurd ho hnot', fun _ => ?_⟩
  simp only [SocketUse.add, hcounting, if_true]
  obtain ⟨closes, earlier, heq, heven⟩ := h.bad hnot
  refine ⟨closes + 1, earlier, by rw [heq]; rfl, ?_⟩
  rwa [Nat.add_right_comm, Nat.add_assoc, hpending]

theorem ethercatStep (h : SocketInv events use s) (hl : s.Lifecycle)
    (hstep : s.EthercatStep reply s' new) :
    SocketInv (events ++ new) (new.foldl SocketUse.add use) s' := by
  by_cases hclose : s.ethercatThread = some .close
  · have hsome : s.ethercatThread.isSome = true := by rw [hclose]; rfl
    have hrunning : s.ethercatRunning = false := by
      rw [← Bool.not_eq_true]
      exact fun hr => (hl.ethercat hr).1 hclose
    have hmain := hl.joining hrunning (.inl hsome)
    cases hstep with
    | close hpc =>
      exact h.close (.inr (.inl hsome)) hmain (by
        simp only [EthercatMaster.pending, hclose, EthercatPc.pending]
        omega)
    | _ => simp_all
  · exact h.neutral (EthercatMaster.ethercatStep_neutral hclose hstep)

theorem dataCopyStep (h : SocketInv events use s) (hl : s.Lifecycle)
    (hstep : s.DataCopyStep s' new) :
    SocketInv (events ++ new) (new.foldl SocketUse.add use) s' := by
  by_cases hclose : s.dataCopyThread = some .close
  · have hsome : s.dataCopyThread.isSome = true := by rw [hclose]; rfl
    have hrunning : s.ethercatRunning = false := by
      rw [← Bool.not_eq_true]
      exact fun hr => (hl.dataCopy hr).1 hclose
    have hmain := hl.joining hrunning (.inr hsome)
    cases hstep with
    | close hpc =>
      exact h.close (.inr (.inr hsome)) hmain (by
        simp only [EthercatMaster.pending, hclose, DataCopyPc.pending])
    | _ => simp_all
  · exact h.neutral (EthercatMaster.dataCopyStep_neutral hclose hstep)

theorem getSlavesStep {pc : GetSlavesPc} (h : SocketInv events use s) (hl : s.Lifecycle)
    (hpc : s.main = .getSlaves pc) (hstep : s.GetSlavesStep pc reply s' new) :
    SocketInv (events ++ new) (new.foldl SocketUse.add use) s' := by
  obtain ⟨hfresh, hdiscovering, hopened, hgood, hbad⟩ := h
  have hstopped := hl.phase
  rw [hpc] at hstopped
  cases hstep <;> constructor <;>
    simp_all [MainPc.Fresh, MainPc.Discovering, MainPc.Opened, MainPc.Allows,
      EthercatMaster.phase, Phase.stopped, EthercatMaster.finish, SocketUse.add,
      MasterEvent.KeepsPairs, EthercatMaster.pending, MainPc.pending, EthercatPc.pending,
      DataCopyPc.pending]

/-- The bus is opened by `start` while no loop exists. -/
theorem startInit (h : SocketInv events use s) (hl : s.Lifecycle)
    (hpc : s.main = .start .init) (hstep : s.StartStep .init reply s' new) :
    SocketInv (events ++ new) (new.foldl SocketUse.add use) s' := by
  obtain ⟨-, -, -, hgood, hbad⟩ := h
  have hstopped := hl.phase
  rw [hpc] at hstopped
  have hpending : s.pending = 0 := EthercatMaster.pending_of_stopped hstopped (by rw [hpc]; rfl)
  cases hstep <;> constructor <;>
    simp_all [MainPc.Fresh, MainPc.Discovering, MainPc.Opened, MainPc.Allows,
      EthercatMaster.phase, Phase.stopped, EthercatMaster.finish, SocketUse.add,
      MasterEvent.KeepsPairs, EthercatMaster.pending, MainPc.pending, EthercatPc.pending,
      DataCopyPc.pending]
  case initFails.good => exact fun ho => (hgood ho).2

theorem step (h : SocketInv events use s) (hl : s.Lifecycle) {a : MasterAction}
    (hui : s.uiIssues a = true) (hstep : s.step a = some (s', new)) :
    SocketInv (events ++ new) (new.foldl SocketUse.add use) s' := by
  cases EthercatMaster.step_cases hstep with
  | call hidle => exact h.neutral (EthercatMaster.beginCall_neutral hidle hui)
  | setZMQPublish =>
    rw [List.append_nil]
    exact ⟨h.fresh, h.discovering, h.opened, h.good, h.bad⟩
  | getSlaves hpc hget => exact h.getSlavesStep hl hpc hget
  | @start pc _ _ _ hpc hstart =>
    by_cases hinit : pc = .init
    · subst hinit
      exact h.startInit hl hpc hstart
    · exact h.neutral (EthercatMaster.startStep_neutral hl hpc hinit hstart)
  | join hjoin => exact h.neutral (EthercatMaster.joinStep_neutral hjoin)
  | ethercat hloop => exact h.ethercatStep hl hloop
  | dataCopy hloop => exact h.dataCopyStep hl hloop

theorem create (iomap : Nat → UInt8) (table : SlaveTable) (busState : UInt16) :
    SocketInv [] ⟨[], false, false, false⟩ (EthercatMaster.create iomap table busState) where
  fresh _ := ⟨nofun, rfl⟩
  discovering := nofun
  opened h := by simp [EthercatMaster.create, MainPc.Opened] at h
  good _ := ⟨rfl, fun _ => nofun⟩
  bad h := absurd nofun h

end SocketInv

namespace EthercatMaster

/-- For every life of a master under a user interface, from its creation to its destruction:
the socket is opened and closed in pairs exactly when `start` never opened the bus and
`getSlaves` did not fail after opening it. -/
theorem openedAndClosedInPairs_iff (iomap : Nat → UInt8) (table : SlaveTable) (busState : UInt16)
    (events : List MasterEvent) (s : EthercatMaster)
    (run : (create iomap table busState).UiRun events s) (hend : s.main = .destroyed) :
    OpenedAndClosedInPairs events ↔ OpenedByDiscovery events := by
  have hinv : s.Lifecycle ∧ SocketInv events (SocketUse.ofEvents events) s := by
    refine run.invariant (I := fun events s =>
      s.Lifecycle ∧ SocketInv events (SocketUse.ofEvents events) s)
      ⟨lifecycle_create iomap table busState, SocketInv.create iomap table busState⟩ ?_
    rintro events new s s' a ⟨hl, hi⟩ hui hstep
    rw [SocketUse.ofEvents_append]
    exact ⟨hl.step hui hstep, hi.step hl hui hstep⟩
  obtain ⟨hl, hi⟩ := hinv
  constructor
  · intro hpairs
    by_contra hnot
    obtain ⟨closes, earlier, heq, heven⟩ := hi.bad hnot
    have hphase := hl.phase
    rw [hend] at hphase
    rw [pending_of_stopped hphase (by rw [hend]; rfl), Nat.add_zero,
      hpairs.1 closes (by rw [heq]; exact List.mem_cons_self)] at heven
    exact Nat.not_even_one heven
  · intro ho
    obtain ⟨hexchanged, hcloses⟩ := hi.good ho
    exact ⟨hcloses (by rw [hend]; exact id), hexchanged⟩

private def noSlaves : SlaveTable := ⟨[], by decide⟩

/-- A successful discovery. -/
private def discovery : List MasterAction :=
  [.call .getSlaves, .main (.init true), .main (.config 1 noSlaves),
    .main (.discover ecStateSafeOp fun _ => default), .main .none]

/-- A start that finds the bus operational in its first round. -/
private def operationalStart : List MasterAction :=
  [.call .start, .main (.init true), .main (.config 1 noSlaves),
    .main (.configMap noSlaves ecStateSafeOp), .main .none, .main (.exchange 0 fun _ => 0),
    .main .none, .main (.exchange 0 fun _ => 0), .main (.state ecStateOperational), .main .none,
    .main .none, .main .none, .main .none]

/-- A stop during which both loops see the cleared flag. -/
private def stopBothLoops : List MasterAction :=
  [.call .stop, .ethercat .none, .ethercat .none, .dataCopy, .dataCopy, .main .none, .main .none]

/-- A source that is discovered and dropped. -/
theorem openedAndClosedInPairs_discovery :
    ∃ events s, (create (fun _ => 0) noSlaves 0).UiRun events s ∧ s.main = .destroyed ∧
      OpenedAndClosedInPairs events := by
  have hexec : machine.exec (fun s a => s.uiIssues a = true) (create (fun _ => 0) noSlaves 0)
      (discovery ++ [MasterAction.call .destroy]) =
      some (_, [.ecInit .getSlaves true, .ecConfig .getSlaves 1,
        .ecStatecheck .getSlaves ecStateSafeOp, .ecClose]) := rfl
  have run : (create (fun _ => 0) noSlaves 0).UiRun _ _ := Machine.run_of_exec hexec
  refine ⟨_, _, run, rfl, (openedAndClosedInPairs_iff _ _ _ _ _ run rfl).mpr ?_⟩
  simp [OpenedByDiscovery, MasterEvent.KeepsPairs]

/-- A source that is started and stopped once closes the socket of that start twice. -/
theorem closed_twice_after_stop :
    ∃ events s, (create (fun _ => 0) noSlaves 0).UiRun events s ∧ s.main = .destroyed ∧
      ¬ OpenedAndClosedInPairs events := by
  have hexec : machine.exec (fun s a => s.uiIssues a = true) (create (fun _ => 0) noSlaves 0)
      (discovery ++ operationalStart ++ stopBothLoops ++ [MasterAction.call .destroy]) =
      some (_, _) := rfl
  refine ⟨_, _, Machine.run_of_exec hexec, rfl, fun hpairs => ?_⟩
  exact absurd (hpairs.1 2 List.mem_cons_self) (by decide)

end EthercatMaster

end Kddv
