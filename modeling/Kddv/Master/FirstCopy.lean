import Kddv.Master.Snapshots

/-!
# Nothing is delivered before the first copy

The two loops start without a handshake, and the constructors of the slaves leave their records
uninitialised. What the callback and the publisher are given has been received if `copyData` gets
the mutex before `dataCopyLoop` takes it for the first time.
-/

namespace Kddv

open Framework

/-- The slaves that an event hands to the callback or to the publisher. -/
def MasterEvent.delivered : MasterEvent → Option (List EthercatSlave)
  | .callback slaves => some slaves
  | .publishMsg slaves => some slaves
  | _ => none

/-- How often `copyData` has got the mutex and how often it has returned after that. -/
structure Copies where
  begun : Nat
  completed : Nat

/-- All records are those of a received process image, whatever they held before. -/
def ReceivedIn (images : List ProcessImage) (first slaves : List EthercatSlave) : Prop :=
  ∃ image ∈ images, ∀ memory, EthercatSlave.SameSlaves memory first →
    slaves = memory.map image.copy

theorem receivedIn_snapshot {images : List ProcessImage} {first : List EthercatSlave}
    {cycle : Nat} (hpos : 0 < cycle) (hle : cycle ≤ images.length) :
    ReceivedIn images first (snapshot first images cycle) := by
  obtain ⟨index, rfl⟩ := Nat.exists_eq_succ_of_ne_zero hpos.ne'
  have hindex : images[index]? = some images[index] := List.getElem?_eq_getElem hle
  refine ⟨images[index], List.getElem_mem hle, fun memory hsame => ?_⟩
  rw [snapshot, hindex]
  dsimp only
  induction hsame with
  | nil => rfl
  | cons hslave _ ih =>
    rw [List.map_cons, List.map_cons, images[index].copy_congr hslave, ih]

namespace EthercatMaster

variable {s s' : EthercatMaster} {reply : Reply} {new : List MasterEvent}

/-- The step in which `copyData` gets the mutex. -/
def beginsCopy (s : EthercatMaster) : MasterAction → Bool
  | .ethercat (.tryLock ok) => s.ethercatThread = some .tryLock ∧ s.dataMutex = none ∧ ok
  | _ => false

def recordCopies (s : EthercatMaster) (a : MasterAction) (copies : Copies) : Copies where
  begun := if s.beginsCopy a then copies.begun + 1 else copies.begun
  completed := if s.returnsFromCopy a then copies.completed + 1 else copies.completed

/-- The master, with the copies counted. -/
def recorder : Machine (EthercatMaster × Copies) MasterAction MasterEvent :=
  machine.withHistory recordCopies

/-- `dataCopyLoop` does not get the mutex before `copyData` has got it once. -/
def CopyLocksFirst (s : EthercatMaster) (copies : Copies) : MasterAction → Prop
  | .dataCopy => s.dataCopyThread = some .lock → 0 < copies.begun
  | _ => True

instance (s : EthercatMaster) (copies : Copies) (a : MasterAction) :
    Decidable (s.CopyLocksFirst copies a) := by
  cases a <;> unfold CopyLocksFirst <;> infer_instance

/-- In every run from `start` whose steps satisfy the guard, each callback and each message
follows a completed `copyData`, and all data that it is given have been received. -/
def DeliversAfterCopy (start : EthercatMaster)
    (guard : EthercatMaster × Copies → MasterAction → Prop) : Prop :=
  ∀ events s copies, recorder.Run guard (start, ⟨0, 0⟩) events (s, copies) →
    ∀ a s' new event slaves, s.step a = some (s', new) → event ∈ new →
      event.delivered = some slaves →
      0 < copies.completed ∧ ReceivedIn (History.ofEvents events).images start.slaves slaves

/-! ## Only the data copy loop delivers -/

private theorem reportWkcnt_delivered {wkcnt : Int} {event : MasterEvent}
    (h : event ∈ s.reportWkcnt wkcnt) : event.delivered = none := by
  unfold reportWkcnt at h
  split at h
  · rw [List.mem_singleton.mp h]
    rfl
  · cases h

theorem step_delivered {a : MasterAction} (h : s.step a = some (s', new)) {event : MasterEvent}
    (hevent : event ∈ new) {slaves : List EthercatSlave}
    (hdelivered : event.delivered = some slaves) : s.DataCopyStep s' new := by
  have hsome : event.delivered ≠ none := by simp [hdelivered]
  cases step_cases h with
  | call hidle => cases hevent
  | setZMQPublish => cases hevent
  | join hjoin => cases hevent
  | dataCopy hloop => exact hloop
  | getSlaves hpc hget => cases hget <;> simp_all [MasterEvent.delivered]
  | start hpc hstart =>
    cases hstart with
    | report => exact absurd (reportWkcnt_delivered hevent) hsome
    | _ => simp_all [MasterEvent.delivered]
  | ethercat hloop =>
    cases hloop with
    | receive hpc =>
      simp only [List.mem_cons] at hevent
      rcases hevent with rfl | rfl | hevent
      · cases hdelivered
      · cases hdelivered
      · exact absurd (reportWkcnt_delivered hevent) hsome
    | _ => simp_all [MasterEvent.delivered]

/-! ## Copies along a run -/

/-- `copyData` keeps copying until it returns. -/
private theorem ethercatStep_copying (h : s.EthercatStep reply s' new)
    (hcopying : EthercatPc.Copying s.ethercatThread ∨ s.beginsCopy (.ethercat reply) = true) :
    EthercatPc.Copying s'.ethercatThread ∨ s.returnsFromCopy (.ethercat reply) = true := by
  cases h <;> simp_all [EthercatPc.Copying, beginsCopy, returnsFromCopy]

private theorem mainStepFrame_copying (hf : s.MainStepFrame s' new)
    (hcopying : EthercatPc.Copying s.ethercatThread) : EthercatPc.Copying s'.ethercatThread := by
  rcases hf.ethercatThread with ⟨hsame, -⟩ | ⟨hold | hold, -⟩
  · rwa [hsame]
  · rw [hold] at hcopying
    cases hcopying
  · rw [hold] at hcopying
    cases hcopying

theorem step_copying {a : MasterAction} (hl : s.Lifecycle) (hd : s.main.Discovered)
    (hui : s.uiIssues a = true) (h : s.step a = some (s', new))
    (hcopying : EthercatPc.Copying s.ethercatThread ∨ s.beginsCopy a = true) :
    EthercatPc.Copying s'.ethercatThread ∨ s.returnsFromCopy a = true := by
  rcases step_frame_or_loop hl hd hui h with ⟨hframe, hmain⟩ | ⟨reply, rfl, hloop⟩ | ⟨rfl, hloop⟩
  · have hbegins : s.beginsCopy a ≠ true := by
      unfold beginsCopy
      split
      · exact absurd rfl (hmain _)
      · exact Bool.false_ne_true
    exact .inl (mainStepFrame_copying hframe (hcopying.resolve_right hbegins))
  · exact ethercatStep_copying hloop hcopying
  · rw [hloop.frame.ethercatThread]
    exact .inl (hcopying.resolve_right Bool.false_ne_true)

/-- The count of copies against the cycle that the records are from. -/
structure CopyInv (first : List EthercatSlave) (events : List MasterEvent) (s : EthercatMaster)
    (copies : Copies) (current : Nat) (stamps : List Nat) : Prop where
  lifecycle : s.Lifecycle
  consistent : Consistent first (History.ofEvents events) s current stamps
  completed : 0 < current → 0 < copies.completed
  begun : 0 < copies.begun → EthercatPc.Copying s.ethercatThread ∨ 0 < current
  reading : DataCopyPc.Reading s.dataCopyThread → 0 < current

namespace CopyInv

variable {first : List EthercatSlave} {events : List MasterEvent} {copies : Copies}
  {current : Nat} {stamps : List Nat}

/-- A loop that reads has been reading before or takes the mutex in this step. -/
private theorem reading_before {a : MasterAction} (hl : s.Lifecycle) (hd : s.main.Discovered)
    (hui : s.uiIssues a = true) (h : s.step a = some (s', new))
    (hreading : DataCopyPc.Reading s'.dataCopyThread) :
    DataCopyPc.Reading s.dataCopyThread ∨
      a = .dataCopy ∧ s.dataCopyThread = some .lock ∧ s.dataMutex = none := by
  rcases step_frame_or_loop hl hd hui h with ⟨hframe, -⟩ | ⟨reply, rfl, hloop⟩ | ⟨rfl, hloop⟩
  · rcases hframe.dataCopyThread with hsame | ⟨-, hnew | hnew⟩
    · rw [hsame] at hreading
      exact .inl hreading
    · rw [hnew] at hreading
      cases hreading
    · rw [hnew] at hreading
      cases hreading
  · rw [hloop.frame.dataCopyThread] at hreading
    exact .inl hreading
  · cases hloop <;> simp_all [DataCopyPc.Reading]

/-- While `copyData` copies, the mutex is not free. -/
private theorem pos_of_free (hi : CopyInv first events s copies current stamps)
    (hbegun : 0 < copies.begun) (hfree : s.dataMutex = none) : 0 < current := by
  rcases hi.begun hbegun with hcopying | hpos
  · have hheld := (hi.consistent.copying hcopying).1
    rw [hfree] at hheld
    cases hheld
  · exact hpos

theorem step (hi : CopyInv first events s copies current stamps) {a : MasterAction}
    (hui : s.uiIssues a = true) (hfirst : s.CopyLocksFirst copies a)
    (h : s.step a = some (s', new)) :
    ∃ current' stamps',
      CopyInv first (events ++ new) s' (s.recordCopies a copies) current' stamps' := by
  have hd := hi.consistent.discovered
  obtain ⟨current', stamps', hc, hcurrent⟩ := hi.consistent.step hi.lifecycle hui h
  rw [← History.ofEvents_append] at hc
  have hle : 0 < current → 0 < current' := by
    unfold Consistent.CurrentAfter at hcurrent
    split at hcurrent
    · exact fun _ => hcurrent
    · rw [hcurrent]
      exact id
  refine ⟨current', stamps', hi.lifecycle.step hui h, hc, fun hpos => ?_, fun hbegun => ?_,
    fun hreading => ?_⟩
  · unfold Consistent.CurrentAfter at hcurrent
    simp only [recordCopies]
    split
    · exact Nat.succ_pos _
    · rename_i hreturn
      rw [if_neg hreturn] at hcurrent
      exact hi.completed (hcurrent ▸ hpos)
  · have hcopying : (EthercatPc.Copying s.ethercatThread ∨ s.beginsCopy a = true) ∨
        0 < current := by
      simp only [recordCopies] at hbegun
      split at hbegun
      · rename_i hbegins
        exact .inl (.inr hbegins)
      · exact (hi.begun hbegun).imp_left .inl
    rcases hcopying with hcopying | hpos
    · refine (step_copying hi.lifecycle hd hui h hcopying).imp_right fun hreturn => ?_
      rwa [Consistent.CurrentAfter, if_pos hreturn] at hcurrent
    · exact .inr (hle hpos)
  · rcases reading_before hi.lifecycle hd hui h hreading with hbefore | ⟨rfl, hlock, hfree⟩
    · exact hle (hi.reading hbefore)
    · exact hle (hi.pos_of_free (hfirst hlock) hfree)

end CopyInv

theorem Idle.copyInv {start : EthercatMaster} (hstart : start.Idle) :
    CopyInv start.slaves [] start ⟨0, 0⟩ 0 [] where
  lifecycle := hstart.lifecycle
  consistent := hstart.consistent
  completed := nofun
  begun := nofun
  reading := fun hreading => by
    have hphase := hstart.phase
    simp only [EthercatMaster.phase, Phase.stopped, Prod.mk.injEq, Option.isSome_eq_false_iff,
      Option.isNone_iff_eq_none] at hphase
    rw [hphase.2.2] at hreading
    cases hreading

/-- A delivery hands over the records of the current cycle. -/
private theorem dataCopyStep_delivers {first : List EthercatSlave} {history : History}
    {current : Nat} {stamps : List Nat} (hc : Consistent first history s current stamps)
    (h : s.DataCopyStep s' new) {event : MasterEvent} (hevent : event ∈ new)
    {slaves : List EthercatSlave} (hdelivered : event.delivered = some slaves) :
    DataCopyPc.Reading s.dataCopyThread ∧ slaves = snapshot first history.images current := by
  have hreaders := hc.readers
  cases h with
  | callback hpc hend | publish hpc hend =>
    obtain rfl := List.mem_singleton.mp hevent
    obtain rfl := Option.some.inj hdelivered
    have hreading : DataCopyPc.Reading s.dataCopyThread := by rw [hpc]; trivial
    rw [hpc] at hreaders
    rw [hc.slaves_of_reading hreading] at hend
    exact ⟨hreading, Consistent.take_all hreaders.1 hend⟩
  | _ => simp_all [MasterEvent.delivered]

/-- If `copyData` gets the mutex first, nothing is delivered that has not been received. -/
theorem deliversAfterCopy (start : EthercatMaster) (hstart : start.Idle) :
    start.DeliversAfterCopy fun s a => s.1.uiIssues a = true ∧ s.1.CopyLocksFirst s.2 a := by
  intro events s copies run a s' new event slaves hstep hevent hdelivered
  have hinv : ∃ current stamps, CopyInv start.slaves events s copies current stamps := by
    refine run.invariant
      (I := fun events s => ∃ current stamps,
        CopyInv start.slaves events s.1 s.2 current stamps)
      ⟨0, [], hstart.copyInv⟩ ?_
    rintro events new s s' a ⟨current, stamps, hi⟩ ⟨hui, hfirst⟩ hstep
    obtain ⟨hmaster, hcopies⟩ := Machine.withHistory_step hstep
    rw [hcopies]
    exact hi.step hui hfirst hmaster
  obtain ⟨current, stamps, hi⟩ := hinv
  have hloop := step_delivered hstep hevent hdelivered
  obtain ⟨hreading, rfl⟩ := dataCopyStep_delivers hi.consistent hloop hevent hdelivered
  have hpos := hi.reading hreading
  exact ⟨hi.completed hpos, receivedIn_snapshot hpos hi.consistent.current_le⟩

/-- The first callback after a cycle. -/
theorem deliversAfterCopy_first_cycle :
    ∃ events s copies, recorder.Run
        (fun s a => s.1.uiIssues a = true ∧ s.1.CopyLocksFirst s.2 a) (discoveredBattery, ⟨0, 0⟩)
        events (s, copies) ∧
      ∃ s' slaves, s.step .dataCopy = some (s', [.callback slaves]) ∧ 0 < copies.completed ∧
        ReceivedIn (History.ofEvents events).images discoveredBattery.slaves slaves := by
  have hexec : recorder.exec (fun s a => s.1.uiIssues a = true ∧ s.1.CopyLocksFirst s.2 a)
      (discoveredBattery, ⟨0, 0⟩)
      (startBattery ++ firstCycle ++ [MasterAction.dataCopy, .dataCopy, .dataCopy]) =
      some ((_, _), _) := rfl
  have run := Machine.run_of_exec hexec
  exact ⟨_, _, _, run, _, _, rfl,
    deliversAfterCopy discoveredBattery ⟨rfl, rfl, rfl⟩ _ _ _ run .dataCopy _ _ _ _ rfl
      List.mem_cons_self rfl⟩

/-- Without this condition the first callback may come before the first copy. -/
theorem deliversAfterCopy_fails :
    ¬ ∀ start : EthercatMaster, start.Idle →
      start.DeliversAfterCopy fun s a => s.1.uiIssues a = true := by
  intro h
  have hexec : recorder.exec (fun s a => s.1.uiIssues a = true) (discoveredBattery, ⟨0, 0⟩)
      (startBattery ++ [MasterAction.dataCopy, .dataCopy, .dataCopy]) = some ((_, ⟨0, 0⟩), _) := rfl
  have run := Machine.run_of_exec hexec
  have hdelivers := h discoveredBattery ⟨rfl, rfl, rfl⟩ _ _ _ run .dataCopy _ _ _ _ rfl
    List.mem_cons_self rfl
  exact absurd hdelivers.1 (Nat.lt_irrefl 0)

end EthercatMaster

end Kddv
