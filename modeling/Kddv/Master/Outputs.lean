import Kddv.Master.Steps

/-!
# What the master sends

No step of the master writes to the outputs in `IOmap`, and the constructor does not
initialise it. What is sent to the slaves is what the memory held before.
-/

namespace Kddv

open Framework

/-- The table that an action brings, if it is an answer to a configuration call. -/
def MasterAction.newTable : MasterAction → Option SlaveTable
  | .main (.config _ table) => some table
  | .main (.configMap table _) => some table
  | _ => none

/-- The part of `start` after the bus has been configured. -/
def MainPc.Exchanges : MainPc → Prop
  | .start .init => False
  | .start .config => False
  | .start .configMap => False
  | .start _ => True
  | _ => False

namespace EthercatMaster

/-- Process data may be exchanged before the bus is configured again. -/
def Exchanging (s : EthercatMaster) : Prop := s.ethercatThread.isSome ∨ s.main.Exchanges

/-- What a step does to `IOmap` and to the slave table. -/
structure StepEffect (s : EthercatMaster) (a : MasterAction) (s' : EthercatMaster)
    (new : List MasterEvent) : Prop where
  iomap : s'.iomap = s.iomap ∨
    s.Exchanging ∧ ∃ inputs, s'.iomap = s.table.receive inputs s.iomap
  table : s'.table = s.table ∨ a.newTable = some s'.table
  exchanging : s'.Exchanging → s.Exchanging ∨ a.newTable = some s'.table
  sent : ∀ outputs, .ecSendProcessdata outputs ∈ new → s.Exchanging ∧ outputs = s.sentOutputs

/-- A step that neither exchanges process data nor configures the bus. -/
private theorem StepEffect.of_frame {s s' : EthercatMaster} (a : MasterAction)
    {new : List MasterEvent} (hiomap : s'.iomap = s.iomap) (htable : s'.table = s.table)
    (hexchanging : s'.Exchanging → s.Exchanging)
    (hsent : ∀ outputs, .ecSendProcessdata outputs ∉ new) : StepEffect s a s' new :=
  ⟨.inl hiomap, .inl htable, fun h => .inl (hexchanging h), fun _ h => absurd h (hsent _)⟩

private theorem exchanging_destroyMembers {s : EthercatMaster} (h : s.destroyMembers.Exchanging) :
    s.ethercatThread.isSome := by
  rcases h with h | h
  · exact h
  · simp only [destroyMembers] at h
    split at h <;> cases h

private theorem beginCall_effect (s : EthercatMaster) (call : Call) :
    StepEffect s (.call call) (s.beginCall call) [] := by
  unfold beginCall
  split
  · exact .of_frame _ rfl rfl (fun h => .inl (by simpa [Exchanging, MainPc.Exchanges] using h))
      (by simp)
  · exact .of_frame _ rfl rfl (fun h => .inl (by simpa [Exchanging, MainPc.Exchanges] using h))
      (by simp)
  · split
    · exact .of_frame _ rfl rfl (fun h => .inl (by simpa [Exchanging, MainPc.Exchanges] using h))
        (by simp)
    · exact .of_frame _ rfl rfl
        (fun h => .inl (by simpa [Exchanging, MainPc.Exchanges, finish] using h)) (by simp)
  · split
    · exact .of_frame _ rfl rfl (fun h => .inl (by simpa [Exchanging, MainPc.Exchanges] using h))
        (by simp)
    · exact .of_frame _ rfl rfl (fun h => .inl (exchanging_destroyMembers h)) (by simp)

private theorem getSlavesStep_effect {s s' : EthercatMaster} {pc : GetSlavesPc} {reply : Reply}
    {new : List MasterEvent} (h : s.GetSlavesStep pc reply s' new) :
    StepEffect s (.main reply) s' new := by
  cases h <;> constructor <;>
    simp [Exchanging, MainPc.Exchanges, MasterAction.newTable, finish] <;> tauto

private theorem startStep_effect {s s' : EthercatMaster} {pc : StartPc} {reply : Reply}
    {new : List MasterEvent} (hpc : s.main = .start pc) (h : s.StartStep pc reply s' new) :
    StepEffect s (.main reply) s' new := by
  cases h <;> constructor <;>
    simp_all [Exchanging, MainPc.Exchanges, MasterAction.newTable, finish, reportWkcnt]
  case receive.iomap => exact .inr ⟨_, rfl⟩
  case roundReceive.iomap => exact .inr ⟨_, rfl⟩

private theorem joinStep_effect {s s' : EthercatMaster} {reply : Reply} (h : s.JoinStep s') :
    StepEffect s (.main reply) s' [] := by
  cases h with
  | ethercat hpc hdone =>
    exact .of_frame _ rfl rfl (fun h => by simp [Exchanging, MainPc.Exchanges] at h) (by simp)
  | dataCopy hpc hcall hdone =>
    exact .of_frame _ rfl rfl
      (fun h => .inl (by simpa [Exchanging, MainPc.Exchanges, finish] using h)) (by simp)
  | destroy hpc hdone =>
    exact .of_frame _ rfl rfl
      (fun h => .inl (exchanging_destroyMembers (s := { s with dataCopyThread := none }) h))
      (by simp)

private theorem ethercatStep_effect {s s' : EthercatMaster} {reply : Reply}
    {new : List MasterEvent} (h : s.EthercatStep reply s' new) :
    StepEffect s (.ethercat reply) s' new := by
  have hsome : s.Exchanging := by
    refine .inl ?_
    cases h <;> simp_all
  cases h with
  | receive hpc => exact ⟨.inr ⟨hsome, _, rfl⟩, .inl rfl, fun _ => .inl hsome, by simp [reportWkcnt]⟩
  | _ => exact ⟨.inl rfl, .inl rfl, fun _ => .inl hsome, by simp [hsome]⟩

private theorem dataCopyStep_effect {s s' : EthercatMaster} {new : List MasterEvent}
    (h : s.DataCopyStep s' new) : StepEffect s .dataCopy s' new := by
  cases h <;> exact .of_frame _ rfl rfl id (by simp)

theorem step_effect {s s' : EthercatMaster} {a : MasterAction} {new : List MasterEvent}
    (h : s.step a = some (s', new)) : StepEffect s a s' new := by
  cases step_cases h with
  | call hidle => exact beginCall_effect s _
  | setZMQPublish => exact .of_frame _ rfl rfl id (by simp)
  | getSlaves hpc hstep => exact getSlavesStep_effect hstep
  | start hpc hstep => exact startStep_effect hpc hstep
  | join hstep => exact joinStep_effect hstep
  | ethercat hstep => exact ethercatStep_effect hstep
  | dataCopy hstep => exact dataCopyStep_effect hstep

/-- The table places all outputs at positions in `Out` and all inputs elsewhere. -/
def KeepsOutputs (Out : Set Nat) (table : SlaveTable) : Prop :=
  (∀ position ∈ table.outputPositions, position ∈ Out) ∧
    ∀ position, table.IsInput position → position ∉ Out

/-- Every configuration of the bus keeps the positions in `Out` for outputs. -/
def ConfiguresOutputs (Out : Set Nat) (_ : EthercatMaster) (a : MasterAction) : Prop :=
  ∀ table, a.newTable = some table → KeepsOutputs Out table

/-- The output bytes sent so far, with their positions. -/
def sentBytes (events : List MasterEvent) : List (Nat × UInt8) :=
  events.flatMap fun
    | .ecSendProcessdata outputs => outputs
    | _ => []

private theorem sentBytes_append (events new : List MasterEvent) :
    sentBytes (events ++ new) = sentBytes events ++ sentBytes new :=
  List.flatMap_append

private theorem mem_sentBytes {events : List MasterEvent} {sent : Nat × UInt8} :
    sent ∈ sentBytes events ↔ ∃ outputs, .ecSendProcessdata outputs ∈ events ∧ sent ∈ outputs := by
  rw [sentBytes, List.mem_flatMap]
  constructor
  · rintro ⟨event, hevent, hsent⟩
    cases event with
    | ecSendProcessdata outputs => exact ⟨outputs, hevent, hsent⟩
    | _ => cases hsent
  · rintro ⟨outputs, hevent, hsent⟩
    exact ⟨_, hevent, hsent⟩

/-- The outputs still have their first content, and only that was sent. -/
structure OutputsUntouched (Out : Set Nat) (start : EthercatMaster) (events : List MasterEvent)
    (s : EthercatMaster) : Prop where
  iomap : ∀ position ∈ Out, s.iomap position = start.iomap position
  table : s.Exchanging → KeepsOutputs Out s.table
  sent : ∀ sent ∈ sentBytes events, sent.2 = start.iomap sent.1

private theorem sentOutputs_eq {Out : Set Nat} {start s : EthercatMaster}
    (hiomap : ∀ position ∈ Out, s.iomap position = start.iomap position)
    (htable : KeepsOutputs Out s.table) (sent : Nat × UInt8) (h : sent ∈ s.sentOutputs) :
    sent.2 = start.iomap sent.1 := by
  obtain ⟨position, hp, rfl⟩ := List.mem_map.mp h
  exact hiomap position (htable.1 position hp)

theorem OutputsUntouched.step {Out : Set Nat} {start s s' : EthercatMaster} {a : MasterAction}
    {events new : List MasterEvent} (h : OutputsUntouched Out start events s)
    (hguard : ConfiguresOutputs Out s a) (hstep : s.step a = some (s', new)) :
    OutputsUntouched Out start (events ++ new) s' := by
  have heffect := step_effect hstep
  constructor
  · intro position hp
    rcases heffect.iomap with hkept | ⟨hex, inputs, hreceive⟩
    · rw [hkept, h.iomap position hp]
    · have hinput : ¬ s.table.IsInput position := fun hi => (h.table hex).2 position hi hp
      rw [hreceive, SlaveTable.receive, if_neg hinput, h.iomap position hp]
  · intro hex
    rcases heffect.table with hkept | hnew
    · rcases heffect.exchanging hex with hold | hnew
      · rw [hkept]
        exact h.table hold
      · exact hguard _ hnew
    · exact hguard _ hnew
  · intro sent hmem
    rw [sentBytes_append, List.mem_append] at hmem
    rcases hmem with hold | hnew
    · exact h.sent sent hold
    · obtain ⟨outputs, hevent, hsent⟩ := mem_sentBytes.mp hnew
      obtain ⟨hex, rfl⟩ := heffect.sent outputs hevent
      exact sentOutputs_eq h.iomap (h.table hex) sent hsent

/-- A bus with one battery module. -/
private def batteryTable : SlaveTable :=
  .single ⟨"KELO_ROBILE", 5001027, 34603265, 1, 4097, 0, 12, 12, 68⟩

/-- Discovery followed by the first frame that `start` sends. -/
private def firstFrame : List MasterAction :=
  [.call .getSlaves, .main (.init true), .main (.config 1 batteryTable),
    .main (.discover ecStateSafeOp fun _ => default), .main .none, .call .start,
    .main (.init true), .main (.config 1 batteryTable),
    .main (.configMap batteryTable ecStateSafeOp),
    .main .none]

private def batteryOnly (_ : EthercatMaster) (a : MasterAction) : Prop :=
  ∀ table ∈ a.newTable, table.slaves = batteryTable.slaves

private instance (s : EthercatMaster) (a : MasterAction) : Decidable (batteryOnly s a) := by
  unfold batteryOnly
  infer_instance

private theorem batteryOnly_configuresOutputs (s : EthercatMaster) (a : MasterAction)
    (h : batteryOnly s a) : ConfiguresOutputs { position | position < 12 } s a := by
  intro table htable
  have hslaves := h table htable
  constructor
  · rw [SlaveTable.outputPositions, hslaves]
    decide
  · rintro position ⟨slave, hs, hlow, -⟩ hlt
    rw [hslaves, batteryTable, SlaveTable.single, List.mem_singleton] at hs
    subst hs
    exact absurd hlt (not_lt.mpr hlow)

end EthercatMaster

end Kddv
