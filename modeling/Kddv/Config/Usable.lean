import Kddv.Config.MapSdo
import Kddv.Config.RoundTrip

/-!
# Usable config files

For which answers of the bus the generator writes a file that the sniffer can read, and what the
workaround for wrong sync manager types amounts to.
-/

namespace Kddv

open Framework

/-! ## The workaround -/

/-- The same sync manager, with a type that is greater by one unless it is unused. -/
def SyncManagerReplies.raised (replies : SyncManagerReplies) : SyncManagerReplies :=
  { replies with
    type := { replies.type with
      value := if replies.type.value ≠ 0 then replies.type.value + 1 else 0 } }

/-- The slave as it should have answered. -/
def MapReplies.raised (replies : MapReplies) : MapReplies :=
  { replies with syncManager := fun k => (replies.syncManager k).raised }

/-- The third sync manager, which is the first whose type is read, has the type of a mailbox. -/
def MapReplies.ReportsMailbox (replies : MapReplies) : Prop :=
  ∃ first ∈ replies.syncManagers.head?, first.type.wkc > 0 ∧ first.type.value = 2

instance (replies : MapReplies) : Decidable replies.ReportsMailbox :=
  inferInstanceAs (Decidable (∃ first ∈ replies.syncManagers.head?, _))

/-- What the call finds, apart from the correction that it keeps for the types. -/
def MapSdo.found (v : MapSdo) : Int32 × Int32 × Option Int32 × Option Int32 :=
  (v.outputsBo, v.inputsBo, v.rxOffset, v.txOffset)

theorem raised_syncManagers (replies : MapReplies) :
    replies.raised.syncManagers = replies.syncManagers.map SyncManagerReplies.raised := by
  unfold MapReplies.syncManagers
  by_cases h : replies.count.wkc > 0 ∧ replies.count.value > 2
  · rw [if_pos h, List.map_map]
    exact if_pos h
  · rw [if_neg h]
    exact if_neg h

theorem correctedType_raised (replies : SyncManagerReplies) :
    replies.raised.correctedType 0 = replies.correctedType 1 := by
  obtain ⟨⟨wkc, value⟩, assign⟩ := replies
  by_cases hwkc : wkc > 0
  · by_cases hvalue : value = 0
    · simp [SyncManagerReplies.correctedType, SyncManagerReplies.raised, hvalue]
    · by_cases hraised : value + 1 = 0
      · simp [SyncManagerReplies.correctedType, SyncManagerReplies.raised, hwkc, hvalue, hraised]
      · simp [SyncManagerReplies.correctedType, SyncManagerReplies.raised, hwkc, hvalue, hraised]
  · simp [SyncManagerReplies.correctedType, hwkc, SyncManagerReplies.raised]

/-- With the right types there is nothing to correct. -/
theorem assignedTo_raised (type : UInt8) {syncManagers : List SyncManagerReplies}
    (h : typeCorrection syncManagers = 1) :
    assignedTo type (syncManagers.map SyncManagerReplies.raised) =
      assignedTo type syncManagers := by
  have hnone : typeCorrection (syncManagers.map SyncManagerReplies.raised) = 0 := by
    cases syncManagers with
    | nil => rfl
    | cons first rest =>
      simp only [typeCorrection] at h
      split at h
      · rename_i hmailbox
        simp [typeCorrection, SyncManagerReplies.raised, hmailbox.2]
      · cases h
  rw [assignedTo, assignedTo, hnone, h, List.filter_map, List.map_map]
  have hfilter : (fun sm : SyncManagerReplies => decide (sm.correctedType 0 = type)) ∘
      SyncManagerReplies.raised = fun sm => decide (sm.correctedType 1 = type) := by
    funext sm
    simp only [Function.comp_apply, correctedType_raised]
  rw [hfilter]
  rfl

theorem ReportsMailbox.typeCorrection {replies : MapReplies} (h : replies.ReportsMailbox) :
    typeCorrection replies.syncManagers = 1 := by
  obtain ⟨first, hfirst, hmailbox⟩ := h
  obtain ⟨rest, hrest⟩ := List.head?_eq_some_iff.mp hfirst
  rw [hrest, Kddv.typeCorrection, if_pos hmailbox]

/-- A call returns if and only if it reads no assignment with the greatest count. -/
theorem siMapSdo_ends_iff (outputs inputs : Int32) (replies : MapReplies) :
    (∃ fuel v, siMapSdo fuel outputs inputs none none replies = some v) ↔
      ∀ assigned ∈ replies.assignments, ¬ assigned.CountsForever := by
  constructor
  · rintro ⟨fuel, v, h⟩
    exact siMapSdo_finite h
  · intro h
    exact ⟨65536, siMapSdo_ends outputs inputs h (by decide)⟩

theorem DirectionRead.unique {mapoffset : Int32} {assigned : List AssignReplies}
    {bitoffset bitoffset' : Int32} {offset offset' : Option Int32}
    (h : DirectionRead mapoffset assigned bitoffset offset)
    (h' : DirectionRead mapoffset assigned bitoffset' offset') :
    bitoffset = bitoffset' ∧ offset = offset' := by
  refine ⟨h.bitoffset_eq.trans h'.bitoffset_eq.symm, ?_⟩
  apply Option.ext
  intro x
  exact (h.offset_iff x).trans (h'.offset_iff x).symm

/-- Calls that read the same assignments find the same. -/
theorem siMapSdo_found_congr {fuel fuel' : Nat} {outputs inputs : Int32}
    {replies replies' : MapReplies} (houtputs : replies.outputs = replies'.outputs)
    (hinputs : replies.inputs = replies'.inputs) {v v' : MapSdo}
    (h : siMapSdo fuel outputs inputs none none replies = some v)
    (h' : siMapSdo fuel' outputs inputs none none replies' = some v') : v.found = v'.found := by
  have hread := siMapSdo_sound h
  have hread' := siMapSdo_sound h'
  have hrx : DirectionRead outputs replies'.outputs v.outputsBo v.rxOffset := houtputs ▸ hread.rx
  have htx : DirectionRead inputs replies'.inputs v.inputsBo v.txOffset := hinputs ▸ hread.tx
  obtain ⟨hbits, hoffset⟩ := hrx.unique hread'.rx
  obtain ⟨hbits', hoffset'⟩ := htx.unique hread'.tx
  rw [MapSdo.found, hbits, hoffset, hbits', hoffset']
  rfl

/-- A slave whose types are one too small is read like the slave with the right ones: the calls end
alike, and find the same numbers of bits and the same offsets. -/
theorem workaround_corrects (outputs inputs : Int32) (replies : MapReplies)
    (h : replies.ReportsMailbox) :
    ((∃ fuel v, siMapSdo fuel outputs inputs none none replies = some v) ↔
      ∃ fuel v, siMapSdo fuel outputs inputs none none replies.raised = some v) ∧
    ∀ fuel fuel' v v', siMapSdo fuel outputs inputs none none replies = some v →
      siMapSdo fuel' outputs inputs none none replies.raised = some v' → v.found = v'.found := by
  have hassigned (type : UInt8) :
      assignedTo type replies.raised.syncManagers = assignedTo type replies.syncManagers := by
    rw [raised_syncManagers]
    exact assignedTo_raised type (ReportsMailbox.typeCorrection h)
  have houtputs : replies.raised.outputs = replies.outputs := hassigned 3
  have hinputs : replies.raised.inputs = replies.inputs := hassigned 4
  constructor
  · rw [siMapSdo_ends_iff, siMapSdo_ends_iff, MapReplies.assignments, MapReplies.assignments,
      houtputs, hinputs]
  · intro fuel fuel' v v' hv hv'
    exact siMapSdo_found_congr houtputs.symm hinputs.symm hv hv'

/-- One PDO with one entry of 16 bits. -/
private def onePdo : AssignReplies where
  count := ⟨1, 1⟩
  pdo _ := ⟨⟨1, 0x1600⟩, ⟨1, 1⟩, fun _ => ⟨1, 0x70000110⟩⟩

/-- Outputs and inputs, with the given types. -/
private def typedReplies (outputs inputs : UInt8) : MapReplies where
  count := ⟨1, 4⟩
  syncManager k := if k = 0 then ⟨⟨1, outputs⟩, onePdo⟩ else ⟨⟨1, inputs⟩, onePdo⟩

theorem workaround_corrects_types :
    ∃ v v', siMapSdo 10 0 2 none none (typedReplies 2 3) = some v ∧
      siMapSdo 10 0 2 none none (typedReplies 2 3).raised = some v' ∧ v.found = v'.found ∧
      v.found = (16, 16, some 0, some 2) := by
  have hmailbox : (typedReplies 2 3).ReportsMailbox := by decide
  obtain ⟨v, hv, hfound⟩ : ∃ v, siMapSdo 10 0 2 none none (typedReplies 2 3) = some v ∧
      v.found = (16, 16, some 0, some 2) := ⟨_, rfl, by decide⟩
  obtain ⟨v', hv'⟩ : ∃ v', siMapSdo 10 0 2 none none (typedReplies 2 3).raised = some v' :=
    ⟨_, rfl⟩
  exact ⟨v, v', hv, hv', (workaround_corrects 0 2 _ hmailbox).2 10 10 v v' hv hv', hfound⟩

/-! ## The whole file -/

/-- The answers of a slave for which an entry can be written. -/
structure MapReplies.Mapped (replies : MapReplies) : Prop where
  finite : ∀ assigned ∈ replies.assignments, ¬ assigned.CountsForever
  outputs : OffsetAssigned replies.outputs
  inputs : OffsetAssigned replies.inputs

theorem mapped_of_generatedInfo {fuel : Nat} {replies : Nat → MapReplies} {entry : EcSlave × Nat}
    {json : Json} (h : generatedInfo fuel replies entry = .ok json) :
    (replies entry.2).Mapped := by
  have hends : (mapSlave fuel replies entry).isSome = true := by
    cases hv : mapSlave fuel replies entry with
    | some v => rfl
    | none =>
      rw [generatedInfo, hv] at h
      cases h
  obtain ⟨v, hv⟩ := Option.isSome_iff_exists.mp hends
  rcases generatedInfo_ok_or hends with ⟨hrx, htx, -⟩ | ⟨-, hfault⟩
  · exact ⟨siMapSdo_finite hv, hrx, htx⟩
  · rw [hfault] at h
    cases h

/-- The same fuel is enough for all slaves. -/
theorem MapReplies.Mapped.generatedInfo {replies : Nat → MapReplies} {entry : EcSlave × Nat}
    (h : (replies entry.2).Mapped) :
    ∃ json, generatedInfo 65536 replies entry = .ok json := by
  obtain ⟨v, hv⟩ := siMapSdo_ends (Int32.ofNat entry.1.outputs) (Int32.ofNat entry.1.inputs)
    h.finite (show 65535 < 65536 by decide)
  have hends : (mapSlave 65536 replies entry).isSome = true := Option.isSome_iff_exists.mpr ⟨v, hv⟩
  rcases generatedInfo_ok_or hends with ⟨-, -, hok⟩ | ⟨hnot, -⟩
  · exact hok
  · exact absurd ⟨h.outputs, h.inputs⟩ hnot

/-- The generator writes a document if and only if it can write the entries of all supported
slaves. -/
theorem generateInfo_ok_iff (replies : Nat → MapReplies) (bus : BusInit) :
    (∃ fuel json, generateInfo fuel replies bus = .ok json) ↔
      (bus.initOk = true → bus.configCount > 0 →
        ∀ entry ∈ configuredEntries bus.table, (replies entry.2).Mapped) := by
  constructor
  · rintro ⟨fuel, json, h⟩ hinit hcount entry hm
    rw [generateInfo, if_pos hinit, if_pos hcount] at h
    obtain ⟨slaves, hslaves, -⟩ := except_bind_ok h
    have hloop := (mapM_eq_ok_iff _ _ _).mp hslaves
    obtain ⟨i, hi, rfl⟩ := List.mem_iff_getElem.mp hm
    have hentry := (List.forall₂_iff_get.mp hloop).2 i hi (hloop.length_eq ▸ hi)
    exact mapped_of_generatedInfo hentry
  · intro h
    refine ⟨65536, ?_⟩
    unfold generateInfo
    dsimp only
    by_cases hinit : bus.initOk = true
    · by_cases hcount : bus.configCount > 0
      · obtain ⟨slaves, hslaves⟩ := exists_forall₂ fun entry hm =>
          (h hinit hcount entry hm).generatedInfo
        rw [if_pos hinit, if_pos hcount, (mapM_eq_ok_iff _ _ _).mpr hslaves]
        exact ⟨_, rfl⟩
      · rw [if_pos hinit, if_neg hcount]
        exact ⟨_, rfl⟩
    · rw [if_neg hinit]
      exact ⟨_, rfl⟩

/-- The fuel has no influence on the document. -/
theorem generateInfo_unique {fuel fuel' : Nat} {replies : Nat → MapReplies} {bus : BusInit}
    {json json' : Json} (h : generateInfo fuel replies bus = .ok json)
    (h' : generateInfo fuel' replies bus = .ok json') : json = json' := by
  have hinfo (entry : EcSlave × Nat) (info info' : Json)
      (hok : generatedInfo fuel replies entry = .ok info)
      (hok' : generatedInfo fuel' replies entry = .ok info') : info = info' := by
    unfold generatedInfo at hok hok'
    split at hok
    · cases hok
    · rename_i v hv
      split at hok'
      · cases hok'
      · rename_i v' hv'
        have hfound := siMapSdo_found_congr rfl rfl hv hv'
        simp only [MapSdo.found, Prod.mk.injEq] at hfound
        rw [hfound.2.2.1, hfound.2.2.2, hok'] at hok
        exact (Except.ok.inj hok).symm
  unfold generateInfo at h h'
  dsimp only at h h'
  split at h
  · rename_i hinit
    rw [if_pos hinit] at h'
    split at h
    · rename_i hcount
      rw [if_pos hcount] at h'
      obtain ⟨slaves, hslaves, hjson⟩ := except_bind_ok h
      obtain ⟨slaves', hslaves', hjson'⟩ := except_bind_ok h'
      have hloop := (mapM_eq_ok_iff _ _ _).mp hslaves
      have hloop' := (mapM_eq_ok_iff _ _ _).mp hslaves'
      have heq : slaves = slaves' := by
        have hlength := hloop.length_eq
        have hlength' := hloop'.length_eq
        apply List.ext_getElem (hlength.symm.trans hlength')
        intro i hi hi'
        exact hinfo _ _ _ ((List.forall₂_iff_get.mp hloop).2 i (hlength ▸ hi) hi)
          ((List.forall₂_iff_get.mp hloop').2 i (hlength ▸ hi) hi')
      rw [← Except.ok.inj hjson, ← Except.ok.inj hjson', heq]
    · rename_i hcount
      rw [if_neg hcount] at h'
      rw [← Except.ok.inj h, ← Except.ok.inj h']
  · rename_i hinit
    rw [if_neg hinit] at h'
    rw [← Except.ok.inj h, ← Except.ok.inj h']

/-- A bus that is not configured gives a file without slaves. -/
theorem getSlaves_getInfo_empty (heap : Nat → FreshMemory) (offsets : Nat → CInt × CInt)
    {bus : BusInit} (h : ¬ (bus.initOk = true ∧ bus.configCount > 0)) :
    PacketSniffer.getSlaves heap (getInfo offsets bus) = .ok ([], "") := by
  have hroot : getInfo offsets bus = .object [("Slaves", .array [])] := by
    unfold getInfo
    by_cases hinit : bus.initOk = true
    · rw [if_pos hinit, if_neg fun hcount => h ⟨hinit, hcount⟩]
      rfl
    · rw [if_neg hinit]
      rfl
  rw [hroot]
  rfl

/-- The generator writes a file, and the sniffer reads its slaves from it. -/
def FileUsable (parse : String → Except String Json) (write : Json → String)
    (heap : Nat → FreshMemory) (replies : Nat → MapReplies) (bus : BusInit) (filename : String) :
    Prop :=
  ∃ fuel json slaves, generateInfo fuel replies bus = .ok json ∧
    PacketSniffer.readConfig parse heap filename (some (write json)) = .ok (slaves, "")

/-- A drive with two bytes of outputs and two of inputs. -/
private def smallBus : BusInit where
  initOk := true
  configCount := 1
  state := ecStateSafeOp
  table := .single ⟨"KELOD105", 1280, 33558529, 1020, 4097, 0, 2, 2, 2⟩

private def smallDocument : Json :=
  getInfo (fun _ => (⟨0, intRange_zero⟩, ⟨2, by decide⟩)) smallBus

private def smallText : String :=
  "\x7b\n   \"Slaves\" : [\n      \x7b\n         \"Address\" : 4097,\n" ++
    "         \"EEP ID\" : 33558529,\n         \"EEP Man\" : 1280,\n" ++
    "         \"EEP Rev\" : 1020,\n         \"Name\" : \"KELOD105\",\n" ++
    "         \"RX start offset\" : 0,\n         \"Slave ID\" : 1,\n" ++
    "         \"TX start offset\" : 2\n      \x7d\n   ]\n\x7d\n"

private def smallParse (text : String) : Except String Json :=
  if text = smallText then .ok smallDocument else .error "Syntax error"

private theorem generateInfo_small :
    generateInfo 10 (fun _ => typedReplies 3 4) smallBus = .ok smallDocument := by
  rfl

end Kddv
