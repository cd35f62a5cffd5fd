import Kddv.Config.Entries
import Kddv.Slave.Document
import Kddv.Sniffer.Loop

/-!
# The order of the configured slaves

Two configs with the same entries in a different order give the subscribers the same
documents: decoding treats the slaves one by one, and a document is a map with one key for
each slave.
-/

namespace Kddv

open Framework

/-! ## Lists of the same slaves in different orders -/

/-- The same slave objects, in any order and possibly with other records. -/
def SameSlaveSet (left right : List EthercatSlave) : Prop :=
  ∃ sorted, left.Perm sorted ∧ EthercatSlave.SameSlaves sorted right

theorem SameSlaveSet.length_eq {left right : List EthercatSlave} (h : SameSlaveSet left right) :
    left.length = right.length := by
  obtain ⟨sorted, hperm, hsame⟩ := h
  rw [hperm.length_eq, hsame.length_eq]

/-- Decoding the same frame makes the records agree as well. -/
theorem SameSlaveSet.map_copySlave {left right : List EthercatSlave} (h : SameSlaveSet left right)
    (frame : Memory) : (left.map (copySlave frame)).Perm (right.map (copySlave frame)) := by
  obtain ⟨sorted, hperm, hsame⟩ := h
  rw [← map_copySlave_congr frame hsame]
  exact hperm.map _

theorem SameSlaveSet.of_perm {left right : List EthercatSlave} (h : left.Perm right) :
    SameSlaveSet left right :=
  ⟨right, h, .refl right⟩

theorem map_identity_congr {left right : List EthercatSlave}
    (h : EthercatSlave.SameSlaves left right) :
    left.map EthercatSlave.identity = right.map EthercatSlave.identity := by
  induction h with
  | nil => rfl
  | cons hfirst _ ih =>
    rw [List.map_cons, List.map_cons, ih, EthercatSlave.identity, EthercatSlave.identity, hfirst.1]

/-- With different names or numbers, the order of the slaves does not show in a document. -/
theorem convertToJson_perm (millis : Int) {left right : List EthercatSlave} (h : left.Perm right)
    (hnodup : (left.map EthercatSlave.identity).Nodup) :
    convertToJson millis left = convertToJson millis right := by
  have hkeys : ((left.map documentMember).map Prod.fst).Nodup := by
    have hkeys_eq : (left.map documentMember).map Prod.fst =
        (left.map EthercatSlave.identity).map documentKey := by
      rw [List.map_map, List.map_map]
      rfl
    rw [hkeys_eq, List.nodup_map_iff documentKey_injective]
    exact hnodup
  rw [convertToJson_eq, convertToJson_eq, documentMembers, documentMembers,
    Json.insertMembers_perm (h.map documentMember) hkeys (Json.sorted_singleton _)]

/-! ## Runs -/

/-- The output is not for the user interface of the process itself. -/
def SnifferOutput.isReported : SnifferOutput → Bool
  | .workingCounterIs _ _ => true
  | .dataCallback _ => false
  | .publishMsg _ => true

/-- The published documents and the printed mismatches of a run, in order. -/
def reported (results : List PacketResult) : List SnifferOutput :=
  (results.flatMap PacketResult.outputs).filter SnifferOutput.isReported

theorem reported_cons (result : PacketResult) (results : List PacketResult) :
    reported (result :: results) =
      result.outputs.filter SnifferOutput.isReported ++ reported results := by
  rw [reported, List.flatMap_cons, List.filter_append]
  rfl

private theorem reported_consumerOutputs (zmqPublishEnabled : Bool) (millis : Int)
    {left right : List EthercatSlave}
    (h : convertToJson millis left = convertToJson millis right) :
    (consumerOutputs zmqPublishEnabled millis left).filter SnifferOutput.isReported =
      (consumerOutputs zmqPublishEnabled millis right).filter SnifferOutput.isReported := by
  cases zmqPublishEnabled with
  | false => rfl
  | true =>
    change [SnifferOutput.publishMsg _] = [SnifferOutput.publishMsg _]
    rw [h]

/-- One frame: the same reports, and again the same slaves. -/
private theorem packetCallback_sameSlaveSet {left right : PacketSniffer} (packet : SniffedPacket)
    (hset : SameSlaveSet left.slaves right.slaves)
    (hnodup : (left.slaves.map EthercatSlave.identity).Nodup) :
    let step := fun sniffer : PacketSniffer =>
      packetCallback (sniffer.setZMQPublish packet.zmqPublishEnabled) packet.frame
        packet.millisecSinceEpoch
    (step left).outputs.filter SnifferOutput.isReported =
        (step right).outputs.filter SnifferOutput.isReported ∧
      SameSlaveSet (step left).sniffer.slaves (step right).sniffer.slaves ∧
      ((step left).sniffer.slaves.map EthercatSlave.identity).Nodup := by
  intro step
  have hidentity : (step left).sniffer.slaves.map EthercatSlave.identity =
      left.slaves.map EthercatSlave.identity :=
    map_identity_congr (packetCallback_sameSlaves _ _ _)
  by_cases haccepted : Accepted packet.frame
  · have hperm := hset.map_copySlave packet.frame
    have hdecoded : ((left.slaves.map (copySlave packet.frame)).map
        EthercatSlave.identity).Nodup := by
      rwa [List.map_map]
    have hdocument := convertToJson_perm packet.millisecSinceEpoch hperm hdecoded
    refine ⟨?_, ?_, hidentity ▸ hnodup⟩
    · rw [packetCallback_outputs _ _ _ haccepted, packetCallback_outputs _ _ _ haccepted,
        List.filter_append, List.filter_append]
      congr 1
      · exact congrArg (fun count => List.filter _ (mismatchOutputs count packet.frame))
          hset.length_eq
      · exact reported_consumerOutputs _ _ hdocument
    · rw [packetCallback_slaves, if_pos haccepted, packetCallback_slaves, if_pos haccepted]
      exact .of_perm hperm
  · have hleft := packetCallback_rejected (left.setZMQPublish packet.zmqPublishEnabled)
      packet.frame packet.millisecSinceEpoch haccepted
    have hright := packetCallback_rejected (right.setZMQPublish packet.zmqPublishEnabled)
      packet.frame packet.millisecSinceEpoch haccepted
    refine ⟨?_, ?_, hidentity ▸ hnodup⟩
    · rw [hleft.2, hright.2]
    · rw [hleft.1, hright.1]
      exact hset

/-- Runs that start with the same slaves report the same. -/
theorem reported_sameSlaveSet (packets : List SniffedPacket) {left right : PacketSniffer}
    (hset : SameSlaveSet left.slaves right.slaves)
    (hnodup : (left.slaves.map EthercatSlave.identity).Nodup) :
    reported (left.startSnifferLoop packets) = reported (right.startSnifferLoop packets) := by
  induction packets generalizing left right with
  | nil => rfl
  | cons packet packets ih =>
    obtain ⟨hreports, hset', hnodup'⟩ := packetCallback_sameSlaveSet packet hset hnodup
    rw [startSnifferLoop_cons, startSnifferLoop_cons, reported_cons, reported_cons, hreports,
      ih hset' hnodup']

/-! ## Configs -/

/-- No two entries are read with the same name and the same ID. -/
def DistinctIdentities (items : List Json) : Prop :=
  items.Pairwise fun left right => ∀ identity, HasIdentity left identity →
    ¬ HasIdentity right identity

/-- The slave is read from the entry, in some memory. -/
private def ReadFrom (entry : Json) (slave : EthercatSlave) : Prop :=
  ∃ memory, PacketSniffer.readSlave memory entry = .ok slave

private theorem ReadFrom.hasIdentity {entry : Json} {slave : EthercatSlave}
    (h : ReadFrom entry slave) : HasIdentity entry slave.identity := by
  obtain ⟨memory, hread⟩ := h
  exact (readSlave_ok hread).1

private theorem ReadFrom.sameSlave {entry : Json} {left right : EthercatSlave}
    (hleft : ReadFrom entry left) (hright : ReadFrom entry right) : left.SameSlave right := by
  obtain ⟨memory, hleft⟩ := hleft
  obtain ⟨memory', hright⟩ := hright
  have hagain := (readSlave_ok hleft).2 memory'
  rw [hright] at hagain
  rw [Except.ok.inj hagain]
  exact ⟨rfl, rfl⟩

private theorem sameSlaves_of_readFrom {items : List Json} {left right : List EthercatSlave}
    (hleft : List.Forall₂ ReadFrom items left) (hright : List.Forall₂ ReadFrom items right) :
    EthercatSlave.SameSlaves left right := by
  induction hleft generalizing right with
  | nil =>
    cases hright
    exact .nil
  | cons hfirst _ ih =>
    cases hright with
    | cons hfirst' hrest' => exact .cons (hfirst.sameSlave hfirst') (ih hrest')

private theorem nodup_identity_of_readFrom {items : List Json} {slaves : List EthercatSlave}
    (h : List.Forall₂ ReadFrom items slaves) (hdistinct : DistinctIdentities items) :
    (slaves.map EthercatSlave.identity).Nodup := by
  induction h with
  | nil => exact List.nodup_nil
  | @cons entry slave items slaves hfirst hrest ih =>
    obtain ⟨hentry, hitems⟩ := List.pairwise_cons.mp hdistinct
    refine List.nodup_cons.mpr ⟨?_, ih hitems⟩
    intro hmem
    obtain ⟨other, hother, heq⟩ := List.mem_map.mp hmem
    obtain ⟨i, hi, rfl⟩ := List.mem_iff_getElem.mp hother
    have hi' : i < items.length := by rwa [hrest.length_eq]
    have hread : ReadFrom items[i] slaves[i] := (List.forall₂_iff_get.mp hrest).2 i hi' hi
    exact hentry items[i] (List.getElem_mem hi') _ hfirst.hasIdentity (heq ▸ hread.hasIdentity)

private theorem getSlaves_readFrom {heap : Nat → FreshMemory} {members : List (String × Json)}
    {items : List Json} (hitems : members.lookup "Slaves" = some (.array items))
    {slaves : List EthercatSlave} {error : String}
    (h : PacketSniffer.getSlaves heap (.object members) = .ok (slaves, error)) :
    List.Forall₂ ReadFrom items slaves := by
  obtain ⟨-, hread⟩ := (getSlaves_ok_iff heap members items hitems slaves error).mp h
  exact (forall₂_zipIdx_iff _ _).mp (hread.imp fun _ _ h => ⟨_, h⟩)

/-- If all entries can be read in some memory, the config can be read. -/
private theorem getSlaves_of_readFrom (heap : Nat → FreshMemory) {members : List (String × Json)}
    {items : List Json} (hitems : members.lookup "Slaves" = some (.array items))
    (h : ∀ entry ∈ items, ∃ slave, ReadFrom entry slave) :
    ∃ slaves, PacketSniffer.getSlaves heap (.object members) = .ok (slaves, "") := by
  have hread : ∀ entry ∈ items.zipIdx, ∃ slave,
      PacketSniffer.readSlave (heap entry.2) entry.1 = .ok slave := by
    intro entry hentry
    obtain ⟨slave, memory, hslave⟩ := h _ (List.fst_mem_of_mem_zipIdx hentry)
    exact ⟨_, (readSlave_ok hslave).2 (heap entry.2)⟩
  obtain ⟨slaves, hall⟩ := exists_forall₂ hread
  exact ⟨slaves, (getSlaves_ok_iff heap members items hitems slaves "").mpr ⟨rfl, hall⟩⟩

/-- A config and a permutation of it, with any other members and in any memory: either both
raise, or over any captured frames both give the same documents and the same mismatches. -/
theorem permuted_config_reports (heap heap' : Nat → FreshMemory)
    (members members' : List (String × Json)) (items items' : List Json)
    (hitems : members.lookup "Slaves" = some (.array items))
    (hitems' : members'.lookup "Slaves" = some (.array items')) (hperm : items'.Perm items)
    (hdistinct : DistinctIdentities items) :
    ((∃ fault, PacketSniffer.getSlaves heap (.object members) = .error fault) ∧
      ∃ fault, PacketSniffer.getSlaves heap' (.object members') = .error fault) ∨
    ∃ slaves slaves', PacketSniffer.getSlaves heap (.object members) = .ok (slaves, "") ∧
      PacketSniffer.getSlaves heap' (.object members') = .ok (slaves', "") ∧
      ∀ zmqPublishEnabled packets,
        reported (PacketSniffer.startSnifferLoop ⟨slaves, zmqPublishEnabled⟩ packets) =
          reported (PacketSniffer.startSnifferLoop ⟨slaves', zmqPublishEnabled⟩ packets) := by
  by_cases hreadable : ∀ entry ∈ items, ∃ slave, ReadFrom entry slave
  · right
    obtain ⟨slaves, hok⟩ := getSlaves_of_readFrom heap hitems hreadable
    obtain ⟨slaves', hok'⟩ := getSlaves_of_readFrom heap' hitems' fun entry hentry =>
      hreadable entry (hperm.mem_iff.mp hentry)
    have hread := getSlaves_readFrom hitems hok
    obtain ⟨sorted, hsorted, hsortedPerm⟩ :=
      List.perm_comp_forall₂ hperm.symm (getSlaves_readFrom hitems' hok')
    have hset : SameSlaveSet slaves' slaves :=
      ⟨sorted, hsortedPerm.symm, sameSlaves_of_readFrom hsorted hread⟩
    have hnodup : (slaves'.map EthercatSlave.identity).Nodup :=
      (hsortedPerm.map _).nodup_iff.mp (nodup_identity_of_readFrom hsorted hdistinct)
    refine ⟨slaves, slaves', hok, hok', ?_⟩
    intro zmqPublishEnabled packets
    exact (reported_sameSlaveSet packets hset hnodup).symm
  · left
    have hfails : ∀ (heap : Nat → FreshMemory) (members : List (String × Json)) (items' : List Json),
        members.lookup "Slaves" = some (.array items') → items'.Perm items →
        ∃ fault, PacketSniffer.getSlaves heap (.object members) = .error fault := by
      intro heap members items' hlookup hperm'
      cases hresult : PacketSniffer.getSlaves heap (.object members) with
      | error fault => exact ⟨fault, rfl⟩
      | ok result =>
        obtain ⟨slaves, error⟩ := result
        have hread := getSlaves_readFrom hlookup hresult
        refine absurd (fun entry hentry => ?_) hreadable
        obtain ⟨i, hi, rfl⟩ := List.mem_iff_getElem.mp (hperm'.mem_iff.mpr hentry)
        exact ⟨_, (List.forall₂_iff_get.mp hread).2 i hi (hread.length_eq ▸ hi)⟩
    exact ⟨hfails heap members items hitems (.refl _), hfails heap' members' items' hitems' hperm⟩

private theorem hasIdentity_namedEntry {name : String} {identity : String × Int}
    (h : HasIdentity (.object (namedEntry name)) identity) : identity.1 = name :=
  (Except.ok.inj h.1).symm

/-- A battery and a drive in both orders. -/
theorem permuted_config_reports_battery_drive :
    let battery := Json.object (namedEntry "KELO_ROBILE")
    let drive := Json.object (namedEntry "SWMC")
    let config := Json.object [("Slaves", .array [battery, drive])]
    let permuted := Json.object [("Slaves", .array [drive, battery])]
    ((∃ fault, PacketSniffer.getSlaves (fun _ => default) config = .error fault) ∧
      ∃ fault, PacketSniffer.getSlaves (fun _ => default) permuted = .error fault) ∨
    ∃ slaves slaves', PacketSniffer.getSlaves (fun _ => default) config = .ok (slaves, "") ∧
      PacketSniffer.getSlaves (fun _ => default) permuted = .ok (slaves', "") ∧
      ∀ zmqPublishEnabled packets,
        reported (PacketSniffer.startSnifferLoop ⟨slaves, zmqPublishEnabled⟩ packets) =
          reported (PacketSniffer.startSnifferLoop ⟨slaves', zmqPublishEnabled⟩ packets) := by
  apply permuted_config_reports (fun _ => default) (fun _ => default) _ _ _ _ rfl rfl
    (List.Perm.swap _ _ _)
  refine List.pairwise_pair.mpr ?_
  intro identity hbattery hdrive
  have hname := (hasIdentity_namedEntry hbattery).symm.trans (hasIdentity_namedEntry hdrive)
  exact absurd hname (by decide)

end Kddv
