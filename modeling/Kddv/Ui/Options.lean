import Kddv.Ui.Arguments

/-!
# Documented options

The command line as the README and the usage text describe it: groups of an option with its value,
in any order, that supply the inputs which the source needs.
-/

namespace Kddv

open Framework

/-- A documented option with its value. -/
inductive OptionGroup
  | value (option : ValueOption) (text : String)
  | enableZmq
  | start
deriving DecidableEq

/-- The option as it is documented. -/
def ValueOption.flag : ValueOption → String
  | .src => "--src"
  | .iface => "--iface"
  | .config => "--config"
  | .pcap => "--pcap"
  | .zmqPort => "--zmq_port"

namespace OptionGroup

def flag : OptionGroup → String
  | value option _ => option.flag
  | enableZmq => "--enable_zmq"
  | start => "--start"

def arguments : OptionGroup → List String
  | value option text => [option.flag, text]
  | enableZmq => ["--enable_zmq"]
  | start => ["--start"]

/-- A source is one of the three that are documented, another value is not empty. -/
def Valid : OptionGroup → Prop
  | value .src source => source ∈ ["ecat", "sniffer", "pcap"]
  | value _ text => text ≠ ""
  | _ => True

instance : (group : OptionGroup) → Decidable group.Valid
  | value .src source => inferInstanceAs (Decidable (source ∈ ["ecat", "sniffer", "pcap"]))
  | value .iface text | value .config text | value .pcap text | value .zmqPort text =>
    inferInstanceAs (Decidable (text ≠ ""))
  | enableZmq | start => inferInstanceAs (Decidable True)

end OptionGroup

/-- What is to be specified for a source. -/
def neededInputs (source : String) : List ValueOption :=
  if source = "ecat" then [.iface]
  else if source = "sniffer" then [.iface, .config]
  else if source = "pcap" then [.config, .pcap]
  else []

/-- The groups name a source and supply the inputs that it needs. -/
def SuppliesInputs (groups : List OptionGroup) : Prop :=
  ∃ source, .value .src source ∈ groups ∧
    ∀ option ∈ neededInputs source, ∃ text, .value option text ∈ groups

theorem SuppliesInputs.mono {groups groups' : List OptionGroup} (h : SuppliesInputs groups)
    (hsubset : groups ⊆ groups') : SuppliesInputs groups' := by
  obtain ⟨source, hm, hneeded⟩ := h
  refine ⟨source, hsubset hm, fun option hoption => ?_⟩
  obtain ⟨text, htext⟩ := hneeded option hoption
  exact ⟨text, hsubset htext⟩

/-- The settings are those that the groups supply, in whatever order they stand. -/
structure SuppliedBy (groups : List OptionGroup) (s : Settings) : Prop where
  value : ∀ option text, .value option text ∈ groups → s.get option = text
  default : ∀ option, (∀ text, .value option text ∉ groups) →
    s.get option = Settings.initial.get option
  publishZmq : s.publishZmq = true ↔ .enableZmq ∈ groups
  start : s.start = true ↔ .start ∈ groups

/-- The command line that consists of the groups. -/
def commandLine (groups : List OptionGroup) : List String := groups.flatMap OptionGroup.arguments

/-! ## The loop over groups -/

/-- What the loop does with a group. The documented option for ZMQ is not one that it knows. -/
def readGroup (usage : Bool) (onStart : Settings → Except Refusal Settings) (s : Settings) :
    OptionGroup → Except Refusal Settings
  | .value option text => assignValue usage s option text
  | .enableZmq => .error ⟨[], true⟩
  | .start => onStart s

theorem ofArgument_flag (option : ValueOption) :
    MainOption.ofArgument option.flag = some (.value option) := by
  cases option <;> rfl

theorem argumentLoop_groups (usage : Bool) (onStart : Settings → Except Refusal Settings)
    (groups : List OptionGroup) (s : Settings) :
    argumentLoop usage onStart s (commandLine groups) =
      groups.foldlM (readGroup usage onStart) s := by
  induction groups generalizing s with
  | nil => rfl
  | cons group groups ih =>
    rw [List.foldlM_cons, commandLine, List.flatMap_cons, ← commandLine]
    cases group with
    | value option text =>
      change argumentLoop usage onStart s (option.flag :: text :: commandLine groups) = _
      rw [argumentLoop_value (ofArgument_flag option)]
      exact bind_congr ih
    | enableZmq => exact argumentLoop_unknown rfl
    | start =>
      change argumentLoop usage onStart s ("--start" :: commandLine groups) = _
      rw [argumentLoop_start rfl]
      exact bind_congr ih

/-- The settings after a group that is accepted. -/
def applyGroup (s : Settings) : OptionGroup → Settings
  | .value option text => s.set option text
  | .enableZmq => s
  | .start => { s with start := true }

section

variable {groups : List OptionGroup} {option : ValueOption} {text : String} (s : Settings)

theorem get_foldl_of_notMem (h : ∀ text, .value option text ∉ groups) :
    (groups.foldl applyGroup s).get option = s.get option := by
  induction groups generalizing s with
  | nil => rfl
  | cons group groups ih =>
    have hrest : ∀ text, OptionGroup.value option text ∉ groups :=
      fun text hm => h text (List.mem_cons_of_mem _ hm)
    rw [List.foldl_cons, ih _ hrest]
    cases group with
    | value option' text =>
      have hne : option ≠ option' := by
        rintro rfl
        exact h text List.mem_cons_self
      rw [applyGroup, Settings.get_set, if_neg hne]
    | enableZmq => rfl
    | start => cases option <;> rfl

theorem get_foldl_of_mem (hdistinct : (groups.map OptionGroup.flag).Nodup)
    (h : .value option text ∈ groups) : (groups.foldl applyGroup s).get option = text := by
  induction groups generalizing s with
  | nil => cases h
  | cons group groups ih =>
    obtain ⟨hfirst, hrest⟩ := List.nodup_cons.mp hdistinct
    rw [List.foldl_cons]
    rcases List.mem_cons.mp h with rfl | hm
    · have hlater : ∀ text, OptionGroup.value option text ∉ groups :=
        fun text hm => hfirst (List.mem_map.mpr ⟨_, hm, rfl⟩)
      rw [get_foldl_of_notMem _ hlater, applyGroup, Settings.get_set, if_pos rfl]
    · exact ih _ hrest hm

theorem start_foldl :
    (groups.foldl applyGroup s).start = true ↔ s.start = true ∨ .start ∈ groups := by
  induction groups generalizing s with
  | nil => simp
  | cons group groups ih =>
    rw [List.foldl_cons, ih, List.mem_cons]
    cases group with
    | value option text => simp [applyGroup]
    | enableZmq => simp [applyGroup]
    | start => simp [applyGroup]

theorem publishZmq_foldl : (groups.foldl applyGroup s).publishZmq = s.publishZmq := by
  induction groups generalizing s with
  | nil => rfl
  | cons group groups ih =>
    rw [List.foldl_cons, ih]
    cases group with
    | value option text => exact Settings.set_publishZmq s option text
    | enableZmq => rfl
    | start => rfl

end

theorem suppliedBy_foldl {groups : List OptionGroup}
    (hdistinct : (groups.map OptionGroup.flag).Nodup) (hzmq : .enableZmq ∉ groups) :
    SuppliedBy groups (groups.foldl applyGroup .initial) where
  value option text hm := get_foldl_of_mem _ hdistinct hm
  default option hnot := get_foldl_of_notMem _ hnot
  publishZmq := by
    rw [publishZmq_foldl]
    exact ⟨nofun, fun hm => absurd hm hzmq⟩
  start := by
    rw [start_foldl]
    exact ⟨fun h => h.resolve_left nofun, .inr⟩

/-- The order of the groups does not matter. -/
theorem SuppliedBy.unique {groups groups' : List OptionGroup} {s s' : Settings}
    (hperm : ∀ group, group ∈ groups ↔ group ∈ groups') (h : SuppliedBy groups s)
    (h' : SuppliedBy groups' s') : s = s' := by
  have hget : ∀ option, s.get option = s'.get option := by
    intro option
    by_cases hsupplied : ∃ text, .value option text ∈ groups
    · obtain ⟨text, hm⟩ := hsupplied
      rw [h.value option text hm, h'.value option text ((hperm _).mp hm)]
    · rw [not_exists] at hsupplied
      rw [h.default option hsupplied,
        h'.default option fun text hm => hsupplied text ((hperm _).mpr hm)]
  have hstart : s.start = s'.start := by
    rw [Bool.eq_iff_iff, h.start, h'.start, hperm]
  have hpublishZmq : s.publishZmq = s'.publishZmq := by
    rw [Bool.eq_iff_iff, h.publishZmq, h'.publishZmq, hperm]
  obtain ⟨source, iface, config, pcap, start, port, zmq⟩ := s
  rw [Settings.mk.injEq]
  exact ⟨hget .src, hget .iface, hget .config, hget .pcap, hstart, hget .zmqPort, hpublishZmq⟩

/-! ## The checks -/

theorem checkInputs_eq_ok_iff (usage : Bool) (s : Settings) :
    checkInputs usage s = .ok () ↔
      s.get .src ≠ "" ∧ ∀ option ∈ neededInputs (s.get .src), s.get option ≠ "" := by
  obtain ⟨source, iface, config, pcap, start, port, zmq⟩ := s
  simp only [checkInputs, neededInputs, Settings.get]
  split_ifs <;> simp_all

theorem OptionGroup.Valid.ne_empty {option : ValueOption} {text : String}
    (h : (OptionGroup.value option text).Valid) : text ≠ "" := by
  cases option with
  | src =>
    rintro rfl
    revert h
    decide
  | iface | config | pcap | zmqPort => exact h

private theorem initial_get_eq_empty {option : ValueOption} (h : option ≠ .zmqPort) :
    Settings.initial.get option = "" := by
  cases option with
  | zmqPort => exact absurd rfl h
  | src | iface | config | pcap => rfl

private theorem zmqPort_notMem_neededInputs (source : String) :
    .zmqPort ∉ neededInputs source := by
  unfold neededInputs
  split_ifs <;> decide

/-- The checks succeed after groups that supply the inputs. -/
theorem checkInputs_foldl_iff (usage : Bool) {groups : List OptionGroup}
    (hdistinct : (groups.map OptionGroup.flag).Nodup) (hvalid : ∀ group ∈ groups, group.Valid) :
    checkInputs usage (groups.foldl applyGroup .initial) = .ok () ↔ SuppliesInputs groups := by
  have hsupplied : ∀ option text, .value option text ∈ groups →
      (groups.foldl applyGroup .initial).get option = text :=
    fun option text hm => get_foldl_of_mem _ hdistinct hm
  have hne_iff : ∀ option, option ≠ .zmqPort →
      ((groups.foldl applyGroup .initial).get option ≠ "" ↔
        ∃ text, .value option text ∈ groups) := by
    intro option hport
    constructor
    · intro hne
      by_contra hnot
      rw [get_foldl_of_notMem _ (not_exists.mp hnot), initial_get_eq_empty hport] at hne
      exact hne rfl
    · rintro ⟨text, hm⟩
      rw [hsupplied option text hm]
      exact (hvalid _ hm).ne_empty
  rw [checkInputs_eq_ok_iff, hne_iff .src nofun]
  constructor
  · rintro ⟨⟨source, hm⟩, hneeded⟩
    rw [hsupplied .src source hm] at hneeded
    refine ⟨source, hm, fun option hoption => ?_⟩
    have hport : option ≠ .zmqPort := by
      rintro rfl
      exact zmqPort_notMem_neededInputs source hoption
    exact (hne_iff option hport).mp (hneeded option hoption)
  · rintro ⟨source, hm, hneeded⟩
    refine ⟨⟨source, hm⟩, ?_⟩
    rw [hsupplied .src source hm]
    intro option hoption
    obtain ⟨text, htext⟩ := hneeded option hoption
    rw [hsupplied option text htext]
    exact (hvalid _ htext).ne_empty

/-! ## The programs -/

/-- The places of `--start` in a longer list of groups. -/
private theorem forall_start_cons {p : Settings → Prop} (group : OptionGroup)
    (groups : List OptionGroup) (s : Settings) :
    (∀ before after, group :: groups = before ++ OptionGroup.start :: after →
        p (before.foldl applyGroup s)) ↔
      (group = .start → p s) ∧ ∀ before after, groups = before ++ OptionGroup.start :: after →
        p (before.foldl applyGroup (applyGroup s group)) := by
  constructor
  · intro h
    refine ⟨fun hstart => h [] groups (by rw [hstart]; rfl), fun before after heq => ?_⟩
    exact h (group :: before) after (by rw [heq]; rfl)
  · rintro ⟨hfirst, hlater⟩ before after heq
    cases before with
    | nil => exact hfirst (List.cons.inj heq).1
    | cons first before =>
      obtain ⟨rfl, hrest⟩ := List.cons.inj heq
      exact hlater before after hrest

private theorem assignValue_of_valid (usage : Bool) (s : Settings) {option : ValueOption}
    {text : String} (h : (OptionGroup.value option text).Valid) :
    assignValue usage s option text = .ok (s.set option text) := by
  apply if_neg
  rintro ⟨rfl, hecat, hsniffer, hpcap⟩
  have hsource : text ∈ ["ecat", "sniffer", "pcap"] := h
  simp only [List.mem_cons, List.not_mem_nil, or_false] at hsource
  rcases hsource with heq | heq | heq
  · exact hecat heq
  · exact hsniffer heq
  · exact hpcap heq

/-- A program that sets the flag at `--start`, possibly after a check. -/
private theorem foldlM_ok_iff (usage : Bool) (check : Settings → Except Refusal Unit)
    {groups : List OptionGroup} (hvalid : ∀ group ∈ groups, group.Valid) (s r : Settings) :
    groups.foldlM (readGroup usage fun s => do check s; return { s with start := true }) s =
        .ok r ↔
      r = groups.foldl applyGroup s ∧ .enableZmq ∉ groups ∧
        ∀ before after, groups = before ++ OptionGroup.start :: after →
          check (before.foldl applyGroup s) = .ok () := by
  induction groups generalizing s with
  | nil =>
    rw [List.foldlM_nil]
    constructor
    · intro h
      refine ⟨(Except.ok.inj h).symm, nofun, fun before after hnil => ?_⟩
      exact absurd hnil.symm (List.append_ne_nil_of_right_ne_nil before (List.cons_ne_nil _ _))
    · rintro ⟨rfl, -⟩
      rfl
  | cons group groups ih =>
    have hrest : ∀ group ∈ groups, group.Valid :=
      fun group hm => hvalid group (List.mem_cons_of_mem _ hm)
    rw [List.foldlM_cons, forall_start_cons (p := fun s => check s = .ok ()), List.foldl_cons,
      List.mem_cons, not_or]
    cases group with
    | value option text =>
      rw [readGroup, assignValue_of_valid usage s (hvalid _ List.mem_cons_self)]
      refine (ih hrest (s.set option text)).trans ?_
      simp [applyGroup]
    | enableZmq =>
      constructor
      · intro h
        cases h
      · rintro ⟨-, ⟨hne, -⟩, -⟩
        exact absurd rfl hne
    | start =>
      cases hs : check s with
      | ok =>
        have hread : readGroup usage (fun s => do check s; return { s with start := true }) s
            .start = .ok { s with start := true } := by
          rw [readGroup, hs]
          rfl
        rw [hread]
        refine (ih hrest { s with start := true }).trans ?_
        simp [applyGroup]
      | error refusal =>
        have hread : readGroup usage (fun s => do check s; return { s with start := true }) s
            .start = .error refusal := by
          rw [readGroup, hs]
          rfl
        rw [hread]
        constructor
        · intro h
          cases h
        · rintro ⟨-, -, hcheck, -⟩
          cases hcheck rfl

/-- A program accepts the groups with the settings that they supply. -/
def Accepts (program : List String → Except Refusal Settings) (groups : List OptionGroup) : Prop :=
  ∃ s, program (commandLine groups) = .ok s ∧ SuppliedBy groups s

section

variable {groups : List OptionGroup} (hdistinct : (groups.map OptionGroup.flag).Nodup)
  (hvalid : ∀ group ∈ groups, group.Valid)

include hdistinct hvalid

theorem guiMain_accepts_iff :
    Accepts guiMain groups ↔ .enableZmq ∉ groups ∧
      ∀ before after, groups = before ++ .start :: after → SuppliesInputs before := by
  have hloop : ∀ s, guiMain (commandLine groups) = .ok s ↔
      s = groups.foldl applyGroup .initial ∧ .enableZmq ∉ groups ∧
        ∀ before after, groups = before ++ .start :: after →
          checkInputs false (before.foldl applyGroup .initial) = .ok () := by
    intro s
    rw [guiMain, argumentLoop_groups]
    exact foldlM_ok_iff false (checkInputs false) hvalid .initial s
  have hchecks : ∀ before after, groups = before ++ .start :: after →
      (checkInputs false (before.foldl applyGroup .initial) = .ok () ↔ SuppliesInputs before) := by
    rintro before after rfl
    rw [List.map_append, List.nodup_append] at hdistinct
    exact checkInputs_foldl_iff false hdistinct.1
      fun group hm => hvalid group (List.mem_append_left _ hm)
  constructor
  · rintro ⟨s, haccepted, -⟩
    obtain ⟨-, hzmq, hstart⟩ := (hloop s).mp haccepted
    exact ⟨hzmq, fun before after heq => (hchecks before after heq).mp (hstart before after heq)⟩
  · rintro ⟨hzmq, hstart⟩
    refine ⟨_, (hloop _).mpr ⟨rfl, hzmq, fun before after heq => ?_⟩,
      suppliedBy_foldl hdistinct hzmq⟩
    exact (hchecks before after heq).mpr (hstart before after heq)

theorem tuiMain_accepts_iff (hsupplies : SuppliesInputs groups) :
    Accepts tuiMain groups ↔ .enableZmq ∉ groups := by
  have hloop : ∀ s, argumentLoop true tuiStart .initial (commandLine groups) = .ok s ↔
      s = groups.foldl applyGroup .initial ∧ .enableZmq ∉ groups := by
    intro s
    rw [argumentLoop_groups]
    refine (foldlM_ok_iff true (fun _ => .ok ()) hvalid .initial s).trans ?_
    simp
  constructor
  · rintro ⟨s, haccepted, -⟩
    obtain ⟨s', hs', -⟩ := except_bind_ok haccepted
    exact ((hloop s').mp hs').2
  · intro hzmq
    have hcheck := (checkInputs_foldl_iff true hdistinct hvalid).mpr hsupplies
    refine ⟨groups.foldl applyGroup .initial, ?_, suppliedBy_foldl hdistinct hzmq⟩
    rw [tuiMain, (hloop _).mpr ⟨rfl, hzmq⟩]
    change (checkInputs true _ >>= fun _ => Except.ok _) = _
    rw [hcheck]
    rfl

end

/-- Both programs accept a documented command line if and only if it does not enable ZMQ in the
documented way, and names the source and its inputs before it asks to start. -/
theorem documented_accepted_iff (groups : List OptionGroup)
    (hdistinct : (groups.map OptionGroup.flag).Nodup) (hvalid : ∀ group ∈ groups, group.Valid)
    (hsupplies : SuppliesInputs groups) :
    Accepts guiMain groups ∧ Accepts tuiMain groups ↔
      .enableZmq ∉ groups ∧
        ∀ before after, groups = before ++ .start :: after → SuppliesInputs before := by
  rw [guiMain_accepts_iff hdistinct hvalid, tuiMain_accepts_iff hdistinct hvalid hsupplies]
  exact ⟨And.left, fun h => ⟨h, h.1⟩⟩

/-- A recording, with the port after `--start`. -/
private def recording : List OptionGroup :=
  [.value .pcap "robile.pcapng", .value .src "pcap", .value .config "robile.json", .start,
    .value .zmqPort "9000"]

theorem documented_accepted_recording : Accepts guiMain recording ∧ Accepts tuiMain recording := by
  have hsupplies : SuppliesInputs (recording.take 3) := by
    refine ⟨"pcap", by decide, fun option hoption => ?_⟩
    have hinputs : option = .config ∨ option = .pcap := by simpa [neededInputs] using hoption
    rcases hinputs with rfl | rfl
    · exact ⟨"robile.json", by decide⟩
    · exact ⟨"robile.pcapng", by decide⟩
  have hbefore : ∀ before after, recording = before ++ .start :: after →
      before = recording.take 3 := by
    intro before after heq
    have hsplit : recording.take 3 ++ .start :: [.value .zmqPort "9000"] =
        before ++ .start :: after := heq
    exact ((List.append_cons_inj_of_notMem (by decide) (by decide)).mp hsplit).1.symm
  apply (documented_accepted_iff recording (by decide) (by decide)
    (hsupplies.mono (List.take_subset 3 recording))).mpr
  refine ⟨by decide, fun before after heq => ?_⟩
  rw [hbefore before after heq]
  exact hsupplies

/-- An example of the README. -/
private def readmeExample : List OptionGroup :=
  [.value .src "ecat", .value .iface "enp2s0", .enableZmq]

theorem documented_refused :
    ¬ ∀ groups : List OptionGroup, (groups.map OptionGroup.flag).Nodup →
      (∀ group ∈ groups, group.Valid) → SuppliesInputs groups →
      Accepts guiMain groups ∧ Accepts tuiMain groups := by
  intro h
  have hsupplies : SuppliesInputs readmeExample := by
    refine ⟨"ecat", by decide, fun option hoption => ?_⟩
    obtain rfl : option = .iface := by simpa [neededInputs] using hoption
    exact ⟨"enp2s0", by decide⟩
  obtain ⟨-, s, hrefused, -⟩ := h readmeExample (by decide) (by decide) hsupplies
  cases hrefused

end Kddv
