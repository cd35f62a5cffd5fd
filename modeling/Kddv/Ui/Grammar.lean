import Kddv.Ui.Options

/-!
# The language of the command line

Which argument lists the two programs accept, with which settings, and at which argument and with
which message they refuse the others.
-/

namespace Kddv

open Framework

/-- What the loop reads at once. -/
inductive Token
  | value (option : ValueOption) (text : String)
  | start
  | publishZmq
deriving DecidableEq

namespace Token

def arguments : Token → List String
  | value option text => [option.flag, text]
  | start => ["--start"]
  | publishZmq => ["--publish_zmq"]

def assign (s : Settings) : Token → Settings
  | value option text => s.set option text
  | start => { s with start := true }
  | publishZmq => { s with publishZmq := true }

end Token

/-- The values of `--src`. -/
def inputSources : List String := ["ecat", "sniffer", "pcap"]

/-- Any text is a value of the other options. -/
def Token.Valid : Token → Prop
  | value .src source => source ∈ inputSources
  | _ => True

/-- The arguments that the tokens stand for. -/
def written (tokens : List Token) : List String := tokens.flatMap Token.arguments

@[simp] theorem written_cons (token : Token) (tokens : List Token) :
    written (token :: tokens) = token.arguments ++ written tokens := rfl

/-- The settings after the tokens. -/
def settingsOf (tokens : List Token) : Settings := tokens.foldl Token.assign .initial

/-- The tokens are valid, and the check succeeds at each `--start`. -/
def Readable (check : Settings → Except Refusal Unit) : Settings → List Token → Prop
  | _, [] => True
  | s, token :: tokens => token.Valid ∧ (token = .start → check s = .ok ()) ∧
      Readable check (token.assign s) tokens

/-- The arguments that the loop compares with. -/
def knownArguments : List String :=
  ["--src", "--iface", "--config", "--pcap", "--start", "--zmq_port", "--publish_zmq"]

/-- What is printed at the first argument that cannot be read after these settings. -/
inductive FirstFault (usage : Bool) (check : Settings → Except Refusal Unit) (s : Settings) :
    List String → Refusal → Prop
  | missing (option : ValueOption) : FirstFault usage check s [option.flag]
      ⟨["Specified argument " ++ option.flag ++ " but did not provide a value "], usage⟩
  | source (source : String) (rest : List String) : source ∉ inputSources →
      FirstFault usage check s ("--src" :: source :: rest)
        ⟨["Invalid input source " ++ source, "Valid sources are: 'ecat', 'sniffer' and 'pcap' "],
          usage⟩
  | start (refusal : Refusal) (rest : List String) : check s = .error refusal →
      FirstFault usage check s ("--start" :: rest) refusal
  | unknown (arg : String) (rest : List String) : arg ∉ knownArguments →
      FirstFault usage check s (arg :: rest) ⟨[], true⟩

/-! ## Arguments and tokens -/

theorem ofArgument_eq_none_iff (arg : String) :
    MainOption.ofArgument arg = none ↔ arg ∉ knownArguments := by
  unfold MainOption.ofArgument knownArguments
  split_ifs <;> simp_all

theorem ofArgument_eq_publishZmq_iff (arg : String) :
    MainOption.ofArgument arg = some .publishZmq ↔ arg = "--publish_zmq" := by
  unfold MainOption.ofArgument
  split_ifs <;> simp_all

theorem ofArgument_eq_value_iff (arg : String) (option : ValueOption) :
    MainOption.ofArgument arg = some (.value option) ↔ arg = option.flag := by
  constructor
  · unfold MainOption.ofArgument
    split_ifs <;> simp_all
    all_goals
      rintro rfl
      rfl
  · rintro rfl
    exact ofArgument_flag option

theorem ofArgument_start : MainOption.ofArgument "--start" = some .start :=
  (ofArgument_eq_start_iff _).mpr rfl

theorem ofArgument_publishZmq : MainOption.ofArgument "--publish_zmq" = some .publishZmq :=
  (ofArgument_eq_publishZmq_iff _).mpr rfl

/-- What the loop makes of the first argument of a token. -/
private def Token.toOption : Token → MainOption
  | value option _ => .value option
  | start => .start
  | publishZmq => .publishZmq

private theorem written_head (token : Token) (tokens : List Token) :
    ∃ arg rest, written (token :: tokens) = arg :: rest ∧
      MainOption.ofArgument arg = some token.toOption := by
  cases token with
  | value option text => exact ⟨_, _, rfl, ofArgument_flag option⟩
  | start => exact ⟨_, _, rfl, ofArgument_start⟩
  | publishZmq => exact ⟨_, _, rfl, ofArgument_publishZmq⟩

/-- A command line is read in one way only. -/
theorem written_injective : Function.Injective written := by
  intro tokens tokens' h
  induction tokens generalizing tokens' with
  | nil =>
    cases tokens' with
    | nil => rfl
    | cons token tokens' =>
      obtain ⟨arg, rest, hhead, -⟩ := written_head token tokens'
      rw [hhead] at h
      cases h
  | cons token tokens ih =>
    obtain ⟨arg, rest, hhead, hoption⟩ := written_head token tokens
    cases tokens' with
    | nil =>
      rw [hhead] at h
      cases h
    | cons token' tokens' =>
      obtain ⟨arg', rest', hhead', hoption'⟩ := written_head token' tokens'
      have harg : arg = arg' := by
        rw [hhead, hhead'] at h
        exact (List.cons.inj h).1
      subst harg
      rw [hoption] at hoption'
      -- both tokens begin with the same option
      cases token with
      | value option text =>
        cases token' with
        | value option' text' =>
          cases hoption'
          simp only [written_cons, Token.arguments, List.cons_append, List.nil_append,
            List.cons.injEq, true_and] at h
          rw [h.1, ih h.2]
        | start => cases hoption'
        | publishZmq => cases hoption'
      | start =>
        cases token' with
        | value option' text' => cases hoption'
        | start =>
          simp only [written_cons, List.append_cancel_left_eq] at h
          rw [ih h]
        | publishZmq => cases hoption'
      | publishZmq =>
        cases token' with
        | value option' text' => cases hoption'
        | start => cases hoption'
        | publishZmq =>
          simp only [written_cons, List.append_cancel_left_eq] at h
          rw [ih h]

/-! ## The loop -/

theorem assignValue_eq (usage : Bool) (s : Settings) (option : ValueOption) (text : String) :
    assignValue usage s option text =
      if option = .src ∧ text ∉ inputSources then
        .error ⟨["Invalid input source " ++ text,
          "Valid sources are: 'ecat', 'sniffer' and 'pcap' "], usage⟩
      else .ok (s.set option text) := by
  unfold assignValue inputSources
  simp

theorem valid_value_iff (option : ValueOption) (text : String) :
    (Token.value option text).Valid ↔ ¬ (option = .src ∧ text ∉ inputSources) := by
  cases option <;> simp [Token.Valid]

section

variable (usage : Bool) (check : Settings → Except Refusal Unit)

/-- `--start` with a check. -/
def checkedStart (s : Settings) : Except Refusal Settings := do
  check s
  return { s with start := true }

variable {check} {s r : Settings}

theorem checkedStart_ok (h : check s = .ok ()) :
    checkedStart check s = .ok { s with start := true } := by
  rw [checkedStart, h]
  rfl

theorem checkedStart_error {refusal : Refusal} (h : check s = .error refusal) :
    checkedStart check s = .error refusal := by
  rw [checkedStart, h]
  rfl

/-- Readable tokens are read. -/
theorem argumentLoop_written (tokens : List Token) (rest : List String)
    (h : Readable check s tokens) :
    argumentLoop usage (checkedStart check) s (written tokens ++ rest) =
      argumentLoop usage (checkedStart check) (tokens.foldl Token.assign s) rest := by
  induction tokens generalizing s with
  | nil => rfl
  | cons token tokens ih =>
    obtain ⟨hvalid, hcheck, hrest⟩ := h
    rw [List.foldl_cons, ← ih hrest]
    cases token with
    | value option text =>
      refine (argumentLoop_value (ofArgument_flag option) text).trans ?_
      rw [assignValue_eq, if_neg ((valid_value_iff option text).mp hvalid)]
      rfl
    | start =>
      refine (argumentLoop_start ofArgument_start).trans ?_
      rw [checkedStart_ok (hcheck rfl)]
      rfl
    | publishZmq => exact argumentLoop_publishZmq ofArgument_publishZmq

/-- Where the loop cannot go on, it prints this. -/
theorem argumentLoop_firstFault {rest : List String} {refusal : Refusal}
    (h : FirstFault usage check s rest refusal) :
    argumentLoop usage (checkedStart check) s rest = .error refusal := by
  cases h with
  | missing option => exact argumentLoop_missing (ofArgument_flag option)
  | source source rest hsource =>
    have hoption : MainOption.ofArgument "--src" = some (.value .src) := rfl
    refine (argumentLoop_value hoption source).trans ?_
    rw [assignValue_eq, if_pos ⟨rfl, hsource⟩]
    rfl
  | start refusal rest hcheck =>
    refine (argumentLoop_start ofArgument_start).trans ?_
    rw [checkedStart_error hcheck]
    rfl
  | unknown arg rest harg => exact argumentLoop_unknown ((ofArgument_eq_none_iff arg).mpr harg)

/-- Every argument list is read to its end, or up to a first fault. -/
theorem exists_tokens (s : Settings) (arguments : List String) :
    ∃ tokens, Readable check s tokens ∧
      (arguments = written tokens ∨
        ∃ rest refusal, arguments = written tokens ++ rest ∧
          FirstFault usage check (tokens.foldl Token.assign s) rest refusal) := by
  induction arguments using optionArguments.induct generalizing s with
  | case1 => exact ⟨[], trivial, .inl rfl⟩
  | case2 arg option hoption =>
    obtain rfl := (ofArgument_eq_value_iff arg option).mp hoption
    exact ⟨[], trivial, .inr ⟨_, _, rfl, .missing option⟩⟩
  | case3 arg option hoption text rest ih =>
    obtain rfl := (ofArgument_eq_value_iff arg option).mp hoption
    by_cases hvalid : (Token.value option text).Valid
    · obtain ⟨tokens, hread, hend⟩ := ih (s.set option text)
      refine ⟨.value option text :: tokens, ⟨hvalid, by simp, hread⟩, ?_⟩
      apply hend.imp
      · rintro rfl
        rfl
      · rintro ⟨rest, refusal, rfl, hfault⟩
        exact ⟨rest, refusal, rfl, hfault⟩
    · rw [valid_value_iff, not_not] at hvalid
      obtain ⟨rfl, hsource⟩ := hvalid
      exact ⟨[], trivial, .inr ⟨_, _, rfl, .source text rest hsource⟩⟩
  | case4 arg rest hnot ih =>
    cases hoption : MainOption.ofArgument arg with
    | none =>
      have harg := (ofArgument_eq_none_iff arg).mp hoption
      exact ⟨[], trivial, .inr ⟨_, _, rfl, .unknown arg rest harg⟩⟩
    | some option =>
      cases option with
      | value option => exact absurd hoption (hnot option)
      | publishZmq =>
        obtain rfl := (ofArgument_eq_publishZmq_iff arg).mp hoption
        obtain ⟨tokens, hread, hend⟩ := ih { s with publishZmq := true }
        refine ⟨.publishZmq :: tokens, ⟨trivial, by simp, hread⟩, ?_⟩
        apply hend.imp
        · rintro rfl
          rfl
        · rintro ⟨rest, refusal, rfl, hfault⟩
          exact ⟨rest, refusal, rfl, hfault⟩
      | start =>
        obtain rfl := (ofArgument_eq_start_iff arg).mp hoption
        cases hcheck : check s with
        | ok =>
          obtain ⟨tokens, hread, hend⟩ := ih { s with start := true }
          refine ⟨.start :: tokens, ⟨trivial, fun _ => hcheck, hread⟩, ?_⟩
          apply hend.imp
          · rintro rfl
            rfl
          · rintro ⟨rest, refusal, rfl, hfault⟩
            exact ⟨rest, refusal, rfl, hfault⟩
        | error refusal =>
          exact ⟨[], trivial, .inr ⟨_, _, rfl, .start refusal rest hcheck⟩⟩

theorem argumentLoop_ok_iff (arguments : List String) :
    argumentLoop usage (checkedStart check) s arguments = .ok r ↔
      ∃ tokens, arguments = written tokens ∧ Readable check s tokens ∧
        r = tokens.foldl Token.assign s := by
  constructor
  · intro h
    obtain ⟨tokens, hread, rfl | ⟨rest, refusal, rfl, hfault⟩⟩ :=
      @exists_tokens usage check s arguments
    · have hloop := argumentLoop_written usage tokens [] hread
      rw [List.append_nil, h] at hloop
      exact ⟨tokens, rfl, hread, Except.ok.inj hloop⟩
    · rw [argumentLoop_written usage tokens rest hread, argumentLoop_firstFault usage hfault] at h
      cases h
  · rintro ⟨tokens, rfl, hread, rfl⟩
    have hloop := argumentLoop_written usage tokens [] hread
    rwa [List.append_nil] at hloop

theorem argumentLoop_error_iff (arguments : List String) (refusal : Refusal) :
    argumentLoop usage (checkedStart check) s arguments = .error refusal ↔
      ∃ tokens rest, arguments = written tokens ++ rest ∧ Readable check s tokens ∧
        FirstFault usage check (tokens.foldl Token.assign s) rest refusal := by
  constructor
  · intro h
    obtain ⟨tokens, hread, rfl | ⟨rest, refusal', rfl, hfault⟩⟩ :=
      @exists_tokens usage check s arguments
    · have hloop := argumentLoop_written usage tokens [] hread
      rw [List.append_nil, h] at hloop
      cases hloop
    · rw [argumentLoop_written usage tokens rest hread, argumentLoop_firstFault usage hfault] at h
      cases h
      exact ⟨tokens, rest, rfl, hread, hfault⟩
  · rintro ⟨tokens, rest, rfl, hread, hfault⟩
    rw [argumentLoop_written usage tokens rest hread]
    exact argumentLoop_firstFault usage hfault

end

/-! ## The programs -/

/-- The argument lists that the programs accept, with the settings, and those that they refuse, with
the message. -/
structure ReadsTokens (arguments : List String) : Prop where
  gui_ok : ∀ s, guiMain arguments = .ok s ↔ ∃ tokens, arguments = written tokens ∧
    Readable (checkInputs false) .initial tokens ∧ s = settingsOf tokens
  gui_error : ∀ refusal, guiMain arguments = .error refusal ↔
    ∃ tokens rest, arguments = written tokens ++ rest ∧
      Readable (checkInputs false) .initial tokens ∧
        FirstFault false (checkInputs false) (settingsOf tokens) rest refusal
  tui_ok : ∀ s, tuiMain arguments = .ok s ↔ ∃ tokens, arguments = written tokens ∧
    (∀ token ∈ tokens, token.Valid) ∧ s = settingsOf tokens ∧ checkInputs true s = .ok ()
  tui_error : ∀ refusal, tuiMain arguments = .error refusal ↔
    ∃ tokens rest, arguments = written tokens ++ rest ∧ (∀ token ∈ tokens, token.Valid) ∧
      (FirstFault true (fun _ => .ok ()) (settingsOf tokens) rest refusal ∨
        rest = [] ∧ checkInputs true (settingsOf tokens) = .error refusal)
  /-- There is only one way to read the arguments. -/
  unique : ∀ tokens tokens', arguments = written tokens → arguments = written tokens' →
    tokens = tokens'

/-- Without a check the validity of the tokens is left. -/
private theorem readable_ok_iff (s : Settings) (tokens : List Token) :
    Readable (fun _ => .ok ()) s tokens ↔ ∀ token ∈ tokens, token.Valid := by
  induction tokens generalizing s with
  | nil => simp [Readable]
  | cons token tokens ih => simp [Readable, ih]

theorem tuiMain_ok_iff (arguments : List String) (s : Settings) :
    tuiMain arguments = .ok s ↔
      argumentLoop true (checkedStart fun _ => .ok ()) .initial arguments = .ok s ∧
        checkInputs true s = .ok () := by
  constructor
  · intro h
    obtain ⟨s', hloop, h⟩ := except_bind_ok h
    obtain ⟨⟨⟩, hcheck, h⟩ := except_bind_ok h
    obtain rfl := Except.ok.inj h
    exact ⟨hloop, hcheck⟩
  · rintro ⟨hloop, hcheck⟩
    change argumentLoop true tuiStart .initial arguments = .ok s at hloop
    rw [tuiMain, hloop]
    change (checkInputs true s >>= fun _ => Except.ok s) = .ok s
    rw [hcheck]
    rfl

theorem tuiMain_error_iff (arguments : List String) (refusal : Refusal) :
    tuiMain arguments = .error refusal ↔
      argumentLoop true (checkedStart fun _ => .ok ()) .initial arguments = .error refusal ∨
        ∃ s, argumentLoop true (checkedStart fun _ => .ok ()) .initial arguments = .ok s ∧
          checkInputs true s = .error refusal := by
  change tuiMain arguments = _ ↔ argumentLoop true tuiStart .initial arguments = _ ∨
    ∃ s, argumentLoop true tuiStart .initial arguments = .ok s ∧ _
  rw [tuiMain]
  cases argumentLoop true tuiStart .initial arguments with
  | error refusal' =>
    change Except.error refusal' = _ ↔ _
    simp
  | ok s =>
    change (checkInputs true s >>= fun _ => Except.ok s) = _ ↔ _
    cases hcheck : checkInputs true s with
    | error refusal' =>
      change Except.error refusal' = _ ↔ _
      simp [hcheck]
    | ok =>
      change Except.ok s = _ ↔ _
      simp [hcheck]

namespace Settings

/-- The source is one of the three, and its inputs are there. -/
def Checked (s : Settings) : Prop :=
  s.inputSource ∈ inputSources ∧ ∀ option ∈ neededInputs s.inputSource, s.get option ≠ ""

instance (s : Settings) : Decidable s.Checked := by
  unfold Checked
  infer_instance

/-- A command line for the settings, with `--start` at its end. -/
def tokens (s : Settings) : List Token :=
  let source : List Token :=
    if s.inputSource = "" then [] else [.value .src s.inputSource]
  let inputs : List Token :=
    [.value .iface s.networkInterface, .value .config s.configFile, .value .pcap s.pcapFile,
      .value .zmqPort s.zmqPort]
  let publishZmq : List Token := if s.publishZmq then [.publishZmq] else []
  let start : List Token := if s.start then [.start] else []
  source ++ inputs ++ publishZmq ++ start

theorem foldl_tokens {s s' : Settings} (hsource : s.inputSource = "" → s'.inputSource = "")
    (hzmq : s'.publishZmq = false) :
    s.tokens.foldl Token.assign s' = { s with start := s'.start || s.start } := by
  obtain ⟨source, iface, config, pcap, start, port, zmq⟩ := s
  obtain ⟨source', iface', config', pcap', start', port', zmq'⟩ := s'
  dsimp only at hsource hzmq
  subst hzmq
  by_cases hempty : source = ""
  · rw [hsource hempty]
    cases start <;> cases zmq <;> simp [tokens, Token.assign, set, hempty]
  · cases start <;> cases zmq <;> simp [tokens, Token.assign, set, hempty]

theorem settingsOf_tokens (s : Settings) : settingsOf s.tokens = s := by
  refine (foldl_tokens (fun _ => rfl) rfl).trans ?_
  simp [initial]

end Settings

theorem readable_append (check : Settings → Except Refusal Unit) (s : Settings)
    (tokens tokens' : List Token) :
    Readable check s (tokens ++ tokens') ↔
      Readable check s tokens ∧ Readable check (tokens.foldl Token.assign s) tokens' := by
  induction tokens generalizing s with
  | nil => simp [Readable]
  | cons token tokens ih => simp [Readable, ih, and_assoc]

/-- Whether the tokens of settings are read depends on the source, and on the check of the inputs if
they start. -/
theorem readable_tokens_iff {check : Settings → Except Refusal Unit} {s s' : Settings}
    (hsource : s.inputSource = "" → s'.inputSource = "") (hzmq : s'.publishZmq = false) :
    Readable check s' s.tokens ↔ (s.inputSource = "" ∨ s.inputSource ∈ inputSources) ∧
      (s.start = true → check { s with start := s'.start } = .ok ()) := by
  obtain ⟨source, iface, config, pcap, start, port, zmq⟩ := s
  obtain ⟨source', iface', config', pcap', start', port', zmq'⟩ := s'
  dsimp only at hsource hzmq
  subst hzmq
  by_cases hempty : source = ""
  · rw [hsource hempty]
    cases start <;> cases zmq <;>
      simp [Settings.tokens, Readable, Token.Valid, Token.assign, Settings.set, hempty]
  · cases start <;> cases zmq <;>
      simp [Settings.tokens, Readable, Token.Valid, Token.assign, Settings.set, hempty]

/-- Valid tokens leave no other source. -/
theorem inputSource_foldl {tokens : List Token} (hvalid : ∀ token ∈ tokens, token.Valid)
    {s : Settings} (h : s.inputSource = "" ∨ s.inputSource ∈ inputSources) :
    (tokens.foldl Token.assign s).inputSource = "" ∨
      (tokens.foldl Token.assign s).inputSource ∈ inputSources := by
  induction tokens generalizing s with
  | nil => exact h
  | cons token tokens ih =>
    rw [List.forall_mem_cons] at hvalid
    apply ih hvalid.2
    cases token with
    | value option text =>
      cases option with
      | src => exact .inr hvalid.1
      | iface | config | pcap | zmqPort => exact h
    | start => exact h
    | publishZmq => exact h

theorem checkInputs_ok_iff_checked (usage : Bool) {s : Settings}
    (h : s.inputSource = "" ∨ s.inputSource ∈ inputSources) :
    checkInputs usage s = .ok () ↔ s.Checked := by
  rw [checkInputs_eq_ok_iff]
  constructor
  · rintro ⟨hne, hneeded⟩
    exact ⟨h.resolve_left hne, hneeded⟩
  · rintro ⟨hsource, hneeded⟩
    refine ⟨?_, hneeded⟩
    intro hempty
    change s.inputSource = "" at hempty
    rw [hempty] at hsource
    revert hsource
    decide

/-- The graphical interface starts with a source only, but what it has checked may change after
`--start`. -/
theorem inputSource_of_start {tokens : List Token} {s : Settings}
    (hread : Readable (checkInputs false) s tokens)
    (h : s.inputSource = "" ∧ s.start = false ∨ s.inputSource ∈ inputSources) :
    (tokens.foldl Token.assign s).inputSource = "" ∧
        (tokens.foldl Token.assign s).start = false ∨
      (tokens.foldl Token.assign s).inputSource ∈ inputSources := by
  induction tokens generalizing s with
  | nil => exact h
  | cons token tokens ih =>
    obtain ⟨hvalid, hcheck, hrest⟩ := hread
    apply ih hrest
    cases token with
    | value option text =>
      cases option with
      | src => exact .inr hvalid
      | iface | config | pcap | zmqPort => exact h
    | start =>
      have hchecked := (checkInputs_ok_iff_checked false (h.imp_left And.left)).mp (hcheck rfl)
      exact .inr hchecked.1
    | publishZmq => exact h

/-- A start that passes the check for every source, before the settings that are meant. -/
private def earlyStart (source : String) : List Token :=
  [.value .src source, .value .iface "eth0", .value .config "config.json",
    .value .pcap "frames.pcap", .start]

private theorem readable_earlyStart {source : String} (h : source ∈ inputSources) :
    Readable (checkInputs false) .initial (earlyStart source) := by
  refine ⟨h, nofun, trivial, nofun, trivial, nofun, trivial, nofun, trivial, fun _ => ?_, trivial⟩
  rw [checkInputs_ok_iff_checked false (.inr h)]
  refine ⟨h, fun option hoption => ?_⟩
  cases option with
  | src | zmqPort =>
    revert hoption
    simp only [neededInputs]
    split_ifs <;> simp
  | iface | config | pcap => simp [Settings.get, Token.assign, Settings.set]

/-- The settings that each program can go on with. A command line that names them in a fixed order
is among those that do. -/
structure Reached (s : Settings) : Prop where
  tui : (∃ arguments, tuiMain arguments = .ok s) ↔ s.Checked
  gui : (∃ arguments, guiMain arguments = .ok s) ↔
    s.inputSource = "" ∧ s.start = false ∨ s.inputSource ∈ inputSources
  tui_tokens : tuiMain (written s.tokens) = .ok s ↔ s.Checked
  gui_tokens : guiMain (written s.tokens) = .ok s ↔
    (s.inputSource = "" ∨ s.inputSource ∈ inputSources) ∧ (s.start = true → s.Checked)

/-- The terminal interface goes on with checked settings only. -/
theorem checked_of_tuiMain {arguments : List String} {s : Settings}
    (h : tuiMain arguments = .ok s) : s.Checked := by
  rw [tuiMain_ok_iff, argumentLoop_ok_iff] at h
  obtain ⟨⟨tokens, -, hread, rfl⟩, hcheck⟩ := h
  rw [readable_ok_iff] at hread
  exact (checkInputs_ok_iff_checked true (inputSource_foldl hread (.inl rfl))).mp hcheck

/-- Arguments that both programs accept give them the same settings. -/
theorem guiMain_eq_tuiMain {arguments : List String} {s s' : Settings}
    (hgui : guiMain arguments = .ok s) (htui : tuiMain arguments = .ok s') : s = s' := by
  rw [tuiMain_ok_iff, argumentLoop_ok_iff] at htui
  obtain ⟨⟨tokens', hwritten', -, rfl⟩, -⟩ := htui
  obtain ⟨tokens, hwritten, -, rfl⟩ := (argumentLoop_ok_iff false arguments).mp hgui
  rw [written_injective (hwritten.symm.trans hwritten')]

private theorem tuiMain_tokens_iff (s : Settings) :
    tuiMain (written s.tokens) = .ok s ↔ s.Checked := by
  refine ⟨checked_of_tuiMain, fun hchecked => ?_⟩
  rw [tuiMain_ok_iff, argumentLoop_ok_iff]
  refine ⟨⟨s.tokens, rfl, ?_, (Settings.settingsOf_tokens s).symm⟩, ?_⟩
  · rw [readable_tokens_iff (fun _ => rfl) rfl]
    exact ⟨.inr hchecked.1, fun _ => rfl⟩
  · exact (checkInputs_ok_iff_checked true (.inr hchecked.1)).mpr hchecked

private theorem guiMain_tokens_iff (s : Settings) :
    guiMain (written s.tokens) = .ok s ↔
      (s.inputSource = "" ∨ s.inputSource ∈ inputSources) ∧ (s.start = true → s.Checked) := by
  have hchecked (h : s.inputSource = "" ∨ s.inputSource ∈ inputSources) :
      checkInputs false { s with start := false } = .ok () ↔ s.Checked :=
    checkInputs_ok_iff_checked false h
  refine (argumentLoop_ok_iff false (written s.tokens)).trans ?_
  constructor
  · rintro ⟨tokens, hwritten, hread, -⟩
    obtain rfl := written_injective hwritten
    obtain ⟨hsource, hstart⟩ := (readable_tokens_iff (fun _ => rfl) rfl).mp hread
    exact ⟨hsource, fun h => (hchecked hsource).mp (hstart h)⟩
  · rintro ⟨hsource, hstart⟩
    refine ⟨s.tokens, rfl, ?_, (Settings.settingsOf_tokens s).symm⟩
    exact (readable_tokens_iff (fun _ => rfl) rfl).mpr
      ⟨hsource, fun h => (hchecked hsource).mpr (hstart h)⟩

end Kddv
