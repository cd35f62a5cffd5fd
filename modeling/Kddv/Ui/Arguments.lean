import Kddv.Framework.Json

/-!
# The command line

`main` of the graphical and of the terminal interface read their arguments in the same loop. They
check at different times whether the inputs that a source needs have been given.
-/

namespace Kddv

open Framework

/-- The options that are followed by a value. -/
inductive ValueOption
  | src
  | iface
  | config
  | pcap
  | zmqPort
deriving DecidableEq

inductive MainOption
  | value (option : ValueOption)
  | start
  | publishZmq
deriving DecidableEq

/-- The chain of `strcmp` calls. -/
def MainOption.ofArgument (arg : String) : Option MainOption :=
  if arg = "--src" then some (.value .src)
  else if arg = "--iface" then some (.value .iface)
  else if arg = "--config" then some (.value .config)
  else if arg = "--pcap" then some (.value .pcap)
  else if arg = "--start" then some .start
  else if arg = "--zmq_port" then some (.value .zmqPort)
  else if arg = "--publish_zmq" then some .publishZmq
  else none

/-- The variables that the loop sets. -/
structure Settings where
  inputSource : String
  networkInterface : String
  configFile : String
  pcapFile : String
  start : Bool
  zmqPort : String
  publishZmq : Bool
deriving DecidableEq

namespace Settings

def initial : Settings := ⟨"", "", "", "", false, "9872", false⟩

def set (s : Settings) (option : ValueOption) (value : String) : Settings :=
  match option with
  | .src => { s with inputSource := value }
  | .iface => { s with networkInterface := value }
  | .config => { s with configFile := value }
  | .pcap => { s with pcapFile := value }
  | .zmqPort => { s with zmqPort := value }

def get (s : Settings) : ValueOption → String
  | .src => s.inputSource
  | .iface => s.networkInterface
  | .config => s.configFile
  | .pcap => s.pcapFile
  | .zmqPort => s.zmqPort

@[simp] theorem get_set (s : Settings) (option : ValueOption) (value : String)
    (other : ValueOption) :
    (s.set option value).get other = if other = option then value else s.get other := by
  cases option <;> cases other <;> rfl

@[simp] theorem set_start (s : Settings) (option : ValueOption) (value : String) :
    (s.set option value).start = s.start := by
  cases option <;> rfl

@[simp] theorem set_publishZmq (s : Settings) (option : ValueOption) (value : String) :
    (s.set option value).publishZmq = s.publishZmq := by
  cases option <;> rfl

end Settings

/-- `main` prints the message, and possibly its usage, and returns 1. -/
structure Refusal where
  message : List String
  usage : Bool
deriving DecidableEq

/-- Only the source is checked at once. -/
def assignValue (usage : Bool) (s : Settings) (option : ValueOption) (value : String) :
    Except Refusal Settings :=
  if option = .src ∧ value ≠ "ecat" ∧ value ≠ "sniffer" ∧ value ≠ "pcap" then
    .error ⟨["Invalid input source " ++ value,
      "Valid sources are: 'ecat', 'sniffer' and 'pcap' "], usage⟩
  else .ok (s.set option value)

/-- The argument loop. The programs differ in what they print and in what they do at `--start`. -/
def argumentLoop (usage : Bool) (onStart : Settings → Except Refusal Settings) :
    Settings → List String → Except Refusal Settings
  | s, [] => .ok s
  | s, arg :: rest =>
    match MainOption.ofArgument arg with
    | some (.value option) =>
      match rest with
      | [] => .error ⟨["Specified argument " ++ arg ++ " but did not provide a value "], usage⟩
      | value :: rest => do
        let s ← assignValue usage s option value
        argumentLoop usage onStart s rest
    | some .start => do
      let s ← onStart s
      argumentLoop usage onStart s rest
    | some .publishZmq => argumentLoop usage onStart { s with publishZmq := true } rest
    | none => .error ⟨[], true⟩

section

variable {usage : Bool} {onStart : Settings → Except Refusal Settings} {s : Settings}
  {arg : String} {rest : List String}

theorem argumentLoop_value {option : ValueOption}
    (h : MainOption.ofArgument arg = some (.value option)) (value : String) :
    argumentLoop usage onStart s (arg :: value :: rest) =
      assignValue usage s option value >>= fun s => argumentLoop usage onStart s rest := by
  rw [argumentLoop, h]

theorem argumentLoop_missing {option : ValueOption}
    (h : MainOption.ofArgument arg = some (.value option)) :
    argumentLoop usage onStart s [arg] =
      .error ⟨["Specified argument " ++ arg ++ " but did not provide a value "], usage⟩ := by
  rw [argumentLoop, h]

theorem argumentLoop_start (h : MainOption.ofArgument arg = some .start) :
    argumentLoop usage onStart s (arg :: rest) =
      onStart s >>= fun s => argumentLoop usage onStart s rest := by
  rw [argumentLoop, h]

theorem argumentLoop_publishZmq (h : MainOption.ofArgument arg = some .publishZmq) :
    argumentLoop usage onStart s (arg :: rest) =
      argumentLoop usage onStart { s with publishZmq := true } rest := by
  rw [argumentLoop, h]

theorem argumentLoop_unknown (h : MainOption.ofArgument arg = none) :
    argumentLoop usage onStart s (arg :: rest) = .error ⟨[], true⟩ := by
  rw [argumentLoop, h]

end

/-- The checks of the inputs that the source needs. -/
def checkInputs (usage : Bool) (s : Settings) : Except Refusal Unit :=
  if s.inputSource = "" then .error ⟨["No input source specified"], usage⟩
  else if s.inputSource = "ecat" then
    if s.networkInterface = "" then .error ⟨["No network interface specified"], usage⟩
    else .ok ()
  else if s.inputSource = "sniffer" then
    if s.networkInterface = "" then .error ⟨["No network interface specified"], usage⟩
    else if s.configFile = "" then .error ⟨["No config file specified"], usage⟩
    else .ok ()
  else if s.inputSource = "pcap" then
    if s.configFile = "" then .error ⟨["No config file specified"], usage⟩
    else if s.pcapFile = "" then .error ⟨["No PCAP file specified"], usage⟩
    else .ok ()
  else .ok ()

/-- `--start` in the graphical interface. -/
def guiStart (s : Settings) : Except Refusal Settings := do
  checkInputs false s
  return { s with start := true }

/-- The settings with which the graphical interface opens its window. -/
def guiMain (arguments : List String) : Except Refusal Settings :=
  argumentLoop false guiStart .initial arguments

/-- `--start` in the terminal interface. -/
def tuiStart (s : Settings) : Except Refusal Settings := .ok { s with start := true }

/-- The settings with which the terminal interface starts. -/
def tuiMain (arguments : List String) : Except Refusal Settings := do
  let s ← argumentLoop true tuiStart .initial arguments
  checkInputs true s
  return s

/-! ## Options and values -/

/-- The arguments that are compared with the options, that is, all but the values. -/
def optionArguments : List String → List String
  | [] => []
  | arg :: rest =>
    match MainOption.ofArgument arg with
    | some (.value _) =>
      match rest with
      | [] => [arg]
      | _ :: rest => arg :: optionArguments rest
    | _ => arg :: optionArguments rest

theorem ofArgument_eq_start_iff (arg : String) :
    MainOption.ofArgument arg = some .start ↔ arg = "--start" := by
  unfold MainOption.ofArgument
  split_ifs <;> simp_all

/-- What is checked does not depend on `start`, and what is accepted not on what is printed. -/
private theorem checkInputs_ok_iff (usage usage' : Bool) (s : Settings) (start : Bool) :
    checkInputs usage s = .ok () ↔ checkInputs usage' { s with start := start } = .ok () := by
  unfold checkInputs
  split_ifs <;> simp

private theorem optionArguments_value {arg : String} {option : ValueOption}
    (h : MainOption.ofArgument arg = some (.value option)) (value : String)
    (rest : List String) :
    optionArguments (arg :: value :: rest) = arg :: optionArguments rest := by
  rw [optionArguments, h]

private theorem optionArguments_flag {arg : String}
    (h : ∀ option, MainOption.ofArgument arg ≠ some (.value option)) (rest : List String) :
    optionArguments (arg :: rest) = arg :: optionArguments rest := by
  rw [optionArguments.eq_def]
  dsimp only
  split
  · rename_i option hoption
    exact absurd hoption (h option)
  · rfl

private theorem eq_nil_of_optionArguments {arguments : List String}
    (h : optionArguments arguments = []) : arguments = [] := by
  cases arguments with
  | nil => rfl
  | cons arg rest =>
    unfold optionArguments at h
    split at h
    · split at h <;> cases h
    · cases h

/-- The first argument in option position is the last `--start`, or it is another option. -/
private theorem first_option {arg : String} {rest options : List String}
    (h : arg :: rest = options ++ ["--start"]) (hfirst : "--start" ∉ options) :
    arg = "--start" ∧ rest = [] ∨
      arg ≠ "--start" ∧ ∃ options', rest = options' ++ ["--start"] ∧ "--start" ∉ options' := by
  cases options with
  | nil =>
    obtain ⟨rfl, rfl⟩ := List.cons.inj h
    exact .inl ⟨rfl, rfl⟩
  | cons option options =>
    obtain ⟨rfl, rfl⟩ := List.cons.inj h
    rw [List.mem_cons, not_or] at hfirst
    exact .inr ⟨Ne.symm hfirst.1, options, rfl, hfirst.2⟩

/-- What a program that accepts the arguments with the checks does, against one that accepts them
without. -/
structure AgreeOn (gui tui : Except Refusal Settings) : Prop where
  ok_iff : ∀ s, gui = .ok s ↔ tui = .ok s ∧ checkInputs true s = .ok ()
  starts : ∀ s, tui = .ok s → s.start = true

private theorem AgreeOn.refused (refusal refusal' : Refusal) :
    AgreeOn (.error refusal) (.error refusal') :=
  ⟨fun _ => ⟨nofun, fun h => nomatch h.1⟩, nofun⟩

/-- The checks at the last `--start` against those after the loop. -/
private theorem AgreeOn.start (s : Settings) : AgreeOn (guiStart s) (tuiStart s) := by
  have hcheck := checkInputs_ok_iff false true s true
  cases hs : checkInputs false s with
  | ok =>
    have hgui : guiStart s = .ok { s with start := true } := by
      rw [guiStart, hs]
      rfl
    rw [hgui]
    refine ⟨fun r => ⟨fun h => ⟨h, ?_⟩, And.left⟩, fun r h => ?_⟩
    · obtain rfl := Except.ok.inj h
      exact hcheck.mp hs
    · obtain rfl := Except.ok.inj h
      rfl
  | error refusal =>
    have hgui : guiStart s = .error refusal := by
      rw [guiStart, hs]
      rfl
    rw [hgui]
    refine ⟨fun r => ⟨nofun, fun h => ?_⟩, fun r h => ?_⟩
    · obtain ⟨hr, hok⟩ := h
      obtain rfl := Except.ok.inj hr
      rw [hcheck.mpr hok] at hs
      cases hs
    · obtain rfl := Except.ok.inj h
      rfl

/-- From any settings, the two loops agree. -/
private theorem loops_agree (arguments options : List String)
    (h : optionArguments arguments = options ++ ["--start"]) (hfirst : "--start" ∉ options)
    (s : Settings) :
    AgreeOn (argumentLoop false guiStart s arguments) (argumentLoop true tuiStart s arguments) := by
  induction arguments using optionArguments.induct generalizing options s with
  | case1 => simp [optionArguments] at h
  | case2 arg option hoption =>
    rw [argumentLoop_missing hoption, argumentLoop_missing hoption]
    exact .refused _ _
  | case3 arg option hoption value rest ih =>
    rw [optionArguments_value hoption] at h
    rcases first_option h hfirst with ⟨hstart, -⟩ | ⟨-, options', hrest, hfirst'⟩
    · rw [(ofArgument_eq_start_iff arg).mpr hstart] at hoption
      cases hoption
    · rw [argumentLoop_value hoption, argumentLoop_value hoption]
      unfold assignValue
      split
      · exact .refused _ _
      · exact ih options' hrest hfirst' (s.set option value)
  | case4 arg rest hnot ih =>
    rw [optionArguments_flag hnot] at h
    cases hoption : MainOption.ofArgument arg with
    | none =>
      rw [argumentLoop_unknown hoption, argumentLoop_unknown hoption]
      exact .refused _ _
    | some option =>
      cases option with
      | value option => exact absurd hoption (hnot option)
      | publishZmq =>
        rw [argumentLoop_publishZmq hoption, argumentLoop_publishZmq hoption]
        rcases first_option h hfirst with ⟨hstart, -⟩ | ⟨-, options', hrest, hfirst'⟩
        · rw [(ofArgument_eq_start_iff arg).mpr hstart] at hoption
          cases hoption
        · exact ih options' hrest hfirst' _
      | start =>
        rcases first_option h hfirst with ⟨-, hrest⟩ | ⟨hne, -⟩
        · obtain rfl := eq_nil_of_optionArguments hrest
          rw [argumentLoop_start hoption, argumentLoop_start hoption]
          have hgui : (guiStart s >>= fun s => argumentLoop false guiStart s []) = guiStart s :=
            bind_pure (guiStart s)
          rw [hgui]
          exact .start s
        · exact absurd ((ofArgument_eq_start_iff arg).mp hoption) hne

end Kddv
