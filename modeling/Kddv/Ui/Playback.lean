import Kddv.Sniffer.GetSlaves
import Kddv.Sniffer.Loop
import Kddv.Ui.Display
import Kddv.Ui.StartUp

/-!
# Frames on the screen

The terminal interface while a sniffer plays: `packetCallback` on one captured frame after the other
calls `TUI::dataCallback`, and the loop in `TUI::start` reads keys in between. What the program
shows and publishes is compared with a description that keeps the selection and nothing else.
-/

namespace Kddv

open Framework

/-- The sniffer and the terminal interface that it calls back. -/
structure Playback where
  sniffer : PacketSniffer
  display : Display

inductive PlaybackAction
  | key (key : Key)
  | capture (frame : Memory) (millisecSinceEpoch : Int)

/-- What the program reads, draws, prints and publishes. -/
inductive PlaybackEvent
  | input (action : PlaybackAction)
  | window (event : DisplayEvent)
  | output (output : SnifferOutput)

namespace Playback

/-- The outputs of `packetCallback` in their order, up to a vector access out of range. -/
def deliver (display : Display) : List SnifferOutput → Display × List PlaybackEvent
  | [] => (display, [])
  | .dataCallback slaves :: outputs =>
    match display.step (.callback slaves) with
    | none => (display, [])
    | some (display, shown) =>
      let rest := deliver display outputs
      (rest.1, shown.map .window ++ rest.2)
  | output :: outputs =>
    if display.crashed then (display, [])
    else
      let rest := deliver display outputs
      (rest.1, .output output :: rest.2)

def step (p : Playback) (action : PlaybackAction) : Option (Playback × List PlaybackEvent) :=
  if p.display.crashed then none
  else
    match action with
    | .key key =>
      (p.display.step (.key key)).map fun (display, _) =>
        ({ p with display := display }, [.input (.key key)])
    | .capture frame millis =>
      let result := packetCallback p.sniffer frame millis
      let (display, events) := deliver p.display result.outputs
      some (⟨result.sniffer, display⟩, .input (.capture frame millis) :: events)

def machine : Machine Playback PlaybackAction PlaybackEvent := ⟨step⟩

/-- A key keeps the selection in the type `int`. -/
def Guarded (p : Playback) : PlaybackAction → Prop
  | .key key => IntRange (p.display.selectedSlave + key.move)
  | .capture _ _ => True

instance (p : Playback) : (a : PlaybackAction) → Decidable (Guarded p a)
  | .key key => inferInstanceAs (Decidable (IntRange (p.display.selectedSlave + key.move)))
  | .capture _ _ => inferInstanceAs (Decidable True)

/-! ## The description -/

/-- The position of a list that is nearest to the selection. -/
def nearest (slaves : List EthercatSlave) (h : slaves ≠ []) (selected : Int) :
    Fin slaves.length :=
  ⟨(Display.clampTo slaves.length selected).toNat, by
    have hrange := Display.clampTo_range (List.length_pos_of_ne_nil h) selected
    omega⟩

section

variable (slaves : List EthercatSlave) (zmqPublishEnabled : Bool)

/-- The slaves with the data of a frame, whatever frames came before. -/
def decoded (frame : Memory) : List EthercatSlave := slaves.map (copySlave frame)

theorem decoded_ne_nil {slaves : List EthercatSlave} (h : slaves ≠ []) (frame : Memory) :
    decoded slaves frame ≠ [] := by
  simpa [decoded] using h

/-- The selection after an input. -/
def selectAfter (selected : Int) : PlaybackAction → Int
  | .key key => selected + key.move
  | .capture frame _ =>
    if Accepted frame then Display.clampTo slaves.length selected else selected

variable (h : slaves ≠ [])

/-- What follows an input: a screen for every accepted frame, and the same data as a message. -/
def responses (selected : Int) : PlaybackAction → List PlaybackEvent
  | .key _ => []
  | .capture frame millis =>
    if Accepted frame then
      let position := nearest (decoded slaves frame) (decoded_ne_nil h frame) selected
      let published : List SnifferOutput :=
        if zmqPublishEnabled then [.publishMsg (convertToJson millis (decoded slaves frame))]
        else []
      (mismatchOutputs slaves.length frame).map .output ++
        .window (.displayed position (decoded slaves frame)
          (Display.screen (decoded slaves frame) position)) :: published.map .output
    else []

/-- All that the program shows for the given inputs. -/
def transcript (selected : Int) : List PlaybackAction → List PlaybackEvent
  | [] => []
  | action :: actions =>
    .input action :: responses slaves zmqPublishEnabled h selected action ++
      transcript (selectAfter slaves selected action) actions

end

/-- The inputs among the events. -/
def inputs (events : List PlaybackEvent) : List PlaybackAction :=
  events.filterMap fun
    | .input action => some action
    | _ => none

/-! ## Steps -/

variable {slaves : List EthercatSlave} {zmqPublishEnabled : Bool} {d : Display}

theorem nearest_val (h : slaves ≠ []) (selected : Int) :
    ((nearest slaves h selected : Nat) : Int) = Display.clampTo slaves.length selected := by
  have hrange := Display.clampTo_range (List.length_pos_of_ne_nil h) selected
  exact Int.toNat_of_nonneg hrange.1

/-- A call of `dataCallback` with slaves. -/
theorem display_step_callback (h : slaves ≠ []) (hcrashed : d.crashed = false)
    (hrange : IntRange d.selectedSlave) :
    d.step (.callback slaves) =
      some ({ d with selectedSlave := nearest slaves h d.selectedSlave },
        [.displayed (nearest slaves h d.selectedSlave) slaves
          (Display.screen slaves (nearest slaves h d.selectedSlave))]) := by
  obtain ⟨selected, hselected, hcallback⟩ := Display.dataCallback_eq hrange h
  have hnearest : selected = nearest slaves h d.selectedSlave := by
    apply Fin.ext
    have hval := nearest_val h d.selectedSlave
    omega
  subst hnearest
  rw [Display.step, hcrashed]
  simp only [Bool.false_eq_true, if_false, hcallback]

/-- What reaches the screen from the outputs for an accepted frame. -/
theorem deliver_consumerOutputs (h : slaves ≠ []) (hcrashed : d.crashed = false)
    (hrange : IntRange d.selectedSlave) (count : Nat) (frame : Memory) (millis : Int) :
    deliver d (mismatchOutputs count frame ++ consumerOutputs zmqPublishEnabled millis slaves) =
      let position := nearest slaves h d.selectedSlave
      let published : List SnifferOutput :=
        if zmqPublishEnabled then [.publishMsg (convertToJson millis slaves)] else []
      ({ d with selectedSlave := position },
        (mismatchOutputs count frame).map .output ++
          .window (.displayed position slaves (Display.screen slaves position)) ::
            published.map .output) := by
  have hconsumer : deliver d (consumerOutputs zmqPublishEnabled millis slaves) =
      let position := nearest slaves h d.selectedSlave
      let published : List SnifferOutput :=
        if zmqPublishEnabled then [.publishMsg (convertToJson millis slaves)] else []
      ({ d with selectedSlave := position },
        .window (.displayed position slaves (Display.screen slaves position)) ::
          published.map .output) := by
    rw [consumerOutputs, deliver, display_step_callback h hcrashed hrange]
    cases zmqPublishEnabled <;> simp [deliver, hcrashed]
  unfold mismatchOutputs
  dsimp only
  split
  · have hnot : ¬ d.crashed = true := by simp [hcrashed]
    rw [List.singleton_append, deliver, if_neg hnot]
    · rw [hconsumer]
      rfl
    · simp
  · exact hconsumer

/-- The slaves are those of the configuration, and no vector has been accessed out of range. -/
structure Playing (slaves : List EthercatSlave) (zmqPublishEnabled : Bool) (p : Playback) :
    Prop where
  same : EthercatSlave.SameSlaves p.sniffer.slaves slaves
  publish : p.sniffer.zmqPublishEnabled = zmqPublishEnabled
  notCrashed : p.display.crashed = false
  range : IntRange p.display.selectedSlave

/-- A step shows what the description says, and keeps the selection of the description. -/
theorem Playing.step {p p' : Playback} {a : PlaybackAction} {new : List PlaybackEvent}
    (hp : Playing slaves zmqPublishEnabled p) (h : slaves ≠ []) (hguard : Guarded p a)
    (hstep : p.step a = some (p', new)) :
    Playing slaves zmqPublishEnabled p' ∧
      p'.display.selectedSlave = selectAfter slaves p.display.selectedSlave a ∧
      new = .input a :: responses slaves zmqPublishEnabled h p.display.selectedSlave a := by
  have hlength : p.sniffer.slaves.length = slaves.length := hp.same.length_eq
  unfold Playback.step at hstep
  rw [hp.notCrashed] at hstep
  simp only [Bool.false_eq_true, if_false] at hstep
  cases a with
  | key key =>
    simp only [Display.step, hp.notCrashed, Bool.false_eq_true, if_false, Option.map_some,
      Option.some.injEq, Prod.mk.injEq] at hstep
    obtain ⟨rfl, rfl⟩ := hstep
    have hmoved : Display.handleKey p.display.selectedSlave key =
        p.display.selectedSlave + key.move := Display.handleKey_eq hguard
    refine ⟨⟨hp.same, hp.publish, rfl, ?_⟩, hmoved, rfl⟩
    rw [hmoved]
    exact hguard
  | capture frame millis =>
    simp only [Option.some.injEq, Prod.mk.injEq] at hstep
    obtain ⟨rfl, rfl⟩ := hstep
    by_cases haccepted : Accepted frame
    · have hdecoded : p.sniffer.slaves.map (copySlave frame) = decoded slaves frame :=
        map_copySlave_congr frame hp.same
      have hsame : EthercatSlave.SameSlaves (decoded slaves frame) slaves :=
        EthercatSlave.sameSlaves_map (fun slave => slave.copyData_sameSlave _ _) slaves
      have hcount : (decoded slaves frame).length = slaves.length := List.length_map _
      rw [packetCallback_outputs _ _ _ haccepted, packetCallback_accepted _ _ _ haccepted,
        hdecoded, hp.publish, hlength,
        deliver_consumerOutputs (decoded_ne_nil h frame) hp.notCrashed hp.range]
      have hselected : ((nearest (decoded slaves frame) (decoded_ne_nil h frame)
          p.display.selectedSlave : Nat) : Int) =
          Display.clampTo slaves.length p.display.selectedSlave := by
        rw [nearest_val, hcount]
      refine ⟨⟨hsame, rfl, hp.notCrashed, ?_⟩, ?_, ?_⟩
      · obtain ⟨hlow, hhigh⟩ := hp.range
        have hpos := List.length_pos_of_ne_nil h
        dsimp only
        rw [hselected]
        unfold Display.clampTo IntRange
        omega
      · simp only [selectAfter, if_pos haccepted, hselected]
      · simp only [responses, if_pos haccepted]
    · obtain ⟨hsniffer, houtputs⟩ := packetCallback_rejected p.sniffer frame millis haccepted
      rw [hsniffer, houtputs]
      refine ⟨hp, ?_, ?_⟩
      · simp [deliver, selectAfter, haccepted]
      · simp [deliver, responses, haccepted]

theorem Playing.isSome_step {p : Playback} (hp : Playing slaves zmqPublishEnabled p)
    (a : PlaybackAction) : (p.step a).isSome := by
  unfold Playback.step
  cases a with
  | key key => simp [Display.step, hp.notCrashed]
  | capture frame millis => simp [hp.notCrashed]

/-! ## Runs -/

theorem transcript_append (h : slaves ≠ []) (selected : Int) (earlier later : List PlaybackAction) :
    transcript slaves zmqPublishEnabled h selected (earlier ++ later) =
      transcript slaves zmqPublishEnabled h selected earlier ++
        transcript slaves zmqPublishEnabled h (earlier.foldl (selectAfter slaves) selected)
          later := by
  induction earlier generalizing selected with
  | nil => rfl
  | cons action earlier ih => simp [transcript, ih]

@[simp] theorem inputs_append (left right : List PlaybackEvent) :
    inputs (left ++ right) = inputs left ++ inputs right :=
  List.filterMap_append

theorem inputs_responses (h : slaves ≠ []) (selected : Int) (a : PlaybackAction) :
    inputs (responses slaves zmqPublishEnabled h selected a) = [] := by
  cases a with
  | key key => rfl
  | capture frame millis =>
    by_cases haccepted : Accepted frame
    · simp [inputs, responses, haccepted]
    · simp [inputs, responses, haccepted]

theorem inputs_step (h : slaves ≠ []) (selected : Int) (a : PlaybackAction) :
    inputs (.input a :: responses slaves zmqPublishEnabled h selected a) = [a] := by
  rw [← List.singleton_append, inputs_append, inputs_responses]
  rfl

/-- From playing slaves on, the events of a run are the transcript of its inputs. -/
theorem run_transcript {p p' : Playback} {events : List PlaybackEvent}
    (run : machine.Run Guarded p events p') (hp : Playing slaves zmqPublishEnabled p)
    (h : slaves ≠ []) :
    Playing slaves zmqPublishEnabled p' ∧
      p'.display.selectedSlave =
        (inputs events).foldl (selectAfter slaves) p.display.selectedSlave ∧
      events = transcript slaves zmqPublishEnabled h p.display.selectedSlave (inputs events) := by
  induction run with
  | nil => exact ⟨hp, rfl, rfl⟩
  | snoc _ hguard hstep ih =>
    rename_i events new q q' a _
    obtain ⟨hq, hselected, hevents⟩ := ih
    obtain ⟨hnext, hmoved, rfl⟩ := hq.step h hguard hstep
    rw [inputs_append, inputs_step, List.foldl_append, transcript_append, ← hselected, ← hevents]
    refine ⟨hnext, hmoved, ?_⟩
    simp [transcript]

end Playback

/-! ## From the command line to the screen -/

/-- The sniffer that `start` has created with its slaves. -/
def startedSniffer (s : Settings) (slaves : List EthercatSlave) : DataSource :=
  ⟨.packetSniffer, List.range slaves.length, s.publishZmq, false, true⟩

namespace Playback

/-- The program when the first frame can arrive, if the config file can be opened. -/
def ofConfig (parse : String → Except String Json) (heap : Nat → FreshMemory) (s : Settings)
    (file : Option String) : Except Fault (Option Playback) := do
  let (slaves, error) ← PacketSniffer.readConfig parse heap s.configFile file
  if error ≠ "" then return none
  else return some ⟨⟨slaves, s.publishZmq⟩, .init⟩

theorem ofConfig_playing {parse : String → Except String Json} {heap : Nat → FreshMemory}
    {s : Settings} {file : Option String} {p : Playback}
    (h : ofConfig parse heap s file = .ok (some p)) :
    Playing p.sniffer.slaves s.publishZmq p ∧ p.display.selectedSlave = 0 := by
  obtain ⟨⟨slaves, error⟩, -, h⟩ := except_bind_ok h
  dsimp only at h
  split at h
  · cases h
  · cases h
    exact ⟨⟨.refl _, rfl, rfl, intRange_zero⟩, rfl⟩

end Playback

/-- A checked source other than EtherCAT makes `start` create a sniffer. -/
theorem createSource_ofSettings {s : Settings} (hchecked : s.Checked)
    (hsource : s.inputSource ≠ "ecat") :
    (Tui.ofSettings s).createSource "" "" = .ok (some (.new .packetSniffer)) := by
  have hcreated := tui_createSource hchecked ⟨"", "", [], ""⟩
  have hcls : createdClass s ⟨"", "", [], ""⟩ = .ok .packetSniffer := if_neg hsource
  rwa [hcls] at hcreated

theorem run_ofSettings {s : Settings} (hchecked : s.Checked) (hsource : s.inputSource ≠ "ecat")
    (slaves : List EthercatSlave) :
    ∃ t, Tui.machine.Run (fun _ _ => True) (Tui.ofSettings s)
      [.writeStatus ("Found " ++ toString slaves.length ++ " slaves")] t ∧
      t.pc = .waitForKey ∧ t.member.source = some (startedSniffer s slaves) := by
  let created : Tui := { Tui.ofSettings s with
    member := ⟨some ⟨.packetSniffer, [], s.publishZmq, false, false⟩, false⟩
    pc := .getSlaves }
  have hcreate : Tui.machine.step (Tui.ofSettings s) (.create "" "") = some (created, []) := by
    change some ((Tui.ofSettings s).create "" "") = _
    rw [Tui.create, createSource_ofSettings hchecked hsource]
    rfl
  have hcreated : Tui.machine.Run (fun _ _ => True) (Tui.ofSettings s) [] created :=
    Machine.Run.nil.snoc trivial hcreate
  have hrun := (hcreated.snoc (a := .getSlaves slaves "") trivial rfl).snoc
    (a := .callStart .operational) trivial rfl
  exact ⟨_, hrun, rfl, rfl⟩

/-- Frames of a drive, with messages. -/
private def driveArguments : List String :=
  ["--src", "pcap", "--config", "drive.json", "--publish_zmq", "--pcap", "drive.pcap"]

/-- The content of `drive.json`. -/
private def driveJson : Json :=
  .object [("Slaves", .array [.object
    [("Name", .string "KELOD105"), ("Slave ID", .int 1), ("EEP Man", .int 1280),
      ("EEP Rev", .int 1020), ("EEP ID", .int 33558529), ("Address", .int 4097),
      ("RX start offset", .int 0), ("TX start offset", .int 36)]])]

private def driveStart : Playback := ⟨⟨[driveSlave], true⟩, .init⟩

end Kddv
