import Kddv.Gui.LifeCycle
import Kddv.Ui.Tui

/-!
# Closing the window

`closeEvent` accepts every request to close the window, and the last window ends `app.exec` and
`main`. The data source is not stopped before the window is destroyed.
-/

namespace Kddv

open Framework

/-- The window together with the state of the loops behind its source. -/
structure Window where
  gui : Gui
  loopReturned : Bool

inductive WindowAction
  | gui (action : GuiAction)
  | loopReturns

namespace Window

def init (interfaces : List String) : Window := ⟨.init interfaces, false⟩

def member (w : Window) : SourceMember := ⟨w.gui.source, w.loopReturned⟩

/-- A step of the window. The loop of a thread that begins in it has not returned. -/
def guiStep (w : Window) (action : GuiAction) : Option (Window × List GuiEvent) :=
  (w.gui.step action).map fun r =>
    (⟨r.1, w.loopReturned && w.gui.source.any DataSource.joinable⟩, r.2)

/-- A message of the source's thread comes from inside its loop. -/
def step (w : Window) (action : WindowAction) : Option (Window × List GuiEvent) :=
  match action with
  | .gui .post => if w.member.ThreadRuns then w.guiStep .post else none
  | .gui action => w.guiStep action
  | .loopReturns =>
    w.member.loopReturns.map fun member => ({ w with loopReturned := member.loopReturned }, [])

def machine : Machine Window WindowAction GuiEvent := ⟨step⟩

variable {w w' : Window} {new : List GuiEvent}

theorem guiStep_lifeCycle {action : GuiAction} (h : w.gui.LifeCycle)
    (hstep : w.guiStep action = some (w', new)) : w'.gui.LifeCycle := by
  obtain ⟨⟨gui, events⟩, hgui, heq⟩ := Option.map_eq_some_iff.mp hstep
  cases heq
  exact (h.step hgui).1

theorem step_lifeCycle {a : WindowAction} (h : w.gui.LifeCycle)
    (hstep : w.step a = some (w', new)) : w'.gui.LifeCycle := by
  unfold step at hstep
  split at hstep
  · split at hstep
    · exact guiStep_lifeCycle h hstep
    · cases hstep
  · exact guiStep_lifeCycle h hstep
  · obtain ⟨member, -, heq⟩ := Option.map_eq_some_iff.mp hstep
    cases heq
    exact h

theorem reachable_lifeCycle {interfaces : List String} {events : List GuiEvent}
    (run : machine.Run (fun _ _ => True) (init interfaces) events w) : w.gui.LifeCycle :=
  run.stateInvariant (I := fun w => w.gui.LifeCycle) (Gui.init_lifeCycle interfaces)
    fun _ _ _ _ h _ hstep => step_lifeCycle h hstep

/-- No thread runs while the button offers to start the source. -/
theorem not_threadRuns_of_startText (h : w.gui.LifeCycle) (htext : w.gui.startText = .start) :
    ¬ w.member.ThreadRuns := by
  rintro ⟨⟨source, hsource, hjoinable⟩, -⟩
  rw [h.startText htext source hsource] at hjoinable
  cases hjoinable

end Window

/-- Wherever a run ends with the window closed, no callback comes during its destruction if and
only if no thread of its source is running then. None is while the button offers to start the
source. The terminal interface is never destroyed with a thread running. -/
theorem callbackFree_iff (interfaces : List String) (events : List GuiEvent) (w : Window)
    (run : Window.machine.Run (fun _ _ => True) (.init interfaces) events w) :
    (Shutdown.CallbackFree w.member ↔ ¬ w.member.ThreadRuns) ∧
      (w.gui.startText = .start → Shutdown.CallbackFree w.member) ∧
      ∀ ecatSrc configFileName pcapFileName enableZmq events t,
        Tui.machine.Run (fun _ _ => True) (.init ecatSrc configFileName pcapFileName enableZmq)
          events t → t.pc = .returned → Shutdown.CallbackFree t.member := by
  have hiff := Shutdown.callbackFree_iff_not_threadRuns w.member
  refine ⟨hiff, fun htext => hiff.mpr ?_, fun _ _ _ _ _ _ run hreturned => ?_⟩
  · exact Window.not_threadRuns_of_startText (Window.reachable_lifeCycle run) htext
  · exact Tui.callbackFree_returned run hreturned

/-- The window is started on a recorded file, as from the command line. -/
private def startWindow : List WindowAction := Gui.startOnFile.map .gui

/-- The user clicks the button, and the source is stopped. -/
private def clickStop : List WindowAction :=
  [.gui (.input .startButton), .gui .deliver, .gui (.handler .none)]

/-- The terminal interface plays a recorded file until the user presses a key. -/
private def quitTerminal : List TuiAction :=
  [.create "" "", .getSlaves [Gui.battery] "", .callStart .operational, .callback, .key .right,
    .callback, .key .quit, .callback, .stop]

/-- The window is closed after the source has been stopped, and the terminal interface is left
with its key. -/
theorem callbackFree_stopped :
    (∃ events w, Window.machine.Run (fun _ _ => True) (.init []) events w ∧
      w.gui.handler = .eventLoop ∧ w.gui.source.isSome = true ∧
        Shutdown.CallbackFree w.member) ∧
    ∃ events t, Tui.machine.Run (fun _ _ => True)
      (.init "pcap" "config.json" "data.pcapng" false) events t ∧ t.pc = .returned ∧
        .dataCallback ∈ events ∧ Shutdown.CallbackFree t.member := by
  have hwindow : Window.machine.exec (fun _ _ => True) (.init [])
      (startWindow ++ [WindowAction.gui .post, .gui .deliver] ++ clickStop) = some (_, _) := rfl
  have hterminal : Tui.machine.exec (fun _ _ => True)
      (.init "pcap" "config.json" "data.pcapng" false) quitTerminal = some (_, _) := rfl
  have hrun := Machine.run_of_exec hwindow
  have hrun' := Machine.run_of_exec hterminal
  obtain ⟨-, hstopped, hreturned⟩ := callbackFree_iff _ _ _ hrun
  exact ⟨⟨_, _, hrun, rfl, rfl, hstopped rfl⟩,
    ⟨_, _, hrun', rfl, by decide, hreturned _ _ _ _ _ _ hrun' rfl⟩⟩

/-- A window that is closed while its source is running is called back while it is destroyed. -/
theorem callbackFree_fails :
    ¬ ((∀ interfaces events w,
      Window.machine.Run (fun _ _ => True) (.init interfaces) events w →
        w.gui.handler = .eventLoop → Shutdown.CallbackFree w.member) ∧
      ∀ ecatSrc configFileName pcapFileName enableZmq events t,
        Tui.machine.Run (fun _ _ => True) (.init ecatSrc configFileName pcapFileName enableZmq)
          events t → t.pc = .returned → Shutdown.CallbackFree t.member) := by
  rintro ⟨hwindow, -⟩
  have hexec : Window.machine.exec (fun _ _ => True) (.init []) startWindow = some (_, _) := rfl
  have hfree := hwindow [] _ _ (Machine.run_of_exec hexec) rfl
  rw [Shutdown.callbackFree_iff_not_threadRuns] at hfree
  exact hfree (by decide)

end Kddv
