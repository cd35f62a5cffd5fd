import Kddv.Framework.Transition

/-!
# Progress

A goal that no schedule can avoid. Some steps count as progress and must not be blocked; any
number of other steps may come between them.
-/

namespace Kddv.Framework.Machine

variable {S A E : Type} {M : Machine S A E} {other progress : S → A → Prop} {goal : S → Prop}

/-- Some step that is admitted can be taken. -/
def CanStep (M : Machine S A E) (admits : S → A → Prop) (s : S) : Prop :=
  ∃ a s' new, admits s a ∧ M.step s a = some (s', new)

theorem canStep_of_isSome {admits : S → A → Prop} {s : S} {a : A} (ha : admits s a)
    (h : (M.step s a).isSome = true) : M.CanStep admits s := by
  obtain ⟨⟨s', new⟩, hstep⟩ := Option.isSome_iff_exists.mp h
  exact ⟨a, s', new, ha, hstep⟩

/-- After at most `n` steps of progress the goal is reached, whichever of them are taken. Before
each of them the other steps run as often as they like, and can neither block it nor undo it. -/
def ReachesWithin (M : Machine S A E) (other progress : S → A → Prop) (goal : S → Prop) :
    Nat → S → Prop
  | 0, s => goal s
  | n + 1, s => ∀ events s₁, M.Run other s events s₁ → goal s₁ ∨
      M.CanStep progress s₁ ∧ ∀ a s₂ new, progress s₁ a → M.step s₁ a = some (s₂, new) →
        ReachesWithin M other progress goal n s₂

/-- A measure that falls with each step of progress, and with no other step rises, bounds the
number of steps, provided that progress is possible until the goal is reached. -/
theorem reachesWithin_of_measure {I : S → Prop} (measure : S → Nat)
    (hother : ∀ s a s' new, I s → other s a → M.step s a = some (s', new) →
      I s' ∧ measure s' ≤ measure s)
    (hprogress : ∀ s a s' new, I s → ¬ goal s → progress s a → M.step s a = some (s', new) →
      I s' ∧ measure s' < measure s)
    (hcan : ∀ s, I s → ¬ goal s → M.CanStep progress s) {n : Nat} {s : S} (hs : I s)
    (hn : measure s ≤ n) : M.ReachesWithin other progress goal n s := by
  induction n generalizing s with
  | zero =>
    by_contra hgoal
    obtain ⟨a, s', new, ha, hstep⟩ := hcan s hs hgoal
    have hlt := (hprogress s a s' new hs hgoal ha hstep).2
    omega
  | succ n ih =>
    intro events s₁ run
    have hrun : I s₁ ∧ measure s₁ ≤ measure s :=
      run.stateInvariant (I := fun s₁ => I s₁ ∧ measure s₁ ≤ measure s) ⟨hs, le_rfl⟩
        fun new s₁ s₂ a hi ha hstep =>
          ⟨(hother s₁ a s₂ new hi.1 ha hstep).1, (hother s₁ a s₂ new hi.1 ha hstep).2.trans hi.2⟩
    by_cases hgoal : goal s₁
    · exact .inl hgoal
    · refine .inr ⟨hcan s₁ hrun.1 hgoal, ?_⟩
      intro a s₂ new ha hstep
      obtain ⟨hs₂, hlt⟩ := hprogress s₁ a s₂ new hrun.1 hgoal ha hstep
      apply ih hs₂
      omega

/-! ## Goals that a run can reach -/

/-- Some run of admitted steps gets to the goal. -/
def Leads (M : Machine S A E) (admits : S → A → Prop) (goal : S → Prop) (s : S) : Prop :=
  ∃ events s', M.Run admits s events s' ∧ goal s'

namespace Leads

variable {admits : S → A → Prop} {s : S}

theorem here (h : goal s) : M.Leads admits goal s := ⟨[], s, .nil, h⟩

/-- The goals are reached one after the other. -/
theorem trans {first : S → Prop} (h : M.Leads admits first s)
    (hnext : ∀ s, first s → M.Leads admits goal s) : M.Leads admits goal s := by
  obtain ⟨events, s₁, run, hfirst⟩ := h
  obtain ⟨later, s₂, next, hgoal⟩ := hnext s₁ hfirst
  exact ⟨events ++ later, s₂, run.trans next, hgoal⟩

theorem step {s' : S} {a : A} {new : List E} (ha : admits s a)
    (hstep : M.step s a = some (s', new)) (h : M.Leads admits goal s') :
    M.Leads admits goal s := by
  obtain ⟨later, s₂, next, hgoal⟩ := h
  exact ⟨[] ++ new ++ later, s₂, (Run.nil.snoc ha hstep).trans next, hgoal⟩

/-- What all steps keep also holds when the goal is reached. -/
theorem invariant {I : S → Prop} (h : M.Leads admits goal s) (hs : I s)
    (hkeep : ∀ new s s' a, I s → admits s a → M.step s a = some (s', new) → I s') :
    M.Leads admits (fun s => goal s ∧ I s) s := by
  obtain ⟨events, s', run, hgoal⟩ := h
  exact ⟨events, s', run, hgoal, run.stateInvariant hs hkeep⟩

end Leads

/-- What every schedule reaches can be reached. -/
theorem ReachesWithin.leads {n : Nat} {s : S} (h : M.ReachesWithin other progress goal n s) :
    M.Leads progress goal s := by
  induction n generalizing s with
  | zero => exact .here h
  | succ n ih =>
    rcases h [] s .nil with hgoal | ⟨⟨a, s', new, ha, hstep⟩, hnext⟩
    · exact .here hgoal
    · exact .step ha hstep (ih (hnext a s' new ha hstep))

/-! ## Runs that come to rest -/

/-- A run takes no step, or a first one. -/
theorem Run.eq_nil_or_cons {guard : S → A → Prop} {s s' : S} {events : List E}
    (run : M.Run guard s events s') :
    s' = s ∧ events = [] ∨ ∃ a s₁ new later, guard s a ∧ M.step s a = some (s₁, new) ∧
      M.Run guard s₁ later s' ∧ events = new ++ later := by
  induction run with
  | nil => exact .inl ⟨rfl, rfl⟩
  | snoc _ hguard hstep ih =>
    rcases ih with ⟨rfl, rfl⟩ | ⟨a, s₁, new, later, ha, hfirst, hlater, rfl⟩
    · exact .inr ⟨_, _, _, [], hguard, hstep, .nil, (List.append_nil _).symm⟩
    · exact .inr ⟨a, s₁, new, _, ha, hfirst, hlater.snoc hguard hstep, List.append_assoc _ _ _⟩

/-- No admitted step is left. -/
def StopsAt (M : Machine S A E) (guard : S → A → Prop) (start : S) (events : List E) (s : S) :
    Prop :=
  M.Run guard start events s ∧ ¬ M.CanStep guard s

/-- If at most one admitted action can be taken, every run is the beginning of one that stops. -/
theorem StopsAt.of_run {guard : S → A → Prop}
    (honly : ∀ s a a', guard s a → guard s a' → (M.step s a).isSome → (M.step s a').isSome →
      a = a') {start s last : S} {events all : List E} (hlast : M.StopsAt guard start all last)
    (run : M.Run guard start events s) :
    ∃ later, M.StopsAt guard s later last ∧ all = events ++ later := by
  induction run with
  | nil => exact ⟨all, hlast, rfl⟩
  | snoc _ hguard hstep ih =>
    obtain ⟨later, ⟨hlater, hstop⟩, rfl⟩ := ih
    rcases hlater.eq_nil_or_cons with ⟨rfl, rfl⟩ | ⟨a, s₁, new, rest, ha, hfirst, hrest, rfl⟩
    · exact absurd ⟨_, _, _, hguard, hstep⟩ hstop
    · obtain rfl := honly _ _ a hguard ha (by simp [hstep]) (by simp [hfirst])
      rw [hstep] at hfirst
      cases hfirst
      exact ⟨rest, ⟨hrest, hstop⟩, (List.append_assoc _ _ _).symm⟩

/-- Then all runs that stop are the same. -/
theorem StopsAt.unique {guard : S → A → Prop}
    (honly : ∀ s a a', guard s a → guard s a' → (M.step s a).isSome → (M.step s a').isSome →
      a = a') {start s s' : S} {events events' : List E} (h : M.StopsAt guard start events s)
    (h' : M.StopsAt guard start events' s') : s = s' ∧ events = events' := by
  obtain ⟨later, ⟨hlater, -⟩, rfl⟩ := h'.of_run honly h.1
  rcases hlater.eq_nil_or_cons with ⟨rfl, rfl⟩ | ⟨a, s₁, new, rest, ha, hfirst, -, -⟩
  · exact ⟨rfl, (List.append_nil _).symm⟩
  · exact absurd ⟨a, s₁, new, ha, hfirst⟩ h.2

/-! ## Goals about the events -/

/-- The machine that keeps the events that it has emitted. -/
def logged (M : Machine S A E) : Machine (S × List E) A E where
  step s a := (M.step s.1 a).map fun r => ((r.1, s.2 ++ r.2), r.2)

theorem logged_step {s s' : S × List E} {a : A} {new : List E}
    (h : M.logged.step s a = some (s', new)) :
    M.step s.1 a = some (s'.1, new) ∧ s'.2 = s.2 ++ new := by
  obtain ⟨⟨next, events⟩, hstep, heq⟩ := Option.map_eq_some_iff.mp h
  simp only [Prod.mk.injEq] at heq
  obtain ⟨rfl, rfl⟩ := heq
  exact ⟨hstep, rfl⟩

theorem logged_canStep {admits : S → A → Prop} {s : S × List E} (h : M.CanStep admits s.1) :
    M.logged.CanStep (fun s a => admits s.1 a) s := by
  obtain ⟨a, s', new, ha, hstep⟩ := h
  refine ⟨a, (s', s.2 ++ new), new, ha, ?_⟩
  show (M.step s.1 a).map _ = _
  rw [hstep]
  rfl

end Kddv.Framework.Machine
