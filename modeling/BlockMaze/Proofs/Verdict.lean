-- The laws of the verdict. A run is decided by the first step that arrives on
-- the flag or in a hole, or that finds no block left. The stars that the
-- verdict counts are the distinct star cells on which the run has arrived.
import BlockMaze.Proofs.Arrivals

namespace BlockMaze.State

/-! ## Deciding steps -/

/-- The next step arrives on a tile. -/
def ArrivesOn (level : Level) (s : State) (tile : Tile) : Prop :=
  ∃ c, s.arrival? level = some c ∧ level.tileAt c = tile

/-- The next step finds no block left. -/
def Exhausted (s : State) : Prop := s.status = .running ∧ settle s.stack = none

/-- The next step is judged on the flag: it arrives there, or the blocks end there. -/
def ReachesFlag (level : Level) (s : State) : Prop :=
  s.ArrivesOn level .flag ∨ (s.Exhausted ∧ level.tileAt s.pose.cell = .flag)

/-- The next step decides the run. -/
def Decides (level : Level) (s : State) : Prop :=
  s.ArrivesOn level .flag ∨ s.ArrivesOn level .hole ∨ s.Exhausted

/-- The next step wins, if it leaves a number of stars. -/
def Wins (level : Level) (s : State) (stars : Nat) : Prop :=
  s.ReachesFlag level ∧ level.minStars ≤ stars

/-- The next step loses, if it leaves a number of stars. -/
def Loses (level : Level) (s : State) (stars : Nat) : Prop :=
  s.ArrivesOn level .hole ∨ (s.ReachesFlag level ∧ stars < level.minStars) ∨
    (s.Exhausted ∧ level.tileAt s.pose.cell ≠ .flag)

section

variable {level : Level} {s : State}

theorem decides_of_wins {stars : Nat} (h : s.Wins level stars) : s.Decides level := by
  rcases h.1 with h | h
  · exact Or.inl h
  · exact Or.inr (Or.inr h.1)

theorem decides_of_loses {stars : Nat} (h : s.Loses level stars) : s.Decides level := by
  rcases h with h | ⟨h | h, -⟩ | h
  · exact Or.inr (Or.inl h)
  · exact Or.inl h
  · exact Or.inr (Or.inr h.1)
  · exact Or.inr (Or.inr h.1)

theorem arrivesOn_iff {c : Cell} (h : s.arrival? level = some c) (tile : Tile) :
    s.ArrivesOn level tile ↔ level.tileAt c = tile := by
  unfold ArrivesOn
  rw [h]
  simp

theorem not_arrivesOn (h : s.arrival? level = none) (tile : Tile) : ¬ s.ArrivesOn level tile := by
  unfold ArrivesOn
  rw [h]
  simp

/-! ## The verdict of one step -/

/-- The status after a step, told by what the step does. -/
structure Judged (level : Level) (s next : State) : Prop where
  completed : next.status = .completed ↔ s.Wins level next.stars.length
  failed : next.status = .failed ↔ s.Loses level next.stars.length
  running : next.status = .running ↔ ¬ s.Decides level
  not_error : next.status ≠ .error

theorem judged_of_undecided {next : State} (h : ¬ s.Decides level)
    (hs : next.status = .running) : Judged level s next := by
  refine ⟨?_, ?_, ?_, ?_⟩
  · rw [hs]
    exact ⟨fun he => absurd he (by decide), fun hw => absurd (decides_of_wins hw) h⟩
  · rw [hs]
    exact ⟨fun he => absurd he (by decide), fun hl => absurd (decides_of_loses hl) h⟩
  · exact ⟨fun _ => h, fun _ => hs⟩
  · rw [hs]
    decide

theorem judged_of_wins {next : State} (hw : s.Wins level next.stars.length)
    (hl : ¬ s.Loses level next.stars.length) (hs : next.status = .completed) :
    Judged level s next := by
  refine ⟨?_, ?_, ?_, ?_⟩
  · exact ⟨fun _ => hw, fun _ => hs⟩
  · rw [hs]
    exact ⟨fun he => absurd he (by decide), fun h => absurd h hl⟩
  · rw [hs]
    exact ⟨fun he => absurd he (by decide), fun h => absurd (decides_of_wins hw) h⟩
  · rw [hs]
    decide

theorem judged_of_loses {next : State} (hl : s.Loses level next.stars.length)
    (hw : ¬ s.Wins level next.stars.length) (hs : next.status = .failed) :
    Judged level s next := by
  refine ⟨?_, ?_, ?_, ?_⟩
  · rw [hs]
    exact ⟨fun he => absurd he (by decide), fun h => absurd h hw⟩
  · exact ⟨fun _ => hl, fun _ => hs⟩
  · rw [hs]
    exact ⟨fun he => absurd he (by decide), fun h => absurd (decides_of_loses hl) h⟩
  · rw [hs]
    decide

/-- A step that neither arrives nor finds the blocks at their end decides nothing. -/
theorem not_decides (ha : s.arrival? level = none) (hs : ¬ s.Exhausted) : ¬ s.Decides level := by
  rintro (h | h | h)
  · exact not_arrivesOn ha .flag h
  · exact not_arrivesOn ha .hole h
  · exact hs h

theorem judged_on_flag {t next : State} (hflag : level.tileAt t.pose.cell = .flag)
    (hnext : next.status = (t.judge level).1.status) (hstars : next.stars = t.stars)
    (hr : s.ReachesFlag level) (hh : ¬ s.ArrivesOn level .hole)
    (hoff : s.Exhausted → level.tileAt s.pose.cell = .flag) : Judged level s next := by
  rw [judge_on_flag level t hflag] at hnext
  by_cases hm : level.minStars ≤ t.stars.length
  · rw [if_pos hm] at hnext
    rw [← hstars] at hm
    apply judged_of_wins ⟨hr, hm⟩ _ hnext
    rintro (h | h | h)
    · exact hh h
    · exact absurd h.2 (by omega)
    · exact h.2 (hoff h.1)
  · rw [if_neg hm] at hnext
    rw [← hstars] at hm
    apply judged_of_loses (Or.inr (Or.inl ⟨hr, by omega⟩)) _ hnext
    rintro ⟨-, h⟩
    exact hm h

theorem judged_exhausted (hr : s.Exhausted) (ha : s.arrival? level = none) :
    Judged level s ((s.rested.withStack []).judge level).1 := by
  by_cases hf : level.tileAt s.pose.cell = .flag
  · obtain ⟨status, he⟩ := judge_leaves level (s.rested.withStack [])
    exact judged_on_flag (t := s.rested.withStack []) hf rfl (by rw [he]) (Or.inr ⟨hr, hf⟩)
      (not_arrivesOn ha .hole) fun _ => hf
  · apply judged_of_loses (Or.inr (Or.inr ⟨hr, hf⟩))
    · rintro ⟨h | h, -⟩
      · exact not_arrivesOn ha .flag h
      · exact hf h.2
    · rw [judge_off_flag level (s.rested.withStack []) hf rfl]
      rfl

theorem judged_arrives {c : Cell} (hr : s.status = .running) (hs : settle s.stack ≠ none)
    (ha : s.arrival? level = some c) (fallen : Notice) (stack : List Frame) :
    Judged level s ((s.rested.arrive level c fallen).1.withStack stack) := by
  have hflag := arrivesOn_iff ha .flag
  have hhole := arrivesOn_iff ha .hole
  have hleft : ¬ s.Exhausted := fun h => hs h.2
  -- an arrival with blocks left is told by its tile alone
  unfold arrive
  simp only
  split
  · rename_i hf
    have hcell : ((s.rested.place c).collect level).pose.cell = c := by simp [place]
    refine judged_on_flag (t := (s.rested.place c).collect level) (by rw [hcell]; exact hf) rfl ?_
      (Or.inl (hflag.2 hf)) ?_ fun h => absurd h hleft
    · obtain ⟨status, he⟩ := judge_leaves level ((s.rested.place c).collect level)
      simp [he]
    · rw [hhole, hf]
      decide
  · rename_i hh
    apply judged_of_loses (Or.inl (hhole.2 hh))
    · rintro ⟨h | h, -⟩
      · rw [hflag, hh] at h
        exact absurd h (by decide)
      · exact hleft h.1
    · rfl
  · rename_i hf hh
    apply judged_of_undecided
    · rintro (h | h | h)
      · exact hf (hflag.1 h)
      · exact hh (hhole.1 h)
      · exact hleft h
    · simpa [place, rested] using hr

/-- What a step of a running state does decides the status after it. -/
theorem judged_step (hr : s.status = .running) : Judged level s (s.step level).1 := by
  have hst := stepped level s
  generalize ht : (s.step level).1 = t at hst ⊢
  cases hst with
  | ended terminal =>
    rw [hr] at terminal
    exact absurd terminal (by decide)
  | exhausted running done =>
    exact judged_exhausted ⟨hr, done⟩ (arrival?_eq_none (by rw [ht]; simp [rested, Pose.atRest]))
  | stays running next facing animation stack =>
    have ha : s.arrival? level = none := arrival?_eq_none (by rw [ht]; rfl)
    exact judged_of_undecided (not_decides ha fun h => next h.2) hr
  | @arrives running next c moved free fallen stack =>
    exact judged_arrives hr next (arrival?_eq_some (by rw [ht]; simp) moved) fallen stack

/-- A run that is over takes no deciding step any more. -/
theorem not_decides_of_over (h : s.status ≠ .running) :
    (s.step level).1.status = s.status ∧ ¬ s.Decides level := by
  have ht : s.status.isTerminal = true := by
    rw [← Bool.not_eq_false, isTerminal_eq_false]
    exact h
  rw [step_of_over ht]
  have ha : s.arrival? level = none := by
    apply arrival?_eq_none
    rw [step_of_over ht]
    rfl
  exact ⟨rfl, not_decides ha fun hd => h hd.1⟩

end

/-! ## Counting stars -/

/-- The number of distinct star cells on which a number of steps arrive. -/
def starCount (level : Level) (s : State) (n : Nat) : Nat :=
  ((s.arrivals level n).filter fun c => level.tileAt c = .star).dedup.length

/-- Distinct cells have distinct keys, so no key stands for two cells. -/
theorem size_keysOf {cells : List Cell} (h : cells.Nodup) : (keysOf cells).size = cells.length := by
  have hnodup : (keysOf cells).keys.Nodup := by
    apply (keysOf cells).sorted.imp
    intro a b hlt he
    subst he
    exact String.lt_irrefl a hlt
  have hkeys : (cells.map Cell.key).Nodup := h.map fun _ _ he => Cell.key_injective he
  have hperm : (keysOf cells).keys.Perm (cells.map Cell.key) := by
    rw [List.perm_ext_iff_of_nodup hnodup hkeys]
    intro k
    exact KeySet.mem_ofList
  unfold KeySet.size
  rw [hperm.length_eq, List.length_map]

theorem length_stars (level : Level) (program : Program) (start : Pose) (n : Nat) :
    ((initial program start).after level n).stars.length =
      (initial program start).starCount level n := by
  have h := taken_after level program start n
  apply List.Perm.length_eq
  rw [List.perm_ext_iff_of_nodup h.nodup (List.nodup_dedup _)]
  intro c
  rw [h.stars c, List.mem_dedup]
  simp

/-- A run never collects more stars than the level has. -/
theorem starCount_le (level : Level) (s : State) (n : Nat) :
    s.starCount level n ≤ (level.cellsOf .star).length := by
  apply List.Nodup.length_le_of_subset (List.nodup_dedup _)
  intro c hc
  rw [List.mem_dedup] at hc
  rw [Level.mem_cellsOf (by decide)]
  simpa using (List.mem_filter.1 hc).2

/-! ## The verdict of a run -/

/-- The status after a number of steps, told by the first step that decides. -/
structure Settled (level : Level) (run : State) (n : Nat) : Prop where
  completed : (run.after level n).status = .completed ↔
    ∃ k < n, (run.after level k).Wins level (run.starCount level (k + 1))
  failed : (run.after level n).status = .failed ↔
    ∃ k < n, (run.after level k).Loses level (run.starCount level (k + 1)) ∧
      ∀ j < k, ¬ (run.after level j).Decides level
  running : (run.after level n).status = .running ↔
    ∀ k < n, ¬ (run.after level k).Decides level
  not_error : (run.after level n).status ≠ .error

section

variable {level : Level} {run : State} {n : Nat}

theorem Settled.step_of_running (h : Settled level run n)
    (hr : (run.after level n).status = .running)
    (hc : (run.after level (n + 1)).stars.length = run.starCount level (n + 1)) :
    Settled level run (n + 1) := by
  have hj : Judged level (run.after level n) (run.after level (n + 1)) := by
    rw [after_succ]
    exact judged_step hr
  -- a state that still runs has no deciding step behind it, so this one is the first
  have hnone := h.running.1 hr
  refine ⟨?_, ?_, ?_, hj.not_error⟩
  · rw [hj.completed, hc, Nat.exists_lt_succ_right]
    constructor
    · exact Or.inr
    · rintro (⟨k, hk, hw⟩ | hw)
      · exact absurd (decides_of_wins hw) (hnone k hk)
      · exact hw
  · rw [hj.failed, hc, Nat.exists_lt_succ_right]
    constructor
    · intro hl
      exact Or.inr ⟨hl, hnone⟩
    · rintro (⟨k, hk, hl, -⟩ | ⟨hl, -⟩)
      · exact absurd (decides_of_loses hl) (hnone k hk)
      · exact hl
  · rw [hj.running, Nat.forall_lt_succ_right]
    exact ⟨fun hd => ⟨hnone, hd⟩, fun hd => hd.2⟩

theorem Settled.step_of_over (h : Settled level run n)
    (hr : (run.after level n).status ≠ .running) : Settled level run (n + 1) := by
  obtain ⟨hs, hd⟩ : _ ∧ ¬ (run.after level n).Decides level := not_decides_of_over hr
  rw [← after_succ] at hs
  refine ⟨?_, ?_, ?_, ?_⟩
  · rw [hs, h.completed, Nat.exists_lt_succ_right]
    constructor
    · exact Or.inl
    · rintro (hw | hw)
      · exact hw
      · exact absurd (decides_of_wins hw) hd
  · rw [hs, h.failed, Nat.exists_lt_succ_right]
    constructor
    · exact Or.inl
    · rintro (hl | ⟨hl, -⟩)
      · exact hl
      · exact absurd (decides_of_loses hl) hd
  · rw [hs, h.running, Nat.forall_lt_succ_right]
    exact ⟨fun hn => ⟨hn, hd⟩, fun hn => hn.1⟩
  · rw [hs]
    exact h.not_error

end

theorem settled (level : Level) (program : Program) (start : Pose) (n : Nat) :
    Settled level (initial program start) n := by
  induction n with
  | zero => constructor <;> simp [initial]
  | succ n ih =>
    by_cases hr : ((initial program start).after level n).status = .running
    · exact ih.step_of_running hr (length_stars level program start (n + 1))
    · exact ih.step_of_over hr

/-- A step that gives the verdict shows that the run is over. -/
theorem result_of_verdict (level : Level) (s : State)
    (h : s.ArrivesOn level .flag ∨ s.Exhausted) : (s.step level).2.status ≠ .running := by
  have hd : s.Decides level := by
    rcases h with h | h
    · exact Or.inl h
    · exact Or.inr (Or.inr h)
  obtain ⟨active, message, hshown⟩ := step_shows level s
  rw [hshown]
  change (s.step level).1.status ≠ .running
  by_cases hr : s.status = .running
  · exact fun hn => (judged_step hr).running.1 hn hd
  · exact absurd hd (not_decides_of_over hr).2

/-- A run that goes on has met neither the flag nor a hole, except at its start. -/
theorem Settled.arrivals_eq_nil {level : Level} {run : State} {n : Nat} (h : Settled level run n)
    (hr : (run.after level n).status = .running)
    (ht : level.tileAt (run.after level n).pose.cell = .flag ∨
      level.tileAt (run.after level n).pose.cell = .hole) : run.arrivals level n = [] := by
  rcases arrived_or_not level run n with hnil | ⟨k, hk, ha⟩
  · exact hnil
  · apply absurd _ (h.running.1 hr k hk)
    rcases ht with ht | ht
    · exact Or.inl ⟨_, ha, ht⟩
    · exact Or.inr (Or.inl ⟨_, ha, ht⟩)

theorem Settled.not_completed {level : Level} {run : State} {n : Nat} (h : Settled level run n)
    (hm : (level.cellsOf .star).length < level.minStars) :
    (run.after level n).status ≠ .completed := by
  rw [ne_eq, h.completed]
  rintro ⟨k, -, -, hk⟩
  have hle := starCount_le level run (k + 1)
  omega

/-! ## The law -/

/-- The first step that arrives on the flag or in a hole, or that finds no block left, decides the
run: it wins on the flag with enough distinct star cells behind it, and loses otherwise. Until
then the run goes on, away from flags and holes once it has moved. It never ends in an error, and
it never wins a level that asks for more stars than it has. -/
theorem the_first_deciding_step_gives_the_verdict (level : Level) (program : Program)
    (start : Pose) (n : Nat) :
    let run := initial program start
    let now := run.after level n
    (now.status = .completed ↔
        ∃ k < n, (run.after level k).Wins level (run.starCount level (k + 1))) ∧
      (now.status = .failed ↔
        ∃ k < n, (run.after level k).Loses level (run.starCount level (k + 1)) ∧
          ∀ j < k, ¬ (run.after level j).Decides level) ∧
      (now.status = .running ↔ ∀ k < n, ¬ (run.after level k).Decides level) ∧
      now.status ≠ .error ∧
      now.changes.stars.size = run.starCount level n ∧
      (now.ArrivesOn level .flag ∨ now.Exhausted →
        (run.result level n).status ≠ .running) ∧
      (now.status = .running →
        level.tileAt now.pose.cell = .flag ∨ level.tileAt now.pose.cell = .hole →
        run.arrivals level n = []) ∧
      ((level.cellsOf .star).length < level.minStars → now.status ≠ .completed) := by
  have h := settled level program start n
  refine ⟨h.completed, h.failed, h.running, h.not_error, ?_, ?_, ?_, ?_⟩
  · exact (size_keysOf (taken_after level program start n).nodup).trans
      (length_stars level program start n)
  · exact result_of_verdict level _
  · exact h.arrivals_eq_nil
  · exact h.not_completed

end BlockMaze.State
