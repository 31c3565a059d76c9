-- Levels with the same grid. How many stars a level asks for is looked at in
-- one place only: on the flag, where the run ends either way. So the runs of
-- a program on two such levels go in step. They show the same snapshots until
-- they end, they end at the same step, and only their verdicts may differ.
import BlockMaze.Proofs.Limits
import BlockMaze.Proofs.Verdict

namespace BlockMaze.State

/-! ## The verdict on the flag -/

/-- The status on the flag, with a number of stars. -/
def flagStatus (level : Level) (stars : Nat) : Status :=
  if level.minStars ≤ stars then .completed else .failed

/-- What is said on the flag, with a number of stars. -/
def flagNotice (level : Level) (stars : Nat) : Option Notice :=
  if level.minStars ≤ stars then none else some (.needStars level.minStars stars)

theorem flagStatus_isTerminal (level : Level) (stars : Nat) :
    (flagStatus level stars).isTerminal = true := by
  unfold flagStatus
  split <;> rfl

theorem flagStatus_eq_completed {level : Level} {stars : Nat} :
    flagStatus level stars = .completed ↔ level.minStars ≤ stars := by
  unfold flagStatus
  split <;> simp_all

/-- The state judged on the flag. -/
def judgedOnFlag (level : Level) (s : State) : State :=
  { s with status := flagStatus level s.stars.length }

theorem judge_eq_onFlag {level : Level} {s : State} (h : level.tileAt s.pose.cell = .flag) :
    s.judge level = (s.judgedOnFlag level, flagNotice level s.stars.length) := by
  rw [judge_on_flag level s h]
  unfold judgedOnFlag flagStatus flagNotice
  split <;> rfl

/-! ## One block on two levels -/

section

variable {level other : Level}

/-- Two outcomes of a block on two levels: they are one and the same, or both are verdicts on the
flag. -/
inductive SameAct (level other : Level) : State × Option Notice → State × Option Notice → Prop
  | together (r : State × Option Notice) : SameAct level other r r
  | apart {s : State} (flag : level.tileAt s.pose.cell = .flag) :
      SameAct level other (s.judgedOnFlag level, flagNotice level s.stars.length)
        (s.judgedOnFlag other, flagNotice other s.stars.length)

theorem tileAt_of_grid (hg : other.grid = level.grid) (c : Cell) :
    other.tileAt c = level.tileAt c := by
  unfold Level.tileAt
  rw [hg]

theorem collect_of_grid (hg : other.grid = level.grid) (s : State) :
    s.collect other = s.collect level := by
  unfold collect Level.tileAt Level.cellsOf
  rw [hg]

theorem opened_of_grid (hg : other.grid = level.grid) (s : State) (b : Block) :
    s.opened other b = s.opened level b := by
  unfold opened pathIsClear isOnStar facesWall
  simp only [tileAt_of_grid hg]

theorem stackAfter_of_grid (hg : other.grid = level.grid) (s : State) (b : Block) (f : Frame)
    (below : List Frame) : s.stackAfter other b f below = s.stackAfter level b f below := by
  unfold stackAfter passed
  rw [opened_of_grid hg]

theorem sameAct_judge (hg : other.grid = level.grid) (s : State) :
    SameAct level other (s.judge level) (s.judge other) := by
  by_cases hf : level.tileAt s.pose.cell = .flag
  · rw [judge_eq_onFlag hf, judge_eq_onFlag (by rw [tileAt_of_grid hg]; exact hf)]
    exact .apart hf
  · have heq : s.judge other = s.judge level := by
      unfold judge
      rw [tileAt_of_grid hg, if_neg hf, if_neg hf]
    rw [heq]
    exact .together _

theorem sameAct_arrive (hg : other.grid = level.grid) (s : State) (c : Cell) (fallen : Notice) :
    SameAct level other (s.arrive level c fallen) (s.arrive other c fallen) := by
  unfold arrive
  simp only [tileAt_of_grid hg, collect_of_grid hg]
  split
  · exact sameAct_judge hg _
  · exact .together _
  · exact .together _

theorem sameAct (hg : other.grid = level.grid) (s : State) (kind : Kind) :
    SameAct level other (s.act level kind) (s.act other kind) := by
  cases kind with
  | moveForward =>
    unfold act
    simp only [move_eq, tileAt_of_grid hg]
    split
    · exact .together _
    · split
      · exact .together _
      · exact sameAct_arrive hg s _ .fell
  | jump =>
    unfold act
    simp only [jump_eq, tileAt_of_grid hg]
    split
    · exact .together _
    · split
      · exact .together _
      · split
        · exact .together _
        · exact sameAct_arrive hg s _ .jumpedIntoHole
  | _ => exact .together _

/-! ## Runs in step -/

/-- The states of two runs: they are one and the same, or both runs have ended on the flag. -/
inductive Twins (level other : Level) : State → State → Prop
  | together (s : State) : Twins level other s s
  | apart {s : State} (flag : level.tileAt s.pose.cell = .flag) :
      Twins level other (s.judgedOnFlag level) (s.judgedOnFlag other)

/-- The steps of two runs: they are one and the same, or both show a runner on the flag, with
nothing to say if its stars are enough. -/
inductive TwinSteps (level other : Level) : State × Snapshot → State × Snapshot → Prop
  | together (r : State × Snapshot) : TwinSteps level other r r
  | apart {s : State} (flag : level.tileAt s.pose.cell = .flag) (active : Option String)
      {said said' : Option String} (silent : level.minStars ≤ s.stars.length → said = none)
      (silent' : other.minStars ≤ s.stars.length → said' = none) :
      TwinSteps level other (s.judgedOnFlag level, (s.judgedOnFlag level).shown active said)
        (s.judgedOnFlag other, (s.judgedOnFlag other).shown active said')

theorem TwinSteps.states {r r' : State × Snapshot} (h : TwinSteps level other r r') :
    Twins level other r.1 r'.1 := by
  cases h with
  | together => exact .together _
  | apart flag active silent silent' => exact .apart flag

theorem twinSteps_of_sameAct {r r' : State × Option Notice} (h : SameAct level other r r')
    (stack : List Frame) (active : Option String) :
    TwinSteps level other (r.1.withStack stack, r.1.shown active (r.2.map Notice.text))
      (r'.1.withStack stack, r'.1.shown active (r'.2.map Notice.text)) := by
  have hsilent : ∀ (l : Level) (stars : Nat), l.minStars ≤ stars →
      (flagNotice l stars).map Notice.text = none := by
    intro l stars hle
    unfold flagNotice
    rw [if_pos hle]
    rfl
  cases h with
  | together => exact .together _
  | @apart s flag =>
    exact .apart (s := s.withStack stack) flag active (hsilent level _) (hsilent other _)

/-- Two runs that are in step stay in step. -/
theorem Twins.step (hg : other.grid = level.grid) {s t : State} (h : Twins level other s t) :
    TwinSteps level other (s.step level) (t.step other) := by
  cases h with
  | together =>
    cases ht : s.status.isTerminal with
    | true =>
      rw [step_of_over ht, step_of_over ht]
      exact .together _
    | false =>
      cases hs : settle s.stack with
      | none =>
        -- the verdict is given with no body open, and leaves none open
        have hstack : ∀ l : Level, ((s.rested.withStack []).judge l).1.withStack [] =
            ((s.rested.withStack []).judge l).1 :=
          fun l => congrArg (withStack _) (judge_stack l (s.rested.withStack [])).symm
        have htwins := twinSteps_of_sameAct (sameAct_judge hg (s.rested.withStack [])) [] none
        rw [hstack, hstack] at htwins
        rw [step_of_done ht hs, step_of_done ht hs]
        exact htwins
      | some found =>
        obtain ⟨b, f, below⟩ := found
        rw [step_of_next ht hs, step_of_next ht hs, stackAfter_of_grid hg]
        exact twinSteps_of_sameAct (sameAct hg s.rested b.kind) _ (some b.id)
  | @apart s flag =>
    rw [step_of_over (flagStatus_isTerminal level _), step_of_over (flagStatus_isTerminal other _)]
    exact .apart (s := s.rested) flag none (fun _ => rfl) fun _ => rfl

theorem twinSteps_result (hg : other.grid = level.grid) (s : State) (n : Nat) :
    TwinSteps level other ((s.after level n).step level) ((s.after other n).step other) := by
  have htwins : ∀ k, Twins level other (s.after level k) (s.after other k) := by
    intro k
    induction k with
    | zero => exact .together s
    | succ k ih =>
      rw [after_succ, after_succ]
      exact (ih.step hg).states
  exact (htwins n).step hg

/-! ## What the snapshots have in common -/

section

variable {r r' : State × Snapshot}

theorem TwinSteps.seen (h : TwinSteps level other r r') :
    r'.2.pose = r.2.pose ∧ r'.2.active = r.2.active ∧ r'.2.changes = r.2.changes := by
  cases h with
  | together => exact ⟨rfl, rfl, rfl⟩
  | apart flag active silent silent' => exact ⟨rfl, rfl, rfl⟩

theorem TwinSteps.isTerminal (h : TwinSteps level other r r') :
    r'.2.isTerminal = r.2.isTerminal := by
  cases h with
  | together => rfl
  | apart flag active silent silent' =>
    exact (flagStatus_isTerminal other _).trans (flagStatus_isTerminal level _).symm

theorem TwinSteps.eq_of_running (h : TwinSteps level other r r')
    (hr : r.2.isTerminal = false) : r'.2 = r.2 := by
  cases h with
  | together => rfl
  | apart flag active silent silent' =>
    exact absurd ((flagStatus_isTerminal level _).symm.trans hr) (by decide)

theorem TwinSteps.eq_of_completed (h : TwinSteps level other r r')
    (hc : r.2.status = .completed) (hle : other.minStars ≤ level.minStars) : r'.2 = r.2 := by
  cases h with
  | together => rfl
  | @apart s flag active said said' silent silent' =>
    have hhere : level.minStars ≤ s.stars.length := flagStatus_eq_completed.1 hc
    have hthere : other.minStars ≤ s.stars.length := Nat.le_trans hle hhere
    rw [silent hhere, silent' hthere]
    unfold judgedOnFlag
    rw [flagStatus_eq_completed.2 hhere, flagStatus_eq_completed.2 hthere]

theorem TwinSteps.eq_off_flag (h : TwinSteps level other r r')
    (ho : level.tileAt r.2.pose.cell ≠ .flag) : r'.2 = r.2 := by
  cases h with
  | together => rfl
  | apart flag active silent silent' => exact absurd flag ho

end

end

/-! ## Ends that no verdict on the flag has a part in -/

/-- The next step arrives in a hole, or finds no block left away from the flag. -/
def LosesOffFlag (level : Level) (s : State) : Prop :=
  s.ArrivesOn level .hole ∨ (s.Exhausted ∧ level.tileAt s.pose.cell ≠ .flag)

theorem failed_of_losesOffFlag {level : Level} {s : State} (h : s.LosesOffFlag level) :
    (s.step level).2.status = .failed ∧ level.tileAt (s.step level).2.pose.cell ≠ .flag := by
  have hloses : s.Loses level (s.step level).1.stars.length := by
    rcases h with h | h
    · exact Or.inl h
    · exact Or.inr (Or.inr h)
  have hr : s.status = .running := by
    by_contra hover
    exact (not_decides_of_over hover).2 (decides_of_loses hloses)
  obtain ⟨active, message, hshown⟩ := step_shows level s
  rw [hshown]
  refine ⟨(judged_step hr).failed.2 hloses, ?_⟩
  rcases h with ⟨c, hc, hhole⟩ | ⟨hend, hoff⟩
  · change level.tileAt (s.step level).1.pose.cell ≠ .flag
    rw [cell_of_arrival? hc, hhole]
    decide
  · rw [step_of_done (isTerminal_eq_false.2 hr) hend.2]
    change level.tileAt ((s.rested.withStack []).judge level).1.pose.cell ≠ .flag
    rw [judge_pose]
    exact hoff

/-- Two snapshots of a run that both show its end show the same verdict on the same cell. -/
theorem ends_alike {level : Level} {s : State} {i j : Nat}
    (hi : (s.result level i).isTerminal = true) (hj : (s.result level j).isTerminal = true) :
    (s.result level i).status = (s.result level j).status ∧
      (s.result level i).pose.cell = (s.result level j).pose.cell := by
  rcases Nat.lt_trichotomy i j with hij | rfl | hij
  · rw [result_of_over hij hi]
    exact ⟨rfl, rfl⟩
  · exact ⟨rfl, rfl⟩
  · rw [result_of_over hij hj]
    exact ⟨rfl, rfl⟩

/-! ## The law -/

/-- On levels with the same grid, the runs of a program show the runner at the same places with
the same things, visit the same blocks, end at the same step, and are the same up to there. A run
that wins is the same on every such level that asks for no more stars. A run that ends in a hole,
or with no block left away from the flag, is the same on all of them. -/
theorem the_stars_asked_for_only_decide_the_verdict (level other : Level)
    (hgrid : other.grid = level.grid) (program : Program) (start : Pose) :
    let run := initial program start
    let here := run.result level
    let there := run.result other
    (∀ n, (there n).pose = (here n).pose ∧ (there n).active = (here n).active ∧
        (there n).changes = (here n).changes) ∧
      run.endStep other = run.endStep level ∧
      (∀ n : Nat, ((n + 1 : Nat) : ℕ∞) < run.endStep level → there n = here n) ∧
      (other.minStars ≤ level.minStars →
        ∀ k, (here k).status = .completed → ∀ n, there n = here n) ∧
      (∀ k, (run.after level k).LosesOffFlag level →
        (here k).status = .failed ∧ ∀ n, there n = here n) := by
  intro run here there
  have htwins := twinSteps_result hgrid run
  -- up to their end the runs are the same, so only snapshots that show the end are in question
  have hsame : (∀ n, (here n).isTerminal = true → there n = here n) → ∀ n, there n = here n := by
    intro h n
    cases hn : (here n).isTerminal with
    | true => exact h n hn
    | false => exact (htwins n).eq_of_running hn
  refine ⟨fun n => (htwins n).seen, ?_, ?_, ?_, ?_⟩
  · unfold endStep
    congr 1
    funext n
    exact congrArg (· = true) (htwins n).isTerminal
  · intro n hn
    have hrun : ¬ (here n).isTerminal = true := lt_firstStep.1 hn n (Nat.lt_succ_self n)
    exact (htwins n).eq_of_running (Bool.eq_false_of_not_eq_true hrun)
  · intro hle k hk
    have hend : (here k).isTerminal = true := congrArg Status.isTerminal hk
    refine hsame fun n hn => (htwins n).eq_of_completed ?_ hle
    exact (ends_alike hn hend).1.trans hk
  · intro k hk
    obtain ⟨hfailed, hoff⟩ := failed_of_losesOffFlag hk
    have hend : (here k).isTerminal = true := congrArg Status.isTerminal hfailed
    refine ⟨hfailed, hsame fun n hn => (htwins n).eq_off_flag ?_⟩
    change level.tileAt (here n).pose.cell ≠ .flag
    rw [(ends_alike hn hend).2]
    exact hoff

/-- A star on the way to the flag wins the level that asks for one, and so it wins the level that
asks for none; the start that the second level names plays no part. -/
theorem a_star_on_the_way_is_enough_for_both :
    let grid : Grid := ⟨[[.start, .star, .flag]], 3, by decide, by decide, by decide, by decide⟩
    let level : Level := ⟨1, "One star", grid, ⟨⟨0, 0⟩, .right, .idle⟩, [], 1, none, none⟩
    let other : Level := ⟨2, "No star", grid, ⟨⟨2, 0⟩, .up, .idle⟩, [], 0, some 2, none⟩
    let run := initial [⟨"twice", .loop, some 2, some [⟨"on", .moveForward, none, none⟩]⟩]
      level.start
    (other.grid = level.grid ∧ other.minStars ≤ level.minStars ∧
      (run.result level 2).status = .completed) ∧
      run.endStep other = run.endStep level ∧ ∀ n, run.result other n = run.result level n := by
  intro grid level other run
  have hcompleted : (run.result level 2).status = .completed := by decide
  obtain ⟨-, hend, -, hwins, -⟩ :=
    the_stars_asked_for_only_decide_the_verdict level other rfl
      [⟨"twice", .loop, some 2, some [⟨"on", .moveForward, none, none⟩]⟩] level.start
  exact ⟨⟨rfl, by decide, hcompleted⟩, hend, hwins (by decide) 2 hcompleted⟩

end BlockMaze.State
