-- Programs that always end. A `WHILE_PATH` may run for ever, but not if its
-- body walks on first and never turns: then every round takes the runner
-- further along a line of the grid, and the line ends. The weight of a
-- program bounds its steps.
import BlockMaze.Proofs.GridCells
import BlockMaze.Proofs.Limits
import BlockMaze.Proofs.TreeRun
import BlockMaze.Proofs.TreeWalk

namespace BlockMaze

open Activity

/-! ## Weights -/

/-- The larger of the two sizes of a grid. -/
def Grid.span (g : Grid) : Nat := max g.height g.width

/-- The weight of a block around blocks of some weight, in a grid of some span: a visit counts one,
and a `WHILE_PATH` may be visited once more than the grid is long. -/
def weightAround (span : Nat) (b : Block) (inside : Nat) : Nat :=
  if b.children.isEmpty then 1
  else
    match b.kind with
    | .loop => 1 + loopRounds b * inside
    | .whilePath => (span + 1) + span * inside
    | .ifStar => 1 + inside
    | .ifWall => 1 + inside
    | _ => 1

namespace Block

mutual

/-- The weight of a block. -/
def weight (span : Nat) : Block → Nat
  | ⟨id, kind, count, none⟩ => weightAround span ⟨id, kind, count, none⟩ 0
  | ⟨id, kind, count, some body⟩ =>
    weightAround span ⟨id, kind, count, some body⟩ (weightAll span body)

/-- The weight of a list of blocks. -/
def weightAll (span : Nat) : List Block → Nat
  | [] => 0
  | b :: bs => weight span b + weightAll span bs

end

theorem weight_eq (span : Nat) (b : Block) :
    b.weight span = weightAround span b (weightAll span b.children) := by
  obtain ⟨id, kind, count, body⟩ := b
  cases body with
  | none => simp [weight, children, weightAll]
  | some body => simp [weight, children]

/-- A `WHILE_PATH` with a body moves forward first and never turns. -/
def WalksOn (b : Block) : Prop :=
  b.kind = .whilePath → b.children ≠ [] →
    (∃ first rest, b.children = first :: rest ∧ first.kind = .moveForward) ∧
      ∀ c ∈ Program.walk b.children, c.kind ≠ .turnLeft ∧ c.kind ≠ .turnRight

end Block

/-! ## The room ahead -/

/-- The number of cells between the runner and the edge of the grid that it faces. -/
def Pose.room (g : Grid) (p : Pose) : Nat :=
  match p.facing with
  | .up => p.cell.y.toNat
  | .right => (g.width - 1 - p.cell.x).toNat
  | .down => (g.height - 1 - p.cell.y).toNat
  | .left => p.cell.x.toNat

theorem room_ahead (g : Grid) (p : Pose) (distance : Nat) :
    Pose.room g { p with cell := p.ahead distance } = p.room g - distance := by
  unfold Pose.room Pose.ahead Cell.ahead
  cases hf : p.facing <;> simp only [Direction.offset] <;> omega

/-- A runner that does not face a wall has room ahead, and no more than the grid is long, also when
it stands outside. -/
theorem room_of_free {level : Level} {p : Pose}
    (h : (level.tileAt (p.ahead 1)).isWallLike = false) :
    1 ≤ p.room level.grid ∧ p.room level.grid ≤ level.grid.span := by
  have hne : level.tileAt (p.ahead 1) ≠ .outside := by
    intro he
    rw [he] at h
    exact absurd h (by decide)
  obtain ⟨hx, hx', hy, hy'⟩ := Level.holds_of_tileAt hne
  unfold Pose.ahead Cell.ahead at hx hx' hy hy'
  unfold Pose.room Grid.span
  cases hf : p.facing <;> simp only [hf, Direction.offset] at hx hx' hy hy' ⊢ <;> omega

namespace State

variable {level : Level} {s : State}

theorem room_arrive (level : Level) (s : State) (distance : Nat) (fallen : Notice) :
    (s.arrive level (s.pose.ahead distance) fallen).1.pose.room level.grid =
      s.pose.room level.grid - distance := by
  rw [arrive_pose, room_ahead]

/-- Only a turn can make more room. -/
theorem room_act (level : Level) (s : State) {kind : Kind} (hl : kind ≠ .turnLeft)
    (hr : kind ≠ .turnRight) :
    (s.act level kind).1.pose.room level.grid ≤ s.pose.room level.grid := by
  have hacts := acts level s kind
  generalize s.act level kind = r at hacts ⊢
  cases hacts with
  | turns hm hj =>
    have hfacing : kind.turned s.pose.facing = s.pose.facing := by
      cases kind with
      | turnLeft => exact absurd rfl hl
      | turnRight => exact absurd rfl hr
      | _ => rfl
    rw [hfacing]
    exact Nat.le_refl _
  | denied h notice => exact Nat.le_refl _
  | walks h => exact (room_arrive level s 1 .fell).trans_le (Nat.sub_le _ _)
  | leaps h free => exact (room_arrive level s 2 .jumpedIntoHole).trans_le (Nat.sub_le _ _)

/-- On a clear path lies neither a wall nor a locked door. -/
theorem passable_of_pathIsClear (h : s.pathIsClear level = true) :
    s.Passable level (s.pose.ahead 1) := (pathIsClear_iff.1 h).1

/-- A move along a clear path takes one cell of the room. -/
theorem room_move (h : s.pathIsClear level = true) :
    (s.move level).1.pose.room level.grid = s.pose.room level.grid - 1 := by
  obtain ⟨hfree, hopen⟩ := passable_of_pathIsClear h
  rw [move_eq]
  simp only [hfree, hopen, Bool.false_eq_true, if_false]
  exact room_arrive level s 1 .fell

end State

/-! ## Activities that never go back -/

/-- However far an activity is taken, it never makes more room for the runner. -/
def NeverBack (level : Level) (a : Activity) : Prop :=
  ∀ n r, (a n r).runner.pose.room level.grid ≤ r.pose.room level.grid

section

variable {level : Level} {a b : Activity}

theorem neverBack_idle : NeverBack level idle := fun _ _ => Nat.le_refl _

theorem NeverBack.andThen (ha : NeverBack level a) (hb : NeverBack level b) :
    NeverBack level (a.andThen b) := fun n r =>
  (hb (n - (a n r).shown.length) (a n r).runner).trans (ha n r)

theorem NeverBack.times (ha : NeverBack level a) (k : Nat) : NeverBack level (a.times k) := by
  induction k with
  | zero => exact neverBack_idle
  | succ k ih => exact ha.andThen ih

theorem NeverBack.when (ha : NeverBack level a) (guard : State → Bool) :
    NeverBack level (a.when guard) := by
  intro n r
  unfold Activity.when
  split
  · exact ha n r
  · exact Nat.le_refl _

theorem room_visit (level : Level) {b : Block} (hl : b.kind ≠ .turnLeft)
    (hr : b.kind ≠ .turnRight) (r : Runner) :
    (r.visit level b).1.pose.room level.grid ≤ r.pose.room level.grid :=
  State.room_act level r.state.rested hl hr

theorem neverBack_visit (level : Level) {b : Block} (hl : b.kind ≠ .turnLeft)
    (hr : b.kind ≠ .turnRight) : NeverBack level (once (Runner.visit level b)) := by
  intro n r
  cases n with
  | zero => exact Nat.le_refl _
  | succ n =>
    simp only [once]
    split
    · exact Nat.le_refl _
    · exact room_visit level hl hr r

theorem neverBack_whileClear (level : Level) {b : Block} (hk : b.kind = .whilePath)
    {body : Activity} (hbody : NeverBack level body) :
    NeverBack level (whileClear level b body) := by
  intro n r
  induction n using Nat.strongRecOn generalizing r with
  | ind n ih =>
    by_cases hend : n = 0 ∨ r.isOver = true
    · rw [bounded_whileClear level b body n r hend]
    · obtain ⟨n, rfl⟩ : ∃ k, n = k + 1 := ⟨n - 1, by omega⟩
      have hvisit := room_visit level (b := b) (by simp [hk]) (by simp [hk]) r
      rw [whileClear_succ level b body n (by simpa using (not_or.1 hend).2)]
      refine Nat.le_trans ?_ hvisit
      simp only [Stretch.cons]
      split
      · exact (ih _ (by omega) _).trans (hbody n _)
      · exact Nat.le_refl _

theorem neverBack_runBlock (level : Level) {b : Block} (hl : b.kind ≠ .turnLeft)
    (hr : b.kind ≠ .turnRight) (hbody : NeverBack level (runBlocks level b.children)) :
    NeverBack level (runBlock level b) := by
  have hv := neverBack_visit level hl hr
  rw [runBlock_eq]
  unfold runAround
  split
  · exact hv
  · split
    · exact hv.andThen (hbody.times _)
    · exact neverBack_whileClear level ‹_› hbody
    · exact hv.andThen (hbody.when _)
    · exact hv.andThen (hbody.when _)
    · exact hv

theorem neverBack_runBlocks (level : Level) {bs : List Block}
    (h : ∀ c ∈ Program.walk bs, c.kind ≠ .turnLeft ∧ c.kind ≠ .turnRight) :
    NeverBack level (runBlocks level bs) := by
  induction bs using Program.tree_induction with
  | nil =>
    rw [runBlocks]
    exact neverBack_idle
  | cons b bs inside behind =>
    obtain ⟨⟨hl, hr⟩, hin, hbehind⟩ := Program.forall_mem_walk_cons.1 h
    rw [runBlocks]
    exact (neverBack_runBlock level hl hr (inside hin)).andThen (behind hbehind)

/-- Blocks that move first and never turn take room away from a runner on a clear path. -/
theorem room_runBlocks_lt {first : Block} {rest : List Block} (hk : first.kind = .moveForward)
    (hrest : NeverBack level (runBlocks level rest)) (n : Nat) {r : Runner}
    (hover : r.isOver = false) (hclear : r.state.pathIsClear level = true) :
    (runBlocks level (first :: rest) (n + 1) r).runner.pose.room level.grid <
      r.pose.room level.grid := by
  have hrun : runBlock level first = once (Runner.visit level first) := by
    rw [runBlock_eq]
    unfold runAround
    simp [hk]
  have hmove : (r.visit level first).1.pose.room level.grid = r.pose.room level.grid - 1 := by
    unfold Runner.visit
    simp only [hk]
    exact State.room_move (s := r.state.rested) hclear
  have hpos : 1 ≤ r.pose.room level.grid :=
    (room_of_free (State.passable_of_pathIsClear hclear).1).1
  rw [runBlocks, hrun, andThen_of_cons (once_succ _ n hover), idle_andThen]
  have := hrest n (r.visit level first).1
  simp only [Stretch.cons]
  omega

end

/-! ## What activities cost -/

/-- However far an activity is taken, it shows at most a number of snapshots. -/
def Costs (a : Activity) (cost : Nat) : Prop := ∀ n r, (a n r).shown.length ≤ cost

section

variable {a b : Activity} {v w : Nat}

theorem costs_idle : Costs idle 0 := fun _ _ => Nat.le_refl 0

theorem Costs.andThen (ha : Costs a v) (hb : Costs b w) : Costs (a.andThen b) (v + w) := by
  intro n r
  have hfirst := ha n r
  have hsecond := hb (n - (a n r).shown.length) (a n r).runner
  simp only [Activity.andThen, List.length_append]
  omega

theorem Costs.times (ha : Costs a w) (k : Nat) : Costs (a.times k) (k * w) := by
  induction k with
  | zero =>
    rw [Nat.zero_mul]
    exact costs_idle
  | succ k ih =>
    have h := ha.andThen ih
    rw [Nat.succ_mul, Nat.add_comm (k * w) w]
    exact h

theorem Costs.when (ha : Costs a w) (guard : State → Bool) : Costs (a.when guard) w := by
  intro n r
  unfold Activity.when
  split
  · exact ha n r
  · exact Nat.zero_le w

theorem costs_once (act : Runner → Runner × Snapshot) : Costs (once act) 1 := by
  intro n r
  cases n with
  | zero => exact Nat.zero_le 1
  | succ n =>
    simp only [once]
    split
    · exact Nat.zero_le 1
    · exact Nat.le_refl 1

end

section

variable (level : Level) {b : Block}

/-- A `WHILE_PATH` whose body takes room away is visited at most once more than there is room. -/
theorem length_whileClear_le (hk : b.kind = .whilePath) {body : Activity} {w : Nat}
    (hcost : Costs body w)
    (hless : ∀ n r, r.isOver = false → r.state.pathIsClear level = true →
      (body (n + 1) r).runner.pose.room level.grid < r.pose.room level.grid)
    (k n : Nat) (r : Runner)
    (hroom : r.state.pathIsClear level = true → r.pose.room level.grid ≤ k) :
    (whileClear level b body n r).shown.length ≤ (k + 1) + k * w := by
  induction n using Nat.strongRecOn generalizing k r with
  | ind n ih =>
    by_cases hend : n = 0 ∨ r.isOver = true
    · rw [bounded_whileClear level b body n r hend]
      exact Nat.zero_le _
    obtain ⟨n, rfl⟩ : ∃ j, n = j + 1 := ⟨n - 1, by omega⟩
    have hover : r.isOver = false := by simpa using (not_or.1 hend).2
    have hstate := visit_control level b r (by simp [hk, Kind.isControl])
    rw [whileClear_succ level b body n hover, hstate]
    -- the test of the path leaves the runner where it is
    generalize (r.visit level b).1 = tested at hstate ⊢
    have hsame : tested.pose.room level.grid = r.pose.room level.grid :=
      congrArg (fun s : State => s.pose.room level.grid) hstate
    have hover' : tested.isOver = false :=
      (congrArg (fun s : State => s.status.isTerminal) hstate).trans hover
    simp only [Stretch.cons, List.length_cons]
    split
    · rename_i hclear
      have hle := hroom hclear
      have hpos := (room_of_free (State.passable_of_pathIsClear hclear).1).1
      obtain ⟨k, rfl⟩ : ∃ j, k = j + 1 := by
        have hpos' : 1 ≤ r.pose.room level.grid := hpos
        exact ⟨k - 1, by omega⟩
      have hturn := hcost n tested
      simp only [Activity.andThen, List.length_append]
      have hrest : (whileClear level b body (n - (body n tested).shown.length)
          (body n tested).runner).shown.length ≤ (k + 1) + k * w := by
        cases n with
        | zero =>
          rw [bounded_whileClear level b body _ _ (Or.inl (Nat.zero_sub _))]
          exact Nat.zero_le _
        | succ n =>
          refine ih _ (by omega) k _ fun _ => ?_
          have := hless n tested hover' (by rw [hstate]; exact hclear)
          omega
      rw [Nat.succ_mul]
      omega
    · simp only [idle, List.length_nil]
      omega

theorem costs_whileClear (hk : b.kind = .whilePath) (hne : b.children ≠ []) (h : b.WalksOn)
    {w : Nat} (hcost : Costs (runBlocks level b.children) w) :
    Costs (whileClear level b (runBlocks level b.children))
      (level.grid.span + 1 + level.grid.span * w) := by
  obtain ⟨⟨first, rest, hfirst, hmove⟩, hturns⟩ := h hk hne
  have hrest : NeverBack level (runBlocks level rest) := by
    rw [hfirst, Program.forall_mem_walk_cons] at hturns
    exact neverBack_runBlocks level hturns.2.2
  intro n r
  refine length_whileClear_le level hk hcost ?_ level.grid.span n r fun hclear => ?_
  · intro n r hover hclear
    rw [hfirst]
    exact room_runBlocks_lt hmove hrest n hover hclear
  · exact (room_of_free (State.passable_of_pathIsClear hclear).1).2

theorem costs_runBlock (h : b.WalksOn) {w : Nat} (hcost : Costs (runBlocks level b.children) w) :
    Costs (runBlock level b) (weightAround level.grid.span b w) := by
  have hv := costs_once (Runner.visit level b)
  rw [runBlock_eq]
  unfold runAround weightAround
  split
  · exact hv
  · rename_i hne
    cases hk : b.kind with
    | loop => exact hv.andThen (hcost.times _)
    | whilePath => exact costs_whileClear level hk (by simpa using hne) h hcost
    | ifStar => exact hv.andThen (hcost.when _)
    | ifWall => exact hv.andThen (hcost.when _)
    | _ => exact hv

theorem costs_runBlocks {bs : List Block} (h : ∀ c ∈ Program.walk bs, c.WalksOn) :
    Costs (runBlocks level bs) (Block.weightAll level.grid.span bs) := by
  induction bs using Program.tree_induction with
  | nil =>
    rw [runBlocks]
    exact costs_idle
  | cons b bs inside behind =>
    obtain ⟨hb, hin, hbehind⟩ := Program.forall_mem_walk_cons.1 h
    rw [runBlocks, Block.weightAll, Block.weight_eq]
    exact (costs_runBlock level hb (inside hin)).andThen (behind hbehind)

end

/-! ## The law -/

/-- A run that goes on has visited a block with every step. -/
theorem length_resume_of_running (level : Level) (n : Nat) (stack : List Frame) (r : Runner)
    (h : ((r.on stack).after level n).status.isTerminal = false) :
    (resume level stack n r).shown.length = n := by
  induction n generalizing stack r with
  | zero => rw [bounded_resume level stack 0 r (Or.inl rfl)]; rfl
  | succ n ih =>
    have hover : r.isOver = false :=
      State.running_before (s := r.on stack) (Nat.zero_le (n + 1)) h
    have hset := resume_of_settle level stack
    rw [State.after_succ_first] at h
    cases hs : settle stack with
    | none =>
      -- the verdict would have ended the run
      rw [step_on_done level hover hs] at h
      have hrun := State.running_before (s := (r.judged level).1.on []) (Nat.zero_le n) h
      exact absurd ((judged_isOver level r).symm.trans hrun) (by decide)
    | some found =>
      obtain ⟨b, f, below⟩ := found
      rw [hs] at hset
      rw [step_on_next level hover hs] at h
      rw [hset]
      simp only
      rw [resume_succ level b f below n hover (State.next_of_settle hs)]
      simp only [Stretch.cons, List.length_cons]
      rw [ih _ _ h]

/-- A program whose `WHILE_PATH` blocks walk on first and never turn always ends: within any limit
greater than its weight, from any start and on any level, a run returns, after no more steps than
the weight and one for the verdict. -/
theorem a_program_that_walks_on_ends_within_its_weight (level : Level) (program : Program)
    (start : Pose) (limit : Int) (hwalks : ∀ b ∈ Program.walk program, b.WalksOn)
    (hlimit : (Block.weightAll level.grid.span program + 1 : Nat) ≤ limit) :
    ∃ results, ((State.initial program start).run level limit).2 = .ok results ∧
      results.length ≤ Block.weightAll level.grid.span program + 1 := by
  have hend : (State.initial program start).endStep level ≤
      ((Block.weightAll level.grid.span program + 1 : Nat) : ℕ∞) := by
    by_contra hlt
    have hrun := lt_firstStep.1 (not_le.1 hlt) _ (Nat.lt_succ_self _)
    rw [State.result_isTerminal, initial_eq_on] at hrun
    have hlength := length_resume_of_running level _ _ _ (by simpa using hrun)
    have hcost := costs_runBlocks level hwalks
      (Block.weightAll level.grid.span program + 1) (.atStart start)
    rw [← resume_initial level program, hlength] at hcost
    omega
  have hle : (State.initial program start).endStep level ≤ (limit.toNat : ℕ∞) :=
    hend.trans (by exact_mod_cast (by omega : _ ≤ limit.toNat))
  rw [State.run_eq, if_pos hle]
  refine ⟨_, rfl, ?_⟩
  rw [State.length_steps]
  exact ENat.toNat_le_of_le_natCast hend

/-- A walk along a corridor of three cells, from outside and repeated by a loop. -/
theorem a_walk_along_a_corridor_ends :
    let level : Level :=
      ⟨1, "Corridor", ⟨[[.empty, .star, .empty]], 3, by decide, by decide, by decide, by decide⟩,
        ⟨⟨0, 0⟩, .right, .idle⟩, [], 0, none, none⟩
    let walk : Block := ⟨"walk", .whilePath, none, some [⟨"step", .moveForward, none, none⟩]⟩
    let program : Program := [⟨"twice", .loop, some 2, some [walk]⟩]
    ((∀ b ∈ Program.walk program, b.WalksOn) ∧ Block.weightAll level.grid.span program = 15) ∧
      ∃ results, ((State.initial program ⟨⟨-1, 0⟩, .right, .idle⟩).run level 16).2 = .ok results ∧
        results.length ≤ 16 := by
  intro level walk program
  have hwalks : ∀ b ∈ Program.walk program, b.WalksOn := by
    simp [program, walk, Program.walk, Block.WalksOn, Block.children]
  have hweight : Block.weightAll level.grid.span program = 15 := by
    simp [program, walk, level, Grid.span, Grid.height, Block.weightAll, Block.weight, weightAround,
      Block.children, loopRounds]
  have h := a_program_that_walks_on_ends_within_its_weight level program ⟨⟨-1, 0⟩, .right, .idle⟩ 16
    hwalks (by rw [hweight]; decide)
  rw [hweight] at h
  exact ⟨⟨hwalks, hweight⟩, h⟩

end BlockMaze
