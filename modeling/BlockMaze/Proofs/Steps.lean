-- The two halves of a step. What a step does to the place in the program
-- and what it does to the runner are told apart here, once for all laws of
-- runs: a visit acts on the runner and puts a new stack under it, and an
-- action leaves the runner, turns it, denies it, or lets it arrive.
import BlockMaze.Run.Step

namespace BlockMaze

/-- The facing behind a block: a turn is one quarter in its sense, and no other block turns. -/
def Kind.turned : Kind → Direction → Direction
  | .turnLeft, d => d.turnedLeft
  | .turnRight, d => d.turnedRight
  | _, d => d

theorem Cell.ahead_two (c : Cell) (d : Direction) : c.ahead d 2 = (c.ahead d 1).ahead d 1 := by
  unfold ahead
  cases d <;> simp [Direction.offset] <;> omega

namespace State

/-! ## Runs by number of steps -/

/-- The state after a number of steps. -/
def after (level : Level) (s : State) (n : Nat) : State := (s.steps level n).1

/-- The snapshot of the step that follows a number of steps. -/
def result (level : Level) (s : State) (n : Nat) : Snapshot := ((s.after level n).step level).2

@[simp]
theorem after_zero (level : Level) (s : State) : s.after level 0 = s := rfl

theorem after_succ_first (level : Level) (s : State) (n : Nat) :
    s.after level (n + 1) = (s.step level).1.after level n := rfl

theorem after_succ (level : Level) (s : State) (n : Nat) :
    s.after level (n + 1) = ((s.after level n).step level).1 := by
  induction n generalizing s with
  | zero => rfl
  | succ n ih => rw [after_succ_first, ih, ← after_succ_first]

theorem steps_succ_snd (level : Level) (s : State) (n : Nat) :
    (s.steps level (n + 1)).2 = (s.step level).2 :: ((s.step level).1.steps level n).2 := rfl

/-! ## Another stack under the runner -/

/-- The state with another place in the program. -/
def withStack (s : State) (stack : List Frame) : State := { s with stack := stack }

section

variable (s : State) (stack : List Frame)

@[simp] theorem withStack_stack : (s.withStack stack).stack = stack := rfl

@[simp] theorem withStack_pose : (s.withStack stack).pose = s.pose := rfl

@[simp] theorem withStack_stars : (s.withStack stack).stars = s.stars := rfl

@[simp] theorem withStack_status : (s.withStack stack).status = s.status := rfl

@[simp] theorem shown_withStack (active message : Option String) :
    (s.withStack stack).shown active message = s.shown active message := rfl

end

/-! ## Collecting -/

theorem collect_of_star {level : Level} {s : State} (h : level.tileAt s.pose.cell = .star) :
    s.collect level = { s with stars := s.stars.insert s.pose.cell } := by
  simp [collect, h]

theorem collect_of_old_key {level : Level} {s : State} (h : level.tileAt s.pose.cell = .key)
    (hk : s.pose.cell ∈ s.keys) : s.collect level = s := by
  simp [collect, h, hk]

theorem collect_of_new_key {level : Level} {s : State} (h : level.tileAt s.pose.cell = .key)
    (hk : s.pose.cell ∉ s.keys) :
    s.collect level =
      { s with
        keys := s.keys.insert s.pose.cell
        doors := (level.cellsOf .door).foldr List.insert s.doors } := by
  simp [collect, h, hk]

theorem collect_of_other {level : Level} {s : State} (hs : level.tileAt s.pose.cell ≠ .star)
    (hk : level.tileAt s.pose.cell ≠ .key) : s.collect level = s := by
  simp only [collect]

theorem collect_cases (level : Level) (s : State) :
    (level.tileAt s.pose.cell = .star ∧
      s.collect level = { s with stars := s.stars.insert s.pose.cell }) ∨
    (level.tileAt s.pose.cell = .key ∧ s.pose.cell ∉ s.keys ∧
      s.collect level =
        { s with
          keys := s.keys.insert s.pose.cell
          doors := (level.cellsOf .door).foldr List.insert s.doors }) ∨
    (level.tileAt s.pose.cell = .key ∧ s.pose.cell ∈ s.keys ∧ s.collect level = s) ∨
    (level.tileAt s.pose.cell ≠ .star ∧ level.tileAt s.pose.cell ≠ .key ∧
      s.collect level = s) := by
  by_cases hs : level.tileAt s.pose.cell = .star
  · exact Or.inl ⟨hs, collect_of_star hs⟩
  · by_cases hk : level.tileAt s.pose.cell = .key
    · by_cases hold : s.pose.cell ∈ s.keys
      · exact Or.inr (Or.inr (Or.inl ⟨hk, hold, collect_of_old_key hk hold⟩))
      · exact Or.inr (Or.inl ⟨hk, hold, collect_of_new_key hk hold⟩)
    · exact Or.inr (Or.inr (Or.inr ⟨hs, hk, collect_of_other hs hk⟩))

theorem collect_withStack (level : Level) (s : State) (stack : List Frame) :
    (s.withStack stack).collect level = (s.collect level).withStack stack := by
  rcases collect_cases level s with ⟨h, he⟩ | ⟨h, hk, he⟩ | ⟨h, hk, he⟩ | ⟨hs, hk, he⟩
  · rw [he, collect_of_star (s := s.withStack stack) h]
    rfl
  · rw [he, collect_of_new_key (s := s.withStack stack) h hk]
    rfl
  · rw [he, collect_of_old_key (s := s.withStack stack) h hk]
  · rw [he, collect_of_other (s := s.withStack stack) hs hk]

theorem collect_leaves (level : Level) (s : State) :
    (s.collect level).pose = s.pose ∧ (s.collect level).status = s.status ∧
      (s.collect level).stack = s.stack := by
  rcases collect_cases level s with ⟨_, he⟩ | ⟨_, _, he⟩ | ⟨_, _, he⟩ | ⟨_, _, he⟩ <;> rw [he] <;>
    exact ⟨rfl, rfl, rfl⟩

@[simp]
theorem collect_pose (level : Level) (s : State) : (s.collect level).pose = s.pose :=
  (collect_leaves level s).1

@[simp]
theorem collect_status (level : Level) (s : State) : (s.collect level).status = s.status :=
  (collect_leaves level s).2.1

@[simp]
theorem collect_stack (level : Level) (s : State) : (s.collect level).stack = s.stack :=
  (collect_leaves level s).2.2

/-! ## The verdict -/

/-- On the flag the stars decide, whatever the place in the program. -/
theorem judge_on_flag (level : Level) (s : State) (h : level.tileAt s.pose.cell = .flag) :
    s.judge level =
      if level.minStars ≤ s.stars.length then ({ s with status := .completed }, none)
      else (s.fail, some (.needStars level.minStars s.stars.length)) := by
  unfold judge
  rw [if_pos h]

/-- Off the flag a run without an open body has failed. -/
theorem judge_off_flag (level : Level) (s : State) (h : level.tileAt s.pose.cell ≠ .flag)
    (hs : s.stack = []) : s.judge level = (s.fail, some .outOfMoves) := by
  unfold judge
  rw [if_neg h, if_pos (by simp [hs])]

/-- A verdict without an open body ends the run. -/
theorem judge_isTerminal (level : Level) (s : State) (hs : s.stack = []) :
    (s.judge level).1.status.isTerminal = true := by
  by_cases hf : level.tileAt s.pose.cell = .flag
  · rw [judge_on_flag level s hf]
    split <;> rfl
  · rw [judge_off_flag level s hf hs]
    rfl

theorem judge_leaves (level : Level) (s : State) :
    ∃ status, (s.judge level).1 = { s with status := status } := by
  unfold judge
  split
  · split
    · exact ⟨.completed, rfl⟩
    · exact ⟨.failed, rfl⟩
  · split
    · exact ⟨.failed, rfl⟩
    · exact ⟨s.status, rfl⟩

@[simp]
theorem judge_stack (level : Level) (s : State) : (s.judge level).1.stack = s.stack := by
  obtain ⟨status, h⟩ := judge_leaves level s
  rw [h]

@[simp]
theorem judge_pose (level : Level) (s : State) : (s.judge level).1.pose = s.pose := by
  obtain ⟨status, h⟩ := judge_leaves level s
  rw [h]

/-! ## Arriving -/

/-- The runner is put on a cell, takes what lies there, and meets its fate: on the flag the verdict
is given, and in a hole the run has failed with a notice. -/
def arrive (level : Level) (s : State) (c : Cell) (fallen : Notice) : State × Option Notice :=
  let landed := (s.place c).collect level
  match level.tileAt c with
  | .flag => landed.judge level
  | .hole => (landed.fail, some fallen)
  | _ => (landed, none)

theorem collect_place_hole {level : Level} {c : Cell} (s : State) (h : level.tileAt c = .hole) :
    (s.place c).collect level = s.place c := by
  apply collect_of_other
  · simp [place, h]
  · simp [place, h]

theorem isLocked_hole (s : State) (c : Cell) : s.isLocked .hole c = false := by
  simp [isLocked]

/-- Neither a wall nor a locked door is on the cell. -/
def Passable (level : Level) (s : State) (c : Cell) : Prop :=
  (level.tileAt c).isWallLike = false ∧ s.isLocked (level.tileAt c) c = false

/-- The path is clear if the cell ahead lets the runner through and is no hole. -/
theorem pathIsClear_iff {level : Level} {s : State} :
    s.pathIsClear level = true ↔
      s.Passable level (s.pose.ahead 1) ∧ level.tileAt (s.pose.ahead 1) ≠ .hole := by
  unfold pathIsClear Passable
  simp only [Bool.not_eq_true', Bool.or_eq_false_iff, decide_eq_false_iff_not]
  exact ⟨fun h => ⟨⟨h.1.1, h.2⟩, h.1.2⟩, fun h => ⟨⟨h.1.1, h.2⟩, h.1.2⟩⟩

/-- A move is denied by a wall or a locked door, and arrives otherwise. -/
theorem move_eq (level : Level) (s : State) :
    s.move level =
      let target := s.pose.ahead 1
      if (level.tileAt target).isWallLike then (s.deny, some .bonk)
      else if s.isLocked (level.tileAt target) target then (s.deny, some .locked)
      else s.arrive level target .fell := by
  unfold move arrive
  simp only
  split
  · rfl
  · by_cases hh : level.tileAt (s.pose.ahead 1) = .hole
    · simp [hh, isLocked_hole, collect_place_hole s hh]
    · rw [if_neg hh]
      split
      · rfl
      · by_cases hf : level.tileAt (s.pose.ahead 1) = .flag
        · simp [hf]
        · rw [if_neg hf]
          split
          · exact absurd ‹_› hf
          · exact absurd ‹_› hh
          · rfl

/-- A jump is denied by what lies between or by a wall at the landing, and arrives otherwise. -/
theorem jump_eq (level : Level) (s : State) :
    s.jump level =
      let middle := s.pose.ahead 1
      let target := s.pose.ahead 2
      if (level.tileAt middle).isWallLike then (s.deny, some .wallBetween)
      else if s.isLocked (level.tileAt middle) middle then (s.deny, some .lockedBetween)
      else if (level.tileAt target).isWallLike then (s.deny, some .wallAtLanding)
      else s.arrive level target .jumpedIntoHole := by
  unfold jump arrive
  simp only
  split
  · rfl
  · split
    · rfl
    · split
      · rfl
      · by_cases hf : level.tileAt (s.pose.ahead 2) = .flag
        · simp [hf]
        · by_cases hh : level.tileAt (s.pose.ahead 2) = .hole
          · simp [hh]
          · rw [if_neg hf, if_neg hh]
            split
            · exact absurd ‹_› hf
            · exact absurd ‹_› hh
            · rfl

theorem arrive_withStack (level : Level) (s : State) (c : Cell) (fallen : Notice)
    (stack : List Frame) :
    (s.withStack stack).arrive level c fallen =
      ((s.arrive level c fallen).1.withStack stack, (s.arrive level c fallen).2) := by
  have hp : (s.withStack stack).place c = (s.place c).withStack stack := rfl
  unfold arrive
  simp only [hp, collect_withStack]
  split
  · -- on the flag the verdict never looks at the stack
    rename_i hf
    rw [judge_on_flag, judge_on_flag]
    · by_cases hm : level.minStars ≤ ((s.place c).collect level).stars.length
      · simp only [withStack_stars, hm, if_true]
        rfl
      · simp only [withStack_stars, hm, if_false]
        rfl
    · simpa [place] using hf
    · simpa [place] using hf
  · rfl
  · rfl

/-! ### What an arrival does -/

/-- An arrival takes what lies on the cell, and beyond that decides only the status. -/
theorem arrive_leaves (level : Level) (s : State) (c : Cell) (fallen : Notice) :
    ∃ status, (s.arrive level c fallen).1 =
      { (s.place c).collect level with status := status } := by
  unfold arrive
  simp only
  split
  · exact judge_leaves level _
  · exact ⟨.failed, rfl⟩
  · exact ⟨((s.place c).collect level).status, rfl⟩

theorem arrive_of_other {level : Level} {c : Cell} (s : State) (fallen : Notice)
    (hf : level.tileAt c ≠ .flag) (hh : level.tileAt c ≠ .hole) :
    s.arrive level c fallen = ((s.place c).collect level, none) := by
  simp only [arrive]

theorem arrive_pose (level : Level) (s : State) (c : Cell) (fallen : Notice) :
    (s.arrive level c fallen).1.pose = { s.pose with cell := c } := by
  obtain ⟨status, h⟩ := arrive_leaves level s c fallen
  rw [h]
  simp [place]

@[simp]
theorem arrive_cell (level : Level) (s : State) (c : Cell) (fallen : Notice) :
    (s.arrive level c fallen).1.pose.cell = c := by
  rw [arrive_pose]

/-! ## Visiting a block -/

/-- What a block does to the runner. A control block only decides. -/
def act (level : Level) (s : State) : Kind → State × Option Notice
  | .moveForward => s.move level
  | .jump => s.jump level
  | .turnLeft => (s.turn s.pose.facing.turnedLeft, none)
  | .turnRight => (s.turn s.pose.facing.turnedRight, none)
  | _ => (s, none)

theorem act_of_control (level : Level) (s : State) {kind : Kind} (h : kind.isControl = true) :
    s.act level kind = (s, none) := by
  cases kind with
  | loop => rfl
  | whilePath => rfl
  | ifStar => rfl
  | ifWall => rfl
  | _ => simp [Kind.isControl] at h

/-- The body that a visit opens, if any. -/
def opened (level : Level) (s : State) (block : Block) : Option Frame :=
  let body := block.children
  if body.isEmpty then none
  else
    match block.kind with
    | .loop => some (.rounds body block.rounds)
    | .whilePath => if s.pathIsClear level then some (.once body) else none
    | .ifStar => if s.isOnStar level then some (.once body) else none
    | .ifWall => if s.facesWall level then some (.once body) else none
    | _ => none

/-- The frame of a visited block after the visit: behind the block, except that a `WHILE_PATH`
that opens its body stays the next block. -/
def passed (level : Level) (s : State) (block : Block) (frame : Frame) : Frame :=
  if block.kind = .whilePath ∧ (s.opened level block).isSome then frame
  else { frame with cursor := frame.cursor + 1 }

/-- The place in the program after a visit. -/
def stackAfter (level : Level) (s : State) (block : Block) (frame : Frame) (below : List Frame) :
    List Frame :=
  (s.opened level block).toList ++ s.passed level block frame :: below

theorem move_withStack (level : Level) (s : State) (stack : List Frame) :
    (s.withStack stack).move level = ((s.move level).1.withStack stack, (s.move level).2) := by
  rw [move_eq, move_eq]
  have hl : ∀ t c, (s.withStack stack).isLocked t c = s.isLocked t c := fun _ _ => rfl
  simp only [withStack_pose, hl, arrive_withStack]
  split
  · rfl
  · split <;> rfl

theorem jump_withStack (level : Level) (s : State) (stack : List Frame) :
    (s.withStack stack).jump level = ((s.jump level).1.withStack stack, (s.jump level).2) := by
  rw [jump_eq, jump_eq]
  have hl : ∀ t c, (s.withStack stack).isLocked t c = s.isLocked t c := fun _ _ => rfl
  simp only [withStack_pose, hl, arrive_withStack]
  split
  · rfl
  · split
    · rfl
    · split <;> rfl

/-- No action looks at the place in the program. -/
theorem act_withStack (level : Level) (s : State) (stack : List Frame) (kind : Kind) :
    (s.withStack stack).act level kind =
      ((s.act level kind).1.withStack stack, (s.act level kind).2) := by
  cases kind with
  | moveForward => exact move_withStack level s stack
  | jump => exact jump_withStack level s stack
  | _ => rfl

/-- A visit acts on the runner and puts a new place in the program under it. -/
theorem visit_eq (level : Level) (s : State) (block : Block) (frame : Frame)
    (below : List Frame) :
    s.visit level block frame below =
      ((s.act level block.kind).1.withStack (s.stackAfter level block frame below),
        (s.act level block.kind).2) := by
  have hp : ∀ stack, { s with stack := stack } = s.withStack stack := fun _ => rfl
  unfold visit stackAfter passed opened openBody
  simp only [hp]
  cases hk : block.kind with
  | moveForward => simp [act, move_withStack]
  | jump => simp [act, jump_withStack]
  | turnLeft => simp [act]; rfl
  | turnRight => simp [act]; rfl
  | loop => by_cases he : block.children = [] <;> simp [act, he, Frame.rounds]
  | whilePath =>
    by_cases he : block.children = []
    · simp [act, he]
    · by_cases hc : s.pathIsClear level = true <;> simp [act, he, hc]
  | ifStar =>
    by_cases he : block.children = []
    · simp [act, he, Frame.once]
    · by_cases hc : s.isOnStar level = true <;> simp [act, he, hc, Frame.once]
  | ifWall =>
    by_cases he : block.children = []
    · simp [act, he, Frame.once]
    · by_cases hc : s.facesWall level = true <;> simp [act, he, hc, Frame.once]

/-! ## A step -/

theorem isTerminal_eq_false {status : Status} :
    status.isTerminal = false ↔ status = .running := by
  cases status <;> simp [Status.isTerminal]

/-- The next block is the one at the cursor of its frame. -/
theorem next_of_settle {stack below : List Frame} {b : Block} {f : Frame}
    (h : settle stack = some (b, f, below)) : f.blocks[f.cursor]? = some b := by
  fun_induction settle stack with
  | case1 => simp at h
  | case2 blocks cursor left rest c hc =>
    simp only [Option.some.injEq, Prod.mk.injEq] at h
    obtain ⟨rfl, rfl, rfl⟩ := h
    exact hc
  | case3 cursor rest n c cs hn hc =>
    simp only [Option.some.injEq, Prod.mk.injEq] at h
    obtain ⟨rfl, rfl, rfl⟩ := h
    rfl
  | case4 cursor rest n c cs hn hc ih => exact ih h
  | case5 blocks cursor left rest hc hother ih => exact ih h

section

variable {level : Level} {s : State}

theorem step_of_over (h : s.status.isTerminal = true) :
    s.step level = (s.rested, s.rested.snapshot) := by
  unfold step
  simp only
  rw [if_pos (by simpa [rested] using h)]

theorem step_of_done (h : s.status.isTerminal = false) (hs : settle s.stack = none) :
    s.step level =
      (((s.rested.withStack []).judge level).1,
        ((s.rested.withStack []).judge level).1.shown none
          (((s.rested.withStack []).judge level).2.map Notice.text)) := by
  have hr : s.rested.stack = s.stack := rfl
  unfold step
  simp only [hr, hs]
  rw [if_neg (by simpa [rested] using h)]
  rfl

theorem step_of_next (h : s.status.isTerminal = false) {block : Block} {frame : Frame}
    {below : List Frame} (hs : settle s.stack = some (block, frame, below)) :
    s.step level =
      ((s.rested.act level block.kind).1.withStack (s.rested.stackAfter level block frame below),
        (s.rested.act level block.kind).1.shown (some block.id)
          ((s.rested.act level block.kind).2.map Notice.text)) := by
  have hr : s.rested.stack = s.stack := rfl
  unfold step
  simp only [hr, hs, visit_eq, shown_withStack]
  rw [if_neg (by simpa [rested] using h)]

/-- A step shows the state that it leaves. -/
theorem step_shows (level : Level) (s : State) :
    ∃ active message, (s.step level).2 = (s.step level).1.shown active message := by
  cases ht : s.status.isTerminal with
  | true =>
    rw [step_of_over ht]
    exact ⟨none, none, rfl⟩
  | false =>
    cases hs : settle s.stack with
    | none =>
      rw [step_of_done ht hs]
      exact ⟨none, _, rfl⟩
    | some found =>
      obtain ⟨b, f, below⟩ := found
      rw [step_of_next ht hs]
      exact ⟨some b.id, _, rfl⟩

end

/-! ## What a step can do -/

theorem ahead_ne (p : Pose) {distance : Int} (h : distance ≠ 0) : p.ahead distance ≠ p.cell := by
  intro he
  have hx := congrArg Cell.x he
  have hy := congrArg Cell.y he
  unfold Pose.ahead Cell.ahead at hx hy
  cases hf : p.facing <;> simp [hf, Direction.offset] at hx hy <;> omega

/-- What a block of a kind can do to a state, with the notice that it gives. -/
inductive Acts (level : Level) (s : State) : Kind → State × Option Notice → Prop
  | turns {kind : Kind} (hm : kind ≠ .moveForward) (hj : kind ≠ .jump) :
      Acts level s kind (s.turn (kind.turned s.pose.facing), none)
  | denied {kind : Kind} (h : kind = .moveForward ∨ kind = .jump) (notice : Notice) :
      Acts level s kind (s.deny, some notice)
  | walks (h : s.Passable level (s.pose.ahead 1)) :
      Acts level s .moveForward (s.arrive level (s.pose.ahead 1) .fell)
  | leaps (h : s.Passable level (s.pose.ahead 1))
      (free : (level.tileAt (s.pose.ahead 2)).isWallLike = false) :
      Acts level s .jump (s.arrive level (s.pose.ahead 2) .jumpedIntoHole)

theorem acts_move (level : Level) (s : State) : Acts level s .moveForward (s.move level) := by
  rw [move_eq]
  simp only
  split
  · exact .denied (Or.inl rfl) .bonk
  · rename_i hw
    split
    · exact .denied (Or.inl rfl) .locked
    · rename_i hl
      exact .walks ⟨by simpa using hw, by simpa using hl⟩

theorem acts_jump (level : Level) (s : State) : Acts level s .jump (s.jump level) := by
  rw [jump_eq]
  simp only
  split
  · exact .denied (Or.inr rfl) .wallBetween
  · rename_i hw
    split
    · exact .denied (Or.inr rfl) .lockedBetween
    · rename_i hl
      split
      · exact .denied (Or.inr rfl) .wallAtLanding
      · rename_i hfree
        exact .leaps ⟨by simpa using hw, by simpa using hl⟩ (by simpa using hfree)

/-- A block that is no move and no jump turns the runner, by nothing if it is a control block. -/
theorem act_of_turn (level : Level) (s : State) {kind : Kind} (hm : kind ≠ .moveForward)
    (hj : kind ≠ .jump) : s.act level kind = (s.turn (kind.turned s.pose.facing), none) := by
  cases kind with
  | moveForward => exact absurd rfl hm
  | jump => exact absurd rfl hj
  | _ => rfl

theorem acts (level : Level) (s : State) (kind : Kind) : Acts level s kind (s.act level kind) := by
  by_cases hm : kind = .moveForward
  · subst hm
    exact acts_move level s
  · by_cases hj : kind = .jump
    · subst hj
      exact acts_jump level s
    · rw [act_of_turn level s hm hj]
      exact .turns hm hj

/-- What an action can do to a state: the runner stays on its cell with all that it has, or it
arrives on another cell, which is no wall. -/
inductive Acted (level : Level) (s : State) : State → Prop
  | stays (facing : Direction) (animation : Animation) :
      Acted level s { s with pose := ⟨s.pose.cell, facing, animation⟩ }
  | arrives {c : Cell} (fallen : Notice) (moved : c ≠ s.pose.cell)
      (free : (level.tileAt c).isWallLike = false) : Acted level s (s.arrive level c fallen).1

theorem acted (level : Level) (s : State) (kind : Kind) : Acted level s (s.act level kind).1 := by
  have hacts := acts level s kind
  generalize s.act level kind = r at hacts ⊢
  cases hacts with
  | turns hm hj => exact .stays _ s.pose.animation
  | denied h notice => exact .stays s.pose.facing .deny
  | walks h => exact .arrives .fell (ahead_ne s.pose (by decide)) h.1
  | leaps h free => exact .arrives .jumpedIntoHole (ahead_ne s.pose (by decide)) free

/-- What a step can do to a state. -/
inductive Stepped (level : Level) (s : State) : State → Prop
  -- the run is over
  | ended (terminal : s.status.isTerminal = true) : Stepped level s s.rested
  -- no block is left, and the verdict is given
  | exhausted (running : s.status.isTerminal = false) (done : settle s.stack = none) :
      Stepped level s ((s.rested.withStack []).judge level).1
  -- the visited block leaves the runner on its cell
  | stays (running : s.status.isTerminal = false) (next : settle s.stack ≠ none)
      (facing : Direction) (animation : Animation) (stack : List Frame) :
      Stepped level s ({ s with pose := ⟨s.pose.cell, facing, animation⟩ }.withStack stack)
  -- the visited block takes the runner to another cell
  | arrives (running : s.status.isTerminal = false) (next : settle s.stack ≠ none) {c : Cell}
      (moved : c ≠ s.pose.cell) (free : (level.tileAt c).isWallLike = false) (fallen : Notice)
      (stack : List Frame) : Stepped level s ((s.rested.arrive level c fallen).1.withStack stack)

theorem stepped (level : Level) (s : State) : Stepped level s (s.step level).1 := by
  cases ht : s.status.isTerminal with
  | true =>
    rw [step_of_over ht]
    exact .ended ht
  | false =>
    cases hs : settle s.stack with
    | none =>
      rw [step_of_done ht hs]
      exact .exhausted ht hs
    | some found =>
      obtain ⟨b, f, below⟩ := found
      have hne : settle s.stack ≠ none := by rw [hs]; simp
      rw [step_of_next ht hs]
      simp only
      have hact := acted level s.rested b.kind
      generalize (s.rested.act level b.kind).1 = t at hact ⊢
      cases hact with
      | stays facing animation => exact .stays ht hne facing animation _
      | arrives fallen moved free => exact .arrives ht hne moved free fallen _

end State

end BlockMaze
