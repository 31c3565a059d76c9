-- Guards and the move behind them. A guard looks at the cell ahead, and a
-- move that comes next meets this cell. Between the two steps bodies may be
-- opened, closed or started again, but nothing of this changes what the guard
-- has seen, so the guard foretells how the move goes.
import BlockMaze.Proofs.LegalSteps

namespace BlockMaze.State

/-! ## How a move goes -/

/-- The snapshot shows the runner one cell further on from a state, and not in a hole. -/
structure Advances (level : Level) (s : State) (shown : Snapshot) : Prop where
  pose : shown.pose = ⟨s.pose.ahead 1, s.pose.facing, .idle⟩
  safe : level.tileAt (s.pose.ahead 1) ≠ .hole
  message : shown.message ≠ some Notice.fell.text

/-- The snapshot shows the runner in the hole that lay ahead of it in a state. -/
structure Falls (level : Level) (s : State) (shown : Snapshot) : Prop where
  pose : shown.pose = ⟨s.pose.ahead 1, s.pose.facing, .idle⟩
  hole : level.tileAt (s.pose.ahead 1) = .hole
  status : shown.status = .failed
  message : shown.message = some Notice.fell.text

/-- The snapshot shows that the runner was denied to leave its place in a state, with a notice. -/
structure Denied (s : State) (shown : Snapshot) (notice : Notice) : Prop where
  pose : shown.pose = ⟨s.pose.cell, s.pose.facing, .deny⟩
  message : shown.message = some notice.text

/-- The words for too few stars are not those for a fall. -/
theorem needStars_ne_fell (required collected : Nat) :
    (Notice.needStars required collected).text ≠ Notice.fell.text := by
  intro h
  have hhead := congrArg (fun text => text.toList.head?) h
  simp [Notice.text] at hhead

theorem judge_not_fell (level : Level) (s : State) :
    (s.judge level).2.map Notice.text ≠ some Notice.fell.text := by
  unfold judge
  split
  · split
    · simp
    · simpa using needStars_ne_fell _ _
  · split
    · simp [Notice.text]
    · simp

section

variable {level : Level} {s : State}

theorem arrive_of_hole {c : Cell} (fallen : Notice) (h : level.tileAt c = .hole) :
    s.arrive level c fallen = ((s.place c).fail, some fallen) := by
  simp only [arrive, h, collect_place_hole s h]

/-- Whoever arrives where no hole is has not fallen. -/
theorem arrive_not_fell {c : Cell} (h : level.tileAt c ≠ .hole) :
    (s.arrive level c .fell).2.map Notice.text ≠ some Notice.fell.text := by
  by_cases hf : level.tileAt c = .flag
  · simp only [arrive, hf]
    exact judge_not_fell level _
  · rw [arrive_of_other s .fell hf h]
    simp

/-- A cell that lets the runner through is the one on which its move arrives. -/
theorem move_of_passable (h : s.Passable level (s.pose.ahead 1)) :
    s.move level = s.arrive level (s.pose.ahead 1) .fell := by
  rw [move_eq]
  simp only [h.1, h.2, Bool.false_eq_true, if_false]

/-! ## The step with a move -/

/-- A step with a block of a kind does what the kind does, and shows it. -/
theorem step_of_order (level : Level) {kind : Kind} (h : s.order? = some kind) :
    ∃ stack id, s.step level =
      ((s.rested.act level kind).1.withStack stack,
        (s.rested.act level kind).1.shown (some id)
          ((s.rested.act level kind).2.map Notice.text)) := by
  obtain ⟨b, hb, rfl⟩ := order?_eq_some.1 h
  obtain ⟨ht, f, below, hs⟩ := next?_eq_some.1 hb
  exact ⟨_, b.id, step_of_next ht hs⟩

/-- A step with a move shows what the move does. -/
theorem step_of_move (level : Level) (h : s.order? = some .moveForward) :
    ∃ id, (s.step level).2 =
      (s.rested.move level).1.shown (some id) ((s.rested.move level).2.map Notice.text) := by
  obtain ⟨stack, id, hstep⟩ := step_of_order level h
  exact ⟨id, congrArg Prod.snd hstep⟩

/-- How a step with a move goes, told by what the guards say of the cell ahead. -/
inductive Goes (level : Level) (s : State) (shown : Snapshot) : Prop
  | bonks (wall : s.facesWall level = true) (blocked : s.pathIsClear level = false)
      (how : s.Denied shown .bonk)
  | locked (free : s.facesWall level = false) (blocked : s.pathIsClear level = false)
      (how : s.Denied shown .locked)
  | falls (free : s.facesWall level = false) (blocked : s.pathIsClear level = false)
      (how : s.Falls level shown)
  | advances (free : s.facesWall level = false) (clear : s.pathIsClear level = true)
      (how : s.Advances level shown)

theorem blocked_iff :
    s.pathIsClear level = false ↔
      s.Passable level (s.pose.ahead 1) → level.tileAt (s.pose.ahead 1) = .hole := by
  rw [← Bool.not_eq_true, pathIsClear_iff, not_and, not_not]

/-- The guards and the move judge the cell ahead alike. -/
theorem goes_of_move (level : Level) (h : s.order? = some .moveForward) :
    Goes level s (s.step level).2 := by
  have hahead : s.rested.pose.ahead 1 = s.pose.ahead 1 := rfl
  obtain ⟨id, hshown⟩ := step_of_move level h
  rw [hshown]
  cases hw : s.facesWall level with
  | true =>
    have hm : s.rested.move level = (s.rested.deny, some .bonk) := by
      rw [move_eq]
      exact if_pos hw
    refine .bonks hw (blocked_iff.2 fun hp => ?_) ?_
    · exact absurd (hp.1.symm.trans hw) (by decide)
    · rw [hm]
      exact ⟨rfl, rfl⟩
  | false =>
    cases hl : s.isLocked (level.tileAt (s.pose.ahead 1)) (s.pose.ahead 1) with
    | true =>
      have hm : s.rested.move level = (s.rested.deny, some .locked) := by
        rw [move_eq]
        exact (if_neg (Bool.eq_false_iff.1 hw)).trans (if_pos hl)
      refine .locked hw (blocked_iff.2 fun hp => ?_) ?_
      · exact absurd (hp.2.symm.trans hl) (by decide)
      · rw [hm]
        exact ⟨rfl, rfl⟩
    | false =>
      have hp : s.rested.Passable level (s.rested.pose.ahead 1) := ⟨hw, hl⟩
      rw [move_of_passable hp, hahead]
      by_cases hh : level.tileAt (s.pose.ahead 1) = .hole
      · rw [arrive_of_hole .fell hh]
        exact .falls hw (blocked_iff.2 fun _ => hh) ⟨rfl, hh, rfl, rfl⟩
      · exact .advances hw (pathIsClear_iff.2 ⟨⟨hw, hl⟩, hh⟩)
          ⟨arrive_pose level s.rested _ _, hh, arrive_not_fell hh⟩

section

variable {shown : Snapshot}

theorem Goes.of_clear (h : Goes level s shown) (hc : s.pathIsClear level = true) :
    s.Advances level shown := by
  cases h with
  | bonks _ blocked _ => exact absurd (blocked.symm.trans hc) (by decide)
  | locked _ blocked _ => exact absurd (blocked.symm.trans hc) (by decide)
  | falls _ blocked _ => exact absurd (blocked.symm.trans hc) (by decide)
  | advances _ _ how => exact how

theorem Goes.of_blocked (h : Goes level s shown) (hc : s.pathIsClear level = false) :
    (∃ notice, s.Denied shown notice) ∨ s.Falls level shown := by
  cases h with
  | bonks _ _ how => exact Or.inl ⟨_, how⟩
  | locked _ _ how => exact Or.inl ⟨_, how⟩
  | falls _ _ how => exact Or.inr how
  | advances _ clear _ => exact absurd (clear.symm.trans hc) (by decide)

/-- Only a wall bonks: a locked door has words of its own, and whoever leaves its cell is not
denied. -/
theorem Goes.bonk_iff (h : Goes level s shown) :
    s.Denied shown .bonk ↔ s.facesWall level = true := by
  have hidle : ∀ c, shown.pose = ⟨c, s.pose.facing, .idle⟩ → ¬ s.Denied shown .bonk := by
    intro c hpose hbonk
    have hanimation : Animation.idle = Animation.deny :=
      congrArg Pose.animation (hpose.symm.trans hbonk.pose)
    cases hanimation
  cases h with
  | bonks wall _ how => exact ⟨fun _ => wall, fun _ => how⟩
  | locked free _ how =>
    rw [free]
    refine ⟨fun hbonk => ?_, fun hw => absurd hw (by decide)⟩
    exact absurd (hbonk.message.symm.trans how.message) (by decide)
  | falls free _ how =>
    rw [free]
    exact ⟨fun hbonk => absurd hbonk (hidle _ how.pose), fun hw => absurd hw (by decide)⟩
  | advances free _ how =>
    rw [free]
    exact ⟨fun hbonk => absurd hbonk (hidle _ how.pose), fun hw => absurd hw (by decide)⟩

end

/-! ## The step with the guard -/

/-- A step with a control block changes only the place in the program. -/
theorem step_of_control (level : Level) {kind : Kind} (h : s.order? = some kind)
    (hc : kind.isControl = true) : ∃ stack, (s.step level).1 = s.rested.withStack stack := by
  obtain ⟨stack, id, hstep⟩ := step_of_order level h
  rw [act_of_control level s.rested hc] at hstep
  exact ⟨stack, congrArg Prod.fst hstep⟩

/-- A move right behind a control block goes as the guards say when the control block is visited,
wherever in the program the move stands. -/
theorem goes_behind_control (level : Level) {kind : Kind} (h : s.order? = some kind)
    (hc : kind.isControl = true) (hm : (s.step level).1.order? = some .moveForward) :
    Goes level s ((s.step level).1.step level).2 := by
  obtain ⟨stack, hstack⟩ := step_of_control level h hc
  have hgoes := goes_of_move level hm
  rw [hstack] at hgoes ⊢
  -- only the stack and the picture differ, and neither the guards nor the outcomes look at them
  cases hgoes with
  | bonks wall blocked how => exact .bonks wall blocked ⟨how.pose, how.message⟩
  | locked free blocked how => exact .locked free blocked ⟨how.pose, how.message⟩
  | falls free blocked how =>
    exact .falls free blocked ⟨how.pose, how.hole, how.status, how.message⟩
  | advances free clear how => exact .advances free clear ⟨how.pose, how.safe, how.message⟩

end

/-- A guard foretells the move behind it, wherever that move stands in the program. When a
`WHILE_PATH` finds the path clear, a move in the next step takes the runner one cell further and
into no hole; when it finds the path blocked, the move is denied or falls into a hole. And a move
in the step behind an `IF_WALL` is denied with a bonk if and only if there was a wall ahead. -/
theorem guards_foretell_the_move_behind_them (level : Level) (program : Program) (start : Pose)
    (n : Nat) :
    let run := initial program start
    let now := run.after level n
    let shown := run.result level (n + 1)
    (run.after level (n + 1)).order? = some .moveForward →
      (now.order? = some .whilePath →
        (now.pathIsClear level = true → now.Advances level shown) ∧
          (now.pathIsClear level = false →
            (∃ notice, now.Denied shown notice) ∨ now.Falls level shown)) ∧
      (now.order? = some .ifWall →
        (now.Denied shown .bonk ↔ now.facesWall level = true)) := by
  intro run now shown hmove
  have hgoes : ∀ {kind : Kind}, now.order? = some kind → kind.isControl = true →
      Goes level now shown := by
    intro kind h hc
    rw [after_succ] at hmove
    have hshown : shown = ((now.step level).1.step level).2 := by
      change ((run.after level (n + 1)).step level).2 = _
      rw [after_succ]
    rw [hshown]
    exact goes_behind_control level h hc hmove
  refine ⟨fun hwhile => ⟨?_, ?_⟩, fun hif => ?_⟩
  · exact (hgoes hwhile rfl).of_clear
  · exact (hgoes hwhile rfl).of_blocked
  · exact (hgoes hif rfl).bonk_iff

/-- In a corridor with a wall at its end, a `WHILE_PATH` at the end of two loops finds the path
blocked, and the next step closes one loop, starts the other again and moves. Later an `IF_WALL`
behind the loops finds the wall, and the next step moves in its body. -/
theorem a_guard_at_the_end_of_two_loops_foretells_a_move :
    let level : Level :=
      ⟨1, "Corridor", ⟨[[.empty, .empty, .wall]], 3, by decide, by decide, by decide, by decide⟩,
        ⟨⟨0, 0⟩, .right, .idle⟩, [], 0, none, none⟩
    let move : Block := ⟨"move", .moveForward, none, none⟩
    let run := initial
      [⟨"outer", .loop, some 2,
          some [move, ⟨"inner", .loop, none, some [⟨"while", .whilePath, none, none⟩]⟩]⟩,
        ⟨"if", .ifWall, none, some [move]⟩] level.start
    let atWhile := run.after level 3
    let atIf := run.after level 7
    ((run.after level 4).order? = some .moveForward ∧ atWhile.order? = some .whilePath ∧
        atWhile.pathIsClear level = false ∧
        ((∃ notice, atWhile.Denied (run.result level 4) notice) ∨
          atWhile.Falls level (run.result level 4))) ∧
      ((run.after level 8).order? = some .moveForward ∧ atIf.order? = some .ifWall ∧
        atIf.facesWall level = true ∧ atIf.Denied (run.result level 8) .bonk) := by
  intro level move run atWhile atIf
  have hmove : (run.after level 4).order? = some .moveForward := by decide
  have hwhile : atWhile.order? = some .whilePath := by decide
  have hblocked : atWhile.pathIsClear level = false := by decide
  have hmove' : (run.after level 8).order? = some .moveForward := by decide
  have hif : atIf.order? = some .ifWall := by decide
  have hwall : atIf.facesWall level = true := by decide
  have hfirst := guards_foretell_the_move_behind_them level _ level.start 3 hmove
  have hsecond := guards_foretell_the_move_behind_them level _ level.start 7 hmove'
  exact ⟨⟨hmove, hwhile, hblocked, (hfirst.1 hwhile).2 hblocked⟩,
    hmove', hif, hwall, (hsecond.2 hif).2 hwall⟩

end BlockMaze.State
