-- The laws of a single step. The runner changes its cell only by a move or a
-- jump, past cells that let it through, and its facing only by a turn. An
-- action that is denied leaves all else as it was, and says why.
import BlockMaze.Proofs.Arrivals

namespace BlockMaze

namespace State

/-! ## What a step may do -/

/-- The block that the next step visits, while the run goes on and a block is left. -/
def next? (s : State) : Option Block :=
  if s.status.isTerminal then none else (settle s.stack).map (·.1)

/-- The kind of the block that the next step visits. -/
def order? (s : State) : Option Kind := s.next?.map Block.kind

/-- The cell is in the grid, no wall, and no door that has not been opened. -/
def LetsThrough (level : Level) (s : State) (c : Cell) : Prop :=
  level.grid.Holds c ∧ level.tileAt c ≠ .wall ∧ (level.tileAt c = .door → c.key ∈ s.changes.doors)

/-- The runner walks on by one cell, which lets it through. -/
def Walks (level : Level) (s t : State) : Prop :=
  s.order? = some .moveForward ∧ t.pose.cell = s.pose.ahead 1 ∧
    s.LetsThrough level (s.pose.ahead 1)

/-- The runner leaps over a cell that lets it through. It may land on a door that is locked. -/
def Leaps (level : Level) (s t : State) : Prop :=
  s.order? = some .jump ∧ t.pose.cell = s.pose.ahead 2 ∧ s.LetsThrough level (s.pose.ahead 1) ∧
    level.grid.Holds (s.pose.ahead 2) ∧ level.tileAt (s.pose.ahead 2) ≠ .wall

/-- One state may follow another, with a snapshot of the step between them. -/
structure Legal (level : Level) (s t : State) (shown : Snapshot) : Prop where
  -- the snapshot is one of the state after the step, with the id of the visited block
  shows : shown = t.shown (s.next?.map Block.id) shown.message
  cell : t.pose.cell ≠ s.pose.cell → s.Walks level t ∨ s.Leaps level t
  facing : t.pose.facing = s.order?.elim s.pose.facing fun kind => kind.turned s.pose.facing
  apart : t.pose.facing ≠ s.pose.facing → t.pose.cell = s.pose.cell
  denied : t.pose.animation = .deny ↔
    (s.order? = some .moveForward ∨ s.order? = some .jump) ∧ t.pose.cell = s.pose.cell
  kept : t.pose.animation = .deny →
    t.pose.cell = s.pose.cell ∧ t.pose.facing = s.pose.facing ∧ t.changes = s.changes ∧
      t.status = s.status ∧ t.status = .running ∧ shown.message ≠ none
  silent : t.pose.animation ≠ .deny → t.status.isTerminal = false → shown.message = none

/-! ## Passing a cell -/

theorem mem_doors_iff {s : State} {c : Cell} : c.key ∈ s.changes.doors ↔ c ∈ s.doors := by
  constructor
  · intro h
    obtain ⟨d, hd, hk⟩ := mem_keysOf.1 h
    rw [← Cell.key_injective hk]
    exact hd
  · intro h
    exact mem_keysOf.2 ⟨c, h, rfl⟩

theorem letsThrough_iff {level : Level} {s : State} {c : Cell} :
    s.LetsThrough level c ↔ s.Passable level c := by
  unfold LetsThrough Passable isLocked
  rw [Level.free_iff, mem_doors_iff, ← and_assoc]
  simp

/-! ## Notices -/

/-- The verdict speaks only when it ends the run. -/
theorem judge_silent {level : Level} {s : State}
    (h : (s.judge level).1.status.isTerminal = false) : (s.judge level).2 = none := by
  unfold judge at *
  split
  · split
    · rfl
    · rename_i hf hm
      simp [hf, hm, fail, Status.isTerminal] at h
  · split
    · rename_i hf he
      simp [hf, he, fail, Status.isTerminal] at h
    · rfl

theorem arrive_silent {level : Level} {s : State} {c : Cell} {fallen : Notice}
    (h : (s.arrive level c fallen).1.status.isTerminal = false) :
    (s.arrive level c fallen).2 = none := by
  unfold arrive at *
  simp only at *
  split
  · rename_i hf
    rw [hf] at h
    exact judge_silent h
  · rename_i hh
    rw [hh] at h
    simp [fail, Status.isTerminal] at h
  · rfl

/-! ## One step -/

section

variable {level : Level} {s : State}

theorem next?_of_over (h : s.status.isTerminal = true) : s.next? = none := by
  unfold next?
  rw [if_pos h]

theorem next?_of_settle (h : s.status.isTerminal = false) :
    s.next? = (settle s.stack).map (·.1) := by
  unfold next?
  rw [h]
  rfl

/-- A next block is one that the open bodies hold ready while the run goes on. -/
theorem next?_eq_some {b : Block} :
    s.next? = some b ↔
      s.status.isTerminal = false ∧ ∃ f below, settle s.stack = some (b, f, below) := by
  cases ht : s.status.isTerminal with
  | true => simp [next?_of_over ht]
  | false =>
    rw [next?_of_settle ht, Option.map_eq_some_iff]
    constructor
    · rintro ⟨⟨c, f, below⟩, hs, rfl⟩
      exact ⟨rfl, f, below, hs⟩
    · rintro ⟨-, f, below, hs⟩
      exact ⟨(b, f, below), hs, rfl⟩

theorem order?_eq_some {kind : Kind} :
    s.order? = some kind ↔ ∃ b, s.next? = some b ∧ b.kind = kind := Option.map_eq_some_iff

theorem order?_of_next {b : Block} (h : s.next? = some b) : s.order? = some b.kind := by
  unfold order?
  rw [h]
  rfl

/-- A step that visits no block leaves the runner as it stands. -/
theorem legal_of_no_block {t : State} {message : Option String} (hn : s.next? = none)
    (hpose : t.pose = s.pose.atRest) (hsilent : t.status.isTerminal = false → message = none) :
    Legal level s t (t.shown none message) := by
  have ho : s.order? = none := by
    unfold order?
    rw [hn]
    rfl
  refine ⟨?_, ?_, ?_, ?_, ?_, ?_, ?_⟩
  · rw [hn]
    rfl
  · intro h
    rw [hpose] at h
    exact absurd rfl h
  · rw [ho, hpose]
    rfl
  · intro _
    rw [hpose]
    rfl
  · rw [ho, hpose]
    simp [Pose.atRest]
  · intro h
    rw [hpose] at h
    exact absurd h (by simp [Pose.atRest])
  · intro _
    exact hsilent

/-- A step that takes the runner to another cell, as a move or a jump may. -/
theorem legal_of_arrive {b : Block} {c : Cell} {fallen : Notice} {stack : List Frame}
    (hn : s.next? = some b) (hb : b.kind = .moveForward ∨ b.kind = .jump)
    (hc : c ≠ s.pose.cell)
    (hlegal : ∀ t : State, t.pose.cell = c → s.Walks level t ∨ s.Leaps level t) :
    let r := s.rested.arrive level c fallen
    Legal level s (r.1.withStack stack) (r.1.shown (some b.id) (r.2.map Notice.text)) := by
  intro r
  have ho := order?_of_next hn
  have hpose : r.1.pose = { s.pose.atRest with cell := c } := arrive_pose level s.rested c fallen
  refine ⟨?_, ?_, ?_, ?_, ?_, ?_, ?_⟩
  · rw [hn]
    rfl
  · intro _
    apply hlegal
    rw [withStack_pose, hpose]
  · rw [ho, withStack_pose, hpose]
    rcases hb with hb | hb <;> rw [hb] <;> rfl
  · intro h
    rw [withStack_pose, hpose] at h
    exact absurd rfl h
  · rw [withStack_pose, hpose]
    constructor
    · intro h
      exact absurd h (by simp [Pose.atRest])
    · rintro ⟨-, h⟩
      exact absurd h hc
  · intro h
    rw [withStack_pose, hpose] at h
    exact absurd h (by simp [Pose.atRest])
  · intro _ h
    rw [withStack_status] at h
    change r.2.map Notice.text = none
    rw [arrive_silent h]
    rfl

theorem legal_of_denied {b : Block} {notice : Notice} {stack : List Frame}
    (hr : s.status = .running) (hn : s.next? = some b)
    (hb : b.kind = .moveForward ∨ b.kind = .jump) :
    Legal level s (s.rested.deny.withStack stack)
      (s.rested.deny.shown (some b.id) (some notice.text)) := by
  have ho := order?_of_next hn
  refine ⟨?_, ?_, ?_, ?_, ?_, ?_, ?_⟩
  · rw [hn]
    rfl
  · intro h
    exact absurd rfl h
  · rw [ho]
    rcases hb with hb | hb <;> rw [hb] <;> rfl
  · intro _
    rfl
  · rw [ho]
    constructor
    · intro _
      refine ⟨?_, rfl⟩
      rcases hb with hb | hb <;> simp [hb]
    · intro _
      rfl
  · intro _
    exact ⟨rfl, rfl, rfl, rfl, hr, by simp [shown]⟩
  · intro h
    exact absurd rfl h

theorem legal_of_turn {b : Block} {stack : List Frame} (hn : s.next? = some b)
    (hm : b.kind ≠ .moveForward) (hj : b.kind ≠ .jump) :
    let t := s.rested.turn (b.kind.turned s.pose.facing)
    Legal level s (t.withStack stack) (t.shown (some b.id) none) := by
  intro t
  have ho := order?_of_next hn
  refine ⟨?_, ?_, ?_, ?_, ?_, ?_, ?_⟩
  · rw [hn]
    rfl
  · intro h
    exact absurd rfl h
  · rw [ho]
    rfl
  · intro _
    rfl
  · rw [ho]
    constructor
    · intro h
      exact absurd h (by simp [t, turn, rested, Pose.atRest])
    · rintro ⟨h | h, -⟩
      · exact absurd (Option.some.inj h) hm
      · exact absurd (Option.some.inj h) hj
  · intro h
    exact absurd h (by simp [t, turn, rested, Pose.atRest])
  · intro _ _
    rfl

/-- Every step is legal, from any state. -/
theorem legal_step (level : Level) (s : State) :
    Legal level s (s.step level).1 (s.step level).2 := by
  cases ht : s.status.isTerminal with
  | true =>
    rw [step_of_over ht]
    refine legal_of_no_block (next?_of_over ht) rfl ?_
    intro _
    rfl
  | false =>
    have hr : s.status = .running := isTerminal_eq_false.1 ht
    cases hs : settle s.stack with
    | none =>
      rw [step_of_done ht hs]
      refine legal_of_no_block (by rw [next?_of_settle ht, hs]; rfl) (by simp [rested]) ?_
      intro h
      rw [judge_silent h]
      rfl
    | some found =>
      obtain ⟨b, f, below⟩ := found
      have hn : s.next? = some b := by
        rw [next?_of_settle ht, hs]
        rfl
      have ho := order?_of_next hn
      rw [step_of_next ht hs]
      have hacts := acts level s.rested b.kind
      generalize s.rested.act level b.kind = r at hacts ⊢
      generalize hk : b.kind = kind at hacts
      cases hacts with
      | turns hm hj =>
        subst hk
        exact legal_of_turn hn hm hj
      | denied h notice =>
        subst hk
        exact legal_of_denied hr hn h
      | walks h =>
        refine legal_of_arrive hn (Or.inl hk) (ahead_ne s.pose (by decide)) ?_
        intro t hc
        exact Or.inl ⟨by rw [ho, hk], hc, letsThrough_iff.2 h⟩
      | leaps h free =>
        refine legal_of_arrive hn (Or.inr hk) (ahead_ne s.pose (by decide)) ?_
        intro t hc
        exact Or.inr ⟨by rw [ho, hk], hc, letsThrough_iff.2 h, Level.free_iff.1 free⟩

end

/-! ## Every state of a run -/

/-- The runner has never left its first cell, or it stands on a free cell of the grid. -/
theorem at_home_or_free (level : Level) (s : State) (n : Nat) :
    (∀ k ≤ n, (s.after level k).pose.cell = s.pose.cell) ∨
      (level.grid.Holds (s.after level n).pose.cell ∧
        level.tileAt (s.after level n).pose.cell ≠ .wall) := by
  induction n with
  | zero =>
    left
    intro k hk
    rw [Nat.le_zero.1 hk, after_zero]
  | succ n ih =>
    have hlegal := legal_step level (s.after level n)
    rw [← after_succ] at hlegal
    by_cases hc : (s.after level (n + 1)).pose.cell = (s.after level n).pose.cell
    · rw [hc]
      rcases ih with hhome | hfree
      · left
        intro k hk
        rcases Nat.le_succ_iff.1 hk with hk | rfl
        · exact hhome k hk
        · rw [hc]
          exact hhome n (Nat.le_refl n)
      · exact Or.inr hfree
    · right
      rcases hlegal.cell hc with ⟨-, hcell, hthrough⟩ | ⟨-, hcell, -, hfree⟩
      · rw [hcell]
        exact ⟨hthrough.1, hthrough.2.1⟩
      · rw [hcell]
        exact hfree

/-- Every step of a run is legal, and at every moment the runner is on the cell where it started
and which it has never left, or on a cell of the grid that is no wall. -/
theorem every_step_of_a_run_is_legal (level : Level) (program : Program) (start : Pose) (n : Nat) :
    let run := initial program start
    Legal level (run.after level n) (run.after level (n + 1)) (run.result level n) ∧
      ((∀ k ≤ n, (run.after level k).pose.cell = start.cell) ∨
        (level.grid.Holds (run.after level n).pose.cell ∧
          level.tileAt (run.after level n).pose.cell ≠ .wall)) := by
  intro run
  refine ⟨?_, at_home_or_free level run n⟩
  rw [after_succ]
  exact legal_step level (run.after level n)

end State

end BlockMaze
