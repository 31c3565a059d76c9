-- Jumps and moves. A jump takes the cell between only as an obstacle, while a
-- move arrives on it. Where that cell has nothing for the runner, a jump is
-- worth two moves, whatever lies at the landing, and only the words for a fall
-- tell them apart.
import BlockMaze.Proofs.FramePath
import BlockMaze.Proofs.GuardedMoves

namespace BlockMaze.State

/-- The kinds of the next blocks at a place in a program, as many as are asked for. Each block is
passed as one that opens no body. -/
def upcoming : Nat → List Frame → List Kind
  | 0, _ => []
  | n + 1, stack =>
    match settle stack with
    | none => []
    | some (block, frame, below) =>
      block.kind :: upcoming n ({ frame with cursor := frame.cursor + 1 } :: below)

/-- The cell neither stops the runner nor has anything for it: it is empty, a start, or a door that
has been opened. -/
def Neutral (level : Level) (s : State) (c : Cell) : Prop :=
  level.tileAt c = .empty ∨ level.tileAt c = .start ∨
    (level.tileAt c = .door ∧ c.key ∈ s.changes.doors)

section

variable {level : Level} {s : State} {c : Cell}

/-! ## Arriving -/

theorem Neutral.passable (h : s.Neutral level c) : s.Passable level c := by
  unfold Passable isLocked
  rcases h with h | h | ⟨h, hopen⟩
  · simp [h, Tile.isWallLike]
  · simp [h, Tile.isWallLike]
  · have hmem := mem_doors_iff.1 hopen
    simp [h, hmem, Tile.isWallLike]

/-- On neutral ground nothing happens to the runner. -/
theorem Neutral.arrive (h : s.Neutral level c) (fallen : Notice) :
    s.arrive level c fallen = (s.place c, none) := by
  have hother : ∀ tile ∈ [Tile.flag, .hole, .star, .key], level.tileAt c ≠ tile := by
    rcases h with h | h | ⟨h, -⟩ <;> rw [h] <;> decide
  rw [arrive_of_other s fallen (hother _ (by simp)) (hother _ (by simp)),
    collect_of_other (s := s.place c) (hother _ (by simp)) (hother _ (by simp))]

/-- The words for a fall make no difference to the state. -/
theorem arrive_state (fallen other : Notice) :
    (s.arrive level c fallen).1 = (s.arrive level c other).1 := by
  unfold arrive
  simp only
  split <;> rfl

theorem arrive_notice (h : level.tileAt c ≠ .hole) (fallen other : Notice) :
    (s.arrive level c fallen).2 = (s.arrive level c other).2 := by
  unfold arrive
  simp only
  split
  · rfl
  · exact absurd ‹_› h
  · rfl

/-! ## Two moves and a jump -/

theorem jump_of_passable (hbetween : s.Passable level (s.pose.ahead 1))
    (hlanding : s.Passable level (s.pose.ahead 2)) :
    s.jump level = s.arrive level (s.pose.ahead 2) .jumpedIntoHole := by
  rw [jump_eq]
  simp only [hbetween.1, hbetween.2, hlanding.1, Bool.false_eq_true, if_false]

theorem move_of_neutral (h : s.Neutral level (s.pose.ahead 1)) :
    s.move level = (s.place (s.pose.ahead 1), none) := by
  rw [move_of_passable h.passable, h.arrive]

/-- The second of two moves arrives where a jump does. -/
theorem move_of_place (h : s.Passable level (s.pose.ahead 2)) :
    (s.place (s.pose.ahead 1)).move level = s.arrive level (s.pose.ahead 2) .fell := by
  have hahead : (s.place (s.pose.ahead 1)).pose.ahead 1 = s.pose.ahead 2 :=
    (s.pose.cell.ahead_two s.pose.facing).symm
  have hp : (s.place (s.pose.ahead 1)).Passable level
      ((s.place (s.pose.ahead 1)).pose.ahead 1) := by
    rw [hahead]
    exact h
  rw [move_of_passable hp, hahead]
  rfl

/-! ## The steps -/

theorem stackAfter_of_primitive (level : Level) (s : State) {b : Block} (f : Frame)
    (below : List Frame) (h : b.kind.isControl = false) :
    s.stackAfter level b f below = { f with cursor := f.cursor + 1 } :: below := by
  have hopened : s.opened level b = none := by
    cases ho : s.opened level b with
    | none => rfl
    | some g => exact absurd ((opened_spec ho).1.symm.trans h) (by decide)
  unfold stackAfter passed
  simp [hopened]

/-- A step with an upcoming block does what the kind of the block does, shows it, and leaves what is
upcoming behind the block. -/
theorem step_of_upcoming (level : Level) {stack : List Frame} {n : Nat} {kind : Kind}
    {kinds : List Kind} (hrun : s.status.isTerminal = false)
    (h : upcoming (n + 1) stack = kind :: kinds) (hk : kind.isControl = false) :
    ∃ rest id, upcoming n rest = kinds ∧ (s.withStack stack).step level =
      ((s.rested.act level kind).1.withStack rest,
        (s.rested.act level kind).1.shown (some id)
          ((s.rested.act level kind).2.map Notice.text)) := by
  have hrested : (s.withStack stack).rested = s.rested.withStack stack := rfl
  unfold upcoming at h
  split at h
  · simp at h
  · rename_i b f below hs
    obtain ⟨rfl, hkinds⟩ := List.cons.inj h
    refine ⟨_, b.id, hkinds, ?_⟩
    rw [step_of_next (s := s.withStack stack) hrun hs, hrested, act_withStack,
      stackAfter_of_primitive level _ f below hk]
    rfl

/-- The snapshot shows the runner on its arrival at a cell, with the words for a fall. -/
def ShowsArrival (level : Level) (s : State) (c : Cell) (fallen : Notice) (shown : Snapshot) :
    Prop :=
  ∃ id, shown = (s.arrive level c fallen).1.shown (some id)
    ((s.arrive level c fallen).2.map Notice.text)

/-- Whoever arrives by a jump and whoever arrives by a move differ only in the words for a fall. -/
theorem ShowsArrival.alike {leap walk : Snapshot}
    (hleap : s.ShowsArrival level c .jumpedIntoHole leap)
    (hwalk : s.ShowsArrival level c .fell walk) :
    leap.pose = walk.pose ∧ leap.changes = walk.changes ∧ leap.status = walk.status ∧
      (leap.message = walk.message ↔ level.tileAt c ≠ .hole) := by
  obtain ⟨leapt, rfl⟩ := hleap
  obtain ⟨walked, rfl⟩ := hwalk
  rw [arrive_state .jumpedIntoHole .fell]
  refine ⟨rfl, rfl, rfl, ?_⟩
  change Option.map _ _ = Option.map _ _ ↔ _
  by_cases hh : level.tileAt c = .hole
  · rw [arrive_of_hole _ hh, arrive_of_hole _ hh]
    simp [hh, Notice.text]
  · rw [arrive_notice hh .jumpedIntoHole .fell]
    simp [hh]

theorem result_of_jump {stack : List Frame} (hrun : s.status.isTerminal = false)
    (h : upcoming 1 stack = [.jump]) (hbetween : s.Neutral level (s.pose.ahead 1))
    (hlanding : s.Passable level (s.pose.ahead 2)) :
    s.rested.ShowsArrival level (s.pose.ahead 2) .jumpedIntoHole
      ((s.withStack stack).result level 0) := by
  have hjump : s.rested.jump level = s.rested.arrive level (s.pose.ahead 2) .jumpedIntoHole :=
    jump_of_passable hbetween.passable hlanding
  obtain ⟨rest, id, -, hstep⟩ := step_of_upcoming level hrun h rfl
  refine ⟨id, ?_⟩
  rw [← hjump]
  exact congrArg Prod.snd hstep

theorem result_of_two_moves {stack : List Frame} (hrun : s.status.isTerminal = false)
    (h : upcoming 2 stack = [.moveForward, .moveForward])
    (hbetween : s.Neutral level (s.pose.ahead 1))
    (hlanding : s.Passable level (s.pose.ahead 2)) :
    s.rested.ShowsArrival level (s.pose.ahead 2) .fell ((s.withStack stack).result level 1) := by
  have hfirst : s.rested.move level = (s.rested.place (s.pose.ahead 1), none) :=
    move_of_neutral hbetween
  have hsecond : (s.rested.place (s.pose.ahead 1)).move level =
      s.rested.arrive level (s.pose.ahead 2) .fell := move_of_place hlanding
  obtain ⟨rest, _, hagain, hstep⟩ := step_of_upcoming level hrun h rfl
  -- behind the first move the run goes on, with the runner on the cell between
  have hafter : (s.withStack stack).after level 1 =
      (s.rested.place (s.pose.ahead 1)).withStack rest := by
    rw [after_succ, after_zero, hstep]
    change (s.rested.move level).1.withStack rest = _
    rw [hfirst]
  obtain ⟨rest', id, -, hstep'⟩ :=
    step_of_upcoming (s := s.rested.place (s.pose.ahead 1)) level hrun hagain rfl
  refine ⟨id, ?_⟩
  rw [← hsecond, result, hafter]
  exact congrArg Prod.snd hstep'

end

/-- A jump over neutral ground is worth two moves. Take any state in which the run goes on, and put
under it a place in a program where a jump comes next, or one where two moves come next. If the cell
ahead is neutral and the one behind it lets the runner through, then after the jump and after the
two moves the runner stands alike, has the same things, and its run has come as far; and the messages
are the same unless the landing is a hole. -/
theorem a_jump_over_neutral_ground_is_worth_two_moves (level : Level) (s : State)
    (hrun : s.status = .running) (ofJump ofMoves : List Frame)
    (hjump : upcoming 1 ofJump = [.jump])
    (hmoves : upcoming 2 ofMoves = [.moveForward, .moveForward])
    (hbetween : s.Neutral level (s.pose.ahead 1))
    (hlanding : s.LetsThrough level (s.pose.ahead 2)) :
    let leap := (s.withStack ofJump).result level 0
    let walk := (s.withStack ofMoves).result level 1
    leap.pose = walk.pose ∧ leap.changes = walk.changes ∧ leap.status = walk.status ∧
      (leap.message = walk.message ↔ level.tileAt (s.pose.ahead 2) ≠ .hole) := by
  intro leap walk
  have hgoes := isTerminal_eq_false.2 hrun
  have hpass := letsThrough_iff.1 hlanding
  exact (result_of_jump hgoes hjump hbetween hpass).alike
    (result_of_two_moves hgoes hmoves hbetween hpass)

/-- A runner that has taken the key stands before the opened door, and behind the door is the flag,
which asks for a star. A jump and the two rounds of a loop with a move end the run there alike. -/
theorem a_jump_over_an_opened_door :
    let level : Level :=
      ⟨1, "Door", ⟨[[.start, .key, .door, .flag]], 4, by decide, by decide, by decide, by decide⟩,
        ⟨⟨0, 0⟩, .right, .idle⟩, [], 1, none, none⟩
    let move : Block := ⟨"move", .moveForward, none, none⟩
    let jump : Block := ⟨"jump", .jump, none, none⟩
    let s := (initial [move, jump] level.start).after level 1
    let ofMoves := [Frame.rounds [move] 2]
    (s.status = .running ∧ upcoming 1 s.stack = [.jump] ∧
        upcoming 2 ofMoves = [.moveForward, .moveForward] ∧
        s.Neutral level (s.pose.ahead 1) ∧ s.LetsThrough level (s.pose.ahead 2)) ∧
      (s.result level 0).pose = ((s.withStack ofMoves).result level 1).pose ∧
      (s.result level 0).status = .failed ∧
      (s.result level 0).message = ((s.withStack ofMoves).result level 1).message := by
  intro level move jump s ofMoves
  have hrun : s.status = .running := by decide
  have hjump : upcoming 1 s.stack = [.jump] := by decide
  have hmoves : upcoming 2 ofMoves = [.moveForward, .moveForward] := by decide
  have hbetween : s.Neutral level (s.pose.ahead 1) := Or.inr (Or.inr (by decide))
  have hlanding : s.LetsThrough level (s.pose.ahead 2) := by
    unfold LetsThrough
    decide
  obtain ⟨hpose, -, -, hmessage⟩ := a_jump_over_neutral_ground_is_worth_two_moves level s hrun
    s.stack ofMoves hjump hmoves hbetween hlanding
  exact ⟨⟨hrun, hjump, hmoves, hbetween, hlanding⟩, hpose, by decide, hmessage.2 (by decide)⟩

end BlockMaze.State
