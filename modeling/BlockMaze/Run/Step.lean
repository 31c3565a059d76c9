-- One step of a run. A step first closes the bodies that are finished, then
-- visits one block: it acts, or it decides whether to open a body. When no
-- body is open any more, the step gives the verdict.
import BlockMaze.Run.State

namespace BlockMaze

/-- What a step has to say. -/
inductive Notice where
  | bonk
  | fell
  | locked
  | wallBetween
  | lockedBetween
  | wallAtLanding
  | jumpedIntoHole
  | needStars (required collected : Nat)
  | outOfMoves
deriving DecidableEq, Repr

/-- The text of a notice. Numbers are written out at any length: the bound `Number.maxDigits` is
left out of messages. -/
def Notice.text : Notice → String
  | .bonk => "Bonk!"
  | .fell => "Fell in a hole!"
  | .locked => "Locked! Find a key."
  | .wallBetween => "Can't jump over walls!"
  | .lockedBetween => "Can't jump over locked doors!"
  | .wallAtLanding => "Can't jump into a wall!"
  | .jumpedIntoHole => "Jumped into a hole!"
  | .needStars required collected =>
    "Need " ++ toString required ++ " stars! Only collected " ++ toString collected ++ "."
  | .outOfMoves => "Out of moves!"

/-! ## Closing finished bodies -/

/-- Closes finished bodies until there is a next block or no body is open. The next block comes
with its frame and the frames below. A finished loop with rounds left starts its next round, any
other finished body is popped; a loop without blocks just uses up its rounds. -/
def settle : List Frame → Option (Block × Frame × List Frame)
  | [] => none
  | ⟨blocks, cursor, left⟩ :: below =>
    match blocks[cursor]? with
    | some block => some (block, ⟨blocks, cursor, left⟩, below)
    | none =>
      match left, blocks with
      | some n, block :: rest =>
        if 1 < n then some (block, ⟨block :: rest, 0, some (n - 1)⟩, below) else settle below
      | _, _ => settle below

/-- What one look at the stack finds. -/
inductive Look where
  | done
  | next (block : Block) (frame : Frame) (below : List Frame)
  | closed (stack : List Frame)

/-- One look at the stack: the next block, or the innermost body finished, which is then
rewound for its next round or popped. -/
def look : List Frame → Look
  | [] => .done
  | ⟨blocks, cursor, left⟩ :: below =>
    match blocks[cursor]? with
    | some block => .next block ⟨blocks, cursor, left⟩ below
    | none =>
      match left with
      | none => .closed below
      | some n =>
        if 0 < n - 1 then .closed (⟨blocks, 0, some (n - 1)⟩ :: below) else .closed below

/-- With no body open there is no next block. -/
theorem settle_of_done {stack : List Frame} (h : look stack = .done) : settle stack = none := by
  match stack with
  | [] => rfl
  | ⟨blocks, cursor, left⟩ :: below =>
    unfold look at h
    cases hb : blocks[cursor]? with
    | some block => simp [hb] at h
    | none =>
      simp only [hb] at h
      cases left with
      | none => simp at h
      | some n => simp only at h; split at h <;> simp at h

/-- A block that the look finds is the next block. -/
theorem settle_of_next {stack below : List Frame} {block : Block} {frame : Frame}
    (h : look stack = .next block frame below) : settle stack = some (block, frame, below) := by
  match stack with
  | [] => simp [look] at h
  | ⟨blocks, cursor, left⟩ :: rest =>
    unfold look at h
    cases hb : blocks[cursor]? with
    | some b =>
      simp only [hb, Look.next.injEq] at h
      obtain ⟨rfl, rfl, rfl⟩ := h
      simp [settle, hb]
    | none =>
      simp only [hb] at h
      cases left with
      | none => simp at h
      | some n => simp only at h; split at h <;> simp at h

/-- The rounds of a loop without blocks are used up one by one. -/
theorem settle_of_no_blocks (cursor : Nat) (left : Option Int) (below : List Frame) :
    settle (⟨[], cursor, left⟩ :: below) = settle below := by
  cases left <;> simp [settle]

/-- Closing a body does not change the next block. -/
theorem settle_of_closed {stack rest : List Frame} (h : look stack = .closed rest) :
    settle stack = settle rest := by
  match stack with
  | [] => simp [look] at h
  | ⟨blocks, cursor, left⟩ :: below =>
    unfold look at h
    cases hb : blocks[cursor]? with
    | some b => simp [hb] at h
    | none =>
      simp only [hb] at h
      cases left with
      | none =>
        simp only [Look.closed.injEq] at h
        simp [settle, hb, h]
      | some n =>
        cases blocks with
        | nil =>
          rw [settle_of_no_blocks]
          simp only at h
          split at h
          · simp only [Look.closed.injEq] at h
            rw [← h, settle_of_no_blocks]
          · simp only [Look.closed.injEq] at h
            rw [h]
        | cons b bs =>
          simp only at h
          split at h
          · rename_i hn
            simp only [Look.closed.injEq] at h
            have hn' : 1 < n := by omega
            subst h
            simp [settle, hb, hn']
          · rename_i hn
            simp only [Look.closed.injEq] at h
            have hn' : ¬ 1 < n := by omega
            subst h
            rw [settle]
            simp [hb, hn']

namespace State

/-! ## What the runner sees -/

/-- Whether a tile at a cell stops the runner as a locked door. -/
def isLocked (s : State) (tile : Tile) (c : Cell) : Bool := tile = .door && !s.doors.contains c

/-- The runner faces a wall or the outside. -/
def facesWall (level : Level) (s : State) : Bool := (level.tileAt (s.pose.ahead 1)).isWallLike

/-- The runner could walk on: neither a wall, a hole nor a locked door lies ahead. -/
def pathIsClear (level : Level) (s : State) : Bool :=
  let ahead := s.pose.ahead 1
  let tile := level.tileAt ahead
  !(tile.isWallLike || tile = .hole || s.isLocked tile ahead)

/-- The runner stands on a star that it has not collected. -/
def isOnStar (level : Level) (s : State) : Bool :=
  level.tileAt s.pose.cell = .star && !s.stars.contains s.pose.cell

/-! ## What the runner does -/

/-- The runner is put on a cell. -/
def place (s : State) (c : Cell) : State := { s with pose := { s.pose with cell := c } }

/-- The runner turns. -/
def turn (s : State) (d : Direction) : State := { s with pose := { s.pose with facing := d } }

/-- The runner takes what lies on its cell. The first visit of a key opens every door. -/
def collect (level : Level) (s : State) : State :=
  let c := s.pose.cell
  match level.tileAt c with
  | .star => { s with stars := s.stars.insert c }
  | .key =>
    if s.keys.contains c then s
    else
      { s with
        keys := s.keys.insert c
        doors := (level.cellsOf .door).foldr List.insert s.doors }
  | _ => s

/-- The run has failed. -/
def fail (s : State) : State := { s with status := .failed }

/-- The runner's action is blocked. -/
def deny (s : State) : State := { s with pose := { s.pose with animation := .deny } }

/-- The verdict on the runner's cell: on the flag the stars decide, and elsewhere the run goes
on while a body is open. -/
def judge (level : Level) (s : State) : State × Option Notice :=
  if level.tileAt s.pose.cell = .flag then
    if level.minStars ≤ s.stars.length then ({ s with status := .completed }, none)
    else (s.fail, some (.needStars level.minStars s.stars.length))
  else if s.stack.isEmpty then (s.fail, some .outOfMoves)
  else (s, none)

/-- One cell forward. -/
def move (level : Level) (s : State) : State × Option Notice :=
  let target := s.pose.ahead 1
  let tile := level.tileAt target
  if tile.isWallLike then (s.deny, some .bonk)
  else if tile = .hole then ((s.place target).fail, some .fell)
  else if s.isLocked tile target then (s.deny, some .locked)
  else
    let s := (s.place target).collect level
    if tile = .flag then s.judge level else (s, none)

/-- Two cells forward. The cell between only counts as an obstacle. -/
def jump (level : Level) (s : State) : State × Option Notice :=
  let middle := s.pose.ahead 1
  let target := s.pose.ahead 2
  let between := level.tileAt middle
  let landing := level.tileAt target
  if between.isWallLike then (s.deny, some .wallBetween)
  else if s.isLocked between middle then (s.deny, some .lockedBetween)
  else if landing.isWallLike then (s.deny, some .wallAtLanding)
  else
    let s := (s.place target).collect level
    if landing = .flag then s.judge level
    else if landing = .hole then (s.fail, some .jumpedIntoHole)
    else (s, none)

/-! ## Visiting a block -/

/-- Opens a body unless it is empty. -/
def openBody (s : State) (frame : Frame) : State :=
  if frame.blocks.isEmpty then s else { s with stack := frame :: s.stack }

/-- Visits a block taken from a frame. The stack is the frame behind the block, on top of the
frames below; a `WHILE_PATH` whose path is clear stays the next block of its frame, so that it
is visited again after its body. -/
def visit (level : Level) (s : State) (block : Block) (frame : Frame) (below : List Frame) :
    State × Option Notice :=
  let passed := { s with stack := { frame with cursor := frame.cursor + 1 } :: below }
  let body := block.children
  match block.kind with
  | .moveForward => passed.move level
  | .jump => passed.jump level
  | .turnLeft => (passed.turn s.pose.facing.turnedLeft, none)
  | .turnRight => (passed.turn s.pose.facing.turnedRight, none)
  | .loop => (passed.openBody (.rounds body block.rounds), none)
  | .whilePath =>
    if s.pathIsClear level && !body.isEmpty then
      ({ s with stack := .once body :: frame :: below }, none)
    else (passed, none)
  | .ifStar => if s.isOnStar level then (passed.openBody (.once body), none) else (passed, none)
  | .ifWall => if s.facesWall level then (passed.openBody (.once body), none) else (passed, none)

/-- The state with nothing to show from the step before. -/
def rested (s : State) : State := { s with pose := s.pose.atRest }

/-- One step: the state after it and its snapshot. -/
def step (level : Level) (s : State) : State × Snapshot :=
  let s := s.rested
  if s.status.isTerminal then (s, s.snapshot)
  else
    match settle s.stack with
    | none =>
      let (s, notice) := { s with stack := [] }.judge level
      (s, s.shown none (notice.map Notice.text))
    | some (block, frame, below) =>
      let (s, notice) := s.visit level block frame below
      (s, s.shown (some block.id) (notice.map Notice.text))

/-- A number of steps: the state after them and their snapshots. -/
def steps (level : Level) : Nat → State → State × List Snapshot
  | 0, s => (s, [])
  | n + 1, s =>
    let (s, first) := s.step level
    let (s, rest) := steps level n s
    (s, first :: rest)

end State

end BlockMaze
