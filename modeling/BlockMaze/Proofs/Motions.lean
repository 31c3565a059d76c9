-- Motions of the plane. A motion takes cells to cells and facings to facings,
-- and what lies ahead of the runner to what lies ahead of the moved runner.
-- A run on a level and the moved run on the moved level go in step, and each
-- snapshot of the second is the moved snapshot of the first. A motion that
-- turns left into right does so with the turns of the program, too.
import BlockMaze.Proofs.Arrivals
import BlockMaze.Proofs.TreeWalk

namespace BlockMaze

/-! ## Programs with other kinds -/

/-- The kind with left and right exchanged. -/
def Kind.mirrored : Kind → Kind
  | .turnLeft => .turnRight
  | .turnRight => .turnLeft
  | kind => kind

namespace Program

/-- The program with another kind for each kind, at every depth. -/
def recast (f : Kind → Kind) : List Block → List Block
  | [] => []
  | ⟨id, kind, count, none⟩ :: rest => ⟨id, f kind, count, none⟩ :: recast f rest
  | ⟨id, kind, count, some body⟩ :: rest =>
    ⟨id, f kind, count, some (recast f body)⟩ :: recast f rest

end Program

/-- The block with another kind for each kind in it. -/
def Block.recast (f : Kind → Kind) (b : Block) : Block :=
  ⟨b.id, f b.kind, b.loopCount, b.body.map (Program.recast f)⟩

/-- The frame with another kind for each kind of its blocks. -/
def Frame.recast (f : Kind → Kind) (frame : Frame) : Frame :=
  { frame with blocks := Program.recast f frame.blocks }

section

variable (f : Kind → Kind)

theorem Program.recast_cons (b : Block) (bs : List Block) :
    Program.recast f (b :: bs) = b.recast f :: Program.recast f bs := by
  obtain ⟨id, kind, count, body⟩ := b
  cases body with
  | none => simp [Program.recast, Block.recast]
  | some body => simp [Program.recast, Block.recast]

theorem Program.recast_eq_map (bs : List Block) :
    Program.recast f bs = bs.map (Block.recast f) := by
  induction bs with
  | nil => simp [Program.recast]
  | cons b bs ih => rw [Program.recast_cons, ih, List.map_cons]

theorem Program.recast_id (bs : List Block) : Program.recast id bs = bs := by
  induction bs using Program.tree_induction with
  | nil => simp [Program.recast]
  | cons b bs inside behind =>
    rw [Program.recast_cons, behind]
    obtain ⟨i, kind, count, body⟩ := b
    cases body with
    | none => simp [Block.recast]
    | some body =>
      have hbody : Program.recast id body = body := inside
      simp [Block.recast, hbody]

theorem Block.children_recast (b : Block) :
    (b.recast f).children = Program.recast f b.children := by
  obtain ⟨id, kind, count, body⟩ := b
  cases body with
  | none => simp [Block.recast, Block.children, Program.recast]
  | some body => simp [Block.recast, Block.children]

theorem Block.isEmpty_children_recast (b : Block) :
    (b.recast f).children.isEmpty = b.children.isEmpty := by
  rw [Block.children_recast, Program.recast_eq_map, List.isEmpty_map]

/-- Closing bodies looks at no kind. -/
theorem settle_recast (stack : List Frame) :
    settle (stack.map (Frame.recast f)) =
      (settle stack).map fun (b, frame, below) =>
        (b.recast f, frame.recast f, below.map (Frame.recast f)) := by
  induction stack with
  | nil => rfl
  | cons frame below ih =>
    obtain ⟨blocks, cursor, left⟩ := frame
    simp only [List.map_cons, Frame.recast, Program.recast_eq_map] at ih ⊢
    cases hb : blocks[cursor]? with
    | some b => simp [settle, hb]
    | none =>
      cases left with
      | none => simp [settle, hb, ih]
      | some n =>
        cases blocks with
        | nil => rw [List.map_nil, settle_of_no_blocks, settle_of_no_blocks, ih]
        | cons b bs =>
          have hb' : (b.recast f :: bs.map (Block.recast f))[cursor]? = none := by
            rw [← List.map_cons, List.getElem?_map, hb]
            rfl
          by_cases hn : 1 < n
          · simp [settle, hb, hb', hn]
          · simp [settle, hb, hb', hn, ih]

end

/-! ## Motions -/

/-- A motion of the plane, with what it does to facings. It may exchange left and right. -/
structure Motion where
  cell : Cell → Cell
  facing : Direction → Direction
  reverses : Bool
  bijective : Function.Bijective cell
  cell_ahead : ∀ c d distance, cell (c.ahead d distance) = (cell c).ahead (facing d) distance
  facing_turned : ∀ kind d,
    facing (Kind.turned kind d) = Kind.turned (if reverses then kind.mirrored else kind) (facing d)

namespace Motion

/-- The kind that does to the moved runner what a kind does to the runner. -/
def kind (m : Motion) (kind : Kind) : Kind := if m.reverses then kind.mirrored else kind

def pose (m : Motion) (p : Pose) : Pose := ⟨m.cell p.cell, m.facing p.facing, p.animation⟩

/-- The keys of the moved cells. -/
def keySet (m : Motion) (set : KeySet) : KeySet :=
  .ofList (set.keys.map fun k => (m.cell (Cell.atKey k)).key)

def changes (m : Motion) (c : Changes) : Changes :=
  ⟨m.keySet c.stars, m.keySet c.keys, m.keySet c.doors⟩

/-- The snapshot with the runner and all cells moved. -/
def snapshot (m : Motion) (s : Snapshot) : Snapshot :=
  { s with pose := m.pose s.pose, changes := m.changes s.changes }

theorem cell_injective (m : Motion) {c d : Cell} (h : m.cell c = m.cell d) : c = d :=
  m.bijective.1 h

theorem pose_ahead (m : Motion) (p : Pose) (distance : Int) :
    (m.pose p).ahead distance = m.cell (p.ahead distance) :=
  (m.cell_ahead p.cell p.facing distance).symm

/-- Only turns are exchanged. -/
theorem kind_eq (m : Motion) {k : Kind} (hl : k ≠ .turnLeft) (hr : k ≠ .turnRight) :
    m.kind k = k := by
  unfold kind
  split
  · cases k with
    | turnLeft => exact absurd rfl hl
    | turnRight => exact absurd rfl hr
    | _ => rfl
  · rfl

theorem kind_ne (m : Motion) {k action : Kind} (hl : action ≠ .turnLeft) (hr : action ≠ .turnRight)
    (h : k ≠ action) : m.kind k ≠ action := by
  unfold kind
  split
  · cases k with
    | turnLeft => exact hr.symm
    | turnRight => exact hl.symm
    | _ => exact h
  · exact h

/-- A motion that keeps left and right keeps programs. -/
theorem recast_eq (m : Motion) (h : m.reverses = false) (program : Program) :
    Program.recast m.kind program = program := by
  have hkind : m.kind = id := by
    funext k
    unfold kind
    rw [h]
    rfl
  rw [hkind, Program.recast_id]

theorem keySet_keysOf (m : Motion) (cells : List Cell) :
    m.keySet (State.keysOf cells) = State.keysOf (cells.map m.cell) := by
  apply KeySet.ext_mem
  intro k
  unfold keySet
  rw [KeySet.mem_ofList, State.mem_keysOf, List.mem_map]
  constructor
  · rintro ⟨k', hk', rfl⟩
    obtain ⟨c, hc, rfl⟩ := State.mem_keysOf.1 hk'
    rw [Cell.atKey_key]
    exact ⟨m.cell c, List.mem_map_of_mem hc, rfl⟩
  · rintro ⟨d, hd, rfl⟩
    obtain ⟨c, hc, rfl⟩ := List.mem_map.1 hd
    refine ⟨c.key, State.mem_keysOf.2 ⟨c, hc, rfl⟩, ?_⟩
    rw [Cell.atKey_key]

theorem map_insert (m : Motion) (c : Cell) (cells : List Cell) :
    (cells.insert c).map m.cell = (cells.map m.cell).insert (m.cell c) := by
  by_cases hc : c ∈ cells
  · rw [List.insert_of_mem hc, List.insert_of_mem (List.mem_map_of_mem hc)]
  · have hnot : m.cell c ∉ cells.map m.cell := by
      intro h
      obtain ⟨d, hd, he⟩ := List.mem_map.1 h
      exact hc (m.cell_injective he ▸ hd)
    rw [List.insert_of_not_mem hc, List.insert_of_not_mem hnot, List.map_cons]

end Motion

/-! ## Moved levels -/

/-- Two tiles are the same, or both stop every move. -/
def Tile.Alike (t u : Tile) : Prop := t = u ∨ (t.isWallLike = true ∧ u.isWallLike = true)

theorem Tile.Alike.isWallLike {t u : Tile} (h : t.Alike u) : u.isWallLike = t.isWallLike := by
  rcases h with rfl | ⟨ht, hu⟩
  · rfl
  · rw [ht, hu]

theorem Tile.Alike.eq_iff {t u tile : Tile} (h : t.Alike u) (hfree : tile.isWallLike = false) :
    u = tile ↔ t = tile := by
  rcases h with rfl | ⟨ht, hu⟩
  · rfl
  · constructor
    · rintro rfl
      exact absurd hu (by simp [hfree])
    · rintro rfl
      exact absurd ht (by simp [hfree])

namespace Motion

/-- The tiles of one level are those of the other, moved; only what stops every move may differ. -/
structure Matches (m : Motion) (level other : Level) : Prop where
  tiles : ∀ c, (level.tileAt c).Alike (other.tileAt (m.cell c))
  minStars : other.minStars = level.minStars

/-- One state is the other, moved. The doors may have been opened in another order. -/
structure Carries (m : Motion) (s t : State) : Prop where
  pose : t.pose = m.pose s.pose
  stack : t.stack = s.stack.map (Frame.recast m.kind)
  stars : t.stars = s.stars.map m.cell
  keys : t.keys = s.keys.map m.cell
  doors : ∀ c, m.cell c ∈ t.doors ↔ c ∈ s.doors
  status : t.status = s.status

/-- Two outcomes of a block: the states are moved, and the notice is the same. -/
def Agrees (m : Motion) (r r' : State × Option Notice) : Prop := m.Carries r.1 r'.1 ∧ r'.2 = r.2

section

variable {m : Motion} {level other : Level} {s t : State}

theorem Matches.tile_iff (hl : m.Matches level other) (tile : Tile)
    (hfree : tile.isWallLike = false) (c : Cell) :
    other.tileAt (m.cell c) = tile ↔ level.tileAt c = tile :=
  (hl.tiles c).eq_iff hfree

theorem Matches.isWallLike (hl : m.Matches level other) (c : Cell) :
    (other.tileAt (m.cell c)).isWallLike = (level.tileAt c).isWallLike :=
  (hl.tiles c).isWallLike

namespace Carries

theorem cell (h : m.Carries s t) : t.pose.cell = m.cell s.pose.cell := by
  rw [h.pose]
  rfl

theorem ahead (h : m.Carries s t) (distance : Int) :
    t.pose.ahead distance = m.cell (s.pose.ahead distance) := by
  rw [h.pose, m.pose_ahead]

theorem changes (h : m.Carries s t) : t.changes = m.changes s.changes := by
  have hdoors : State.keysOf t.doors = State.keysOf (s.doors.map m.cell) := by
    apply State.keysOf_congr
    intro d
    obtain ⟨c, rfl⟩ := m.bijective.2 d
    rw [h.doors c]
    constructor
    · intro hc
      exact List.mem_map_of_mem hc
    · intro hc
      obtain ⟨e, he, hce⟩ := List.mem_map.1 hc
      exact m.cell_injective hce ▸ he
  unfold State.changes Motion.changes
  simp only [keySet_keysOf, h.stars, h.keys, hdoors]

theorem shown (h : m.Carries s t) (active message : Option String) :
    t.shown active message = m.snapshot (s.shown active message) := by
  unfold State.shown snapshot
  rw [h.pose, h.status, h.changes]

/-! ## What the runner sees -/

theorem isLocked (h : m.Carries s t) (hl : m.Matches level other) (c : Cell) :
    t.isLocked (other.tileAt (m.cell c)) (m.cell c) = s.isLocked (level.tileAt c) c := by
  unfold State.isLocked
  simp only [hl.tile_iff .door rfl c, List.contains_eq_mem, h.doors c]

theorem facesWall (h : m.Carries s t) (hl : m.Matches level other) :
    t.facesWall other = s.facesWall level := by
  unfold State.facesWall
  rw [h.ahead, hl.isWallLike]

theorem pathIsClear (h : m.Carries s t) (hl : m.Matches level other) :
    t.pathIsClear other = s.pathIsClear level := by
  unfold State.pathIsClear
  simp only [h.ahead, hl.isWallLike, hl.tile_iff .hole rfl, h.isLocked hl]

theorem mem_stars (h : m.Carries s t) (c : Cell) : m.cell c ∈ t.stars ↔ c ∈ s.stars := by
  rw [h.stars, List.mem_map_of_injective m.bijective.1]

theorem mem_keys (h : m.Carries s t) (c : Cell) : m.cell c ∈ t.keys ↔ c ∈ s.keys := by
  rw [h.keys, List.mem_map_of_injective m.bijective.1]

theorem isOnStar (h : m.Carries s t) (hl : m.Matches level other) :
    t.isOnStar other = s.isOnStar level := by
  unfold State.isOnStar
  simp only [h.cell, hl.tile_iff .star rfl, List.contains_eq_mem, h.mem_stars]

/-! ## What the runner does -/

theorem withStack (h : m.Carries s t) (stack : List Frame) :
    m.Carries (s.withStack stack) (t.withStack (stack.map (Frame.recast m.kind))) :=
  ⟨h.pose, rfl, h.stars, h.keys, h.doors, h.status⟩

theorem rested (h : m.Carries s t) : m.Carries s.rested t.rested := by
  refine ⟨?_, h.stack, h.stars, h.keys, h.doors, h.status⟩
  unfold State.rested
  simp only [h.pose]
  rfl

theorem withStatus (h : m.Carries s t) (status : Status) :
    m.Carries { s with status := status } { t with status := status } :=
  ⟨h.pose, h.stack, h.stars, h.keys, h.doors, rfl⟩

theorem place (h : m.Carries s t) (c : Cell) : m.Carries (s.place c) (t.place (m.cell c)) := by
  refine ⟨?_, h.stack, h.stars, h.keys, h.doors, h.status⟩
  unfold State.place
  simp only [h.pose]
  rfl

theorem deny (h : m.Carries s t) : m.Carries s.deny t.deny := by
  refine ⟨?_, h.stack, h.stars, h.keys, h.doors, h.status⟩
  unfold State.deny
  simp only [h.pose]
  rfl

theorem turn (h : m.Carries s t) (k : Kind) :
    m.Carries (s.turn (k.turned s.pose.facing)) (t.turn ((m.kind k).turned t.pose.facing)) := by
  refine ⟨?_, h.stack, h.stars, h.keys, h.doors, h.status⟩
  have hturned := m.facing_turned k s.pose.facing
  unfold State.turn
  simp only [h.pose]
  unfold Motion.pose
  simp only [hturned]
  rfl

theorem collect (h : m.Carries s t) (hl : m.Matches level other) :
    m.Carries (s.collect level) (t.collect other) := by
  have htile : ∀ {tile : Tile}, tile.isWallLike = false →
      (other.tileAt t.pose.cell = tile ↔ level.tileAt s.pose.cell = tile) := by
    intro tile hfree
    rw [h.cell, hl.tile_iff tile hfree]
  have hkey : t.pose.cell ∈ t.keys ↔ s.pose.cell ∈ s.keys := by
    rw [h.cell, h.mem_keys]
  rcases State.collect_cases level s with ⟨hs, he⟩ | ⟨hk, hnew, he⟩ | ⟨hk, hold, he⟩ | ⟨hs, hk, he⟩
  · rw [he, State.collect_of_star ((htile rfl).2 hs)]
    refine ⟨h.pose, h.stack, ?_, h.keys, h.doors, h.status⟩
    simp only [h.stars, h.cell, m.map_insert]
  · rw [he, State.collect_of_new_key ((htile rfl).2 hk) (fun hc => hnew (hkey.1 hc))]
    refine ⟨h.pose, h.stack, h.stars, ?_, ?_, h.status⟩
    · simp only [h.keys, h.cell, m.map_insert]
    · -- the doors are listed in another order, but they are the same doors
      have hdoor : ∀ (l : Level) (c : Cell), c ∈ l.cellsOf .door ↔ l.tileAt c = .door :=
        fun _ _ => Level.mem_cellsOf (by decide)
      intro c
      simp only [State.mem_foldr_insert, hdoor, hl.tile_iff .door rfl, h.doors c]
  · rw [he, State.collect_of_old_key ((htile rfl).2 hk) (hkey.2 hold)]
    exact h
  · rw [he, State.collect_of_other (fun hc => hs ((htile rfl).1 hc))
      (fun hc => hk ((htile rfl).1 hc))]
    exact h

theorem judge (h : m.Carries s t) (hl : m.Matches level other) :
    m.Agrees (s.judge level) (t.judge other) := by
  have hflag : other.tileAt t.pose.cell = .flag ↔ level.tileAt s.pose.cell = .flag := by
    rw [h.cell, hl.tile_iff .flag rfl]
  have hstars : t.stars.length = s.stars.length := by rw [h.stars, List.length_map]
  have hstack : t.stack.isEmpty = s.stack.isEmpty := by rw [h.stack, List.isEmpty_map]
  unfold State.judge
  simp only [hflag, hstars, hstack, hl.minStars]
  split
  · split
    · exact ⟨h.withStatus .completed, rfl⟩
    · exact ⟨h.withStatus .failed, rfl⟩
  · split
    · exact ⟨h.withStatus .failed, rfl⟩
    · exact ⟨h, rfl⟩

theorem arrive (h : m.Carries s t) (hl : m.Matches level other) (c : Cell) (fallen : Notice) :
    m.Agrees (s.arrive level c fallen) (t.arrive other (m.cell c) fallen) := by
  have hlanded := (h.place c).collect hl
  by_cases hf : level.tileAt c = .flag
  · have hf' := (hl.tile_iff .flag rfl c).2 hf
    unfold State.arrive
    simp only [hf, hf']
    exact hlanded.judge hl
  · by_cases hh : level.tileAt c = .hole
    · have hh' := (hl.tile_iff .hole rfl c).2 hh
      unfold State.arrive
      simp only [hh, hh']
      exact ⟨hlanded.withStatus .failed, rfl⟩
    · have hf' : other.tileAt (m.cell c) ≠ .flag := fun hc => hf ((hl.tile_iff .flag rfl c).1 hc)
      have hh' : other.tileAt (m.cell c) ≠ .hole := fun hc => hh ((hl.tile_iff .hole rfl c).1 hc)
      rw [State.arrive_of_other s fallen hf hh, State.arrive_of_other t fallen hf' hh']
      exact ⟨hlanded, rfl⟩

theorem move (h : m.Carries s t) (hl : m.Matches level other) :
    m.Agrees (s.move level) (t.move other) := by
  rw [State.move_eq, State.move_eq]
  simp only [h.ahead, hl.isWallLike, h.isLocked hl]
  split
  · exact ⟨h.deny, rfl⟩
  · split
    · exact ⟨h.deny, rfl⟩
    · exact h.arrive hl _ .fell

theorem jump (h : m.Carries s t) (hl : m.Matches level other) :
    m.Agrees (s.jump level) (t.jump other) := by
  rw [State.jump_eq, State.jump_eq]
  simp only [h.ahead, hl.isWallLike, h.isLocked hl]
  split
  · exact ⟨h.deny, rfl⟩
  · split
    · exact ⟨h.deny, rfl⟩
    · split
      · exact ⟨h.deny, rfl⟩
      · exact h.arrive hl _ .jumpedIntoHole

/-- The moved runner does with the moved kind what the runner does with the kind. -/
theorem act (h : m.Carries s t) (hl : m.Matches level other) (k : Kind) :
    m.Agrees (s.act level k) (t.act other (m.kind k)) := by
  by_cases hm : k = .moveForward
  · subst hm
    rw [m.kind_eq (by decide) (by decide)]
    exact h.move hl
  · by_cases hj : k = .jump
    · subst hj
      rw [m.kind_eq (by decide) (by decide)]
      exact h.jump hl
    · have hm' : m.kind k ≠ .moveForward := m.kind_ne (by decide) (by decide) hm
      have hj' : m.kind k ≠ .jump := m.kind_ne (by decide) (by decide) hj
      rw [State.act_of_turn level s hm hj, State.act_of_turn other t hm' hj']
      exact ⟨h.turn k, rfl⟩

/-! ## The place in the program -/

theorem opened (h : m.Carries s t) (hl : m.Matches level other) (b : Block) :
    t.opened other (b.recast m.kind) = (s.opened level b).map (Frame.recast m.kind) := by
  have hkind : (b.recast m.kind).kind = m.kind b.kind := rfl
  have hrounds : (b.recast m.kind).rounds = b.rounds := rfl
  unfold State.opened
  simp only [Block.isEmpty_children_recast, hkind, hrounds]
  split
  · rfl
  · cases hk : b.kind with
    | turnLeft =>
      unfold Motion.kind
      cases m.reverses <;> rfl
    | turnRight =>
      unfold Motion.kind
      cases m.reverses <;> rfl
    | loop =>
      rw [m.kind_eq (by decide) (by decide)]
      simp [Frame.rounds, Frame.recast, Block.children_recast]
    | whilePath =>
      rw [m.kind_eq (by decide) (by decide)]
      simp only [h.pathIsClear hl]
      split <;> simp [Frame.once, Frame.recast, Block.children_recast]
    | ifStar =>
      rw [m.kind_eq (by decide) (by decide)]
      simp only [h.isOnStar hl]
      split <;> simp [Frame.once, Frame.recast, Block.children_recast]
    | ifWall =>
      rw [m.kind_eq (by decide) (by decide)]
      simp only [h.facesWall hl]
      split <;> simp [Frame.once, Frame.recast, Block.children_recast]
    | _ =>
      rw [m.kind_eq (by decide) (by decide)]
      rfl

theorem stackAfter (h : m.Carries s t) (hl : m.Matches level other) (b : Block) (f : Frame)
    (below : List Frame) :
    t.stackAfter other (b.recast m.kind) (f.recast m.kind) (below.map (Frame.recast m.kind)) =
      (s.stackAfter level b f below).map (Frame.recast m.kind) := by
  have hkind : (b.recast m.kind).kind = .whilePath ↔ b.kind = .whilePath := by
    constructor
    · intro hk
      by_contra hne
      exact m.kind_ne (by decide) (by decide) hne hk
    · intro hk
      exact (congrArg m.kind hk).trans (m.kind_eq (by decide) (by decide))
  unfold State.stackAfter State.passed
  simp only [h.opened hl, hkind, Option.isSome_map]
  rw [List.map_append, List.map_cons]
  congr 1
  · cases s.opened level b <;> rfl
  · split <;> rfl

/-! ## Runs in step -/

/-- A step of the moved state is the moved step. -/
theorem step (h : m.Carries s t) (hl : m.Matches level other) :
    m.Carries (s.step level).1 (t.step other).1 ∧
      (t.step other).2 = m.snapshot (s.step level).2 := by
  have hsettle := settle_recast m.kind s.stack
  rw [← h.stack] at hsettle
  cases ht : s.status.isTerminal with
  | true =>
    rw [State.step_of_over ht, State.step_of_over (by rw [h.status]; exact ht)]
    exact ⟨h.rested, h.rested.shown none none⟩
  | false =>
    have ht' : t.status.isTerminal = false := by rw [h.status]; exact ht
    cases hs : settle s.stack with
    | none =>
      rw [hs] at hsettle
      obtain ⟨hjudge, hnotice⟩ := (h.rested.withStack []).judge hl
      rw [State.step_of_done ht hs, State.step_of_done ht' hsettle]
      refine ⟨hjudge, ?_⟩
      rw [← hjudge.shown, ← hnotice]
      rfl
    | some found =>
      obtain ⟨b, f, below⟩ := found
      rw [hs] at hsettle
      obtain ⟨hact, hnotice⟩ := h.rested.act hl b.kind
      rw [State.step_of_next ht hs, State.step_of_next ht' hsettle, h.rested.stackAfter hl]
      refine ⟨hact.withStack _, ?_⟩
      rw [← hact.shown, ← hnotice]
      rfl

theorem after (h : m.Carries s t) (hl : m.Matches level other) (n : Nat) :
    m.Carries (s.after level n) (t.after other n) := by
  induction n with
  | zero => exact h
  | succ n ih =>
    rw [State.after_succ, State.after_succ]
    exact (ih.step hl).1

end Carries

theorem carries_initial (m : Motion) (program : Program) (start : Pose) :
    m.Carries (State.initial program start)
      (State.initial (Program.recast m.kind program) (m.pose start)) :=
  ⟨rfl, rfl, rfl, rfl, fun _ => by simp [State.initial], rfl⟩

/-- On a moved level the moved program shows the moved snapshots. -/
theorem result_eq (hl : m.Matches level other) (program : Program) (start : Pose) (n : Nat) :
    (State.initial (Program.recast m.kind program) (m.pose start)).result other n =
      m.snapshot ((State.initial program start).result level n) :=
  (((m.carries_initial program start).after hl n).step hl).2

end

end Motion

end BlockMaze
