-- Drawn runs. The picture of a snapshot shows what the run has done: the runner
-- where it stands, every item that is still to be collected, and the doors as
-- they are. An item is always in the picture, in the sets, or under the runner.
import BlockMaze.Command.Play
import BlockMaze.Proofs.DrawnLevels
import BlockMaze.Proofs.Verdict
import Mathlib.Data.List.Count
import Mathlib.Data.List.Nodup

namespace BlockMaze

/-! ## Pictures, cell by cell -/

/-- The character of a text at a column of a line. -/
def charAt? (text : String) (x y : Nat) : Option Char :=
  (linesOf text)[y]?.bind fun line => line.toList[x]?

/-- Line breaks apart, the characters of a text are those of its lines. -/
theorem countP_intercalate {p : Char → Bool} (hp : p '\n' = false) (lines : List String) :
    ("\n".intercalate lines).toList.countP p = (lines.flatMap String.toList).countP p := by
  induction lines with
  | nil => simp
  | cons line lines ih =>
    cases lines with
    | nil => simp
    | cons next lines =>
      rw [String.intercalate_cons_cons, String.toList_append, String.toList_append,
        List.countP_append, List.countP_append, ih, List.flatMap_cons, List.countP_append]
      simp [hp]

namespace Level

/-- The character that a picture has at a cell. -/
def markAt (level : Level) (pose : Option Pose) (changes : Changes) (c : Cell) : Char :=
  drawn pose changes (level.tileAt c) c

section

variable (level : Level) (pose : Option Pose) (changes : Changes)

theorem picture_eq :
    level.picture pose changes =
      (List.range level.grid.height).map fun y : Nat =>
        String.ofList ((List.range level.grid.width).map fun x : Nat =>
          level.markAt pose changes ⟨x, y⟩) := by
  unfold picture drawnRow
  rw [Grid.zipIdx_rows]
  simp only [List.map_map, zipIdx_map_range, Function.comp_def]
  rfl

theorem length_of_mem_picture {line : String} (h : line ∈ level.picture pose changes) :
    line.length = level.grid.width := by
  rw [picture_eq] at h
  obtain ⟨y, -, rfl⟩ := List.mem_map.1 h
  simp

theorem charAt?_render {x y : Nat} (h : level.grid.Holds ⟨x, y⟩) :
    charAt? (level.render pose changes) x y = some (level.markAt pose changes ⟨x, y⟩) := by
  unfold Grid.Holds at h
  simp only at h
  have hx : x < level.grid.width := by omega
  have hy : y < level.grid.height := by omega
  simp [charAt?, linesOf_eq_picture, picture_eq, hx, hy]

/-- What is counted in a picture is counted cell by cell. -/
theorem countP_render {p : Char → Bool} (hp : p '\n' = false) :
    (level.render pose changes).toList.countP p =
      level.grid.cells.countP fun c => p (level.markAt pose changes c) := by
  have hmarks : (level.picture pose changes).flatMap String.toList =
      level.grid.cells.map (level.markAt pose changes) := by
    unfold Grid.cells
    rw [picture_eq, List.flatMap_map, List.map_flatMap]
    simp only [String.toList_ofList, List.map_map, Function.comp_def]
  unfold render
  rw [countP_intercalate hp, hmarks, List.countP_map]
  rfl

end

end Level

/-! ## Marks -/

/-- The characters that the runner is drawn with. -/
def isArrow (mark : Char) : Bool :=
  [Direction.up, .right, .down, .left].any fun d => mark = d.arrow

theorem Tile.symbol_injective : Function.Injective symbol := by
  intro tile other h
  cases tile <;> cases other <;> first | rfl | exact absurd h (by decide)

namespace Changes

/-- The keys of the cells where a tile has been collected. -/
def collected (changes : Changes) : Tile → KeySet
  | .star => changes.stars
  | .key => changes.keys
  | _ => .empty

/-- A tile is drawn as collected, as opened, or as it is. -/
theorem symbol_cases (changes : Changes) (tile : Tile) (c : Cell) :
    (c.key ∈ changes.collected tile ∧ changes.symbol tile c = '.') ∨
      (tile = .door ∧ changes.symbol tile c = '/') ∨
      (c.key ∉ changes.collected tile ∧ changes.symbol tile c = tile.symbol) := by
  unfold symbol
  -- only what can be collected or opened has a second form
  cases tile with
  | star => by_cases h : c.key ∈ changes.stars <;> simp [collected, Tile.symbol, h]
  | key => by_cases h : c.key ∈ changes.keys <;> simp [collected, Tile.symbol, h]
  | door => by_cases h : c.key ∈ changes.doors <;> simp [collected, h]
  | _ => simp [collected]

theorem not_isArrow_symbol (changes : Changes) (tile : Tile) (c : Cell) :
    isArrow (changes.symbol tile c) = false := by
  rcases changes.symbol_cases tile c with ⟨-, h⟩ | ⟨-, h⟩ | ⟨-, h⟩
  · rw [h]
    decide
  · rw [h]
    decide
  · rw [h]
    cases tile <;> decide

/-- The symbol of an item stands where the item is not yet collected, and nowhere else. -/
theorem symbol_eq_item {changes : Changes} {item tile : Tile} {c : Cell}
    (hitem : item = .star ∨ item = .key) :
    changes.symbol tile c = item.symbol ↔ tile = item ∧ c.key ∉ changes.collected item := by
  have hother : item ≠ .door ∧ '.' ≠ item.symbol ∧ '/' ≠ item.symbol := by
    rcases hitem with rfl | rfl <;> decide
  rcases changes.symbol_cases tile c with ⟨hin, h⟩ | ⟨rfl, h⟩ | ⟨hout, h⟩
  · rw [h]
    refine ⟨fun he => absurd he hother.2.1, ?_⟩
    rintro ⟨rfl, hout⟩
    exact absurd hin hout
  · rw [h]
    refine ⟨fun he => absurd he hother.2.2, ?_⟩
    rintro ⟨rfl, -⟩
    exact absurd rfl hother.1
  · rw [h, Tile.symbol_injective.eq_iff]
    constructor
    · rintro rfl
      exact ⟨rfl, hout⟩
    · exact fun h => h.1

end Changes

namespace Level

section

variable {level : Level} {p : Pose} {changes : Changes} {c : Cell}

theorem markAt_runner (h : p.cell = c) : level.markAt (some p) changes c = p.facing.arrow :=
  if_pos h

theorem markAt_other (h : p.cell ≠ c) :
    level.markAt (some p) changes c = changes.symbol (level.tileAt c) c :=
  if_neg h

/-- The runner's cell is the only one with an arrow. -/
theorem isArrow_markAt : isArrow (level.markAt (some p) changes c) = decide (c = p.cell) := by
  by_cases h : p.cell = c
  · rw [markAt_runner h, decide_eq_true h.symm]
    cases p.facing <;> decide
  · rw [markAt_other h, decide_eq_false (Ne.symm h), Changes.not_isArrow_symbol]

theorem markAt_eq_item {item : Tile} (hitem : item = .star ∨ item = .key) :
    level.markAt (some p) changes c = item.symbol ↔
      level.tileAt c = item ∧ c.key ∉ changes.collected item ∧ c ≠ p.cell := by
  by_cases h : p.cell = c
  · have hne : p.facing.arrow ≠ item.symbol := by
      rcases hitem with rfl | rfl <;> cases p.facing <;> decide
    rw [markAt_runner h]
    simp [hne, h]
  · rw [markAt_other h, Changes.symbol_eq_item hitem]
    simp [Ne.symm h]

end

/-! ## Counting -/

theorem countP_isArrow (level : Level) (p : Pose) (changes : Changes) :
    (level.render (some p) changes).toList.countP isArrow =
      if level.grid.Holds p.cell then 1 else 0 := by
  rw [countP_render level (some p) changes (by decide)]
  simp only [isArrow_markAt, ← Grid.mem_cells]
  exact level.grid.nodup_cells.count

/-- A set whose keys read back as cells with a tile counts such cells. -/
theorem size_of_readsBack {level : Level} {tile : Tile} {set : KeySet} (ht : tile ≠ .outside)
    (h : State.ReadsBack level tile set) :
    set.size = (level.cellsOf tile).countP fun c => c.key ∈ set := by
  have hset : set = State.keysOf ((level.cellsOf tile).filter fun c => c.key ∈ set) := by
    apply KeySet.ext_mem
    intro k
    simp only [State.mem_keysOf, List.mem_filter, decide_eq_true_eq, mem_cellsOf ht]
    constructor
    · intro hk
      obtain ⟨c, rfl, -, htile, -⟩ := h k hk
      exact ⟨c, ⟨htile, hk⟩, rfl⟩
    · rintro ⟨c, ⟨-, hk⟩, rfl⟩
      exact hk
  rw [List.countP_eq_length_filter, ← State.size_keysOf ((level.nodup_cellsOf tile).filter _),
    ← hset]

/-- The cells with a tile are those in a set, at most one cell that is given, and the others. -/
theorem count_cellsOf {level : Level} {tile : Tile} {set : KeySet} (ht : tile ≠ .outside)
    (h : State.ReadsBack level tile set) (here : Cell) :
    ((level.cellsOf tile).countP fun c => c.key ∉ set ∧ c ≠ here) + set.size +
        (if level.tileAt here = tile ∧ here.key ∉ set then 1 else 0) =
      (level.cellsOf tile).length := by
  -- no cell is listed twice, so the given one counts once among those that are not in the set
  let rest := (level.cellsOf tile).filter fun c => c.key ∉ set
  have hall : (level.cellsOf tile).length = set.size + rest.length := by
    rw [size_of_readsBack ht h, ← List.countP_eq_length_filter,
      List.length_eq_countP_add_countP fun c : Cell => c.key ∈ set]
    simp
  have hrest : rest.length = rest.count here + rest.countP fun c => c ≠ here := by
    rw [List.length_eq_countP_add_countP fun c : Cell => c == here]
    simp [List.count]
  have hhere : rest.count here = if level.tileAt here = tile ∧ here.key ∉ set then 1 else 0 := by
    rw [((level.nodup_cellsOf tile).filter _).count]
    simp [mem_cellsOf ht]
  have hothers : (rest.countP fun c => c ≠ here) =
      (level.cellsOf tile).countP fun c => c.key ∉ set ∧ c ≠ here := by
    rw [List.countP_filter]
    simp [and_comm]
  omega

/-- An item of a level is in its picture, or in the set of what is collected, or under the
runner. -/
theorem count_item {level : Level} {changes : Changes} {item : Tile}
    (hitem : item = .star ∨ item = .key)
    (h : State.ReadsBack level item (changes.collected item)) (p : Pose) :
    (level.render (some p) changes).toList.count item.symbol + (changes.collected item).size +
        (if level.tileAt p.cell = item ∧ p.cell.key ∉ changes.collected item then 1 else 0) =
      (level.cellsOf item).length := by
  have ht : item ≠ .outside := by
    rcases hitem with rfl | rfl <;> decide
  have hbreak : ('\n' == item.symbol) = false := by
    rcases hitem with rfl | rfl <;> decide
  rw [← count_cellsOf ht h p.cell]
  congr 2
  -- the symbol is counted over all cells, and only those with the item can show it
  rw [List.count, countP_render level (some p) changes hbreak]
  unfold cellsOf
  rw [Grid.cellsOf_eq_filter, List.countP_filter]
  congr 1
  funext c
  rw [Bool.eq_iff_iff]
  simp only [beq_iff_eq, markAt_eq_item hitem]
  simp [tileAt, and_comm]

end Level

/-! ## The law -/

/-- A text is the picture of a snapshot. It has a line for every row and a character for every
column; the runner's arrow stands on its cell if that is in the grid, and no other arrow anywhere;
every star and every key of the level is in the picture, in the snapshot's set, or under the runner;
and the doors are open once there is a key. -/
structure Portrays (level : Level) (r : Snapshot) (text : String) : Prop where
  lines : (linesOf text).length = level.grid.height
  columns : ∀ line ∈ linesOf text, line.length = level.grid.width
  arrows : text.toList.countP isArrow = if level.grid.Holds r.pose.cell then 1 else 0
  arrow : ∀ x y : Nat, level.grid.Holds ⟨x, y⟩ → r.pose.cell = ⟨x, y⟩ →
    charAt? text x y = some r.pose.facing.arrow
  stars : text.toList.count '*' + r.changes.stars.size +
      (if level.tileAt r.pose.cell = .star ∧ r.pose.cell.key ∉ r.changes.stars then 1 else 0) =
    (level.cellsOf .star).length
  keys : text.toList.count 'K' + r.changes.keys.size +
      (if level.tileAt r.pose.cell = .key ∧ r.pose.cell.key ∉ r.changes.keys then 1 else 0) =
    (level.cellsOf .key).length
  doors : ∀ x y : Nat, level.tileAt ⟨x, y⟩ = .door → r.pose.cell ≠ ⟨x, y⟩ →
    charAt? text x y = some (if r.changes.keys = .empty then 'D' else '/')

namespace State

/-- The doors of a run are open if and only if there is a key. -/
theorem Taken.symbol_door {level : Level} {past : List Cell} {s : State} (h : Taken level past s)
    {c : Cell} (hc : level.tileAt c = .door) :
    s.changes.symbol .door c = if s.changes.keys = .empty then 'D' else '/' := by
  have hmem : c.key ∈ keysOf (level.cellsOf .door) :=
    mem_keysOf.2 ⟨c, (Level.mem_cellsOf (by decide)).2 hc, rfl⟩
  unfold Changes.symbol
  rw [h.doors_eq]
  by_cases hk : s.changes.keys = .empty
  · simp [hk, Tile.symbol]
  · simp [hk, hmem]

/-- A state that has taken what lies on some cells is drawn as it is. -/
theorem Taken.portrays {level : Level} {past : List Cell} {s : State} (h : Taken level past s)
    (active message : Option String) :
    Portrays level (s.shown active message) (level.render (some s.pose) s.changes) := by
  obtain ⟨hstars, hkeys, -⟩ := h.readsBack
  refine ⟨?_, ?_, level.countP_isArrow s.pose s.changes, ?_, ?_, ?_, ?_⟩
  · rw [Level.linesOf_eq_picture, Level.picture_eq]
    simp
  · intro line hline
    rw [Level.linesOf_eq_picture] at hline
    exact level.length_of_mem_picture _ _ hline
  · intro x y hholds hcell
    rw [level.charAt?_render _ _ hholds, Level.markAt_runner (p := s.pose) hcell]
    rfl
  · exact Level.count_item (.inl rfl) hstars s.pose
  · exact Level.count_item (.inr rfl) hkeys s.pose
  · intro x y hdoor hcell
    have hholds : level.grid.Holds ⟨x, y⟩ := Level.holds_of_tileAt (by rw [hdoor]; decide)
    rw [level.charAt?_render _ _ hholds, Level.markAt_other (p := s.pose) hcell, hdoor,
      h.symbol_door hdoor]
    rfl

/-- Every snapshot of a run is drawn as it is: whatever the program, the level, the start and the
step, what the drawing listener prints is the picture of the snapshot. -/
theorem every_drawn_snapshot_shows_the_run (level : Level) (program : Program) (start : Pose)
    (n : Nat) (number : Int) :
    let r := (initial program start).result level n
    let text := level.render (some r.pose) r.changes
    (Play.drawer level number r).lines = [text] ∧ Portrays level r text := by
  intro r text
  refine ⟨rfl, ?_⟩
  obtain ⟨active, message, hshown⟩ := step_shows level ((initial program start).after level n)
  rw [← after_succ] at hshown
  have hr : r = ((initial program start).after level (n + 1)).shown active message := hshown
  simp only [text]
  rw [hr]
  exact (taken_after level program start (n + 1)).portrays active message

end State

end BlockMaze
