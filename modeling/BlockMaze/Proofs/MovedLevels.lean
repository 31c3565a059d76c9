-- Levels that are walled in, turned and mirrored. A border of walls around a
-- grid stands where the outside was, so it only shifts a run by one cell. On
-- the turned grid a run is turned, and on the mirrored grid the program with
-- left and right exchanged has the mirrored run.
import BlockMaze.Proofs.Motions

namespace BlockMaze

/-! ## Three motions -/

/-- Left and right are exchanged. -/
def Direction.mirrored : Direction → Direction
  | .left => .right
  | .right => .left
  | d => d

namespace Cell

def shifted (offset c : Cell) : Cell := ⟨c.x + offset.x, c.y + offset.y⟩

/-- The cell after a quarter turn clockwise of a grid with a number of rows. -/
def turned (height : Nat) (c : Cell) : Cell := ⟨height - 1 - c.y, c.x⟩

/-- The cell in the mirror of a grid with a number of columns. -/
def mirrored (width : Nat) (c : Cell) : Cell := ⟨width - 1 - c.x, c.y⟩

theorem shifted_bijective (offset : Cell) : Function.Bijective (shifted offset) := by
  apply Function.bijective_iff_has_inverse.2
  refine ⟨fun c => ⟨c.x - offset.x, c.y - offset.y⟩, ?_, ?_⟩
  · intro c
    simp [shifted]
  · intro c
    simp [shifted]

theorem turned_bijective (height : Nat) : Function.Bijective (turned height) := by
  apply Function.bijective_iff_has_inverse.2
  refine ⟨fun c => ⟨c.y, height - 1 - c.x⟩, ?_, ?_⟩
  · intro c
    simp only [turned, Int.sub_sub_self]
  · intro c
    simp only [turned, Int.sub_sub_self]

theorem mirrored_bijective (width : Nat) : Function.Bijective (mirrored width) := by
  apply Function.bijective_iff_has_inverse.2
  refine ⟨mirrored width, ?_, ?_⟩
  · intro c
    simp only [mirrored, Int.sub_sub_self]
  · intro c
    simp only [mirrored, Int.sub_sub_self]

theorem shifted_ahead (offset c : Cell) (d : Direction) (distance : Int) :
    shifted offset (c.ahead d distance) = (shifted offset c).ahead d distance := by
  unfold ahead shifted
  cases d <;> simp [Direction.offset] <;> omega

theorem turned_ahead (height : Nat) (c : Cell) (d : Direction) (distance : Int) :
    turned height (c.ahead d distance) = (turned height c).ahead d.turnedRight distance := by
  unfold ahead turned
  cases d <;> simp [Direction.offset, Direction.turnedRight] <;> omega

theorem mirrored_ahead (width : Nat) (c : Cell) (d : Direction) (distance : Int) :
    mirrored width (c.ahead d distance) = (mirrored width c).ahead d.mirrored distance := by
  unfold ahead mirrored
  cases d <;> simp [Direction.offset, Direction.mirrored] <;> omega

end Cell

theorem Kind.turned_turnedRight (kind : Kind) (d : Direction) :
    (kind.turned d).turnedRight = kind.turned d.turnedRight := by
  cases kind <;> cases d <;> rfl

theorem Kind.turned_mirrored (kind : Kind) (d : Direction) :
    (kind.turned d).mirrored = kind.mirrored.turned d.mirrored := by
  cases kind <;> cases d <;> rfl

namespace Motion

/-- Every cell goes on by the same offset. -/
def shift (offset : Cell) : Motion where
  cell := Cell.shifted offset
  facing := id
  reverses := false
  bijective := Cell.shifted_bijective offset
  cell_ahead := Cell.shifted_ahead offset
  facing_turned _ _ := rfl

/-- A quarter turn clockwise that takes a grid with a number of rows onto its turned grid. -/
def quarterTurn (height : Nat) : Motion where
  cell := Cell.turned height
  facing := Direction.turnedRight
  reverses := false
  bijective := Cell.turned_bijective height
  cell_ahead := Cell.turned_ahead height
  facing_turned := Kind.turned_turnedRight

/-- The mirror that takes a grid with a number of columns onto its mirrored grid. -/
def mirror (width : Nat) : Motion where
  cell := Cell.mirrored width
  facing := Direction.mirrored
  reverses := true
  bijective := Cell.mirrored_bijective width
  cell_ahead := Cell.mirrored_ahead width
  facing_turned := Kind.turned_mirrored

end Motion

/-! ## The moved grids -/

namespace Grid

/-- A row of a grid with a wall before and behind it. -/
def walled (row : List Tile) : List Tile := .wall :: (row ++ [.wall])

/-- A row of walls, as long as a walled row of the grid. -/
def side (g : Grid) : List Tile := List.replicate (g.width + 2) .wall

/-- The rows of the grid with a wall all around. -/
def walledRows (g : Grid) : List (List Tile) := g.side :: (g.rows.map walled ++ [g.side])

theorem mem_walledRows {g : Grid} {row : List Tile} (h : row ∈ g.walledRows) :
    row = g.side ∨ ∃ r ∈ g.rows, row = walled r := by
  unfold walledRows at h
  simp only [List.mem_cons, List.mem_append, List.mem_map, List.not_mem_nil, or_false] at h
  rcases h with h | ⟨r, hr, rfl⟩ | h
  · exact Or.inl h
  · exact Or.inr ⟨r, hr, rfl⟩
  · exact Or.inl h

theorem eq_wall_of_mem_side {g : Grid} {tile : Tile} (h : tile ∈ g.side) : tile = .wall :=
  List.eq_of_mem_replicate h

/-- The grid with a wall around it, one cell thick. -/
def bordered (g : Grid) : Grid where
  rows := g.walledRows
  width := g.width + 2
  rows_ne_nil := by simp [walledRows]
  width_pos := by omega
  row_length := by
    intro row hrow
    rcases mem_walledRows hrow with rfl | ⟨r, hr, rfl⟩
    · simp [side]
    · simp [walled, g.row_length r hr]
  inside := by
    intro row hrow tile htile
    rcases mem_walledRows hrow with rfl | ⟨r, hr, rfl⟩
    · rw [eq_wall_of_mem_side htile]
      decide
    · simp only [walled, List.mem_cons, List.mem_append, List.not_mem_nil, or_false] at htile
      rcases htile with rfl | htile | rfl
      · decide
      · exact g.inside r hr tile htile
      · decide

/-- The grid turned clockwise: its rows are the columns, read from the lowest row up. -/
def turned (g : Grid) : Grid where
  rows := (List.range g.width).map fun x => g.rows.reverse.map fun row => row.getD x .outside
  width := g.height
  rows_ne_nil := by simpa using Nat.ne_of_gt g.width_pos
  width_pos := List.length_pos_iff.2 g.rows_ne_nil
  row_length := by
    intro row hrow
    obtain ⟨x, -, rfl⟩ := List.mem_map.1 hrow
    simp [height]
  inside := by
    intro row hrow tile htile
    obtain ⟨x, hx, rfl⟩ := List.mem_map.1 hrow
    obtain ⟨r, hr, rfl⟩ := List.mem_map.1 htile
    rw [List.mem_reverse] at hr
    rw [List.mem_range, ← g.row_length r hr] at hx
    rw [List.getD_eq_getElem?_getD, List.getElem?_eq_getElem hx]
    exact g.inside r hr _ (List.getElem_mem hx)

/-- The grid with every row read backwards. -/
def mirrored (g : Grid) : Grid where
  rows := g.rows.map List.reverse
  width := g.width
  rows_ne_nil := by simp [g.rows_ne_nil]
  width_pos := g.width_pos
  row_length := by
    intro row hrow
    obtain ⟨r, hr, rfl⟩ := List.mem_map.1 hrow
    rw [List.length_reverse, g.row_length r hr]
  inside := by
    intro row hrow tile htile
    obtain ⟨r, hr, rfl⟩ := List.mem_map.1 hrow
    exact g.inside r hr tile (List.mem_reverse.1 htile)

/-! ### Their tiles -/

/-- A grid that holds the moved tiles, and nothing else, has the moved tiles everywhere. -/
theorem tileAt_of_moved {g h : Grid} (f : Cell → Cell) (hin : ∀ c, h.Holds (f c) → g.Holds c)
    (hs : ∀ tile x y, g.StandsAt tile x y → h.tileAt (f ⟨x, y⟩) = tile) (c : Cell) :
    h.tileAt (f c) = g.tileAt c := by
  by_cases hc : g.Holds c
  · obtain ⟨tile, x, y, rfl, hstands⟩ := standsAt_of_holds hc
    rw [hs tile x y hstands, tileAt_of_standsAt hstands]
  · rw [tileAt_eq_outside.2 hc, tileAt_eq_outside]
    intro hm
    exact hc (hin c hm)

theorem tileAt_turned (g : Grid) (c : Cell) :
    g.turned.tileAt (c.turned g.height) = g.tileAt c := by
  refine tileAt_of_moved (Cell.turned g.height) ?_ ?_ c
  · intro c hc
    unfold Holds turned height at hc
    simp only [Cell.turned, List.length_map, List.length_range] at hc
    unfold Holds height
    omega
  · intro tile x y hs
    have hin := holds_of_standsAt hs
    unfold Holds height at hin
    simp only at hin
    obtain ⟨row, hrow, htile⟩ := hs
    have hcell : Cell.turned g.height ⟨x, y⟩ = ⟨(g.rows.length - 1 - y : Nat), x⟩ := by
      simp only [Cell.turned, height, Cell.mk.injEq, and_true]
      omega
    rw [hcell]
    apply tileAt_of_standsAt
    refine ⟨g.rows.reverse.map fun row => row.getD x .outside, ?_, ?_⟩
    · simp only [turned, List.getElem?_map]
      rw [List.getElem?_range (by omega)]
      rfl
    · rw [List.getElem?_map, List.getElem?_reverse (by omega)]
      have hy : g.rows.length - 1 - (g.rows.length - 1 - y) = y := by omega
      rw [hy, hrow]
      simp [htile]

example :
    (turned ⟨[[.start, .empty, .flag], [.wall, .star, .hole]], 3, by decide, by decide, by decide,
      by decide⟩).rows = [[.wall, .start], [.star, .empty], [.hole, .flag]] := by decide

theorem tileAt_mirrored (g : Grid) (c : Cell) :
    g.mirrored.tileAt (c.mirrored g.width) = g.tileAt c := by
  refine tileAt_of_moved (Cell.mirrored g.width) ?_ ?_ c
  · intro c hc
    unfold Holds mirrored height at hc
    simp only [Cell.mirrored, List.length_map] at hc
    unfold Holds height
    omega
  · intro tile x y hs
    have hin := holds_of_standsAt hs
    unfold Holds height at hin
    simp only at hin
    obtain ⟨row, hrow, htile⟩ := hs
    have hlen : row.length = g.width := g.row_length row (List.mem_of_getElem? hrow)
    have hcell : Cell.mirrored g.width ⟨x, y⟩ = ⟨(row.length - 1 - x : Nat), y⟩ := by
      simp only [Cell.mirrored, Cell.mk.injEq, and_true]
      omega
    rw [hcell]
    apply tileAt_of_standsAt
    refine ⟨row.reverse, ?_, ?_⟩
    · simp [mirrored, hrow]
    · rw [List.getElem?_reverse (by omega)]
      have hx : row.length - 1 - (row.length - 1 - x) = x := by omega
      rw [hx, htile]

/-- A tile of the walled grid is a wall, or it is the tile one column and one row before. -/
theorem standsAt_bordered {g : Grid} {tile : Tile} {x y : Nat} (hs : g.bordered.StandsAt tile x y) :
    tile = .wall ∨ ∃ x' y', x = x' + 1 ∧ y = y' + 1 ∧ g.StandsAt tile x' y' := by
  obtain ⟨row, hrow, htile⟩ := hs
  unfold bordered walledRows at hrow
  simp only at hrow
  cases y with
  | zero =>
    simp only [List.getElem?_cons_zero, Option.some.injEq] at hrow
    subst hrow
    exact Or.inl (eq_wall_of_mem_side (List.mem_of_getElem? htile))
  | succ y =>
    simp only [List.getElem?_cons_succ] at hrow
    rw [List.getElem?_append] at hrow
    split at hrow
    · rw [List.getElem?_map] at hrow
      obtain ⟨r, hr, rfl⟩ := Option.map_eq_some_iff.1 hrow
      unfold walled at htile
      cases x with
      | zero =>
        simp only [List.getElem?_cons_zero, Option.some.injEq] at htile
        exact Or.inl htile.symm
      | succ x =>
        simp only [List.getElem?_cons_succ] at htile
        rw [List.getElem?_append] at htile
        split at htile
        · exact Or.inr ⟨x, y, rfl, rfl, r, hr, htile⟩
        · exact Or.inl (List.mem_singleton.1 (List.mem_of_getElem? htile))
    · have hside := List.mem_singleton.1 (List.mem_of_getElem? hrow)
      subst hside
      exact Or.inl (eq_wall_of_mem_side (List.mem_of_getElem? htile))

theorem tileAt_bordered {g : Grid} {tile : Tile} {x y : Nat} (hs : g.StandsAt tile x y) :
    g.bordered.tileAt (Cell.shifted ⟨1, 1⟩ ⟨x, y⟩) = tile := by
  obtain ⟨row, hrow, htile⟩ := hs
  have hcell : Cell.shifted ⟨1, 1⟩ ⟨x, y⟩ = ⟨(x + 1 : Nat), (y + 1 : Nat)⟩ := rfl
  obtain ⟨hy, -⟩ := List.getElem?_eq_some_iff.1 hrow
  obtain ⟨hx, -⟩ := List.getElem?_eq_some_iff.1 htile
  rw [hcell]
  apply tileAt_of_standsAt
  refine ⟨walled row, ?_, ?_⟩
  · unfold bordered walledRows
    simp only [List.getElem?_cons_succ]
    rw [List.getElem?_append_left (by simpa using hy), List.getElem?_map, hrow]
    rfl
  · unfold walled
    rw [List.getElem?_cons_succ, List.getElem?_append_left hx, htile]

/-- The border stands where the outside was. -/
theorem alike_bordered (g : Grid) (c : Cell) :
    (g.tileAt c).Alike (g.bordered.tileAt (Cell.shifted ⟨1, 1⟩ c)) := by
  by_cases hc : g.Holds c
  · obtain ⟨tile, x, y, rfl, hs⟩ := standsAt_of_holds hc
    left
    rw [tileAt_bordered hs, tileAt_of_standsAt hs]
  · right
    rw [tileAt_eq_outside.2 hc]
    refine ⟨rfl, ?_⟩
    by_cases hout : g.bordered.tileAt (Cell.shifted ⟨1, 1⟩ c) = .outside
    · rw [hout]
      rfl
    · obtain ⟨x, y, hcell, hs⟩ := standsAt_of_tileAt hout
      rcases standsAt_bordered hs with hwall | ⟨x', y', rfl, rfl, hs'⟩
      · rw [hwall]
        rfl
      · have hback : c = ⟨x', y'⟩ := (Cell.shifted_bijective ⟨1, 1⟩).1 hcell
        exact absurd (hback ▸ holds_of_standsAt hs') hc

end Grid

/-! ## The moved levels -/

namespace Level

def bordered (level : Level) : Level :=
  { level with grid := level.grid.bordered, start := (Motion.shift ⟨1, 1⟩).pose level.start }

def turned (level : Level) : Level :=
  { level with
    grid := level.grid.turned
    start := (Motion.quarterTurn level.grid.height).pose level.start }

def mirrored (level : Level) : Level :=
  { level with
    grid := level.grid.mirrored
    start := (Motion.mirror level.grid.width).pose level.start }

end Level

/-! ## The laws -/

namespace State

/-- With a border of walls around the level, and the start shifted with it, every snapshot is
the one without the border, shifted by one column and one row. -/
theorem a_border_of_walls_only_shifts_a_run (level : Level) (program : Program) (start : Pose)
    (n : Nat) :
    let inward := Motion.shift ⟨1, 1⟩
    (initial program (inward.pose start)).result level.bordered n =
      inward.snapshot ((initial program start).result level n) := by
  intro inward
  have hmatches : inward.Matches level level.bordered := ⟨level.grid.alike_bordered, rfl⟩
  have hresult := Motion.result_eq hmatches program start n
  rwa [inward.recast_eq rfl] at hresult

/-- On the level turned by a quarter every snapshot is turned, and on the mirrored level the
program with left and right exchanged shows the mirrored snapshots. -/
theorem runs_follow_the_symmetries_of_the_grid (level : Level) (program : Program) (start : Pose)
    (n : Nat) :
    let turn := Motion.quarterTurn level.grid.height
    let mirror := Motion.mirror level.grid.width
    (initial program (turn.pose start)).result level.turned n =
        turn.snapshot ((initial program start).result level n) ∧
      (initial (Program.recast Kind.mirrored program) (mirror.pose start)).result level.mirrored n =
        mirror.snapshot ((initial program start).result level n) := by
  intro turn mirror
  have hturned : turn.Matches level level.turned :=
    ⟨fun c => Or.inl (level.grid.tileAt_turned c).symm, rfl⟩
  have hmirrored : mirror.Matches level level.mirrored :=
    ⟨fun c => Or.inl (level.grid.tileAt_mirrored c).symm, rfl⟩
  refine ⟨?_, Motion.result_eq hmirrored program start n⟩
  have hresult := Motion.result_eq hturned program start n
  rwa [turn.recast_eq rfl] at hresult

end State

end BlockMaze
