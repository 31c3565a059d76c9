-- Drawn levels. The bare picture of a level shows the symbol of every tile, so
-- its lines are a grid that is read back as the level's own; and a grid of
-- texts is drawn as it was written, but for the two shorthands of one letter.
import BlockMaze.Level.Picture
import BlockMaze.Proofs.LevelDocs

namespace BlockMaze

/-! ## Symbols -/

namespace Tile

/-- A character of a grid as it is drawn: the shorthands for a wall and for an empty cell give way
to their symbols. -/
def respelled (c : Char) : Char := if c = 'W' then '#' else if c = 'E' then '.' else c

theorem isNamed_symbol {tile : Tile} (h : tile ≠ .outside) :
    tile.IsNamed tile.symbol.toString := by
  refine .inl ?_
  cases tile with
  | outside => exact absurd rfl h
  | _ => decide

theorem symbol_ne_newline (tile : Tile) : tile.symbol ≠ '\n' := by
  cases tile <;> decide

theorem respelled_symbol (tile : Tile) : respelled tile.symbol = tile.symbol := by
  cases tile <;> decide

/-- A text of symbols is not respelled. -/
theorem map_respelled {s : String} (h : ∀ c ∈ s.toList, ∃ tile : Tile, c = tile.symbol) :
    s.map respelled = s := by
  rw [← String.toList_inj, String.toList_map]
  refine (List.map_congr_left fun c hc => ?_).trans (List.map_id _)
  obtain ⟨tile, rfl⟩ := h c hc
  exact tile.respelled_symbol

/-- The capitals of one character are too few letters for a name, or other ones. -/
theorem upper_toString_ne_name (c : Char) (tile : Tile) : Text.upper c.toString ≠ tile.name := by
  intro h
  have hcapitals : Text.capitals c = tile.name.toList := by
    rw [← h]
    simp [Text.upper]
  unfold Text.capitals at hcapitals
  split at hcapitals
  · rename_i letters hletters
    have hall : ∀ p ∈ Text.ligatures, p.2.toList ≠ tile.name.toList := by
      cases tile <;> decide
    obtain ⟨before, after, hligatures, -⟩ := List.lookup_eq_some_iff.1 hletters
    refine hall (c, letters) ?_ hcapitals
    rw [hligatures]
    simp
  · have hlength : tile.name.toList.length ≠ 1 := by
      cases tile <;> decide
    rw [← hcapitals] at hlength
    exact hlength rfl

/-- A tile that a single character stands for is drawn as that character, respelled. -/
theorem symbol_of_isNamed {tile : Tile} {c : Char} (h : tile.IsNamed c.toString) :
    tile.symbol = respelled c := by
  rcases h with h | ⟨-, h⟩
  · have hall : ∀ p ∈ tokens, p.1.toList.map respelled = [p.2.symbol] ∨ p.1 = "ST" := by
      decide
    rcases hall _ h with hsymbol | hlong
    · have hletter : [respelled c] = [tile.symbol] := by simpa using hsymbol
      exact (List.cons.inj hletter).1.symm
    · have hletters : [c] = ['S', 'T'] := by simpa using congrArg String.toList hlong
      cases hletters
  · exact absurd h (upper_toString_ne_name c tile)

end Tile

/-! ## Pictures -/

/-- A text, split at its line breaks. -/
def linesOf (text : String) : List String := (text.split '\n').toList.map (·.copy)

namespace Level

/-- A row, drawn with nothing in the way. -/
def bareRow (row : List Tile) : String := String.ofList (row.map Tile.symbol)

theorem drawn_bare (tile : Tile) (c : Cell) : drawn none .none tile c = tile.symbol := by
  simp [drawn, Changes.symbol, Changes.none]

theorem map_zipIdx (f : α → β) (xs : List α) : (xs.zipIdx.map fun p => f p.1) = xs.map f := by
  conv_rhs => rw [← List.zipIdx_map_fst 0 xs, List.map_map]
  rfl

theorem picture_bare (level : Level) :
    level.picture none .none = level.grid.rows.map bareRow := by
  unfold picture drawnRow bareRow
  simp only [drawn_bare, map_zipIdx Tile.symbol]
  exact map_zipIdx (fun row => String.ofList (row.map Tile.symbol)) level.grid.rows

theorem drawn_ne_newline (pose : Option Pose) (changes : Changes) (tile : Tile) (c : Cell) :
    drawn pose changes tile c ≠ '\n' := by
  have hsymbol : changes.symbol tile c ≠ '\n' := by
    unfold Changes.symbol
    split
    · decide
    · split
      · decide
      · split
        · decide
        · exact tile.symbol_ne_newline
  cases pose with
  | none => exact hsymbol
  | some p =>
    unfold drawn
    simp only
    split
    · cases p.facing <;> decide
    · exact hsymbol

/-- Nothing is drawn as a line break, so the lines of a picture are its rows. -/
theorem linesOf_eq_picture (level : Level) (pose : Option Pose) (changes : Changes) :
    linesOf (level.render pose changes) = level.picture pose changes := by
  have hlines : ∀ line ∈ level.picture pose changes, '\n' ∉ line.toList := by
    intro line hline
    obtain ⟨⟨row, y⟩, -, rfl⟩ := List.mem_map.1 hline
    rw [String.toList_ofList, drawnRow, List.mem_map]
    rintro ⟨⟨tile, x⟩, -, h⟩
    exact drawn_ne_newline pose changes tile _ h
  unfold linesOf render
  refine (String.toList_split_intercalate hlines).trans (if_neg ?_)
  simpa [picture] using level.grid.rows_ne_nil

theorem linesOf_render (level : Level) :
    linesOf (level.render none .none) = level.grid.rows.map bareRow :=
  (level.linesOf_eq_picture none .none).trans level.picture_bare

theorem rowOf_bareRow {tiles : List Tile} (h : ∀ tile ∈ tiles, tile ≠ .outside) :
    RowOf (.text (bareRow tiles)) tiles := by
  refine ⟨_, .text _, ?_⟩
  rw [Wording.letters, bareRow, String.toList_ofList]
  simp only [List.forall₂_map_left_iff]
  exact List.forall₂_same.2 fun tile htile => ⟨_, rfl, Tile.isNamed_symbol (h tile htile)⟩

/-- The bare lines of a grid are a grid of its tiles. -/
theorem isGridOf_bareRows (grid : Grid) :
    IsGridOf (.texts (grid.rows.map bareRow)) grid.rows := by
  refine isGridOf_iff.2 ⟨readRows_eq_good.2 ⟨_, rfl, ?_⟩, grid, rfl⟩
  simp only [List.forall₂_map_left_iff]
  exact List.forall₂_same.2 fun row hrow => rowOf_bareRow (grid.inside row hrow)

/-! ## Grids of texts -/

/-- The tiles of a text are drawn as its characters, respelled. -/
theorem symbols_of_rowOf {row : Wording} {tiles : List Tile} (h : RowOf (.str row) tiles) :
    tiles.map Tile.symbol = row.plain.toList.map Tile.respelled := by
  obtain ⟨items, hwalked, hitems⟩ := h
  cases hwalked
  rw [← List.forall₂_eq_eq_eq, List.forall₂_map_left_iff, List.forall₂_map_right_iff]
  cases row with
  | text s =>
    simp only [Wording.letters, List.forall₂_map_left_iff] at hitems
    refine hitems.flip.imp ?_
    rintro tile c ⟨token, htoken, hnamed⟩
    cases htoken
    exact Tile.symbol_of_isNamed hnamed
  | torn pieces =>
    -- A torn text is walked as well, but half of a pair stands for no tile.
    simp only [Wording.letters, List.forall₂_map_left_iff] at hitems
    rw [Wording.plain, String.toList_ofList, List.forall₂_map_right_iff]
    refine hitems.flip.imp ?_
    rintro tile piece ⟨token, htoken, hnamed⟩
    cases piece with
    | half code => cases htoken
    | char c =>
      cases htoken
      refine Tile.symbol_of_isNamed (c := c) ?_
      rw [Char.toString_eq_singleton, String.singleton_eq_ofList]
      exact hnamed

theorem render_of_texts {rows : List Wording} {level : Level}
    (h : IsGridOf (.arr (rows.map .str)) level.grid.rows) :
    level.render none .none =
      "\n".intercalate (rows.map fun row => row.plain.map Tile.respelled) := by
  obtain ⟨docs, hdocs, -, hrows⟩ := h.walked
  cases hdocs
  rw [List.forall₂_map_left_iff] at hrows
  rw [render, picture_bare]
  congr 1
  rw [← List.forall₂_eq_eq_eq, List.forall₂_map_left_iff, List.forall₂_map_right_iff]
  refine hrows.flip.imp fun tiles row hrow => ?_
  rw [bareRow, symbols_of_rowOf hrow, ← String.toList_map, String.ofList_toList]

/-- Pictures and grids of texts undo each other. The picture of a level has a line for every row
and a character for every column, and its lines are read as the level's grid, whatever the other
fields. A grid of texts is drawn as it was written, but for the two shorthands; so it is drawn
exactly as it was written if it has the symbols of tiles only. -/
theorem pictures_and_grids_undo_each_other :
    (∀ level : Level,
        (linesOf (level.render none .none)).length = level.grid.height ∧
          (∀ line ∈ linesOf (level.render none .none), line.length = level.grid.width) ∧
          ∀ fields, LackOnlyGrid fields → ∃ other,
            read (.obj (Fields.put "grid" (.texts (linesOf (level.render none .none))) fields)) =
                .ok other ∧
              other.grid = level.grid) ∧
      ∀ (fields : Fields) (rows : List Wording) (level : Level),
        fields.get? "grid" = some (.arr (rows.map .str)) → read (.obj fields) = .ok level →
          level.render none .none =
              "\n".intercalate (rows.map fun row => row.plain.map Tile.respelled) ∧
            ((∀ row ∈ rows, ∀ c ∈ row.plain.toList, ∃ tile : Tile, c = tile.symbol) →
              level.render none .none = "\n".intercalate (rows.map Wording.plain)) := by
  refine ⟨fun level => ?_, fun fields rows level hgrid hread => ?_⟩
  · rw [linesOf_render]
    refine ⟨List.length_map .., ?_, fun fields hfields => ?_⟩
    · intro line hline
      obtain ⟨row, hrow, rfl⟩ := List.mem_map.1 hline
      rw [bareRow, String.length_ofList, List.length_map]
      exact level.grid.row_length row hrow
    · obtain ⟨other, hother, hrows⟩ := hfields.read_iff.2 (isGridOf_bareRows level.grid)
      exact ⟨other, hother, Grid.eq_of_rows hrows⟩
  · have hdrawn : level.render none .none =
        "\n".intercalate (rows.map fun row => row.plain.map Tile.respelled) := by
      obtain ⟨_, grid, hfields, hfound, hof⟩ := isGridOf_of_read hread
      cases hfields
      rw [hgrid, Option.some.injEq] at hfound
      exact render_of_texts (hfound ▸ hof)
    refine ⟨hdrawn, fun hsymbols => ?_⟩
    rw [hdrawn]
    congr 1
    exact List.map_congr_left fun row hrow => Tile.map_respelled (hsymbols row hrow)

/-- The two shorthands of one letter are drawn as symbols, and the picture is read again. -/
theorem a_grid_of_shorthands_is_drawn_in_symbols :
    let start : Fields := [("start", .obj [("x", .int 0), ("y", .int 0)])]
    let written : Fields := Fields.put "grid" (.texts ["WSE", "*KD"]) start
    ∃ level, read (.obj written) = .ok level ∧ level.render none .none = "#S.\n*KD" ∧
      ∃ other, read (.obj (Fields.put "grid" (.texts (linesOf "#S.\n*KD")) start)) = .ok other ∧
        other.grid = level.grid := by
  intro start written
  obtain ⟨level, hread⟩ : ∃ level, read (.obj written) = .ok level := ⟨_, rfl⟩
  obtain ⟨hlines, htexts⟩ := pictures_and_grids_undo_each_other
  have hrender : level.render none .none = "#S.\n*KD" :=
    (htexts written ["WSE", "*KD"] level rfl hread).1.trans (by decide +kernel)
  have hback := (hlines level).2.2 start ⟨_, level, hread⟩
  rw [hrender] at hback
  exact ⟨level, hread, hrender, hback⟩

end Level

end BlockMaze
