-- Levels in documents. A level is read from an object whose grid is an array
-- of rows that are walked by tokens of tiles, all of one width, and from
-- nothing else; a walk that stops is refused for the first offence; and a
-- level that is dumped is read as it was.
import BlockMaze.Level.LevelDoc
import BlockMaze.Proofs.GridCells
import Mathlib.Data.List.Forall2

namespace BlockMaze

/-! ## Tokens -/

namespace Tile

/-- The token stands for the tile: it is its symbol or a shorthand, or its name in any case.
Nothing stands for the outside. -/
def IsNamed (tile : Tile) (token : String) : Prop :=
  (token, tile) ∈ tokens ∨ tile ≠ .outside ∧ Text.upper token = tile.name

theorem find?_eq_some {word : String} {tile : Tile} :
    (Vocabulary.find? word : Option Tile) = some tile ↔ tile.name = word := by
  constructor
  · intro h
    have hfound := List.find?_some h
    exact eq_of_beq hfound
  · rintro rfl
    cases tile <;> rfl

theorem lookup_tokens {token : String} {tile : Tile} :
    tokens.lookup token = some tile ↔ (token, tile) ∈ tokens := by
  have hall : ∀ p ∈ tokens, tokens.lookup p.1 = some p.2 := by decide
  constructor
  · intro h
    obtain ⟨before, after, htokens, -⟩ := List.lookup_eq_some_iff.1 h
    rw [htokens]
    simp
  · exact hall (token, tile)

/-- No symbol and no shorthand is also a name. -/
theorem find?_upper_of_mem_tokens {token : String} {tile : Tile} (h : (token, tile) ∈ tokens) :
    (Vocabulary.find? (Text.upper token) : Option Tile) = none := by
  have hall : ∀ p ∈ tokens, (Vocabulary.find? (Text.upper p.1) : Option Tile) = none := by decide
  exact hall (token, tile) h

theorem ofToken_eq_ok {token : String} {tile : Tile} :
    ofToken token = .ok tile ↔ tile.IsNamed token := by
  unfold ofToken IsNamed
  -- The table goes before the names, but it hides none of them.
  cases hlookup : tokens.lookup token with
  | some other =>
    have hmem := lookup_tokens.1 hlookup
    constructor
    · intro h
      cases h
      exact .inl hmem
    · rintro (h | ⟨-, h⟩)
      · rw [lookup_tokens.2 h] at hlookup
        cases hlookup
        rfl
      · have hnone := find?_upper_of_mem_tokens hmem
        rw [find?_eq_some.2 h.symm] at hnone
        cases hnone
  | none =>
    have hnot : (token, tile) ∉ tokens := by
      intro h
      rw [lookup_tokens.2 h] at hlookup
      cases hlookup
    constructor
    · intro h
      simp only at h
      split at h
      · cases h
      · cases h
      · rename_i found hne hfind
        cases h
        exact .inr ⟨hne, (find?_eq_some.1 hfind).symm⟩
    · rintro (h | ⟨hne, h⟩)
      · exact absurd h hnot
      · simp only [find?_eq_some.2 h.symm]

theorem isNamed_name {tile : Tile} (h : tile ≠ .outside) : tile.IsNamed tile.name := by
  refine .inr ⟨h, ?_⟩
  cases tile <;> rfl

theorem ne_outside_of_isNamed {token : String} {tile : Tile} (h : tile.IsNamed token) :
    tile ≠ .outside := by
  rcases h with h | ⟨h, -⟩
  · have hall : ∀ p ∈ tokens, p.2 ≠ .outside := by decide
    exact hall (token, tile) h
  · exact h

end Tile

/-! ## Walks -/

theorem forall_right {R : α → β → Prop} {P : β → Prop} (hR : ∀ x y, R x y → P y) {xs : List α}
    {ys : List β} (h : List.Forall₂ R xs ys) : ∀ y ∈ ys, P y := by
  induction h with
  | nil => simp
  | cons hxy _ ih => exact List.forall_mem_cons.2 ⟨hR _ _ hxy, ih⟩

section

variable {f : α → Except ε β}

theorem mapM_eq_ok {xs : List α} {ys : List β} :
    xs.mapM f = .ok ys ↔ List.Forall₂ (fun x y => f x = .ok y) xs ys := by
  induction xs generalizing ys with
  | nil => cases ys <;> simp [pure, Except.pure]
  | cons x xs ih =>
    rw [List.mapM_cons, List.forall₂_cons_left_iff]
    simp only [← ih]
    cases f x with
    | error e => simp [bind, Except.bind]
    | ok y => cases xs.mapM f <;> simp [bind, Except.bind, pure, Except.pure, eq_comm]

/-- A walk fails with the first of all faults. -/
theorem mapM_eq_error {faults : α → List ε}
    (h : ∀ x e, f x = .error e ↔ (faults x).head? = some e) {xs : List α} {e : ε} :
    xs.mapM f = .error e ↔ (xs.flatMap faults).head? = some e := by
  induction xs with
  | nil => simp [pure, Except.pure]
  | cons x xs ih =>
    rw [List.mapM_cons, List.flatMap_cons, List.head?_append]
    cases hx : f x with
    | error fault => simp [bind, Except.bind, (h x fault).1 hx]
    | ok y =>
      have hnone : (faults x).head? = none := by
        cases hfault : (faults x).head? with
        | none => rfl
        | some fault =>
          rw [(h x fault).2 hfault] at hx
          cases hx
      rw [hnone, Option.none_or, ← ih]
      cases xs.mapM f <;> simp [bind, Except.bind, pure, Except.pure]

end

namespace Level

/-! ## Rows -/

/-- What a row is walked by: the characters of a text, the items of an array, or the names of an
object. -/
inductive WalkedBy : Doc → List Doc → Prop
  | text (s : Wording) : WalkedBy (.str s) (s.letters.map .str)
  | array (items : List Doc) : WalkedBy (.arr items) items
  | object (fields : Fields) : WalkedBy (.obj fields) (fields.map fun field => .str field.1)

theorem rowItems_eq_ok {row : Doc} {items : List Doc} :
    rowItems row = .ok items ↔ WalkedBy row items := by
  constructor
  · intro h
    unfold rowItems at h
    split at h
    · cases h
      exact .text _
    · cases h
      exact .array _
    · cases h
      exact .object _
    · cases h
  · rintro (_ | _ | _) <;> rfl

/-- The item is a token of the tile. -/
def TokenOf (item : Doc) (tile : Tile) : Prop := ∃ token, item = .text token ∧ tile.IsNamed token

/-- The row is walked by tokens of the tiles. -/
def RowOf (row : Doc) (tiles : List Tile) : Prop :=
  ∃ items, WalkedBy row items ∧ List.Forall₂ TokenOf items tiles

theorem walkItem_eq_ok {item : Doc} {tile : Tile} :
    walkItem item = .ok (some tile) ↔ TokenOf item tile := by
  constructor
  · intro h
    unfold walkItem at h
    split at h
    · rename_i token
      cases token with
      | torn pieces => cases h
      | text token =>
        refine ⟨token, rfl, Tile.ofToken_eq_ok.1 ?_⟩
        simp only [Tile.ofWording] at h
        split at h
        · rename_i found hfound
          cases h
          exact hfound
        · cases h
    · cases h
  · rintro ⟨token, rfl, h⟩
    simp [walkItem, Tile.ofWording, Tile.ofToken_eq_ok.2 h]

theorem walkRow_eq_ok {row : Doc} {tiles : List Tile} :
    walkRow row = .ok (tiles.map some) ↔ RowOf row tiles := by
  have hwalk : ∀ items, items.mapM walkItem = .ok (tiles.map some) ↔
      List.Forall₂ TokenOf items tiles := by
    intro items
    rw [mapM_eq_ok, List.forall₂_map_right_iff]
    simp only [walkItem_eq_ok]
  unfold walkRow RowOf
  simp only [← rowItems_eq_ok, ← hwalk]
  cases rowItems row <;> simp [bind, Except.bind]

theorem tilesOf_eq_good {x : Nat} {walked : List (Option Tile)} {tiles : List Tile} :
    tilesOf x walked = .good tiles ↔ walked = tiles.map some := by
  induction walked generalizing x tiles with
  | nil => cases tiles <;> simp [tilesOf]
  | cons tile rest ih =>
    unfold tilesOf
    rw [Checked.map_eq_good]
    constructor
    · rintro ⟨⟨t, ts⟩, hboth, rfl⟩
      obtain ⟨ht, hts⟩ := Checked.both_eq_good.1 hboth
      have hfirst := Checked.under_eq_good.1 ht
      cases tile with
      | none => cases hfirst
      | some tile =>
        cases hfirst
        rw [ih.1 hts, List.map_cons]
    · intro h
      cases tiles with
      | nil => cases h
      | cons t ts =>
        obtain ⟨rfl, hts⟩ := List.cons.inj h
        exact ⟨(t, ts), Checked.both_eq_good.2 ⟨rfl, ih.2 hts⟩, rfl⟩

theorem rowsOf_eq_good {y : Nat} {walked : List (List (Option Tile))} {rows : List (List Tile)} :
    rowsOf y walked = .good rows ↔ walked = rows.map (List.map some) := by
  induction walked generalizing y rows with
  | nil => cases rows <;> simp [rowsOf]
  | cons row rest ih =>
    rw [rowsOf, Checked.map_eq_good]
    constructor
    · rintro ⟨⟨r, rs⟩, hboth, rfl⟩
      obtain ⟨hr, hrs⟩ := Checked.both_eq_good.1 hboth
      rw [ih.1 hrs, tilesOf_eq_good.1 (Checked.under_eq_good.1 hr), List.map_cons]
    · intro h
      cases rows with
      | nil => cases h
      | cons r rs =>
        obtain ⟨hr, hrs⟩ := List.cons.inj h
        exact ⟨(r, rs), Checked.both_eq_good.2
          ⟨Checked.under_eq_good.2 (tilesOf_eq_good.2 hr), ih.2 hrs⟩, rfl⟩

theorem walkGrid_eq_ok {docs : List Doc} {rows : List (List Tile)} :
    walkGrid docs = .ok (rows.map (List.map some)) ↔ List.Forall₂ RowOf docs rows := by
  unfold walkGrid
  rw [mapM_eq_ok, List.forall₂_map_right_iff]
  simp only [walkRow_eq_ok]

/-- Rows are read from an array whose items are walked by tokens, and from nothing else. -/
theorem readRows_eq_good {doc : Doc} {rows : List (List Tile)} :
    readRows doc = .ok (.good rows) ↔ ∃ docs, doc = .arr docs ∧ List.Forall₂ RowOf docs rows := by
  unfold readRows
  split
  · rename_i docs
    simp only [Doc.arr.injEq, exists_eq_left', ← walkGrid_eq_ok]
    cases walkGrid docs with
    | ok walked => simp [rowsOf_eq_good]
    | error stop => cases stop <;> simp [Checked.refuse]
  · rename_i hne
    simp only [Checked.refuse, Except.ok.injEq, reduceCtorEq, false_iff]
    rintro ⟨docs, rfl, -⟩
    exact hne docs rfl

/-! ## Offences -/

/-- What is wrong with a token. -/
def tokenOffences (token : Wording) : List Stop :=
  match Tile.ofWording token with
  | .ok _ => []
  | .error error => [.token error]

/-- What is wrong with an item. One that is no text is let pass by the walk. -/
def itemOffences : Doc → List Stop
  | .str token => tokenOffences token
  | _ => []

/-- All that is wrong with a row, item by item. -/
def rowOffences : Doc → List Stop
  | .str s => s.letters.flatMap tokenOffences
  | .arr items => items.flatMap itemOffences
  | .obj fields => fields.flatMap fun field => tokenOffences field.1
  | other => [.row other.typeName]

/-- All that is wrong with the rows of a grid, row by row. -/
def offences (rows : List Doc) : List Stop := rows.flatMap rowOffences

theorem walkItem_eq_error {item : Doc} {stop : Stop} :
    walkItem item = .error stop ↔ (itemOffences item).head? = some stop := by
  unfold walkItem
  split
  · rename_i token
    cases htoken : Tile.ofWording token <;> simp [itemOffences, tokenOffences, htoken]
  · simp [itemOffences]

theorem walkRow_eq_error {row : Doc} {stop : Stop} :
    walkRow row = .error stop ↔ (rowOffences row).head? = some stop := by
  have hwalk : ∀ items : List Doc, items.mapM walkItem = .error stop ↔
      (items.flatMap itemOffences).head? = some stop := fun items =>
    mapM_eq_error fun _ _ => walkItem_eq_error
  unfold walkRow rowOffences rowItems
  split
  · rename_i s
    have h := hwalk (s.letters.map .str)
    rw [List.flatMap_map] at h
    exact h
  · exact hwalk _
  · rename_i fields
    have h := hwalk (fields.map fun field => .str field.1)
    rw [List.flatMap_map] at h
    exact h
  · simp [bind, Except.bind]

/-- A walk over a grid stops at the first of all offences. -/
theorem walkGrid_eq_error {rows : List Doc} {stop : Stop} :
    walkGrid rows = .error stop ↔ (offences rows).head? = some stop :=
  mapM_eq_error fun _ _ => walkRow_eq_error

end Level

/-! ## Shapes -/

namespace Grid

theorem eq_of_rows {g h : Grid} (hrows : g.rows = h.rows) : g = h := by
  obtain ⟨rows, width, hne, hpos, hlength, hinside⟩ := g
  obtain ⟨rows', width', hne', hpos', hlength', hinside'⟩ := h
  obtain rfl : rows = rows' := hrows
  obtain ⟨row, hrow⟩ := List.exists_mem_of_ne_nil rows hne
  obtain rfl : width = width' := (hlength row hrow).symm.trans (hlength' row hrow)
  rfl

theorem firstRagged?_eq_none {width y : Nat} {rows : List (List Tile)}
    (h : ∀ row ∈ rows, row.length = width) : firstRagged? width y rows = none := by
  induction rows generalizing y with
  | nil => rfl
  | cons row rows ih =>
    rw [firstRagged?, if_pos (h row List.mem_cons_self)]
    exact ih fun r hr => h r (List.mem_cons_of_mem row hr)

/-- The rows of a grid form it again, and no others do. -/
theorem ofRows_eq_ok {rows : List (List Tile)} {g : Grid} :
    ofRows rows = .ok g ↔ g.rows = rows := by
  constructor
  · intro h
    unfold ofRows at h
    split at h
    · cases h
    · split at h
      · split at h
        · cases h
        · split at h
          · cases h
            rfl
          · cases h
      · cases h
  · rintro rfl
    obtain ⟨rows, width, hne, hpos, hlength, hinside⟩ := g
    cases rows with
    | nil => exact absurd rfl hne
    | cons first rest =>
      obtain rfl : first.length = width := hlength first List.mem_cons_self
      have hsame := firstRagged?_eq_none (y := 0) hlength
      unfold ofRows
      simp only [hpos, dif_pos]
      split
      · rename_i hragged
        rw [hsame] at hragged
        cases hragged
      · exact dif_pos hinside

end Grid

/-! ## Fields -/

namespace Fields

theorem get?_cons (k : Wording) (v : Doc) (fields : Fields) (key : String) :
    get? ((k, v) :: fields) key = if k = .text key then some v else get? fields key := by
  unfold get?
  rw [List.lookup_cons]
  by_cases h : k = .text key
  · simp [h]
  · have hne : (Wording.text key == k) = false := by simpa using Ne.symm h
    rw [hne, if_neg h]

theorem get?_put_self (key : String) (value : Doc) (fields : Fields) :
    (put key value fields).get? key = some value := by
  induction fields with
  | nil => simp [put, get?_cons]
  | cons field fields ih =>
    obtain ⟨k, v⟩ := field
    rw [put]
    split
    · rename_i hk
      rw [get?_cons, if_pos hk]
    · rename_i hk
      rw [get?_cons, if_neg hk, ih]

theorem get?_put_of_ne {key name : String} (h : name ≠ key) (value : Doc) (fields : Fields) :
    (put key value fields).get? name = fields.get? name := by
  have hne : (Wording.text key) ≠ .text name := by
    simpa using Ne.symm h
  induction fields with
  | nil => rw [put, get?_cons, if_neg hne]
  | cons field fields ih =>
    obtain ⟨k, v⟩ := field
    rw [put]
    split
    · rename_i hk
      subst hk
      rw [get?_cons, get?_cons, if_neg hne, if_neg hne]
    · rw [get?_cons, get?_cons, ih]

end Fields

namespace Slot

variable {key : String} {value : Doc} {slot : Slot} {fields : Fields}

/-- A field does not change when another name is set. -/
theorem find?_put (hname : slot.name ≠ key) (hspelling : slot.spelling ≠ some key) :
    slot.find? (Fields.put key value fields) = slot.find? fields := by
  obtain ⟨name, spelling⟩ := slot
  cases spelling with
  | none => simp only [find?, Fields.get?_put_of_ne hname]
  | some spelling =>
    have hne : spelling ≠ key := fun he => hspelling (congrArg some he)
    simp only [find?, Fields.get?_put_of_ne hname, Fields.get?_put_of_ne hne]

theorem need_put {read : Reader α} (hname : slot.name ≠ key)
    (hspelling : slot.spelling ≠ some key) :
    slot.need read (Fields.put key value fields) = slot.need read fields := by
  unfold need
  rw [find?_put hname hspelling]

theorem get_put {absent : α} {read : Reader α} (hname : slot.name ≠ key)
    (hspelling : slot.spelling ≠ some key) :
    slot.get absent read (Fields.put key value fields) = slot.get absent read fields := by
  unfold get
  rw [find?_put hname hspelling]

end Slot

namespace Level

theorem readForm_put (rows : Checked (List (List Tile))) (grid : Doc) (fields : Fields) :
    readForm rows (Fields.put "grid" grid fields) = readForm rows fields := by
  unfold readForm
  simp (disch := decide) only [Slot.get_put, Slot.need_put]

/-- A form is read: each of its parts is, from the field that stands for it. -/
structure ReadAs (rows : Checked (List (List Tile))) (fields : Fields) (form : Form) : Prop where
  id : Slot.get (.plain "id") 0 .whole fields = .good form.id
  name : Slot.get (.plain "name") "" .text fields = .good form.name
  rows : rows = .good form.rows
  start : Slot.need (.plain "start") Pose.read fields = .good form.start
  offered : Slot.get ⟨"available_blocks", some "availableBlocks"⟩ Kind.palette
    (.list (.word Kind)) fields = .good form.offered
  minStars : Slot.get ⟨"min_stars", some "minStars"⟩ 0 .natural fields = .good form.minStars
  par : Slot.get ⟨"best_block_count", some "bestBlockCount"⟩ none (.orNull .whole) fields =
    .good form.par
  tutorial : Slot.get ⟨"tutorial_text", some "tutorialText"⟩ none (.orNull .text) fields =
    .good form.tutorial

theorem readForm_eq_good {rows : Checked (List (List Tile))} {fields : Fields} {form : Form} :
    readForm rows fields = .good form ↔ ReadAs rows fields form := by
  constructor
  · intro h
    -- Each step takes off the last field; what is left is a form that waits for one field more.
    obtain ⟨f₇, tutorial, h₇, htutorial, rfl⟩ := Checked.seq_eq_good.1 h
    obtain ⟨f₆, par, h₆, hpar, rfl⟩ := Checked.seq_eq_good.1 h₇
    obtain ⟨f₅, stars, h₅, hstars, rfl⟩ := Checked.seq_eq_good.1 h₆
    obtain ⟨f₄, offered, h₄, hoffered, rfl⟩ := Checked.seq_eq_good.1 h₅
    obtain ⟨f₃, start, h₃, hstart, rfl⟩ := Checked.seq_eq_good.1 h₄
    obtain ⟨f₂, rows, h₂, hrows, rfl⟩ := Checked.seq_eq_good.1 h₃
    obtain ⟨f₁, name, h₁, hname, rfl⟩ := Checked.seq_eq_good.1 h₂
    obtain ⟨id, hid, rfl⟩ := Checked.fmap_eq_good.1 h₁
    exact ⟨hid, hname, hrows, hstart, hoffered, hstars, hpar, htutorial⟩
  · rintro ⟨hid, hname, hrows, hstart, hoffered, hstars, hpar, htutorial⟩
    unfold readForm
    rw [hid, hname, hrows, hstart, hoffered, hstars, hpar, htutorial]
    rfl

/-- A form that is read holds the rows it was given, and with other rows it is read the same. -/
theorem readForm_of_good {rows₀ : Checked (List (List Tile))} {fields : Fields} {form : Form}
    (h : readForm rows₀ fields = .good form) :
    rows₀ = .good form.rows ∧
      ∀ rows, readForm rows fields = rows.map fun rows => { form with rows } := by
  obtain ⟨hid, hname, hrows, hstart, hoffered, hstars, hpar, htutorial⟩ := readForm_eq_good.1 h
  refine ⟨hrows, fun rows => ?_⟩
  unfold readForm
  rw [hid, hname, hstart, hoffered, hstars, hpar, htutorial]
  cases rows <;> rfl

/-! ## Levels -/

/-- The form of a level. -/
def form (level : Level) : Form :=
  ⟨level.id, level.name, level.grid.rows, level.start, level.offered, level.minStars, level.par,
    level.tutorial⟩

theorem ofForm_eq_ok {form : Form} {level : Level} :
    ofForm form = .ok level ↔ form = level.form := by
  unfold ofForm
  constructor
  · intro h
    split at h
    · cases h
    · rename_i grid hgrid
      cases h
      rw [Level.form, Grid.ofRows_eq_ok.1 hgrid]
  · rintro rfl
    have hgrid : Grid.ofRows level.form.rows = .ok level.grid := Grid.ofRows_eq_ok.2 rfl
    rw [hgrid]
    rfl

/-- A level is read if its rows and its form are. -/
theorem read_eq_ok {fields : Fields} {level : Level} :
    read (.obj fields) = .ok level ↔
      (∃ grid, fields.get? "grid" = some grid ∧ readRows grid = .ok (.good level.grid.rows)) ∧
        readForm (.good level.grid.rows) fields = .good level.form := by
  constructor
  · intro h
    simp only [read] at h
    split at h
    · cases h
    · rename_i rows hrows
      split at h
      · cases h
      · rename_i form hform
        obtain rfl := ofForm_eq_ok.1 h
        obtain rfl := (readForm_of_good hform).1
        refine ⟨?_, hform⟩
        unfold readGridField at hrows
        split at hrows
        · cases hrows
        · rename_i grid hgrid
          refine ⟨grid, hgrid, ?_⟩
          cases hread : readRows grid with
          | error typeName => simp [hread, Except.map] at hrows
          | ok walked =>
            simp only [hread, Except.map, Except.ok.injEq, Checked.under_eq_good] at hrows
            rw [hrows]
            rfl
  · rintro ⟨⟨grid, hgrid, hrows⟩, hform⟩
    have hfield : readGridField fields = .ok (.good level.grid.rows) := by
      unfold readGridField
      rw [hgrid]
      simp only [hrows]
      rfl
    simp only [read, hfield, hform]
    exact ofForm_eq_ok.2 rfl

/-! ## Grids of tiles -/

/-- A grid of tiles in a document: an array of rows that are walked by tokens of the tiles, all
of one positive width. -/
structure IsGridOf (doc : Doc) (rows : List (List Tile)) : Prop where
  walked : ∃ docs, doc = .arr docs ∧ docs ≠ [] ∧ List.Forall₂ RowOf docs rows
  even : ∃ width, 0 < width ∧ ∀ row ∈ rows, row.length = width

theorem ne_outside_of_rowOf {row : Doc} {tiles : List Tile} (h : RowOf row tiles) :
    ∀ tile ∈ tiles, tile ≠ .outside := by
  obtain ⟨items, -, hitems⟩ := h
  refine forall_right ?_ hitems
  rintro item tile ⟨token, -, hnamed⟩
  exact Tile.ne_outside_of_isNamed hnamed

/-- The rows of a grid of tiles are read, and they form a grid. -/
theorem isGridOf_iff {doc : Doc} {rows : List (List Tile)} :
    IsGridOf doc rows ↔ readRows doc = .ok (.good rows) ∧ ∃ g : Grid, g.rows = rows := by
  rw [readRows_eq_good]
  constructor
  · rintro ⟨⟨docs, rfl, hne, hrows⟩, width, hpos, hlength⟩
    refine ⟨⟨docs, rfl, hrows⟩, ⟨rows, width, ?_, hpos, hlength, ?_⟩, rfl⟩
    · rintro rfl
      exact hne (List.forall₂_nil_right_iff.1 hrows)
    · exact forall_right (fun _ _ hrow => ne_outside_of_rowOf hrow) hrows
  · rintro ⟨⟨docs, rfl, hrows⟩, g, rfl⟩
    refine ⟨⟨docs, rfl, ?_, hrows⟩, g.width, g.width_pos, g.row_length⟩
    rintro rfl
    exact g.rows_ne_nil (List.forall₂_nil_left_iff.1 hrows)

/-- Whatever a level is read from, its grid is one of tiles. -/
theorem isGridOf_of_read {doc : Doc} {level : Level} (h : read doc = .ok level) :
    ∃ fields grid, doc = .obj fields ∧ Fields.get? fields "grid" = some grid ∧
      IsGridOf grid level.grid.rows := by
  cases doc with
  | obj fields =>
    obtain ⟨⟨grid, hgrid, hrows⟩, -⟩ := read_eq_ok.1 h
    exact ⟨fields, grid, rfl, hgrid, isGridOf_iff.2 ⟨hrows, level.grid, rfl⟩⟩
  | _ => cases h

/-! ## Fields that lack only a grid -/

/-- Nothing but the grid can be wrong with the fields: with some grid they are read. -/
def LackOnlyGrid (fields : Fields) : Prop :=
  ∃ grid level, read (.obj (Fields.put "grid" grid fields)) = .ok level

theorem LackOnlyGrid.readForm_eq {fields : Fields} (h : LackOnlyGrid fields) :
    ∃ form : Form, ∀ grid rows, readForm rows (Fields.put "grid" grid fields) =
      rows.map fun rows => { form with rows } := by
  obtain ⟨grid₀, level₀, h⟩ := h
  have hform := (read_eq_ok.1 h).2
  rw [readForm_put] at hform
  refine ⟨level₀.form, fun grid rows => ?_⟩
  rw [readForm_put]
  exact (readForm_of_good hform).2 rows

/-- Such fields are read with a grid of tiles, and with nothing else. -/
theorem LackOnlyGrid.read_iff {fields : Fields} (h : LackOnlyGrid fields) {grid : Doc}
    {rows : List (List Tile)} :
    (∃ level, read (.obj (Fields.put "grid" grid fields)) = .ok level ∧ level.grid.rows = rows) ↔
      IsGridOf grid rows := by
  obtain ⟨form, hform⟩ := h.readForm_eq
  rw [isGridOf_iff]
  constructor
  · rintro ⟨level, hread, rfl⟩
    obtain ⟨⟨found, hfound, hrows⟩, -⟩ := read_eq_ok.1 hread
    rw [Fields.get?_put_self, Option.some.injEq] at hfound
    exact ⟨hfound ▸ hrows, level.grid, rfl⟩
  · rintro ⟨hrows, g, rfl⟩
    refine ⟨⟨form.id, form.name, g, form.start, form.offered, form.minStars, form.par,
      form.tutorial⟩, read_eq_ok.2 ⟨⟨grid, Fields.get?_put_self _ _ _, hrows⟩, ?_⟩, rfl⟩
    rw [hform]
    rfl

/-- The refusal that a stopped walk gives. -/
def Stop.refusal : Stop → Refusal
  | .token error => .invalid [⟨.rule error.message, [.key "grid"]⟩]
  | .row typeName => .rowNotWalkable typeName

theorem LackOnlyGrid.read_of_offence {fields : Fields} (h : LackOnlyGrid fields) {rows : List Doc}
    {stop : Stop} (hstop : (offences rows).head? = some stop) :
    read (.obj (Fields.put "grid" (.arr rows) fields)) = .error stop.refusal := by
  obtain ⟨form, hform⟩ := h.readForm_eq
  have hwalk := walkGrid_eq_error.2 hstop
  -- A row that cannot be walked is refused before any other field is read.
  simp only [read, readGridField, Fields.get?_put_self, readRows, hwalk]
  cases stop with
  | row typeName => rfl
  | token error =>
    simp only [Except.map, hform]
    rfl

/-! ## Dumped levels -/

theorem rowOf_names {tiles : List Tile} (h : ∀ tile ∈ tiles, tile ≠ .outside) :
    RowOf (.texts (tiles.map Tile.name)) tiles := by
  refine ⟨_, .array _, ?_⟩
  rw [List.forall₂_map_left_iff, List.forall₂_map_left_iff]
  exact List.forall₂_same.2 fun tile htile => ⟨tile.name, rfl, Tile.isNamed_name (h tile htile)⟩

theorem readRows_names (grid : Grid) :
    readRows (.arr (grid.rows.map fun row => .texts (row.map Tile.name))) =
      .ok (.good grid.rows) := by
  refine readRows_eq_good.2 ⟨_, rfl, ?_⟩
  rw [List.forall₂_map_left_iff]
  exact List.forall₂_same.2 fun row hrow => rowOf_names (grid.inside row hrow)

theorem list_kinds (kinds : List Kind) :
    Reader.list (.word Kind) (.texts (kinds.map Kind.name)) = .good kinds := by
  refine Reader.items_eq_good.2 ?_
  rw [List.map_map, List.map_map]
  refine List.map_congr_left fun kind _ => ?_
  cases kind <;> rfl

theorem natural_int (n : Nat) : Reader.natural (.int n) = .good n := by
  simp [Reader.natural, Reader.whole, Checked.bind]

/-- The fields of a dumped level. -/
def dumpFields (spelled : Bool) (level : Level) : Fields :=
  [("id", .int level.id), ("name", .text level.name),
    ("grid", .arr (level.grid.rows.map fun row => .texts (row.map Tile.name))),
    ("start", level.start.toDoc),
    (if spelled then "availableBlocks" else "available_blocks",
      .texts (level.offered.map Kind.name)),
    (if spelled then "minStars" else "min_stars", .int level.minStars),
    (if spelled then "bestBlockCount" else "best_block_count", .ofOption .int level.par),
    (if spelled then "tutorialText" else "tutorial_text", .ofOption .text level.tutorial)]

theorem readForm_dumpFields (level : Level) (spelled : Bool) :
    readForm (.good level.grid.rows) (level.dumpFields spelled) = .good level.form := by
  have hid : Slot.get (.plain "id") 0 .whole (level.dumpFields spelled) = .good level.id := rfl
  have hname : Slot.get (.plain "name") "" .text (level.dumpFields spelled) = .good level.name :=
    rfl
  have hstart : Slot.need (.plain "start") Pose.read (level.dumpFields spelled) =
      .good level.start := Slot.need_of_found rfl level.start.read_toDoc
  have hoffered : Slot.get ⟨"available_blocks", some "availableBlocks"⟩ Kind.palette
      (.list (.word Kind)) (level.dumpFields spelled) = .good level.offered := by
    cases spelled <;> exact Slot.get_of_found _ rfl (list_kinds level.offered)
  have hstars : Slot.get ⟨"min_stars", some "minStars"⟩ 0 .natural (level.dumpFields spelled) =
      .good level.minStars := by
    cases spelled <;> exact Slot.get_of_found _ rfl (natural_int level.minStars)
  have hpar : Slot.get ⟨"best_block_count", some "bestBlockCount"⟩ none (.orNull .whole)
      (level.dumpFields spelled) = .good level.par := by
    cases spelled <;> exact Slot.get_of_found _ rfl (Reader.orNull_int level.par)
  have htutorial : Slot.get ⟨"tutorial_text", some "tutorialText"⟩ none (.orNull .text)
      (level.dumpFields spelled) = .good level.tutorial := by
    cases spelled <;> exact Slot.get_of_found _ rfl (Reader.orNull_text level.tutorial)
  exact readForm_eq_good.2 ⟨hid, hname, rfl, hstart, hoffered, hstars, hpar, htutorial⟩

theorem read_toDoc (level : Level) (spelled : Bool) : read (level.toDoc spelled) = .ok level :=
  read_eq_ok.2 ⟨⟨_, rfl, readRows_names level.grid⟩, readForm_dumpFields level spelled⟩

/-! ## The laws -/

/-- A level survives its dump. Whatever a level was read from, it is read again as it was from
its dump under either spelling; so reading, dumping and reading once more gives what the first
reading gave. -/
theorem a_dumped_level_is_read_as_it_was (spelled : Bool) :
    (∀ level : Level, read (level.toDoc spelled) = .ok level) ∧
      ∀ doc, (read doc >>= fun level => read (level.toDoc spelled)) = read doc := by
  refine ⟨fun level => read_toDoc level spelled, fun doc => ?_⟩
  cases read doc with
  | error refusal => rfl
  | ok level => exact read_toDoc level spelled

/-- Levels are read from grids of tiles. Where nothing but the grid can be wrong, a document is
taken as the grid if and only if it is a grid of tiles, and then the level has these tiles; where
the walk over the rows stops, the first of all offences, row by row and item by item, is what is
refused. So every level that is read, from whatever document, has a grid of tiles in which nothing
is the outside, and every cell of it has its tile. -/
theorem levels_are_read_from_grids_of_tiles {fields : Fields} (h : LackOnlyGrid fields) :
    (∀ grid rows,
        (∃ level, read (.obj (Fields.put "grid" grid fields)) = .ok level ∧
          level.grid.rows = rows) ↔ IsGridOf grid rows) ∧
      (∀ rows stop, (offences rows).head? = some stop →
        read (.obj (Fields.put "grid" (.arr rows) fields)) = .error stop.refusal) ∧
      ∀ doc level, read doc = .ok level →
        (∃ fields grid, doc = .obj fields ∧ Fields.get? fields "grid" = some grid ∧
          IsGridOf grid level.grid.rows) ∧
        (∀ row ∈ level.grid.rows, .outside ∉ row) ∧
        ∀ c, level.grid.Holds c → level.grid.StandsAt (level.tileAt c) c.x.toNat c.y.toNat := by
  refine ⟨fun grid rows => h.read_iff, fun rows stop => h.read_of_offence, ?_⟩
  intro doc level hread
  refine ⟨isGridOf_of_read hread, ?_, ?_⟩
  · intro row hrow hmem
    exact level.grid.inside row hrow _ hmem rfl
  · intro c hc
    obtain ⟨tile, x, y, rfl, hs⟩ := Grid.standsAt_of_holds hc
    rw [show level.tileAt ⟨x, y⟩ = tile from Grid.tileAt_of_standsAt hs]
    exact hs

/-- A text, an array and an object stand as rows of one grid. Of two offences the walk reports the
first, and the item that is no text does not stop it. -/
theorem a_mixed_grid_is_read_and_an_unknown_token_refused :
    let start : Fields := [("start", .obj [("x", .int 0), ("y", .int 0)])]
    let mixed : Doc := .arr [.text "#S", .arr [.text "ST", .text "Wall"],
      .obj [("K", .null), ("door", .int 5)]]
    let rows : List (List Tile) := [[.wall, .start], [.star, .wall], [.key, .door]]
    (∃ level, read (.obj (Fields.put "grid" mixed start)) = .ok level ∧
        level.grid.rows = rows ∧ IsGridOf mixed rows) ∧
      read (.obj (Fields.put "grid" (.arr [.text "#S", .arr [.int 3, .text "?"], .int 7]) start)) =
        .error (.invalid [⟨.rule "Unknown tile symbol '?'", [.key "grid"]⟩]) := by
  intro start mixed rows
  have hread : ∃ level, read (.obj (Fields.put "grid" mixed start)) = .ok level ∧
      level.grid.rows = rows := ⟨_, rfl, rfl⟩
  have hlack : LackOnlyGrid start := ⟨mixed, hread.imp fun _ h => h.1⟩
  obtain ⟨hiff, hoffence, -⟩ := levels_are_read_from_grids_of_tiles hlack
  obtain ⟨level, hlevel, hrows⟩ := hread
  refine ⟨⟨level, hlevel, hrows, (hiff mixed rows).1 ⟨level, hlevel, hrows⟩⟩, ?_⟩
  have hmessage : (Tile.TokenError.unknown "?").message = "Unknown tile symbol '?'" := by
    decide +kernel
  rw [hoffence _ (.token (.unknown "?")) rfl, Stop.refusal, hmessage]

end Level

end BlockMaze
