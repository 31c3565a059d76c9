-- The facts about a level, which are looked up in its file without reading
-- the level. They describe the level that is loaded from the same file: they
-- have its size and its texts, and numbers that are read as its own.
import BlockMaze.Proofs.ShelfChecks
import BlockMaze.Proofs.WrittenDocs

namespace BlockMaze

/-! ## Fields -/

namespace Slot

/-- The value of a field, or what stands for its absence, is read as the field is. -/
theorem read_value {slot : Slot} {fields : Fields} {read : Reader α} {absent a : α}
    (h : slot.get absent read fields = .good a) (default : Doc)
    (hdefault : read default = .good absent) :
    read ((slot.value? fields).getD default) = .good a := by
  unfold value?
  obtain ⟨spelling, doc, hfound, hread⟩ | ⟨hfound, rfl⟩ := found_of_get h
  · rw [hfound]
    exact hread
  · rw [hfound]
    exact hdefault

end Slot

namespace Reader

theorem whole_of_natural {doc : Doc} {n : Nat} (h : natural doc = .good n) :
    whole doc = .good (n : Int) := by
  unfold natural Checked.bind at h
  split at h
  · rename_i k hwhole
    simp only at h
    split at h
    · rename_i hk
      cases h
      rw [hwhole, Int.toNat_of_nonneg hk]
    · cases h
  · cases h

end Reader

/-! ## Texts -/

namespace Doc

/-- The document is the text. A torn text is the one with the replacement character for every
half. -/
def Tells (doc : Doc) (s : String) : Prop :=
  doc = .text s ∨ ∃ pieces, doc = .str (.torn pieces) ∧ (Wording.torn pieces).plain = s

theorem tells_of_text {doc : Doc} {s : String} (h : Reader.text doc = .good s) : doc.Tells s := by
  cases doc with
  | str wording =>
    cases wording with
    | text t =>
      cases h
      exact .inl rfl
    | torn pieces =>
      cases h
      exact .inr ⟨pieces, rfl, rfl⟩
  | _ => cases h

/-- The document is the text, or null if there is none. -/
def TellsIfAny (doc : Doc) : Option String → Prop
  | none => doc = .null
  | some s => doc.Tells s

theorem tellsIfAny_of_orNull {doc : Doc} {o : Option String}
    (h : Reader.orNull .text doc = .good o) : doc.TellsIfAny o := by
  unfold Reader.orNull at h
  split at h
  · cases h
    rfl
  · obtain ⟨s, hs, rfl⟩ := Checked.map_eq_good.1 h
    exact tells_of_text hs

end Doc

namespace Shelf

/-! ## Sizes -/

theorem length_letters (s : Wording) : s.letters.length = s.length := by
  cases s <;> simp [Wording.letters, Wording.length, String.length_toList]

/-- A row is as long as the tiles that it is walked by. -/
theorem lengthOf_row {row : Doc} {tiles : List Tile} (h : Level.RowOf row tiles) :
    lengthOf row = .ok tiles.length := by
  obtain ⟨items, hwalked, hitems⟩ := h
  rw [← hitems.length_eq]
  cases hwalked with
  | text s => simp [lengthOf, length_letters]
  | array items => rfl
  | object fields => simp [lengthOf]

/-- The size of a grid of tiles is the one of its document. -/
theorem size_of_grid {doc : Doc} {grid : Grid} (h : Level.IsGridOf doc grid.rows) :
    lengthOf doc = .ok grid.height ∧ doc.isEmpty = false ∧
      firstRowLength doc = .ok grid.width := by
  obtain ⟨docs, rfl, hne, hrows⟩ := h.walked
  have hheight : lengthOf (.arr docs) = .ok grid.height := congrArg Except.ok hrows.length_eq
  refine ⟨hheight, by simpa [Doc.isEmpty] using hne, ?_⟩
  cases docs with
  | nil => exact absurd rfl hne
  | cons row docs =>
    obtain ⟨first, rest, hfirst, -, hgrid⟩ := List.forall₂_cons_left_iff.1 hrows
    have hwidth := grid.row_length first (by rw [hgrid]; exact List.mem_cons_self)
    rw [← hwidth]
    exact lengthOf_row hfirst

/-! ## Facts -/

/-- The facts say what the level says. -/
structure Facts.Describe (facts : Facts) (level : Level) : Prop where
  rows : facts.rows = level.grid.height
  cols : facts.cols = level.grid.width
  name : facts.name.Tells level.name
  tutorial : facts.tutorial.TellsIfAny level.tutorial
  id : Reader.whole facts.id = .good level.id
  minStars : Reader.whole facts.minStars = .good (level.minStars : Int)

theorem factsOf_of_read {fields : Fields} {level : Level} (name : String)
    (hname : fields.has "name" = true) (h : Level.read (.obj fields) = .ok level) :
    ∃ facts, factsOf name fields = .ok facts ∧ facts.Describe level := by
  obtain ⟨⟨grid, hgrid, hrows⟩, hform⟩ := Level.read_eq_ok.1 h
  have hread := Level.readForm_eq_good.1 hform
  obtain ⟨hheight, hfull, hwidth⟩ :=
    size_of_grid (Level.isGridOf_iff.2 ⟨hrows, level.grid, rfl⟩)
  have hid := Slot.read_value hread.id (.int 0) rfl
  have htutorial := Slot.read_value hread.tutorial .null rfl
  have hstars := Reader.whole_of_natural (Slot.read_value hread.minStars (.int 0) rfl)
  rw [Slot.value?_plain] at hid
  rw [Slot.value?_spelled] at htutorial hstars
  -- The name is there, so what stands for its absence does not matter.
  have htext : Reader.text ((fields.get? "name").getD (.text name)) = .good level.name := by
    have hany := Slot.read_value hread.name (.text "") rfl
    rw [Slot.value?_plain] at hany
    obtain ⟨doc, hdoc⟩ := Option.isSome_iff_exists.1 hname
    rw [hdoc] at hany ⊢
    exact hany
  unfold factsOf
  simp only [hgrid, Option.getD_some, hheight, hfull, hwidth, bind, Except.bind]
  exact ⟨_, rfl, ⟨rfl, rfl, Doc.tells_of_text htext, Doc.tellsIfAny_of_orNull htutorial, hid,
    hstars⟩⟩

/-- A level is loaded from the object at its path. -/
theorem object_of_load {shelf : Shelf} {name : String} {level : Level}
    (h : shelf.load name = .ok level) :
    ∃ fields, docAt shelf.files (shelf.pathOf name) = .ok (.obj fields) ∧
      Fields.has fields "name" = true ∧ Level.read (.obj fields) = .ok level := by
  simp only [load] at h
  split at h
  · cases h
  · cases h
  · cases hdoc : docAt shelf.files (shelf.pathOf name) with
    | error e => simp [hdoc, bind, Except.bind] at h
    | ok doc =>
      have hparse : parse doc = .ok level := by simpa [hdoc, bind, Except.bind] using h
      obtain ⟨hready, hread⟩ := parse_eq_ok.1 hparse
      cases doc with
      | obj fields =>
        refine ⟨fields, rfl, ?_, hread⟩
        by_contra hname
        exact hready (.lacking List.mem_cons_self (by simpa using hname))
      | _ => cases hread

/-- A level whose file holds a document is loaded by parsing it. -/
theorem load_of_docAt {shelf : Shelf} {name : String} {doc : Doc}
    (h : docAt shelf.files (shelf.pathOf name) = .ok doc) : shelf.load name = parse doc := by
  have hholds : shelf.files.holds (shelf.pathOf name) = .ok true := by
    unfold docAt Files.read at h
    unfold Files.holds
    by_cases hbad : Files.hasBadName (shelf.pathOf name) = true
    · simp [hbad] at h
    · cases hfind : shelf.files.find (shelf.pathOf name) <;> simp_all
  simp [load, hholds, h, bind, Except.bind]

/-- A document that is written to a file is found in it. -/
theorem docAt_of_read {files : Files} {path : Path} {doc : Doc}
    (h : files.read path = .ok doc.toLine) (hfits : Doc.Fits Doc.fileRules 0 doc)
    (hspell : Doc.spell doc.numbers = .ok ()) : docAt files path = .ok doc := by
  have hread : Doc.read Doc.fileRules doc.toLine = .ok doc := by
    rw [Doc.toLine, Doc.read_written hfits, hspell]
    rfl
  simp only [docAt, h, docOf, hread]

/-! ## The law -/

/-- The facts describe the level. Whatever level is loaded, the facts about it under the same name
can be had: they have its size, its name and its tutorial, and numbers that are read as its own. -/
theorem the_facts_describe_the_level_that_loads {shelf : Shelf} {name : String} {level : Level}
    (h : shelf.load name = .ok level) :
    ∃ facts, shelf.info name = .ok facts ∧ facts.Describe level := by
  obtain ⟨fields, hdoc, hname, hread⟩ := object_of_load h
  obtain ⟨facts, hfacts, hdescribe⟩ := factsOf_of_read name hname hread
  refine ⟨facts, ?_, hdescribe⟩
  simp [info, hdoc, hfacts, bind, Except.bind]

/-- A file with both spellings, where the one that goes first is null or a truth value, an id with
a fraction of zeros, and an object as the first row. -/
theorem the_facts_of_a_level_in_both_spellings :
    let doc : Doc := .obj [("name", .text "A"), ("id", .text "3.0"),
      ("grid", .arr [.obj [("S", .null), ("F", .null)], .text "*."]),
      ("start", .obj [("x", .int 0), ("y", .int 0)]), ("minStars", .bool true),
      ("min_stars", .int 7), ("tutorialText", .null), ("tutorial_text", .text "Go!")]
    let shelf : Shelf := ⟨.ofTexts [(.ofText "/levels/a.json", doc.toLine)], .ofText "/levels"⟩
    ∃ level, shelf.load "a" = .ok level ∧
      (level.id = 3 ∧ level.minStars = 1 ∧ level.tutorial = none) ∧
      ∃ facts, shelf.info "a" = .ok facts ∧ facts.Describe level := by
  intro doc shelf
  have hfits : Doc.Fits Doc.fileRules 0 doc := by
    simp [doc, Doc.Fits, Doc.FitsAll, Doc.FitsFields, Doc.Untorn, Doc.ReadRules.admits,
      Doc.fileRules]
  have hread : ∀ text, (Files.ofTexts [(.ofText "/levels/a.json", text)]).read
      (Path.join (.ofText "/levels") ("a" ++ ".json")) = .ok text := fun _ => rfl
  have hdoc : docAt shelf.files (shelf.pathOf "a") = .ok doc :=
    docAt_of_read (hread doc.toLine) hfits rfl
  have hparse : ∃ level, parse doc = .ok level ∧
      level.id = 3 ∧ level.minStars = 1 ∧ level.tutorial = none := ⟨_, rfl, rfl, rfl, rfl⟩
  obtain ⟨level, hlevel, hparts⟩ := hparse
  rw [← load_of_docAt hdoc] at hlevel
  exact ⟨level, hlevel, hparts, the_facts_describe_the_level_that_loads hlevel⟩

end Shelf

end BlockMaze
