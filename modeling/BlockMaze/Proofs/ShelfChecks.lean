-- The checks before a document is read as a level, and the kinds of errors
-- that parsing ends in. The checks ask for a name; all else that they refuse,
-- the reading would refuse too. A document that is no level is a bad value,
-- unless the walk over its grid meets a row that cannot be walked.
import BlockMaze.Proofs.LevelDocs
import BlockMaze.Shelf.Levels

namespace BlockMaze

namespace Level

/-- A level is read from an object with a start, and with a grid that is not empty. -/
theorem fields_of_read {fields : Fields} {level : Level} (h : read (.obj fields) = .ok level) :
    fields.has "start" = true ∧
      ∃ grid, fields.get? "grid" = some grid ∧ grid.isEmpty = false := by
  obtain ⟨⟨grid, hgrid, hrows⟩, hform⟩ := read_eq_ok.1 h
  constructor
  · obtain ⟨spelling, start, hfound, -⟩ := Slot.found_of_need (readForm_eq_good.1 hform).start
    obtain ⟨doc, hdoc, -⟩ := Option.map_eq_some_iff.1 hfound
    unfold Fields.has
    rw [show fields.get? "start" = some doc from hdoc]
    rfl
  · obtain ⟨docs, rfl, hne, -⟩ := (isGridOf_iff.2 ⟨hrows, level.grid, rfl⟩).walked
    refine ⟨_, hgrid, ?_⟩
    simpa [Doc.isEmpty] using hne

theorem readRows_eq_error {doc : Doc} {typeName : String} :
    readRows doc = .error typeName ↔
      ∃ rows, doc = .arr rows ∧ (offences rows).head? = some (.row typeName) := by
  unfold readRows
  split
  · rename_i rows
    simp only [Doc.arr.injEq, exists_eq_left', ← walkGrid_eq_error]
    cases walkGrid rows with
    | ok walked => simp
    | error stop => cases stop <;> simp
  · rename_i hne
    simp only [reduceCtorEq, false_iff]
    rintro ⟨rows, rfl, -⟩
    exact hne rows rfl

/-- Nothing but the first offence of the grid makes a row that cannot be walked the refusal. -/
theorem read_eq_rowNotWalkable {fields : Fields} {typeName : String} :
    read (.obj fields) = .error (.rowNotWalkable typeName) ↔
      ∃ rows, fields.get? "grid" = some (.arr rows) ∧
        (offences rows).head? = some (.row typeName) := by
  have hfield : readGridField fields = .error typeName ↔
      ∃ rows, fields.get? "grid" = some (.arr rows) ∧
        (offences rows).head? = some (.row typeName) := by
    unfold readGridField
    cases hgrid : fields.get? "grid" with
    | none => simp
    | some grid =>
      have hrows := @readRows_eq_error grid typeName
      cases hread : readRows grid <;> simp_all [Except.map]
  rw [← hfield]
  simp only [read]
  split
  · rename_i hrows
    simp [hrows]
  · rename_i rows hrows
    rw [hrows]
    split
    · simp
    · rename_i form hform
      unfold ofForm
      split <;> simp

end Level

namespace Shelf

/-! ## The checks -/

/-- A document that is not worth reading: it is no object, it lacks a field, or its grid is
empty. -/
inductive Unready : Doc → Prop
  | noObject {doc : Doc} (h : ∀ fields, doc ≠ .obj fields) : Unready doc
  | lacking {fields : Fields} {name : String} (hname : name ∈ ["name", "grid", "start"])
      (h : fields.has name = false) : Unready (.obj fields)
  | emptyGrid {fields : Fields} {grid : Doc} (hgrid : fields.get? "grid" = some grid)
      (h : grid.isEmpty = true) : Unready (.obj fields)

theorem unready_obj {fields : Fields} :
    Unready (.obj fields) ↔
      (∃ name ∈ requiredFields, fields.has name = false) ∨
        (fields.get? "grid").any Doc.isEmpty = true := by
  rw [Option.any_eq_true]
  constructor
  · rintro (h | ⟨hname, h⟩ | ⟨hgrid, h⟩)
    · exact absurd rfl (h fields)
    · exact .inl ⟨_, hname, h⟩
    · exact .inr ⟨_, hgrid, h⟩
  · rintro (⟨name, hname, h⟩ | ⟨grid, hgrid, h⟩)
    · exact .lacking hname h
    · exact .emptyGrid hgrid h

theorem precheck_obj (fields : Fields) :
    precheck (.obj fields) =
      if ∃ name ∈ requiredFields, fields.has name = false then
        .error (.missingFields (requiredFields.filter fun name => !fields.has name))
      else if (fields.get? "grid").any Doc.isEmpty = true then .error .noRows
      else .ok () := by
  simp [precheck]

/-- The checks stop at a document that is not worth reading, for a bad value, and let any other
pass. -/
theorem precheck_cases (doc : Doc) :
    (Unready doc ∧ ∃ e, precheck doc = .error e ∧ e.kind = .value) ∨
      (¬ Unready doc ∧ precheck doc = .ok ()) := by
  cases doc with
  | obj fields =>
    rw [unready_obj, precheck_obj]
    split
    · rename_i hlacks
      exact .inl ⟨.inl hlacks, _, rfl, rfl⟩
    · rename_i hall
      split
      · rename_i hempty
        exact .inl ⟨.inr hempty, _, rfl, rfl⟩
      · rename_i hfull
        exact .inr ⟨fun h => h.elim hall hfull, rfl⟩
  | _ =>
    refine .inl ⟨.noObject ?_, .notAnObject, rfl, rfl⟩
    rintro fields ⟨⟩

/-! ## Parsing -/

/-- The checks before a reading of levels, whichever it is. -/
def parseBy (read : Doc → Except Level.Refusal Level) (doc : Doc) : Except ShelfError Level := do
  precheck doc
  match read doc with
  | .ok level => .ok level
  | .error refusal => .error (.refused refusal)

theorem parse_eq_parseBy (doc : Doc) : parse doc = parseBy Level.read doc := rfl

/-- What is not worth reading is refused, whatever the reading would have made of it. -/
theorem parseBy_of_unready {doc : Doc} (h : Unready doc) :
    ∃ e, e.kind = .value ∧ ∀ read, parseBy read doc = .error e := by
  obtain ⟨-, e, hcheck, hkind⟩ | ⟨hready, -⟩ := precheck_cases doc
  · refine ⟨e, hkind, fun read => ?_⟩
    simp [parseBy, hcheck, bind, Except.bind]
  · exact absurd h hready

theorem parseBy_of_ready {doc : Doc} (h : ¬ Unready doc)
    (read : Doc → Except Level.Refusal Level) :
    parseBy read doc = (read doc).mapError .refused := by
  obtain ⟨hunready, -⟩ | ⟨-, hcheck⟩ := precheck_cases doc
  · exact absurd hunready h
  · cases hread : read doc <;> simp [parseBy, hcheck, hread, bind, Except.bind, Except.mapError]

theorem parse_eq_ok {doc : Doc} {level : Level} :
    parse doc = .ok level ↔ ¬ Unready doc ∧ Level.read doc = .ok level := by
  rw [parse_eq_parseBy]
  by_cases h : Unready doc
  · obtain ⟨e, -, hparse⟩ := parseBy_of_unready h
    simp [hparse, h]
  · rw [parseBy_of_ready h]
    cases Level.read doc <;> simp [Except.mapError, h]

/-- A level that is read from an object with a name has passed the checks. -/
theorem ready_of_read {fields : Fields} {level : Level} (hname : fields.has "name" = true)
    (h : Level.read (.obj fields) = .ok level) : ¬ Unready (.obj fields) := by
  obtain ⟨hstart, grid, hgrid, hfull⟩ := Level.fields_of_read h
  have hhas : fields.has "grid" = true := by
    unfold Fields.has
    rw [hgrid]
    rfl
  rintro (hno | ⟨hmem, hlacks⟩ | ⟨hgrid', hempty⟩)
  · exact hno fields rfl
  · simp only [List.mem_cons, List.not_mem_nil, or_false] at hmem
    rcases hmem with rfl | rfl | rfl <;> simp_all
  · rw [hgrid, Option.some.injEq] at hgrid'
    rw [← hgrid', hfull] at hempty
    cases hempty

/-! ## The kinds of errors -/

/-- The document passes the checks, and the first thing wrong with its grid is a row that cannot
be walked. -/
def StopsAtRow (doc : Doc) (typeName : String) : Prop :=
  ¬ Unready doc ∧ ∃ fields rows, doc = .obj fields ∧
    Fields.get? fields "grid" = some (.arr rows) ∧
    (Level.offences rows).head? = some (.row typeName)

theorem parse_eq_rowNotWalkable {doc : Doc} {typeName : String} :
    parse doc = .error (.refused (.rowNotWalkable typeName)) ↔ StopsAtRow doc typeName := by
  rw [parse_eq_parseBy]
  by_cases h : Unready doc
  · obtain ⟨e, hkind, hparse⟩ := parseBy_of_unready h
    simp only [hparse, StopsAtRow, h, not_true_eq_false, false_and, iff_false, Except.error.injEq]
    rintro rfl
    cases hkind
  · have hread : parseBy Level.read doc = .error (.refused (.rowNotWalkable typeName)) ↔
        Level.read doc = .error (.rowNotWalkable typeName) := by
      rw [parseBy_of_ready h]
      cases Level.read doc <;> simp [Except.mapError]
    rw [hread]
    simp only [StopsAtRow, h, not_false_eq_true, true_and]
    cases doc with
    | obj fields => simp [Level.read_eq_rowNotWalkable]
    | _ => exact absurd (.noObject fun _ h => by cases h) h

/-- Parsing ends in a level, in a bad value, or at a row that cannot be walked. -/
theorem parse_cases (doc : Doc) :
    (∃ level, parse doc = .ok level) ∨ (∃ e, parse doc = .error e ∧ e.kind = .value) ∨
      ∃ typeName, parse doc = .error (.refused (.rowNotWalkable typeName)) := by
  rw [parse_eq_parseBy]
  by_cases h : Unready doc
  · obtain ⟨e, hkind, hparse⟩ := parseBy_of_unready h
    exact .inr (.inl ⟨e, hparse Level.read, hkind⟩)
  · rw [parseBy_of_ready h]
    cases Level.read doc with
    | ok level => exact .inl ⟨level, rfl⟩
    | error refusal =>
      cases refusal with
      | invalid faults => exact .inr (.inl ⟨_, rfl, rfl⟩)
      | rowNotWalkable typeName => exact .inr (.inr ⟨typeName, rfl⟩)

/-! ## The laws -/

/-- The checks ask for nothing but a name. A document is parsed to a level if and only if it is an
object with a name and is read as that level; and a document that is not worth reading, and no
other, is refused for a bad value before any of its fields is read: the refusal is the same
whatever the reading would make of it. -/
theorem the_checks_ask_for_nothing_but_a_name (doc : Doc) :
    (∀ level, parse doc = .ok level ↔
      (∃ fields, doc = .obj fields ∧ Fields.has fields "name" = true) ∧
        Level.read doc = .ok level) ∧
      (Unready doc ↔
        ∃ e, parse doc = .error e ∧ e.kind = .value ∧ ∀ read, parseBy read doc = .error e) := by
  constructor
  · intro level
    rw [parse_eq_ok]
    constructor
    · rintro ⟨hready, hread⟩
      refine ⟨?_, hread⟩
      cases doc with
      | obj fields =>
        refine ⟨fields, rfl, ?_⟩
        by_contra hname
        exact hready (.lacking List.mem_cons_self (by simpa using hname))
      | _ => cases hread
    · rintro ⟨⟨fields, rfl, hname⟩, hread⟩
      exact ⟨ready_of_read hname hread, hread⟩
  · constructor
    · intro h
      obtain ⟨e, hkind, hparse⟩ := parseBy_of_unready h
      exact ⟨e, hparse Level.read, hkind, hparse⟩
    · rintro ⟨e, -, hkind, hparse⟩
      by_contra hready
      -- A reading that always refuses a row would have its say.
      have hrow := hparse fun _ => .error (.rowNotWalkable "")
      rw [parseBy_of_ready hready] at hrow
      cases hrow
      cases hkind

/-- A document that is no level is a bad value, unless the first thing wrong with its grid is a row
that cannot be walked: then, and only then, parsing ends in an error of another kind. -/
theorem a_bad_level_is_a_bad_value_unless_a_row_cannot_be_walked (doc : Doc) :
    (((∃ level, parse doc = .ok level) ∨ ∃ e, parse doc = .error e ∧ e.kind = .value) ↔
      ∀ typeName, ¬ StopsAtRow doc typeName) ∧
      ∀ typeName, parse doc = .error (.refused (.rowNotWalkable typeName)) ↔
        StopsAtRow doc typeName := by
  refine ⟨?_, fun typeName => parse_eq_rowNotWalkable⟩
  constructor
  · intro h typeName hstop
    have hparse := parse_eq_rowNotWalkable.2 hstop
    rcases h with ⟨level, hlevel⟩ | ⟨e, he, hkind⟩
    · rw [hparse] at hlevel
      cases hlevel
    · rw [hparse] at he
      cases he
      cases hkind
  · intro h
    rcases parse_cases doc with hlevel | hvalue | ⟨typeName, hparse⟩
    · exact .inl hlevel
    · exact .inr hvalue
    · exact absurd (parse_eq_rowNotWalkable.1 hparse) (h typeName)

/-- A number stands where a row should, and all else is as it should be. -/
theorem a_number_as_a_row_is_an_error_of_type :
    let doc : Doc := .obj [("name", .text "x"), ("grid", .arr [.int 3]),
      ("start", .obj [("x", .int 0), ("y", .int 0)])]
    parse doc = .error (.refused (.rowNotWalkable "int")) ∧
      ¬ ((∃ level, parse doc = .ok level) ∨ ∃ e, parse doc = .error e ∧ e.kind = .value) := by
  intro doc
  have hparse : parse doc = .error (.refused (.rowNotWalkable "int")) := rfl
  refine ⟨hparse, ?_⟩
  rw [hparse]
  rintro (⟨level, hlevel⟩ | ⟨e, he, hkind⟩)
  · cases hlevel
  · cases he
    cases hkind

end Shelf

end BlockMaze
