-- Readers for the parts of a document: whole numbers, texts, words of a
-- vocabulary, lists, and the fields of a record under either of two
-- spellings.
import BlockMaze.Intake.Fault
import BlockMaze.World.KeySet
import BlockMaze.World.Vocabulary

namespace BlockMaze

/-- A reader takes a document for a value. -/
abbrev Reader (α : Type) := Doc → Checked α

namespace Reader

open Number

/-! ## Plain values -/

/-- A whole number: also a truth value, a text in the plain reading, and a number without
fraction that lies between the bounds of 64-bit words. -/
def whole : Reader Int
  | .int n => .good n
  | .bool b => .good (if b then 1 else 0)
  | .real (.finite negative m e) =>
    if !Binary64.isWhole m e then .refuse .fraction
    else if Binary64.whole false m e < Binary64.two 63 then .good (Binary64.whole negative m e)
    else .refuse .wholeTooLong
  | .real _ => .refuse .notFinite
  | .str (.torn _) => .refuse .tornText
  | .text s =>
    match readPlain s.toList with
    | .ok n => .good n
    | .error .unreadable => .refuse .unreadableWhole
    | .error (.tooLong _) => .refuse .wholeTooLong
  | _ => .refuse .notWhole

/-- A whole number that is not negative. -/
def natural : Reader Nat := fun doc =>
  (whole doc).bind fun n => if 0 ≤ n then .good n.toNat else .refuse .negative

/-- A text, with the replacement character for every half surrogate pair. So two texts that differ
only in such halves become the same id or name. -/
def text : Reader String
  | .str s => .good s.plain
  | _ => .refuse .notText

/-- A word of a vocabulary. -/
def word (α : Type) [Vocabulary α] : Reader α := fun doc =>
  match doc with
  | .text s =>
    match (Vocabulary.find? s : Option α) with
    | some a => .good a
    | none => .refuse (.notOneOf (Vocabulary.words α))
  | .str (.torn _) => .refuse .tornText
  | _ => .refuse (.notOneOf (Vocabulary.words α))

theorem word_of_found [Vocabulary α] {s : String} {a : α}
    (h : (Vocabulary.find? s : Option α) = some a) : word α (.text s) = .good a := by
  simp only [word, h]

/-- A value that may be null. -/
def orNull (read : Reader α) : Reader (Option α)
  | .null => .good none
  | doc => (read doc).map some

theorem orNull_text (o : Option String) : orNull text (.ofOption .text o) = .good o := by
  cases o <;> rfl

theorem orNull_int (o : Option Int) : orNull whole (.ofOption .int o) = .good o := by
  cases o <;> rfl

/-! ## Lists -/

/-- The items of an array, the first having a given number. -/
def items (read : Reader α) : Nat → List Doc → Checked (List α)
  | _, [] => .good []
  | n, doc :: docs =>
    (((read doc).under (.index n)).both (items read (n + 1) docs)).map fun (a, as) => a :: as

/-- An array. -/
def list (read : Reader α) : Reader (List α)
  | .arr docs => items read 0 docs
  | _ => .refuse .notList

/-- An array of texts as a set. -/
def keySet : Reader KeySet
  | .arr docs => (items text 0 docs).map .ofList
  | _ => .refuse .notSet

theorem items_eq_good {read : Reader α} {n : Nat} {docs : List Doc} {as : List α} :
    items read n docs = .good as ↔ docs.map read = as.map .good := by
  induction docs generalizing n as with
  | nil => cases as <;> simp [items]
  | cons doc docs ih =>
    rw [items, Checked.map_eq_good]
    constructor
    · rintro ⟨⟨a, rest⟩, hboth, rfl⟩
      obtain ⟨ha, hrest⟩ := Checked.both_eq_good.1 hboth
      rw [List.map_cons, List.map_cons, Checked.under_eq_good.1 ha, ih.1 hrest]
    · intro h
      cases as with
      | nil => cases h
      | cons a as =>
        obtain ⟨ha, hrest⟩ := List.cons.inj h
        exact ⟨(a, as), Checked.both_eq_good.2 ⟨Checked.under_eq_good.2 ha, ih.2 hrest⟩, rfl⟩

/-- The keys of a set are read as the set, in whatever order they stand. -/
theorem keySet_texts {set : KeySet} {keys : List String} (h : keys.Perm set.keys) :
    keySet (.texts keys) = .good set := by
  have hitems : items text 0 (keys.map .text) = .good keys := by
    rw [items_eq_good, List.map_map]
    rfl
  have hset : KeySet.ofList keys = set := by
    apply KeySet.ext_mem
    intro k
    rw [KeySet.mem_ofList, h.mem_iff]
    rfl
  simp [keySet, Doc.texts, hitems, Checked.map, hset]

/-- The fields of a record with a name for messages. -/
def record (name : String) (read : Fields → Checked α) : Reader α
  | .obj fields => read fields
  | _ => .refuse (.notRecord name)

end Reader

/-! ## Fields -/

/-- A field of a record: its own name, and the spelling that has precedence. -/
structure Slot where
  name : String
  spelling : Option String

namespace Slot

/-- A field with one spelling. -/
def plain (name : String) : Slot := ⟨name, none⟩

/-- The value of a field with the spelling under which it stands. -/
def find? (slot : Slot) (fields : Fields) : Option (String × Doc) :=
  match slot.spelling with
  | none => (fields.get? slot.name).map fun doc => (slot.name, doc)
  | some spelling =>
    match fields.get? spelling with
    | some doc => some (spelling, doc)
    | none => (fields.get? slot.name).map fun doc => (slot.name, doc)

/-- The value of a field, under whichever spelling it stands. -/
def value? (slot : Slot) (fields : Fields) : Option Doc := (slot.find? fields).map (·.2)

theorem value?_plain (name : String) (fields : Fields) :
    (plain name).value? fields = fields.get? name := by
  simp only [value?, find?, plain]
  cases fields.get? name <;> rfl

/-- The spelling goes before the name. -/
theorem value?_spelled (name spelling : String) (fields : Fields) :
    (mk name (some spelling)).value? fields =
      (fields.get? spelling).or (fields.get? name) := by
  simp only [value?, find?]
  cases fields.get? spelling <;> cases fields.get? name <;> rfl

/-- The spelling under which a missing field is reported. -/
def label (slot : Slot) : String := slot.spelling.getD slot.name

/-- A field that must be there. -/
def need (slot : Slot) (read : Reader α) (fields : Fields) : Checked α :=
  match slot.find? fields with
  | some (spelling, doc) => (read doc).under (.key spelling)
  | none => .bad [⟨.missing, [.key slot.label]⟩]

/-- A field that has a value also when it is not there. -/
def get (slot : Slot) (absent : α) (read : Reader α) (fields : Fields) : Checked α :=
  match slot.find? fields with
  | some (spelling, doc) => (read doc).under (.key spelling)
  | none => .good absent

section

variable {slot : Slot} {fields : Fields} {spelling : String} {doc : Doc} {read : Reader α} {a : α}

theorem need_of_found (h : slot.find? fields = some (spelling, doc)) (hr : read doc = .good a) :
    slot.need read fields = .good a := by
  unfold need
  rw [h]
  exact Checked.under_eq_good.2 hr

theorem get_of_found (absent : α) (h : slot.find? fields = some (spelling, doc))
    (hr : read doc = .good a) : slot.get absent read fields = .good a := by
  unfold get
  rw [h]
  exact Checked.under_eq_good.2 hr

theorem get_of_absent (h : slot.find? fields = none) : slot.get a read fields = .good a := by
  unfold get
  rw [h]

theorem found_of_need (h : slot.need read fields = .good a) :
    ∃ spelling doc, slot.find? fields = some (spelling, doc) ∧ read doc = .good a := by
  unfold need at h
  split at h
  · rename_i spelling doc hfound
    exact ⟨spelling, doc, hfound, Checked.under_eq_good.1 h⟩
  · cases h

/-- A field that has a value is read, or is not there and has the value of its absence. -/
theorem found_of_get {absent : α} (h : slot.get absent read fields = .good a) :
    (∃ spelling doc, slot.find? fields = some (spelling, doc) ∧ read doc = .good a) ∨
      slot.find? fields = none ∧ a = absent := by
  unfold get at h
  split at h
  · rename_i spelling doc hfound
    exact .inl ⟨spelling, doc, hfound, Checked.under_eq_good.1 h⟩
  · rename_i hfound
    cases h
    exact .inr ⟨hfound, rfl⟩

end

end Slot

end BlockMaze
