-- The names in documents. A field may stand under either of its spellings, a
-- name beside the spelling that goes before it counts for nothing, and names
-- that stand for no field are passed over: in a level, and in the blocks of a
-- program at any depth. Documents that differ in no more are read as the same,
-- and are refused for the same causes at the same fields.
import BlockMaze.Proofs.LevelDocs
import BlockMaze.Proofs.ProgramDocs
import Mathlib.Data.List.Nodup
import Mathlib.Data.List.Pairwise
import Mathlib.Logic.Relation

namespace BlockMaze

/-! ## The fields of a record -/

/-- The spellings of a field, first the one that has precedence. -/
def Slot.spellings (slot : Slot) : List String := slot.spelling.toList ++ [slot.name]

/-- The fields of a record. No two of them share a spelling. -/
structure Record where
  slots : List Slot
  apart : (slots.flatMap Slot.spellings).Nodup

/-- The fields of a block. -/
def Block.record : Record where
  slots := [.plain "id", ⟨"kind", some "type"⟩, ⟨"loop_count", some "loopCount"⟩,
    .plain "instructions"]
  apart := by decide

/-- The fields of a level. -/
def Level.record : Record where
  slots := [.plain "id", .plain "name", .plain "grid", .plain "start",
    ⟨"available_blocks", some "availableBlocks"⟩, ⟨"min_stars", some "minStars"⟩,
    ⟨"best_block_count", some "bestBlockCount"⟩, ⟨"tutorial_text", some "tutorialText"⟩]
  apart := by decide

namespace Record

variable (record : Record) {slot other : Slot} {key : String}

theorem eq_of_spelling (hslot : slot ∈ record.slots) (hother : other ∈ record.slots)
    (h : key ∈ slot.spellings) (h' : key ∈ other.spellings) : slot = other := by
  have hsymm : Std.Symm (Function.onFun List.Disjoint Slot.spellings) :=
    ⟨fun _ _ hdisjoint _ hb ha => hdisjoint ha hb⟩
  by_contra hne
  exact (List.nodup_flatMap.1 record.apart).2.forall hslot hother hne h h'

/-- The spelling with precedence is another one than the name. -/
theorem spelling_ne_name (hslot : slot ∈ record.slots) (h : slot.spelling = some key) :
    key ≠ slot.name := by
  have hnodup := (List.nodup_flatMap.1 record.apart).1 slot hslot
  simpa [Slot.spellings, h] using hnodup

/-- No spelling of a field is one of another. -/
theorem ne_of_other (hslot : slot ∈ record.slots) (hother : other ∈ record.slots)
    (hne : slot ≠ other) (h : key ∈ other.spellings) :
    ∀ name ∈ slot.spellings, Wording.text key ≠ .text name := by
  rintro name hname he
  cases he
  exact hne (record.eq_of_spelling hslot hother hname h)

/-- The names that stand for a field. -/
def names : List Wording := (record.slots.flatMap Slot.spellings).map .text

theorem ne_of_unknown {unknown : Wording} (h : unknown ∉ record.names)
    (hslot : slot ∈ record.slots) : ∀ name ∈ slot.spellings, unknown ≠ .text name := by
  rintro name hname rfl
  exact h (List.mem_map_of_mem (List.mem_flatMap_of_mem hslot hname))

/-- The name of the field that a spelling stands for. Any other name is left as it is. -/
def nameOf (key : String) : String :=
  ((record.slots.find? fun slot => slot.spellings.contains key).map Slot.name).getD key

theorem nameOf_spelling (hslot : slot ∈ record.slots) (h : key ∈ slot.spellings) :
    record.nameOf key = slot.name := by
  unfold nameOf
  cases hfind : record.slots.find? fun slot => slot.spellings.contains key with
  | none =>
    have hnot := List.find?_eq_none.1 hfind slot hslot
    simp [h] at hnot
  | some found =>
    have hfound : key ∈ found.spellings := by simpa using List.find?_some hfind
    rw [record.eq_of_spelling (List.mem_of_find?_eq_some hfind) hslot hfound h]
    rfl

end Record

/-! ## Changes to the names of an object -/

/-- One change to the names of an object. -/
inductive Fields.Reworded (record : Record) : Fields → Fields → Prop
  /-- A field is spelled in another way. It stands only once in the object. -/
  | respelled (before after : Fields) {slot : Slot} {old new : String} {value : Doc}
      (hslot : slot ∈ record.slots) (hold : old ∈ slot.spellings) (hnew : new ∈ slot.spellings)
      (alone : ∀ key ∈ slot.spellings, has (before ++ after) key = false) :
      Reworded record (before ++ (.text old, value) :: after)
        (before ++ (.text new, value) :: after)
  /-- The name of a field is added beside the spelling that goes before it. -/
  | shadowed (before after : Fields) {slot : Slot} {spelling : String} {value : Doc}
      (hslot : slot ∈ record.slots) (hspelling : slot.spelling = some spelling)
      (there : has (before ++ after) spelling = true) :
      Reworded record (before ++ after) (before ++ (.text slot.name, value) :: after)
  /-- A name that stands for no field is added. -/
  | added (before after : Fields) {key : Wording} {value : Doc} (unknown : key ∉ record.names) :
      Reworded record (before ++ after) (before ++ (key, value) :: after)
  /-- A name that stands for no field is removed. -/
  | removed (before after : Fields) {key : Wording} {value : Doc} (unknown : key ∉ record.names) :
      Reworded record (before ++ (key, value) :: after) (before ++ after)
  /-- The names come in another order. -/
  | reordered {fields fields' : Fields} (distinct : (fields.map Prod.fst).Nodup)
      (h : fields.Perm fields') : Reworded record fields fields'

namespace Fields

theorem get?_append (before after : Fields) (key : String) :
    get? (before ++ after) key = (get? before key).or (get? after key) :=
  List.lookup_append

theorem get?_insert_of_ne {k : Wording} {key : String} (h : k ≠ .text key) (v : Doc)
    (before after : Fields) :
    get? (before ++ (k, v) :: after) key = get? (before ++ after) key := by
  rw [get?_append, get?_cons, if_neg h, ← get?_append]

theorem get?_insert_self {key : String} {before after : Fields}
    (h : has (before ++ after) key = false) (v : Doc) :
    get? (before ++ (.text key, v) :: after) key = some v := by
  rw [has, Option.isSome_eq_false_iff, Option.isNone_iff_eq_none, get?_append,
    Option.or_eq_none_iff] at h
  rw [get?_append, get?_cons, if_pos rfl, h.1]
  rfl

theorem get?_of_perm {fields fields' : Fields} (h : fields.Perm fields')
    (distinct : (fields.map Prod.fst).Nodup) (key : String) :
    get? fields' key = get? fields key := by
  induction h with
  | nil => rfl
  | cons field h ih =>
    obtain ⟨k, v⟩ := field
    rw [get?_cons, get?_cons, ih (List.nodup_cons.1 distinct).2]
  | swap first second rest =>
    obtain ⟨k, v⟩ := first
    obtain ⟨l, w⟩ := second
    have hne : l ≠ k := by
      rintro rfl
      simp at distinct
    simp only [get?_cons]
    split
    · rename_i hk
      rw [if_neg (hk ▸ hne)]
    · rfl
  | trans first second ih ih' =>
    rw [ih' ((first.map _).nodup_iff.1 distinct), ih distinct]

end Fields

namespace Slot

variable {slot : Slot} {key : String} {before after fields fields' : Fields}

theorem value?_congr (h : ∀ key ∈ slot.spellings, fields'.get? key = fields.get? key) :
    slot.value? fields' = slot.value? fields := by
  obtain ⟨name, spelling⟩ := slot
  cases spelling with
  | none =>
    rw [← plain, value?_plain, value?_plain]
    exact h name (by simp [spellings])
  | some spelling =>
    rw [value?_spelled, value?_spelled, h spelling (by simp [spellings]),
      h name (by simp [spellings])]

theorem get?_of_value? {name : String}
    (h : (plain name).value? fields' = (plain name).value? fields) :
    fields'.get? name = fields.get? name := by
  rwa [value?_plain, value?_plain] at h

theorem value?_of_spelling {doc : Doc} (hspelling : slot.spelling = some key)
    (h : fields.get? key = some doc) : slot.value? fields = some doc := by
  obtain ⟨name, spelling⟩ := slot
  obtain rfl : spelling = some key := hspelling
  rw [value?_spelled, h]
  rfl

theorem value?_insert_of_ne {k : Wording} (h : ∀ name ∈ slot.spellings, k ≠ .text name)
    (v : Doc) : slot.value? (before ++ (k, v) :: after) = slot.value? (before ++ after) :=
  value?_congr fun name hname => Fields.get?_insert_of_ne (h name hname) v before after

/-- A field that stands once has its value under any spelling. -/
theorem value?_of_alone (hkey : key ∈ slot.spellings)
    (alone : ∀ name ∈ slot.spellings, Fields.has (before ++ after) name = false) (v : Doc) :
    slot.value? (before ++ (.text key, v) :: after) = some v := by
  have hget : ∀ name ∈ slot.spellings, Fields.get? (before ++ (.text key, v) :: after) name =
      if key = name then some v else none := by
    intro name hname
    split
    · rename_i he
      exact he ▸ Fields.get?_insert_self (alone key hkey) v
    · rename_i hne
      rw [Fields.get?_insert_of_ne (by simpa using hne)]
      simpa [Fields.has] using alone name hname
  obtain ⟨name, spelling⟩ := slot
  cases spelling with
  | none =>
    obtain rfl : key = name := by simpa [spellings] using hkey
    rw [← plain, value?_plain, hget key hkey, if_pos rfl]
  | some spelling =>
    rw [value?_spelled, hget spelling (by simp [spellings]), hget name (by simp [spellings])]
    obtain rfl | rfl : key = spelling ∨ key = name := by simpa [spellings] using hkey
    · rw [if_pos rfl]
      rfl
    · rw [if_pos rfl]
      split <;> rfl

/-- A change of names leaves every field its value. -/
theorem value?_of_reworded {record : Record} (h : Fields.Reworded record fields fields') :
    ∀ slot ∈ record.slots, slot.value? fields' = slot.value? fields := by
  intro slot hslot
  cases h with
  | @respelled before after changed old new value hchanged hold hnew alone =>
    by_cases hsame : slot = changed
    · subst hsame
      rw [value?_of_alone hold alone, value?_of_alone hnew alone]
    · rw [value?_insert_of_ne (record.ne_of_other hslot hchanged hsame hold),
        value?_insert_of_ne (record.ne_of_other hslot hchanged hsame hnew)]
  | @shadowed before after changed spelling value hchanged hspelling there =>
    by_cases hsame : slot = changed
    · -- the spelling is found first, and it is still there
      subst hsame
      obtain ⟨doc, hdoc⟩ := Option.isSome_iff_exists.1 there
      have hne : Wording.text slot.name ≠ .text spelling := by
        simpa using (record.spelling_ne_name hslot hspelling).symm
      rw [value?_of_spelling hspelling hdoc]
      exact value?_of_spelling hspelling (by rw [Fields.get?_insert_of_ne hne, hdoc])
    · have hname : changed.name ∈ changed.spellings := by simp [spellings]
      exact value?_insert_of_ne (record.ne_of_other hslot hchanged hsame hname) value
  | added before after unknown =>
    exact value?_insert_of_ne (record.ne_of_unknown unknown hslot) _
  | removed before after unknown =>
    exact (value?_insert_of_ne (record.ne_of_unknown unknown hslot) _).symm
  | reordered distinct h => exact value?_congr fun key _ => Fields.get?_of_perm h distinct key

end Slot

/-! ## Faults at fields -/

/-- A step into a document, with a field under its own name. -/
def Place.named (record : Record) : Place → Place
  | .key spelling => .key (record.nameOf spelling)
  | .index n => .index n

/-- A fault at a place where every field is under its own name. -/
def Fault.named (record : Record) (fault : Fault) : Fault :=
  { fault with place := fault.place.map (Place.named record) }

namespace Checked

variable {record : Record}

/-- What was read, or all that is wrong, with the fields at every place under their own names. -/
def named (record : Record) : Checked α → Checked α
  | .good a => .good a
  | .bad faults => .bad (faults.map (Fault.named record))

theorem named_map (f : α → β) (c : Checked α) :
    (c.map f).named record = (c.named record).map f := by
  cases c <;> rfl

theorem named_both (c : Checked α) (d : Checked β) :
    (c.both d).named record = (c.named record).both (d.named record) := by
  cases c <;> cases d <;> simp [both, named]

theorem named_under (place : Place) (c : Checked α) :
    (c.under place).named record = (c.named record).under (place.named record) := by
  cases c <;> simp [under, named, Fault.named]

theorem named_fmap (f : α → β) (c : Checked α) :
    (f <$> c).named record = f <$> c.named record := named_map f c

theorem named_seq (f : Checked (α → β)) (c : Checked α) :
    (f <*> c).named record = f.named record <*> c.named record := by
  simp only [Seq.seq, named_map, named_both]

/-- What is the same with fields under their own names is the same value, or as many faults with
the same causes. -/
theorem cases_of_named {c d : Checked α} (h : c.named record = d.named record) :
    (∃ a, c = .good a ∧ d = .good a) ∨
      ∃ faults faults', c = .bad faults ∧ d = .bad faults' ∧
        faults.map (Fault.named record) = faults'.map (Fault.named record) := by
  cases c with
  | good a =>
    cases d with
    | good b =>
      cases h
      exact .inl ⟨a, rfl, rfl⟩
    | bad faults' => cases h
  | bad faults =>
    cases d with
    | good b => cases h
    | bad faults' => exact .inr ⟨faults, faults', rfl, rfl, Checked.bad.inj h⟩

end Checked

namespace Slot

variable {record : Record} {slot : Slot} {fields fields' : Fields}

theorem mem_spellings_of_find? {key : String} {doc : Doc}
    (h : slot.find? fields = some (key, doc)) : key ∈ slot.spellings := by
  obtain ⟨name, spelling⟩ := slot
  cases spelling with
  | none =>
    obtain ⟨found, -, hfound⟩ := Option.map_eq_some_iff.1 h
    cases hfound
    simp [spellings]
  | some spelling =>
    simp only [find?] at h
    split at h
    · cases h
      simp [spellings]
    · obtain ⟨found, -, hfound⟩ := Option.map_eq_some_iff.1 h
      cases hfound
      simp [spellings]

/-- What is wrong with a field is wrong under its own name. -/
theorem named_under {key : String} {doc : Doc} (hslot : slot ∈ record.slots)
    (h : slot.find? fields = some (key, doc)) (c : Checked α) :
    (c.under (.key key)).named record = (c.named record).under (.key slot.name) := by
  rw [Checked.named_under, Place.named, record.nameOf_spelling hslot (mem_spellings_of_find? h)]

/-- Fields of one value are found together. -/
theorem find?_of_value? (h : slot.value? fields' = slot.value? fields) :
    (slot.find? fields = none ∧ slot.find? fields' = none) ∨
      ∃ key key' doc, slot.find? fields = some (key, doc) ∧
        slot.find? fields' = some (key', doc) := by
  unfold value? at h
  cases hfind : slot.find? fields with
  | none =>
    rw [hfind] at h
    exact .inl ⟨rfl, Option.map_eq_none_iff.1 h⟩
  | some found =>
    obtain ⟨key, doc⟩ := found
    rw [hfind] at h
    obtain ⟨⟨key', doc'⟩, hfind', rfl⟩ := Option.map_eq_some_iff.1 h
    exact .inr ⟨key, key', doc', rfl, hfind'⟩

/-- The value of a field decides what is read from it, and its faults up to the spelling. -/
theorem named_found (hslot : slot ∈ record.slots) (h : slot.value? fields' = slot.value? fields)
    (read : Reader α) (absent : Checked α) :
    (match slot.find? fields' with
      | some (spelling, doc) => (read doc).under (.key spelling)
      | none => absent).named record =
    (match slot.find? fields with
      | some (spelling, doc) => (read doc).under (.key spelling)
      | none => absent).named record := by
  obtain ⟨hnone, hnone'⟩ | ⟨key, key', doc, hfind, hfind'⟩ := find?_of_value? h
  · rw [hnone, hnone']
  · rw [hfind, hfind']
    simp only
    rw [named_under hslot hfind, named_under hslot hfind']

theorem named_need (hslot : slot ∈ record.slots) (h : slot.value? fields' = slot.value? fields)
    (read : Reader α) :
    (slot.need read fields').named record = (slot.need read fields).named record :=
  named_found hslot h read _

theorem named_get (hslot : slot ∈ record.slots) (h : slot.value? fields' = slot.value? fields)
    (absent : α) (read : Reader α) :
    (slot.get absent read fields').named record = (slot.get absent read fields).named record :=
  named_found hslot h read (.good absent)

end Slot

/-! ## Blocks -/

namespace Block

/-- One change to the names of a block, or of a block at any depth inside it. -/
inductive Reworded : Doc → Doc → Prop
  | here {fields fields' : Fields} (h : fields.Reworded record fields') :
      Reworded (.obj fields) (.obj fields')
  | inside (left right : Fields) (before after : List Doc) {doc doc' : Doc}
      (alone : Fields.has (left ++ right) "instructions" = false) (h : Reworded doc doc') :
      Reworded (.obj (left ++ (.text "instructions", .arr (before ++ doc :: after)) :: right))
        (.obj (left ++ (.text "instructions", .arr (before ++ doc' :: after)) :: right))

/-- Two readings come to the same: to one value, or to the same faults up to the spelling of
fields, and with one progress. -/
def SameReading (first second : Checked α × Progress) : Prop :=
  first.1.named record = second.1.named record ∧ first.2 = second.2

section

variable {read : IdReader Block} {fields fields' : Fields} {doc doc' : Doc}

/-- One item of an array may be changed for another that is read as the same. -/
theorem sameReading_items (h : ∀ p, SameReading (read p doc') (read p doc))
    (before after : List Doc) (p : Progress) (n : Nat) :
    SameReading (readItems read p n (before ++ doc' :: after))
      (readItems read p n (before ++ doc :: after)) := by
  induction before generalizing p n with
  | nil =>
    obtain ⟨hfirst, hprogress⟩ := h p
    simp only [List.nil_append, readItems_cons, hprogress]
    refine ⟨?_, rfl⟩
    simp only [Checked.named_map, Checked.named_both, Checked.named_under, hfirst]
  | cons first before ih =>
    obtain ⟨hrest, hprogress⟩ := ih (read p first).2 (n + 1)
    simp only [List.cons_append, readItems_cons]
    refine ⟨?_, hprogress⟩
    simp only [Checked.named_map, Checked.named_both, hrest]

theorem readId_congr (h : fields'.get? "id" = fields.get? "id") (p : Progress) :
    readId p fields' = readId p fields := by
  simp only [readId, Slot.need, Slot.find?, Slot.plain, h]

/-- A block is read as the same if its fields but the body have the same values, and its body is
read as the same. -/
theorem sameReading_fields
    (hvalues : ∀ slot ∈ record.slots, "instructions" ∉ slot.spellings →
      slot.value? fields' = slot.value? fields)
    (hbody : ∀ p, SameReading (readBody read p fields') (readBody read p fields)) (p : Progress) :
    SameReading (readFields read p fields') (readFields read p fields) := by
  have hid := Slot.get?_of_value? (hvalues (.plain "id") (by simp [record]) (by decide))
  have hkind : ⟨"kind", some "type"⟩ ∈ record.slots := by simp [record]
  have hcount : ⟨"loop_count", some "loopCount"⟩ ∈ record.slots := by simp [record]
  obtain ⟨hbody, hprogress⟩ := hbody (readId p fields).2
  simp only [readFields, readId_congr hid]
  refine ⟨?_, hprogress⟩
  simp only [Checked.named_seq, Checked.named_fmap, hbody,
    Slot.named_need hkind (hvalues _ hkind (by decide)),
    Slot.named_get hcount (hvalues _ hcount (by decide))]

theorem sameReading_body (h : fields'.get? "instructions" = fields.get? "instructions")
    (p : Progress) : SameReading (readBody read p fields') (readBody read p fields) := by
  unfold readBody
  rw [h]
  exact ⟨rfl, rfl⟩

/-- A body is read as the same if one of its blocks is changed for another that is. -/
theorem sameReading_body_inside (h : ∀ p, SameReading (read p doc') (read p doc))
    {left right : Fields} (alone : Fields.has (left ++ right) "instructions" = false)
    (before after : List Doc) (p : Progress) :
    let fields (doc : Doc) : Fields :=
      left ++ (.text "instructions", .arr (before ++ doc :: after)) :: right
    SameReading (readBody read p (fields doc')) (readBody read p (fields doc)) := by
  intro fields
  obtain ⟨hitems, hprogress⟩ := sameReading_items h before after p 0
  simp only [fields, readBody, Fields.get?_insert_self alone, readList]
  refine ⟨?_, hprogress⟩
  simp only [Checked.named_map, Checked.named_under, hitems]

end

/-- A changed block is read as the same, however many levels it may have. -/
theorem sameReading_of_reworded {doc doc' : Doc} (h : Reworded doc doc') (levels : Nat)
    (p : Progress) : SameReading (readWithin levels p doc') (readWithin levels p doc) := by
  -- Down to the changed block, with ever fewer levels. An object is no atom, so none of the blocks
  -- on the way is held.
  induction h generalizing levels p with
  | @here fields fields' h =>
    cases levels with
    | zero => exact ⟨rfl, rfl⟩
    | succ levels =>
      have hvalues := Slot.value?_of_reworded h
      have hbody := Slot.get?_of_value? (hvalues (.plain "instructions") (by simp [record]))
      exact sameReading_fields (fun slot hslot _ => hvalues slot hslot) (sameReading_body hbody) p
  | inside left right before after alone h ih =>
    cases levels with
    | zero => exact ⟨rfl, rfl⟩
    | succ levels =>
      refine sameReading_fields ?_ (sameReading_body_inside (ih levels) alone before after) p
      intro slot hslot hother
      have hne : ∀ name ∈ slot.spellings, (Wording.text "instructions") ≠ .text name := by
        rintro name hname he
        cases he
        exact hother hname
      rw [Slot.value?_insert_of_ne hne, Slot.value?_insert_of_ne hne]

end Block

/-! ## Programs -/

namespace Program

/-- One change to the names of a block at any depth of a program. -/
inductive Reworded : Doc → Doc → Prop
  | block (before after : List Doc) {doc doc' : Doc} (h : Block.Reworded doc doc') :
      Reworded (.arr (before ++ doc :: after)) (.arr (before ++ doc' :: after))

theorem named_read {doc doc' : Doc} (h : Reworded doc doc') (used : Nat) :
    (read used doc').named Block.record = (read used doc).named Block.record := by
  obtain ⟨before, after, h⟩ := h
  obtain ⟨hitems, hprogress⟩ := Block.sameReading_items
    (Block.sameReading_of_reworded h Block.maxDepth) before after (.start used) 0
  simp only [read, Block.counted, Block.readList, Checked.named_map, hitems, hprogress]

end Program

/-! ## Levels -/

namespace Level

/-- One change to the names of a level. -/
inductive Reworded : Doc → Doc → Prop
  | here {fields fields' : Fields} (h : fields.Reworded record fields') :
      Reworded (.obj fields) (.obj fields')

/-- A refusal with the fields at every place under their own names. -/
def Refusal.named : Refusal → Refusal
  | .invalid faults => .invalid (faults.map (Fault.named record))
  | .rowNotWalkable typeName => .rowNotWalkable typeName

section

variable {fields fields' : Fields}
  (h : ∀ slot ∈ record.slots, slot.value? fields' = slot.value? fields)

include h

theorem readGridField_congr : readGridField fields' = readGridField fields := by
  unfold readGridField
  rw [Slot.get?_of_value? (h (.plain "grid") (by simp [record]))]

theorem named_readForm (rows : Checked (List (List Tile))) :
    (readForm rows fields').named record = (readForm rows fields).named record := by
  have hget : ∀ {α : Type} {slot : Slot} (absent : α) (read : Reader α), slot ∈ record.slots →
      (slot.get absent read fields').named record = (slot.get absent read fields).named record :=
    fun absent read hslot => Slot.named_get hslot (h _ hslot) absent read
  have hstart : .plain "start" ∈ record.slots := by simp [record]
  unfold readForm
  simp only [Checked.named_seq, Checked.named_fmap, Slot.named_need hstart (h _ hstart)]
  rw [hget 0 _ (by simp [record]), hget "" _ (by simp [record]),
    hget Kind.palette _ (by simp [record]), hget 0 _ (by simp [record]),
    hget none _ (by simp [record]), hget none _ (by simp [record])]

end

theorem named_read {doc doc' : Doc} (h : Reworded doc doc') :
    (read doc').mapError Refusal.named = (read doc).mapError Refusal.named := by
  obtain @⟨fields, fields', h⟩ := h
  have hvalues := Slot.value?_of_reworded h
  simp only [read, readGridField_congr hvalues]
  cases readGridField fields with
  | error typeName => rfl
  | ok rows =>
    obtain ⟨form, hform', hform⟩ | ⟨faults', faults, hfaults', hfaults, hsame⟩ :=
      Checked.cases_of_named (named_readForm hvalues rows)
    · simp only [hform', hform]
    · simp only [hfaults', hfaults, Except.mapError, Refusal.named, hsame]

end Level

/-! ## The law -/

/-- Neither spellings nor unknown names matter. However often the names of a program's blocks, at
whatever depth, or those of a level are changed, the document is accepted if it was before, and is
read as the same program, with the same ids from the supply, or as the same level. If it was
refused, it is refused for the same causes in the same order, each at the same place up to the
spelling of the fields there. -/
theorem neither_spellings_nor_unknown_names_matter :
    (∀ doc doc', Relation.ReflTransGen Program.Reworded doc doc' → ∀ used,
        (Program.read used doc').named Block.record = (Program.read used doc).named Block.record) ∧
      ∀ doc doc', Relation.ReflTransGen Level.Reworded doc doc' →
        (Level.read doc').mapError Level.Refusal.named =
          (Level.read doc).mapError Level.Refusal.named := by
  constructor
  · intro doc doc' h used
    induction h with
    | refl => rfl
    | tail _ hlast ih => rw [Program.named_read hlast, ih]
  · intro doc doc' h
    induction h with
    | refl => rfl
    | tail _ hlast ih => rw [Level.named_read hlast, ih]

/-- A program with two faults and a level, before and after some changes. Of the outer block the
count is spelled in the other way, and a name is put beside the type; of the inner block the kind is
spelled in the other way, and an unknown name is removed. Of the level the stars are spelled in the
other way, and then a bad value is put under their name. -/
theorem two_faults_and_a_level_under_other_spellings :
    let program : Doc := .arr [.obj [("type", .text "LOOP"), ("loopCount", .text "x"),
      ("instructions", .arr [.obj [("kind", .int 5), ("color", .text "red")]])]]
    let program' : Doc := .arr [.obj [("type", .text "LOOP"), ("kind", .null),
      ("loop_count", .text "x"), ("instructions", .arr [.obj [("type", .int 5)]])]]
    let kinds : Cause := .notOneOf (Vocabulary.words Kind)
    let level : Doc := .obj [("grid", .arr [.text "*F"]), ("min_stars", .int 1),
      ("start", .obj [("x", .int 0), ("y", .int 0)])]
    let level' : Doc := .obj [("grid", .arr [.text "*F"]), ("minStars", .int 1),
      ("start", .obj [("x", .int 0), ("y", .int 0)]), ("min_stars", .int (-1))]
    (Relation.ReflTransGen Program.Reworded program program' ∧
      Program.read 0 program = .bad [⟨.unreadableWhole, [.index 0, .key "loopCount"]⟩,
        ⟨kinds, [.index 0, .key "instructions", .index 0, .key "kind"]⟩] ∧
      Program.read 0 program' = .bad [⟨.unreadableWhole, [.index 0, .key "loop_count"]⟩,
        ⟨kinds, [.index 0, .key "instructions", .index 0, .key "type"]⟩] ∧
      (Program.read 0 program').named Block.record =
        (Program.read 0 program).named Block.record) ∧
    Relation.ReflTransGen Level.Reworded level level' ∧ (Level.read level).isOk = true ∧
      (Level.read level').mapError Level.Refusal.named =
        (Level.read level).mapError Level.Refusal.named := by
  intro program program' kinds level level'
  have hkind : ⟨"kind", some "type"⟩ ∈ Block.record.slots := by simp [Block.record]
  have hcount : ⟨"loop_count", some "loopCount"⟩ ∈ Block.record.slots := by simp [Block.record]
  have hstars : ⟨"min_stars", some "minStars"⟩ ∈ Level.record.slots := by simp [Level.record]
  let grid : Wording × Doc := ("grid", .arr [.text "*F"])
  let start : Wording × Doc := ("start", .obj [("x", .int 0), ("y", .int 0)])
  let type : Wording × Doc := ("type", .text "LOOP")
  let count : Wording × Doc := ("loop_count", .text "x")
  let body (inner : Fields) : Wording × Doc := ("instructions", .arr [.obj inner])
  let inner : Fields := [("kind", .int 5), ("color", .text "red")]
  have houter₁ : Fields.Reworded Block.record [type, ("loopCount", .text "x"), body inner]
      [type, count, body inner] :=
    .respelled [type] [body inner] hcount (by decide) (by decide) (by decide)
  have houter₂ : Fields.Reworded Block.record [type, count, body inner]
      [type, ("kind", .null), count, body inner] :=
    .shadowed [type] [count, body inner] hkind rfl (by decide)
  have hinner₁ : Fields.Reworded Block.record inner [("type", .int 5), ("color", .text "red")] :=
    .respelled [] [("color", .text "red")] hkind (by decide) (by decide) (by decide)
  have hinner₂ : Fields.Reworded Block.record [("type", .int 5), ("color", .text "red")]
      [("type", .int 5)] :=
    .removed [("type", .int 5)] [] (by decide)
  have hprogram : Relation.ReflTransGen Program.Reworded program program' := by
    have hinside : ∀ {inner inner' : Fields}, Fields.Reworded Block.record inner inner' →
        Program.Reworded (.arr [.obj [type, ("kind", .null), count, body inner]])
          (.arr [.obj [type, ("kind", .null), count, body inner']]) := fun h =>
      .block [] [] (.inside [type, ("kind", .null), count] [] [] [] (by decide) (.here h))
    exact .tail (.tail (.tail (.single (.block [] [] (.here houter₁)))
      (.block [] [] (.here houter₂))) (hinside hinner₁)) (hinside hinner₂)
  have hlevel : Relation.ReflTransGen Level.Reworded level level' :=
    .tail (.single (.here (.respelled [grid] [start] hstars (by decide) (by decide) (by decide))))
      (.here (.shadowed [grid, ("minStars", .int 1), start] [] hstars rfl (by decide)))
  exact ⟨⟨hprogram, rfl, rfl, neither_spellings_nor_unknown_names_matter.1 _ _ hprogram 0⟩, hlevel,
    rfl, neither_spellings_nor_unknown_names_matter.2 _ _ hlevel⟩

end BlockMaze
