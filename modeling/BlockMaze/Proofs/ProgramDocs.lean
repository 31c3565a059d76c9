-- Programs in documents and back. A program that was read has no more levels
-- than are read, and every program with no more levels comes back from its
-- dump as it was: no id is handed out, what is absent stays absent, and what
-- is empty stays empty. So a dump stays the same when it is read and dumped
-- again.
import BlockMaze.Block.Dump
import BlockMaze.Proofs.TreeWalk

namespace BlockMaze

namespace Block

/-! ## The levels of what is read -/

theorem depth_eq (b : Block) : b.depth = depthAll b.children + 1 := by
  obtain ⟨id, kind, count, body⟩ := b
  cases body with
  | none => simp [depth, children, depthAll]
  | some body => simp [depth, children]

section

variable {read : IdReader Block} {levels : Nat}

/-- The reader reads no block with more levels. -/
def ReadsWithin (read : IdReader Block) (levels : Nat) : Prop :=
  ∀ p doc b, (read p doc).1 = .good b → b.depth ≤ levels

theorem readItems_cons (p : Progress) (n : Nat) (doc : Doc) (docs : List Doc) :
    readItems read p n (doc :: docs) =
      ((((read p doc).1.under (.index n)).both
          (readItems read (read p doc).2 (n + 1) docs).1).map fun (b, bs) => b :: bs,
        (readItems read (read p doc).2 (n + 1) docs).2) := rfl

theorem depthAll_of_readItems (hread : ReadsWithin read levels) {docs : List Doc} {p : Progress}
    {n : Nat} {bs : List Block} (h : (readItems read p n docs).1 = .good bs) :
    depthAll bs ≤ levels := by
  induction docs generalizing p n bs with
  | nil =>
    cases h
    exact Nat.zero_le levels
  | cons doc docs ih =>
    rw [readItems_cons] at h
    obtain ⟨⟨b, rest⟩, hboth, rfl⟩ := Checked.map_eq_good.1 h
    obtain ⟨hb, hrest⟩ := Checked.both_eq_good.1 hboth
    rw [depthAll]
    exact Nat.max_le.2 ⟨hread p doc b (Checked.under_eq_good.1 hb), ih hrest⟩

theorem depthAll_of_readList (hread : ReadsWithin read levels) {doc : Doc} {p : Progress}
    {bs : List Block} (h : (readList read p doc).1 = .good bs) : depthAll bs ≤ levels := by
  unfold readList at h
  split at h
  · exact depthAll_of_readItems hread h
  · cases h

theorem depthAll_of_readBody (hread : ReadsWithin read levels) {fields : Fields} {p : Progress}
    {body : Option (List Block)} (h : (readBody read p fields).1 = .good body) :
    depthAll (body.getD []) ≤ levels := by
  unfold readBody at h
  split at h
  · cases h
    exact Nat.zero_le levels
  · cases h
    exact Nat.zero_le levels
  · obtain ⟨bs, hbs, rfl⟩ := Checked.map_eq_good.1 h
    exact depthAll_of_readList hread (Checked.under_eq_good.1 hbs)

/-- A block has one level more than the blocks inside it. -/
theorem readsWithin_readOver (hread : ReadsWithin read levels) :
    ReadsWithin (readOver read) (levels + 1) := by
  intro p doc b h
  unfold readOver at h
  split at h
  · obtain ⟨f, body, hf, hbody, rfl⟩ := Checked.seq_eq_good.1 h
    obtain ⟨g, count, hg, -, rfl⟩ := Checked.seq_eq_good.1 hf
    obtain ⟨g', kind, hg', -, rfl⟩ := Checked.seq_eq_good.1 hg
    obtain ⟨id, -, rfl⟩ := Checked.fmap_eq_good.1 hg'
    rw [depth_eq]
    exact Nat.succ_le_succ (depthAll_of_readBody hread hbody)
  · cases h

theorem readsWithin_readWithin (levels : Nat) : ReadsWithin (readWithin levels) levels := by
  induction levels with
  | zero =>
    intro p doc b h
    unfold readWithin unlessHeld at h
    split at h <;> cases h
  | succ levels ih =>
    intro p doc b h
    unfold readWithin unlessHeld at h
    split at h
    · cases h
    · exact readsWithin_readOver ih p doc b h

end

/-! ## The fields of a dumped block -/

theorem find?_name (kind : Kind) : Vocabulary.find? kind.name = some kind := by
  cases kind <;> rfl

/-- The fields of a body. -/
def bodyFields : Option (List Block) → Fields
  | none => []
  | some body => [("instructions", .arr (toDocs body))]

theorem toDoc_eq (b : Block) :
    b.toDoc = .obj (fieldsWith b.id b.kind b.loopCount (bodyFields b.body)) := by
  obtain ⟨id, kind, count, body⟩ := b
  cases body with
  | none =>
    rw [toDoc]
    rfl
  | some body =>
    rw [toDoc]
    rfl

section

variable {read : IdReader Block} (p : Progress) (id : String) (kind : Kind) (count : Option Int)
  (body : Option (List Block))

theorem readId_fieldsWith (rest : Fields) :
    readId p (fieldsWith id kind count rest) = (.good id, p) := rfl

theorem need_kind (rest : Fields) :
    Slot.need ⟨"kind", some "type"⟩ (.word Kind) (fieldsWith id kind count rest) = .good kind := by
  have hfound : Slot.find? ⟨"kind", some "type"⟩ (fieldsWith id kind count rest) =
      some ("type", .text kind.name) := rfl
  exact Slot.need_of_found hfound (Reader.word_of_found (find?_name kind))

theorem get_count :
    Slot.get ⟨"loop_count", some "loopCount"⟩ none (.orNull .whole)
      (fieldsWith id kind count (bodyFields body)) = .good count := by
  have hfind : Slot.find? ⟨"loop_count", some "loopCount"⟩
      (fieldsWith id kind count (bodyFields body)) = count.map fun n => ("loopCount", .int n) := by
    cases count <;> cases body <;> rfl
  cases count with
  | none => exact Slot.get_of_absent hfind
  | some n => exact Slot.get_of_found none hfind rfl

theorem readBody_bodyFields
    (h : readItems read p 0 (toDocs (body.getD [])) = (.good (body.getD []), p)) :
    readBody read p (fieldsWith id kind count (bodyFields body)) = (.good body, p) := by
  have hget : (fieldsWith id kind count (bodyFields body)).get? "instructions" =
      body.map fun bs => .arr (toDocs bs) := by
    cases count <;> cases body <;> rfl
  unfold readBody
  rw [hget]
  cases body with
  | none => rfl
  | some bs =>
    have hitems : readItems read p 0 (toDocs bs) = (.good bs, p) := h
    simp [readList, hitems, Checked.under, Checked.map]

/-- A dumped block is read as it was, if the blocks inside it are. -/
theorem readOver_toDoc {b : Block}
    (h : readItems read p 0 (toDocs b.children) = (.good b.children, p)) :
    readOver read p b.toDoc = (.good b, p) := by
  obtain ⟨id, kind, count, body⟩ := b
  rw [toDoc_eq]
  simp only [readOver, readFields, readId_fieldsWith]
  rw [readBody_bodyFields p id kind count body h, need_kind, get_count]
  rfl

end

/-! ## Blocks come back -/

theorem holds_toDoc (p : Progress) (b : Block) : p.holds b.toDoc = false := by
  rw [toDoc_eq]
  rfl

theorem readItems_toDocs {bs : List Block} {levels : Nat} (h : depthAll bs ≤ levels) (p : Progress)
    (n : Nat) : readItems (readWithin levels) p n (toDocs bs) = (.good bs, p) := by
  induction bs using Program.tree_induction generalizing levels n with
  | nil => rw [toDocs, readItems]
  | cons b bs inside behind =>
    rw [depthAll, Nat.max_le, depth_eq] at h
    -- a block takes one level, and the blocks inside it have the others
    obtain ⟨below, rfl⟩ : ∃ k, levels = k + 1 := ⟨levels - 1, by omega⟩
    have hfirst : readWithin (below + 1) p b.toDoc = (.good b, p) := by
      unfold readWithin unlessHeld
      rw [holds_toDoc]
      exact readOver_toDoc p (inside (by omega) 0)
    rw [toDocs, readItems_cons, hfirst, behind h.2]
    rfl

end Block

/-! ## Programs come back -/

namespace Program

theorem read_dumped {program : Program} (h : Block.depthAll program ≤ Block.maxDepth)
    (used : Nat) : read used program.toDoc = .good (program, used) := by
  unfold read toDoc Block.readList
  simp only
  rw [Block.readItems_toDocs h]
  rfl

theorem depthAll_of_read {used last : Nat} {doc : Doc} {program : Program}
    (h : read used doc = .good (program, last)) : Block.depthAll program ≤ Block.maxDepth := by
  obtain ⟨bs, hbs, he⟩ := Checked.map_eq_good.1 h
  obtain ⟨rfl, -⟩ := Prod.mk.inj he
  exact Block.depthAll_of_readList (Block.readsWithin_readWithin Block.maxDepth) hbs

/-- Reads a document as a program and dumps the program. -/
def redump? (used : Nat) (doc : Doc) : Option Doc :=
  match read used doc with
  | .good (program, _) => program.dump?
  | .bad _ => none

/-- The program has a dump, from which it is read as it was without an id being handed out, and
which does not change when it is read and dumped again. -/
def ComesBack (program : Program) : Prop :=
  ∃ doc, program.dump? = some doc ∧
    ∀ used, read used doc = .good (program, used) ∧ redump? used doc = some doc

theorem comesBack_of_depth {program : Program} (h : Block.depthAll program ≤ Block.maxDepth) :
    ComesBack program := by
  have hdump : program.dump? = some program.toDoc := by
    unfold dump?
    rw [if_pos (Nat.le_trans h (by decide))]
  refine ⟨program.toDoc, hdump, ?_⟩
  intro used
  refine ⟨read_dumped h used, ?_⟩
  unfold redump?
  rw [read_dumped h]
  exact hdump

/-- Loading undoes dumping. The programs that are read from some document are those with no more
levels than are read, whatever their ids, counts and bodies are; and every such program, also one
that was made from sketches, comes back from its dump. -/
theorem loading_undoes_dumping (program : Program) :
    ((∃ used doc last, read used doc = .good (program, last)) ↔
        Block.depthAll program ≤ Block.maxDepth) ∧
      (Block.depthAll program ≤ Block.maxDepth → ComesBack program) := by
  refine ⟨?_, comesBack_of_depth⟩
  constructor
  · rintro ⟨used, doc, last, h⟩
    exact depthAll_of_read h
  · intro h
    exact ⟨0, program.toDoc, 0, read_dumped h 0⟩

end Program

end BlockMaze
