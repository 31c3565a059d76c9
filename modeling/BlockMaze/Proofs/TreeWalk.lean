-- Programs as trees. A list of blocks is empty, or it is a block with its own
-- list of blocks inside and a list of blocks behind. Walking and editing a
-- program follow this shape, and so do the laws about all programs.
import BlockMaze.Block.Walk

namespace BlockMaze.Program

/-- Induction on a program: from the blocks inside the first one and the blocks behind it. -/
@[elab_as_elim]
theorem tree_induction {motive : List Block → Prop} (nil : motive [])
    (cons : ∀ b bs, motive b.children → motive bs → motive (b :: bs)) (bs : List Block) :
    motive bs := by
  induction bs using walk.induct with
  | case1 => exact nil
  | case2 id kind count rest ih => exact cons ⟨id, kind, count, none⟩ rest nil ih
  | case3 id kind count body rest inside ih =>
    exact cons ⟨id, kind, count, some body⟩ rest inside ih

theorem walk_cons (b : Block) (bs : List Block) :
    walk (b :: bs) = b :: (walk b.children ++ walk bs) := by
  obtain ⟨id, kind, count, body⟩ := b
  cases body with
  | none => simp [walk, Block.children]
  | some body => simp [walk, Block.children]

theorem walk_append (as bs : List Block) : walk (as ++ bs) = walk as ++ walk bs := by
  induction as with
  | nil => simp [walk]
  | cons a as ih =>
    rw [List.cons_append, walk_cons, walk_cons, ih, List.cons_append, List.append_assoc]

theorem count_append (as bs : List Block) : count (as ++ bs) = count as + count bs := by
  rw [count, walk_append, List.length_append]
  rfl

theorem count_singleton (b : Block) : count [b] = count b.children + 1 := by
  rw [count, walk_cons]
  simp [walk, count]

theorem mem_walk_cons {b c : Block} {bs : List Block} :
    c ∈ walk (b :: bs) ↔ c = b ∨ c ∈ walk b.children ∨ c ∈ walk bs := by
  rw [walk_cons, List.mem_cons, List.mem_append]

/-- What holds of all blocks of a program holds of the first one, inside it and behind it. -/
theorem forall_mem_walk_cons {p : Block → Prop} {b : Block} {bs : List Block} :
    (∀ c ∈ walk (b :: bs), p c) ↔
      p b ∧ (∀ c ∈ walk b.children, p c) ∧ ∀ c ∈ walk bs, p c := by
  rw [walk_cons, List.forall_mem_cons, List.forall_mem_append]

theorem mem_walk_of_mem {b : Block} {bs : List Block} (h : b ∈ bs) : b ∈ walk bs := by
  induction bs with
  | nil => simp at h
  | cons c bs ih =>
    rcases List.mem_cons.1 h with rfl | h
    · exact mem_walk_cons.2 (Or.inl rfl)
    · exact mem_walk_cons.2 (Or.inr (Or.inr (ih h)))

/-- The blocks inside a block of a program are blocks of the program. -/
theorem mem_walk_of_child {b c : Block} {bs : List Block} (hc : c ∈ walk bs)
    (hb : b ∈ c.children) : b ∈ walk bs := by
  induction bs using tree_induction with
  | nil => simp [walk] at hc
  | cons a bs inside behind =>
    rcases mem_walk_cons.1 hc with rfl | hc | hc
    · exact mem_walk_cons.2 (Or.inr (Or.inl (mem_walk_of_mem hb)))
    · exact mem_walk_cons.2 (Or.inr (Or.inl (inside hc)))
    · exact mem_walk_cons.2 (Or.inr (Or.inr (behind hc)))

/-! ## Replacing a block -/

section

variable {id : String} {change : Block → List Block}

/-- The first block is replaced if it has the id, and else a block inside it or behind it. -/
theorem replace?_cons (b : Block) (bs : List Block) :
    replace? id change (b :: bs) =
      if b.id = id then some (change b ++ bs)
      else
        match replace? id change b.children with
        | some inside => some ({ b with body := some inside } :: bs)
        | none => (replace? id change bs).map (b :: ·) := by
  obtain ⟨i, kind, count, body⟩ := b
  cases body with
  | none => rw [replace?]; simp [Block.children, replace?]
  | some body => rw [replace?]; rfl

theorem replace?_eq_none {bs : List Block} (h : ∀ c ∈ walk bs, c.id ≠ id) :
    replace? id change bs = none := by
  induction bs using tree_induction with
  | nil => rw [replace?]
  | cons b bs inside behind =>
    obtain ⟨hb, hin, hbehind⟩ := forall_mem_walk_cons.1 h
    rw [replace?_cons, if_neg hb, inside hin, behind hbehind]
    rfl

end

end BlockMaze.Program
