-- Sets of keys. The keys of a set stand in ascending order and none of them
-- twice, so two sets with the same keys are equal.

namespace BlockMaze

/-- A set of texts, held in ascending order. -/
structure KeySet where
  keys : List String
  sorted : keys.Pairwise (· < ·)
deriving DecidableEq

namespace KeySet

instance : Repr KeySet := ⟨fun s n => reprPrec s.keys n⟩

/-- The set without keys. -/
def empty : KeySet := ⟨[], .nil⟩

instance : Membership String KeySet := ⟨fun s k => k ∈ s.keys⟩

instance (k : String) (s : KeySet) : Decidable (k ∈ s) := inferInstanceAs (Decidable (k ∈ s.keys))

/-- The number of keys. -/
def size (s : KeySet) : Nat := s.keys.length

/-- Puts a key in its place among ascending keys. -/
def place (key : String) : List String → List String
  | [] => [key]
  | k :: ks => if key < k then key :: k :: ks else if k < key then k :: place key ks else k :: ks

theorem mem_place {key k : String} {ks : List String} : k ∈ place key ks ↔ k = key ∨ k ∈ ks := by
  induction ks with
  | nil => simp [place]
  | cons a ks ih =>
    unfold place
    split
    · simp
    · split
      · simp only [List.mem_cons, ih]
        constructor
        · rintro (h | h | h) <;> simp [h]
        · rintro (h | h | h) <;> simp [h]
      · rename_i h₁ h₂
        have : key = a := String.le_antisymm (String.not_lt.1 h₂) (String.not_lt.1 h₁)
        simp [this]

theorem pairwise_place (key : String) {ks : List String} (h : ks.Pairwise (· < ·)) :
    (place key ks).Pairwise (· < ·) := by
  induction ks with
  | nil => simp [place]
  | cons a ks ih =>
    rw [List.pairwise_cons] at h
    unfold place
    split
    · rename_i hk
      refine List.pairwise_cons.2 ⟨?_, List.pairwise_cons.2 h⟩
      intro b hb
      rcases List.mem_cons.1 hb with rfl | hb
      · exact hk
      · exact String.lt_trans hk (h.1 b hb)
    · split
      · rename_i hk
        refine List.pairwise_cons.2 ⟨?_, ih h.2⟩
        intro b hb
        rcases mem_place.1 hb with rfl | hb
        · exact hk
        · exact h.1 b hb
      · exact List.pairwise_cons.2 h

/-- Adds a key. -/
def insert (s : KeySet) (key : String) : KeySet := ⟨place key s.keys, pairwise_place key s.sorted⟩

/-- The set of the texts of a list. -/
def ofList (keys : List String) : KeySet := keys.foldl insert empty

@[simp]
theorem not_mem_empty (k : String) : k ∉ empty := List.not_mem_nil

@[simp]
theorem mem_insert {s : KeySet} {key k : String} : k ∈ s.insert key ↔ k = key ∨ k ∈ s :=
  mem_place

theorem mem_foldl_insert {keys : List String} {s : KeySet} {k : String} :
    k ∈ keys.foldl insert s ↔ k ∈ s ∨ k ∈ keys := by
  induction keys generalizing s with
  | nil => simp
  | cons a keys ih =>
    simp only [List.foldl_cons, ih, mem_insert, List.mem_cons]
    constructor
    · rintro ((h | h) | h) <;> simp [h]
    · rintro (h | h | h) <;> simp [h]

@[simp]
theorem mem_ofList {keys : List String} {k : String} : k ∈ ofList keys ↔ k ∈ keys := by
  simp [ofList, mem_foldl_insert]

/-- Ascending lists with the same members are equal. -/
theorem eq_of_mem_iff {ks ls : List String} (hk : ks.Pairwise (· < ·)) (hl : ls.Pairwise (· < ·))
    (h : ∀ k, k ∈ ks ↔ k ∈ ls) : ks = ls := by
  induction ks generalizing ls with
  | nil =>
    cases ls with
    | nil => rfl
    | cons b ls => exact absurd ((h b).2 List.mem_cons_self) List.not_mem_nil
  | cons a ks ih =>
    cases ls with
    | nil => exact absurd ((h a).1 List.mem_cons_self) List.not_mem_nil
    | cons b ls =>
      rw [List.pairwise_cons] at hk hl
      have hab : a = b := by
        rcases List.mem_cons.1 ((h a).1 List.mem_cons_self) with e | ha
        · exact e
        · rcases List.mem_cons.1 ((h b).2 List.mem_cons_self) with e | hb
          · exact e.symm
          · exact absurd (String.lt_trans (hl.1 a ha) (hk.1 b hb)) (String.lt_irrefl b)
      subst hab
      refine congrArg (a :: ·) (ih hk.2 hl.2 fun k => ?_)
      constructor
      · intro hm
        rcases List.mem_cons.1 ((h k).1 (List.mem_cons_of_mem a hm)) with e | hm'
        · exact absurd (e ▸ hk.1 k hm) (String.lt_irrefl a)
        · exact hm'
      · intro hm
        rcases List.mem_cons.1 ((h k).2 (List.mem_cons_of_mem a hm)) with e | hm'
        · exact absurd (e ▸ hl.1 k hm) (String.lt_irrefl a)
        · exact hm'

/-- Two sets with the same keys are equal. -/
theorem ext_mem {s t : KeySet} (h : ∀ k, k ∈ s ↔ k ∈ t) : s = t := by
  obtain ⟨ks, hk⟩ := s
  obtain ⟨ls, hl⟩ := t
  have : ks = ls := eq_of_mem_iff hk hl h
  subst this
  rfl

end KeySet

end BlockMaze
