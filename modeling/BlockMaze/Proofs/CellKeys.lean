-- The laws of cell keys. Two cells never share a key, so a set of keys counts
-- cells, and the key of a cell of a grid reads back as the cell. No text is
-- read but such keys.
import BlockMaze.World.CellKey
import Mathlib.Algebra.Group.Nat.Defs

namespace BlockMaze

/-! ## The text of a whole number -/

theorem toList_toString_int (x : Int) :
    (toString x).toList =
      if 0 ≤ x then Nat.toDigits 10 x.toNat else '-' :: Nat.toDigits 10 (-x).toNat := by
  rw [Int.toString_eq_repr, Int.repr_eq_if]
  split
  · rw [Nat.toList_repr]
  · rw [String.toList_append, Nat.toList_repr]
    rfl

theorem isDigit_of_mem_digits {n : Nat} {c : Char} (h : c ∈ Nat.toDigits 10 n) :
    c.isDigit = true := Nat.isDigit_of_mem_toDigits (by decide) (by decide) h

theorem comma_not_mem_int (x : Int) : ',' ∉ (toString x).toList := by
  intro h
  rw [toList_toString_int] at h
  split at h
  · exact absurd (isDigit_of_mem_digits h) (by decide)
  · rcases List.mem_cons.1 h with hc | h
    · exact absurd hc (by decide)
    · exact absurd (isDigit_of_mem_digits h) (by decide)

/-- Digits hold no sign, so a number with a sign is no number without one. -/
theorem digits_ne_minus {m : Nat} {rest : List Char} : Nat.toDigits 10 m ≠ '-' :: rest := by
  intro h
  have hm : '-' ∈ Nat.toDigits 10 m := by
    rw [h]
    exact List.mem_cons_self
  exact absurd (isDigit_of_mem_digits hm) (by decide)

/-- The whole number that digits write, with or without a minus in front. -/
def wholeOf : List Char → Int
  | '-' :: digits => -(Nat.ofDigitChars 10 digits 0 : Int)
  | digits => Nat.ofDigitChars 10 digits 0

theorem wholeOf_toString (x : Int) : wholeOf (toString x).toList = x := by
  rw [toList_toString_int]
  split
  · rename_i hx
    unfold wholeOf
    split
    · exact absurd ‹_› digits_ne_minus
    · rw [Nat.ofDigitChars_ten_toDigits]
      omega
  · unfold wholeOf
    simp only [Nat.ofDigitChars_ten_toDigits]
    omega

/-! ### Digits that write a number -/

theorem digit_of_isDigit {c : Char} (h : c.isDigit = true) :
    ∃ d, d < 10 ∧ Nat.toDigits 10 d = [c] := by
  have hc : 48 ≤ c.toNat ∧ c.toNat ≤ 57 := Char.isDigit_iff_toNat.1 h
  refine ⟨c.toNat - 48, by omega, ?_⟩
  have hd : (c.toNat - 48).digitChar = c := by
    apply Char.toNat_inj.1
    rw [Nat.toNat_digitChar_of_lt_ten (by omega)]
    omega
  rw [Nat.toDigits_of_lt_base (by omega), hd]

/-- Digits behind a positive number write a number. -/
theorem digits_append {cs : List Char} (h : cs.all Char.isDigit = true) {n : Nat} (hn : 0 < n) :
    ∃ m, Nat.toDigits 10 m = Nat.toDigits 10 n ++ cs := by
  induction cs generalizing n with
  | nil => exact ⟨n, by simp⟩
  | cons c cs ih =>
    rw [List.all_cons, Bool.and_eq_true] at h
    obtain ⟨d, hd, hc⟩ := digit_of_isDigit h.1
    obtain ⟨m, hm⟩ := ih h.2 (n := 10 * n + d) (by omega)
    refine ⟨m, ?_⟩
    rw [hm, ← Nat.toDigits_append_toDigits (by decide) hn hd, hc, List.append_assoc]
    rfl

/-! ## Keys -/

namespace Cell

theorem toList_key (c : Cell) :
    c.key.toList = (toString c.x).toList ++ ',' :: (toString c.y).toList := by
  unfold key
  rw [String.toList_append, String.toList_append, List.append_assoc]
  rfl

/-- The column of a key is what stands before the comma, and the row what stands behind it. -/
theorem key_parts (c : Cell) :
    c.key.toList.takeWhile (· != ',') = (toString c.x).toList ∧
      c.key.toList.dropWhile (· != ',') = ',' :: (toString c.y).toList := by
  have hx : ∀ a ∈ (toString c.x).toList, (a != ',') = true := by
    intro a ha
    have hne : a ≠ ',' := fun he => comma_not_mem_int c.x (he ▸ ha)
    simpa using hne
  rw [toList_key, List.takeWhile_append_of_pos hx, List.dropWhile_append_of_pos hx]
  simp

/-- The cell that a key stands for, whatever its size and its signs. -/
def atKey (k : String) : Cell :=
  ⟨wholeOf (k.toList.takeWhile (· != ',')), wholeOf (k.toList.dropWhile (· != ',')).tail⟩

@[simp]
theorem atKey_key (c : Cell) : atKey c.key = c := by
  obtain ⟨hx, hy⟩ := key_parts c
  unfold atKey
  rw [hx, hy, List.tail_cons, wholeOf_toString, wholeOf_toString]

/-- Two cells never share a key. -/
theorem key_injective {c d : Cell} (h : c.key = d.key) : c = d := by
  rw [← atKey_key c, h, atKey_key]

/-! ## Reading keys back -/

theorem digits_head_ne_zero {n : Nat} (h : 0 < n) : (Nat.toDigits 10 n).head? ≠ some '0' := by
  induction n using Nat.strongRecOn with
  | ind n ih =>
    by_cases hn : n < 10
    · rw [Nat.toDigits_of_lt_base hn]
      have : ∀ m < 10, 0 < m → ([m.digitChar] : List Char).head? ≠ some '0' := by decide
      exact this n hn h
    · have hrest := ih (n / 10) (by omega) (by omega)
      rw [Nat.toDigits_of_base_le (by decide) (by omega), List.head?_append]
      cases hd : (Nat.toDigits 10 (n / 10)).head? with
      | none => exact absurd (List.head?_eq_none_iff.1 hd) Nat.toDigits_ne_nil
      | some c =>
        rw [hd] at hrest
        exact hrest

theorem isCanonical_digits (n : Nat) : isCanonical (Nat.toDigits 10 n) = true := by
  by_cases hn : n = 0
  · subst hn
    rfl
  · have hhead := digits_head_ne_zero (n := n) (by omega)
    have hall : (Nat.toDigits 10 n).all Char.isDigit = true :=
      List.all_eq_true.2 fun c hc => isDigit_of_mem_digits hc
    unfold isCanonical
    split
    · exact absurd ‹_› Nat.toDigits_ne_nil
    · rfl
    · rename_i he
      rw [he] at hhead
      exact absurd rfl hhead
    · exact hall

theorem exists_digits_of_isCanonical {cs : List Char} (h : isCanonical cs = true) :
    ∃ n, Nat.toDigits 10 n = cs := by
  unfold isCanonical at h
  split at h
  · exact absurd h (by decide)
  · exact ⟨0, rfl⟩
  · exact absurd h (by decide)
  · rename_i hnil hzero hlead
    cases cs with
    | nil => exact absurd rfl hnil
    | cons c cs =>
      rw [List.all_cons, Bool.and_eq_true] at h
      obtain ⟨d, hd, hc⟩ := digit_of_isDigit h.1
      have hpos : 0 < d := by
        apply Nat.pos_of_ne_zero
        rintro rfl
        obtain rfl : '0' = c := by simpa using hc
        exact hlead cs rfl
      obtain ⟨n, hn⟩ := digits_append h.2 hpos
      exact ⟨n, by rw [hn, hc]; rfl⟩

theorem keyPart_digits {n : Nat} (h : n < 10 ^ Number.maxDigits) :
    keyPart (Nat.toDigits 10 n) = .ok (n : Int) := by
  have hlen : (Nat.toDigits 10 n).length ≤ Number.maxDigits :=
    (Nat.length_toDigits_le_iff (by decide) (by decide)).2 h
  unfold keyPart
  rw [if_neg (by omega), Nat.ofDigitChars_ten_toDigits]

theorem keyPart_too_long {n : Nat} (h : ¬ n < 10 ^ Number.maxDigits) :
    ∃ digits, Number.maxDigits < digits ∧
      keyPart (Nat.toDigits 10 n) = .error (.tooLong digits) := by
  have hlen : Number.maxDigits < (Nat.toDigits 10 n).length := by
    rw [← Nat.not_le, Nat.length_toDigits_le_iff (by decide) (by decide)]
    exact h
  exact ⟨_, hlen, if_pos hlen⟩

/-- The numbers of a cell have no more digits than are ever read. -/
def Readable (c : Cell) : Prop :=
  c.x.toNat < 10 ^ Number.maxDigits ∧ c.y.toNat < 10 ^ Number.maxDigits

section

variable {c : Cell}

theorem ofKey_key_eq (hx : 0 ≤ c.x) (hy : 0 ≤ c.y) :
    ofKey c.key = (do
      let x ← keyPart (Nat.toDigits 10 c.x.toNat)
      let y ← keyPart (Nat.toDigits 10 c.y.toNat)
      .ok ⟨x, y⟩) := by
  obtain ⟨hcol, hrow⟩ := key_parts c
  rw [toList_toString_int, if_pos hx] at hcol
  rw [toList_toString_int, if_pos hy] at hrow
  unfold ofKey
  simp only [hcol, hrow, isCanonical_digits, Bool.and_self, if_true]

/-- The key of a cell without a negative part reads back as the cell. -/
theorem ofKey_key (hx : 0 ≤ c.x) (hy : 0 ≤ c.y) (h : c.Readable) :
    ofKey c.key = .ok c := by
  rw [ofKey_key_eq hx hy, keyPart_digits h.1, keyPart_digits h.2, Int.toNat_of_nonneg hx,
    Int.toNat_of_nonneg hy]
  rfl

theorem ofKey_key_too_long (hx : 0 ≤ c.x) (hy : 0 ≤ c.y) (h : ¬ c.Readable) :
    ∃ digits, Number.maxDigits < digits ∧ ofKey c.key = .error (.tooLong digits) := by
  rw [ofKey_key_eq hx hy]
  by_cases hcol : c.x.toNat < 10 ^ Number.maxDigits
  · have hrow : ¬ c.y.toNat < 10 ^ Number.maxDigits := fun hrow => h ⟨hcol, hrow⟩
    obtain ⟨digits, hlong, hpart⟩ := keyPart_too_long hrow
    refine ⟨digits, hlong, ?_⟩
    rw [keyPart_digits hcol, hpart]
    rfl
  · obtain ⟨digits, hlong, hpart⟩ := keyPart_too_long hcol
    refine ⟨digits, hlong, ?_⟩
    rw [hpart]
    rfl

/-- A text that is not malformed is the key of a cell without a negative part. -/
theorem exists_cell_of_ofKey {k : String} (h : ofKey k ≠ .error (.malformed k)) :
    ∃ c : Cell, 0 ≤ c.x ∧ 0 ≤ c.y ∧ k = c.key := by
  unfold ofKey at h
  simp only at h
  split at h
  · rename_i row hrow
    split at h
    · rename_i hparts
      rw [Bool.and_eq_true] at hparts
      obtain ⟨n, hn⟩ := exists_digits_of_isCanonical hparts.1
      obtain ⟨m, hm⟩ := exists_digits_of_isCanonical hparts.2
      refine ⟨⟨n, m⟩, Int.natCast_nonneg n, Int.natCast_nonneg m, ?_⟩
      apply String.toList_injective
      rw [toList_key, ← List.takeWhile_append_dropWhile (p := (· != ',')) (l := k.toList), hrow,
        ← hn, ← hm]
      simp only [toList_toString_int, Int.natCast_nonneg, if_true, Int.toNat_natCast]
    · exact absurd rfl h
  · exact absurd rfl h

/-- The key of a cell with a negative part is malformed. -/
theorem ofKey_of_neg (h : c.x < 0 ∨ c.y < 0) : ofKey c.key = .error (.malformed c.key) := by
  apply Classical.byContradiction
  intro hne
  obtain ⟨d, hx, hy, hkey⟩ := exists_cell_of_ofKey hne
  obtain rfl := key_injective hkey
  omega

/-- The texts that are read are the keys of cells without a negative part and with few enough
digits. -/
theorem ofKey_eq_ok {k : String} :
    ofKey k = .ok c ↔ 0 ≤ c.x ∧ 0 ≤ c.y ∧ c.Readable ∧ k = c.key := by
  constructor
  · intro h
    obtain ⟨d, hx, hy, rfl⟩ := exists_cell_of_ofKey (k := k) (by rw [h]; simp)
    by_cases hr : d.Readable
    · rw [ofKey_key hx hy hr, Except.ok.injEq] at h
      subst h
      exact ⟨hx, hy, hr, rfl⟩
    · obtain ⟨digits, -, hlong⟩ := ofKey_key_too_long hx hy hr
      rw [hlong] at h
      cases h
  · rintro ⟨hx, hy, hr, rfl⟩
    exact ofKey_key hx hy hr

/-- A text that is not read is malformed, or it has too many digits. -/
theorem ofKey_refused {k : String} (h : ∀ c, ofKey k ≠ .ok c) :
    ofKey k = .error (.malformed k) ∨
      ∃ digits, Number.maxDigits < digits ∧ ofKey k = .error (.tooLong digits) := by
  by_cases hk : ofKey k = .error (.malformed k)
  · exact Or.inl hk
  · obtain ⟨c, hx, hy, rfl⟩ := exists_cell_of_ofKey hk
    exact Or.inr (ofKey_key_too_long hx hy fun hr => h c (ofKey_key hx hy hr))

end

/-- Cells and keys stand for each other. The key of a cell reads back as the cell unless a part of
it is negative, and then it is malformed; two cells never share a key; and of all texts, torn ones
included, exactly the keys of cells without a negative part are read, each as its cell, as long as
the numbers have no more digits than are ever read. Any other text is malformed or too long. -/
theorem cells_and_keys_stand_for_each_other :
    (∀ c : Cell, c.x.natAbs < 10 ^ Number.maxDigits → c.y.natAbs < 10 ^ Number.maxDigits →
      (0 ≤ c.x ∧ 0 ≤ c.y → ofKey c.key = .ok c) ∧
        (¬ (0 ≤ c.x ∧ 0 ≤ c.y) → ofKey c.key = .error (.malformed c.key))) ∧
      (∀ c d : Cell, c.key = d.key → c = d) ∧
      (∀ (text : Wording) (c : Cell), ofKeyDoc (.str text) = .ok c ↔
        0 ≤ c.x ∧ 0 ≤ c.y ∧ c.Readable ∧ text = .text c.key) ∧
      ∀ text : Wording, (∀ c, ofKeyDoc (.str text) ≠ .ok c) →
        ofKeyDoc (.str text) = .error (.malformed text) ∨
          ∃ digits, Number.maxDigits < digits ∧
            ofKeyDoc (.str text) = .error (.tooLong digits) := by
  refine ⟨?_, fun c d => key_injective, ?_, ?_⟩
  · intro c hx hy
    refine ⟨fun hpos => ofKey_key hpos.1 hpos.2 ⟨by omega, by omega⟩, fun hneg => ?_⟩
    exact ofKey_of_neg (by omega)
  · intro text c
    cases text with
    | text k => simpa [ofKeyDoc] using ofKey_eq_ok
    | torn pieces => simp [ofKeyDoc]
  · intro text h
    cases text with
    | text k => exact ofKey_refused h
    | torn pieces => exact Or.inl rfl

example :
    ∀ k ∈ ["", ",", "12", "01,2", "+1,2", "-1,2", "1, 2", "1,2\n", "1,2,3", "\u0661,2"],
      (ofKey k).toOption = none := by decide

end Cell

end BlockMaze
