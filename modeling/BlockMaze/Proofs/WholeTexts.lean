-- Whole numbers in texts. The plain and the broad reading take different
-- texts, but a text that both take is one number for both: each gives the
-- number that the text shows by its digits and its minus.
import BlockMaze.Number.Whole
import Mathlib.Data.List.Basic
import Mathlib.Data.List.TakeWhile

namespace BlockMaze.Number

open Text

/-! ## The number that a text shows -/

/-- The magnitude that the digits of a text write, whatever stands between them. -/
def figure (cs : List Char) : Nat := ofDigits (cs.filterMap decimalValue?)

/-- The number that a text shows: the figure of its digits, negative if there is a minus. -/
def sense (cs : List Char) : Int := signed (cs.contains '-') (figure cs)

/-- Two texts with one figure that agree on having a minus and a point. -/
structure ShowSame (cs ds : List Char) : Prop where
  figure : figure cs = figure ds
  minus : '-' ∈ cs ↔ '-' ∈ ds
  point : '.' ∈ cs ↔ '.' ∈ ds

theorem ShowSame.refl (cs : List Char) : ShowSame cs cs := ⟨rfl, .rfl, .rfl⟩

theorem ShowSame.trans {as bs cs : List Char} (h : ShowSame as bs) (h' : ShowSame bs cs) :
    ShowSame as cs :=
  ⟨h.figure.trans h'.figure, h.minus.trans h'.minus, h.point.trans h'.point⟩

theorem ShowSame.sense {cs ds : List Char} (h : ShowSame cs ds) : sense cs = sense ds := by
  have hminus : cs.contains '-' = ds.contains '-' := by
    rw [Bool.eq_iff_iff, List.contains_iff_mem, List.contains_iff_mem]
    exact h.minus
  unfold Number.sense
  rw [hminus, h.figure]

/-! ## Characters that show nothing -/

/-- A character that is no digit, no minus and no point. -/
structure Silent (c : Char) : Prop where
  digit : decimalValue? c = none
  minus : c ≠ '-'
  point : c ≠ '.'

theorem silent_plus : Silent '+' := ⟨by decide, by decide, by decide⟩

theorem silent_underscore : Silent '_' := ⟨by decide, by decide, by decide⟩

theorem silent_of_isWhiteSpace {c : Char} (h : isWhiteSpace c = true) : Silent c := by
  -- No range of white space meets the ten digits of a script.
  have happart : ∀ r ∈ whiteSpace, ∀ first ∈ zeroDigits, r.2 < first ∨ first + 10 ≤ r.1 := by
    decide
  obtain ⟨r, hr, hrange⟩ := List.any_eq_true.1 h
  simp only [Bool.and_eq_true, decide_eq_true_eq] at hrange
  refine ⟨?_, ?_, ?_⟩
  · unfold decimalValue?
    rw [Option.map_eq_none_iff, List.find?_eq_none]
    intro first hfirst
    have := happart r hr first hfirst
    simp only [Bool.and_eq_true, decide_eq_true_eq]
    omega
  · rintro rfl
    exact absurd h (by decide)
  · rintro rfl
    exact absurd h (by decide)

theorem showSame_append_left (before cs : List Char) (h : ∀ c ∈ before, Silent c) :
    ShowSame (before ++ cs) cs := by
  induction before with
  | nil => exact .refl cs
  | cons c before ih =>
    have hc := h c List.mem_cons_self
    refine .trans ?_ (ih fun d hd => h d (List.mem_cons_of_mem c hd))
    exact ⟨by simp [figure, hc.digit], by simp [hc.minus.symm], by simp [hc.point.symm]⟩

theorem showSame_append_right (cs after : List Char) (h : ∀ c ∈ after, Silent c) :
    ShowSame (cs ++ after) cs := by
  have hnone : after.filterMap decimalValue? = [] :=
    List.filterMap_eq_nil_iff.2 fun c hc => (h c hc).digit
  have hminus : '-' ∉ after := fun hmem => (h _ hmem).minus rfl
  have hpoint : '.' ∉ after := fun hmem => (h _ hmem).point rfl
  exact ⟨by simp [figure, hnone], by simp [hminus], by simp [hpoint]⟩

theorem showSame_plus (cs : List Char) : ShowSame ('+' :: cs) cs :=
  showSame_append_left ['+'] cs (by simpa using silent_plus)

theorem showSame_filter {keep : Char → Bool} (h : ∀ c, keep c = false → Silent c)
    (cs : List Char) : ShowSame (cs.filter keep) cs := by
  have hminus : keep '-' = true := by
    by_contra hlost
    exact (h '-' (by simpa using hlost)).minus rfl
  have hpoint : keep '.' = true := by
    by_contra hlost
    exact (h '.' (by simpa using hlost)).point rfl
  refine ⟨?_, by simp [hminus], by simp [hpoint]⟩
  unfold figure
  rw [List.filterMap_filter]
  congr 1
  refine List.filterMap_congr fun c _ => ?_
  split
  · rfl
  · rename_i hlost
    exact (h c (by simpa using hlost)).digit.symm

/-! ## Bare numbers -/

theorem decimalValue?_of_isDigit {c : Char} (h : c.isDigit = true) :
    decimalValue? c = some (c.toNat - '0'.toNat) := by
  obtain ⟨hlow, hhigh⟩ := Char.isDigit_iff_toNat.1 h
  have hfirst : 0x30 ≤ c.toNat ∧ c.toNat < 0x30 + 10 := by
    change 48 ≤ c.toNat at hlow
    change c.toNat ≤ 57 at hhigh
    omega
  unfold decimalValue? zeroDigits
  rw [List.find?_cons_of_pos (by simpa using hfirst)]
  rfl

/-- Digits 0 to 9 show the number that they write. -/
theorem figure_of_isDigit {cs : List Char} (h : ∀ c ∈ cs, c.isDigit = true) :
    figure cs = Nat.ofDigitChars 10 cs 0 := by
  have hvalues : cs.filterMap decimalValue? = cs.map fun c => c.toNat - '0'.toNat := by
    rw [← List.filterMap_eq_map]
    exact List.filterMap_congr fun c hc => decimalValue?_of_isDigit (h c hc)
  unfold figure ofDigits Nat.ofDigitChars
  rw [hvalues, List.foldl_map]
  simp only [Nat.mul_comm]

/-- A bare number is digits 0 to 9, with a minus before them or without one. -/
theorem readBare_eq_ok {cs : List Char} {n : Int} (h : readBare cs = .ok n) :
    ∃ negative rest, cs = (if negative then '-' :: rest else rest) ∧
      (∀ c ∈ rest, c.isDigit = true) ∧ n = signed negative (Nat.ofDigitChars 10 rest 0) := by
  unfold readBare at h
  split at h
  rename_i negative rest hsplit
  have hcs : cs = (if negative then '-' :: rest else rest) := by
    split at hsplit
    · cases hsplit
      rfl
    · cases hsplit
      rfl
  refine ⟨negative, rest, hcs, ?_⟩
  simp only at h
  split at h
  · rename_i hzero
    cases h
    subst hzero
    exact ⟨List.forall_mem_singleton.2 (by decide), by cases negative <;> rfl⟩
  split at h
  · cases h
  split at h
  · cases h
  split at h
  · cases h
  rename_i hlength
  have hall : rest.takeWhile Char.isDigit = rest :=
    (List.takeWhile_sublist _).eq_of_length_le (by omega)
  cases h
  rw [hall]
  exact ⟨List.all_eq_true.1 (hall ▸ List.all_takeWhile), rfl⟩

theorem sense_of_readBare {cs : List Char} {n : Int} (h : readBare cs = .ok n) : n = sense cs := by
  obtain ⟨negative, rest, rfl, hdigits, rfl⟩ := readBare_eq_ok h
  have hminus : '-' ∉ rest := fun hmem => absurd (hdigits _ hmem) (by decide)
  rw [← figure_of_isDigit hdigits]
  cases negative with
  | true => simp [sense, figure, show decimalValue? '-' = none by decide]
  | false => simp [sense, hminus]

/-! ## The plain reading -/

/-- Zeros and underscores in front do not count. -/
theorem showSame_cons {c : Char} (h : c = '0' ∨ c = '_') (cs : List Char) :
    ShowSame (c :: cs) cs := by
  rcases h with rfl | rfl
  · refine ⟨?_, by simp, by simp⟩
    unfold figure
    rw [List.filterMap_cons_some (show decimalValue? '0' = some 0 by decide)]
    rfl
  · exact showSame_append_left ['_'] cs (by simpa using silent_underscore)

theorem showSame_of_pastZeros? {last : Char} {cs ds : List Char} (hlast : last = '0' ∨ last = '_')
    (h : pastZeros? last cs = some ds) : ShowSame (last :: cs) ds := by
  induction cs generalizing last with
  | nil =>
    cases h
    exact .refl _
  | cons c cs ih =>
    unfold pastZeros? at h
    split at h
    · rename_i hc
      exact (showSame_cons hlast _).trans (ih (by simpa using hc) h)
    split at h
    · cases h
      exact showSame_cons hlast _
    split at h
    · cases h
      exact .refl _
    · cases h

theorem showSame_of_cutZeros? {cs ds : List Char} (h : cutZeros? cs = some ds) :
    ShowSame cs ds := by
  unfold cutZeros? at h
  split at h
  · exact showSame_of_pastZeros? (.inl rfl) h
  · split at h
    · cases h
      exact .refl _
    · cases h
  · cases h

theorem showSame_of_cutFront? {cs ds : List Char} (h : cutFront? cs = some ds) :
    ShowSame cs ds := by
  unfold cutFront? at h
  split at h
  · cases h
  · exact (showSame_plus _).trans (showSame_of_cutZeros? h)
  · obtain ⟨rest, hrest, rfl⟩ := Option.map_eq_some_iff.1 h
    have hsame := showSame_of_cutZeros? hrest
    refine ⟨?_, by simp, by simp [hsame.point]⟩
    have hnone : decimalValue? '-' = none := by decide
    simpa [figure, hnone] using hsame.figure
  · exact showSame_of_cutZeros? h

theorem silent_of_mem_takeWhile (cs : List Char) :
    ∀ c ∈ cs.takeWhile isWhiteSpace, Silent c := fun c hc =>
  silent_of_isWhiteSpace (List.all_eq_true.1 List.all_takeWhile c hc)

theorem showSame_dropWhile (cs : List Char) : ShowSame cs (cs.dropWhile isWhiteSpace) := by
  have h := showSame_append_left _ (cs.dropWhile isWhiteSpace) (silent_of_mem_takeWhile cs)
  rwa [List.takeWhile_append_dropWhile] at h

theorem showSame_trim (cs : List Char) : ShowSame cs (trim cs) := by
  refine (showSame_dropWhile cs).trans ?_
  unfold trim
  generalize cs.dropWhile isWhiteSpace = front
  -- The white space behind is the white space in front of the text read backwards.
  have hsplit : (front.reverse.dropWhile isWhiteSpace).reverse ++
      (front.reverse.takeWhile isWhiteSpace).reverse = front := by
    rw [← List.reverse_append, List.takeWhile_append_dropWhile, List.reverse_reverse]
  have h := showSame_append_right (front.reverse.dropWhile isWhiteSpace).reverse
    (front.reverse.takeWhile isWhiteSpace).reverse
    (fun c hc => silent_of_mem_takeWhile _ c (List.mem_reverse.1 hc))
  rwa [hsplit] at h

theorem cutZeroFraction_of_not_mem {cs : List Char} (h : '.' ∉ cs) : cutZeroFraction cs = cs := by
  have hnil : cs.dropWhile (· != '.') = [] := by
    rw [List.dropWhile_eq_nil_iff]
    intro c hc
    have hne : c ≠ '.' := fun he => h (he ▸ hc)
    simpa using hne
  unfold cutZeroFraction
  rw [hnil]

theorem showSame_cutUnderscores (cs : List Char) : ShowSame (cutUnderscores cs) cs := by
  unfold cutUnderscores
  split
  · exact .refl cs
  · refine showSame_filter (fun c hc => ?_) cs
    obtain rfl : c = '_' := by simpa using hc
    exact silent_underscore

/-- A text without a point that the plain reading takes is the number that it shows. -/
theorem sense_of_readPlain {cs : List Char} {n : Int} (hpoint : '.' ∉ cs)
    (h : readPlain cs = .ok n) : n = sense cs := by
  unfold readPlain at h
  split at h
  · rename_i hbare
    cases h
    exact sense_of_readBare hbare
  · cases h
  split at h
  · rename_i hform
    cases h
    obtain ⟨form, hform, hbare⟩ := Option.map_eq_some_iff.1 hform
    obtain ⟨front, hfront, rfl⟩ := Option.map_eq_some_iff.1 hform
    have hsame := (showSame_trim cs).trans (showSame_of_cutFront? hfront)
    rw [cutZeroFraction_of_not_mem (hsame.point.not.1 hpoint)] at hbare
    rw [sense_of_readBare hbare, (showSame_cutUnderscores front).sense, hsame.sense]
  · cases h

/-! ## The broad reading -/

theorem digitRow?_eq_some {cs : List Char} {digits : List Nat}
    (h : digitRow? decimalValue? cs = some digits) : cs.filterMap decimalValue? = digits := by
  have hnone := silent_underscore.digit
  induction cs using digitRow?.induct generalizing digits with
  | case1 => cases h
  | case2 c =>
    obtain ⟨d, hd, rfl⟩ := Option.map_eq_some_iff.1 h
    simp [hd]
  | case3 c rest ih =>
    simp only [digitRow?, Option.bind_eq_bind, Option.bind_eq_some_iff] at h
    obtain ⟨d, hd, ds, hds, hdigits⟩ := h
    cases hdigits
    simp [hd, hnone, ih hds]
  | case4 c rest hne hnext ih =>
    rw [digitRow?.eq_4 _ c rest hne hnext] at h
    simp only [Option.bind_eq_bind, Option.bind_eq_some_iff] at h
    obtain ⟨d, hd, ds, hds, hdigits⟩ := h
    cases hdigits
    simp [hd, ih hds]

/-- The characters of a row are neither a minus nor a point. -/
theorem not_mem_row (cs : List Char) :
    '-' ∉ cs.takeWhile isInRow ∧ '.' ∉ cs.takeWhile isInRow := by
  have hrow : ∀ c ∈ cs.takeWhile isInRow, isInRow c = true := List.all_eq_true.1 List.all_takeWhile
  exact ⟨fun h => absurd (hrow _ h) (by decide), fun h => absurd (hrow _ h) (by decide)⟩

theorem splitSign_cases (cs : List Char) :
    (∃ rest, cs = '-' :: rest ∧ splitSign cs = (true, rest)) ∨
      ∃ rest, splitSign cs = (false, rest) ∧ ShowSame cs rest := by
  unfold splitSign
  split
  · exact .inl ⟨_, rfl, rfl⟩
  · exact .inr ⟨_, rfl, showSame_plus _⟩
  · exact .inr ⟨_, rfl, .refl _⟩

/-- A text that the broad reading takes is the number that it shows, and has no point. -/
theorem sense_of_readBroad {cs : List Char} {n : Int} (h : readBroad cs = .ok n) :
    n = sense cs ∧ '.' ∉ cs := by
  unfold readBroad at h
  split at h
  rename_i negative rest hsign
  split at h
  · cases h
  rename_i digits hdigits
  split at h
  · cases h
  split at h
  · rename_i hblank
    cases h
    -- Behind the sign there is a row of digits and then white space.
    have hrest := showSame_append_right (rest.takeWhile isInRow) _ fun c hc =>
      silent_of_isWhiteSpace (List.all_eq_true.1 hblank c hc)
    rw [List.takeWhile_append_dropWhile] at hrest
    have hminus : '-' ∉ rest := hrest.minus.not.2 (not_mem_row rest).1
    have hpoint : '.' ∉ rest := hrest.point.not.2 (not_mem_row rest).2
    have hfigure : ofDigits digits = figure rest := by
      rw [hrest.figure, figure, digitRow?_eq_some hdigits]
    have hfront := showSame_dropWhile cs
    obtain ⟨rest', hcs, hsplit⟩ | ⟨rest', hsplit, hsame⟩ :=
      splitSign_cases (cs.dropWhile isWhiteSpace)
    · rw [hsplit] at hsign
      cases hsign
      rw [hfront.sense, hfront.point, hcs, hfigure]
      simp [sense, figure, show decimalValue? '-' = none by decide, hpoint]
    · rw [hsplit] at hsign
      cases hsign
      have hall := hfront.trans hsame
      rw [hall.sense, hall.point, hfigure]
      simp [sense, hminus, hpoint]
  · cases h

/-! ## Both readings -/

/-- The readings agree on every text that both take. -/
theorem readBroad_eq_readPlain {cs : List Char} {m n : Int} (hplain : readPlain cs = .ok n)
    (hbroad : readBroad cs = .ok m) : m = n := by
  obtain ⟨rfl, hpoint⟩ := sense_of_readBroad hbroad
  exact (sense_of_readPlain hpoint hplain).symm

end BlockMaze.Number
