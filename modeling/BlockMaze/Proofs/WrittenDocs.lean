-- Documents as text and back. A document that fits where it is read is read
-- from its text as it was, on one line or indented: its texts are escaped and
-- its fields named without loss. Only a number with too many digits is
-- written and not read, and the first such number is the fault.
import BlockMaze.Doc.Reader
import BlockMaze.Doc.Writer
import BlockMaze.Proofs.CellKeys
import Mathlib.Tactic.SplitIfs

namespace BlockMaze.Doc

open Number Text

/-! ## Texts -/

/-- A character joins what is read behind it. -/
def joined (c : Char) : Option (List Piece × List Char) → Option (List Piece × List Char) :=
  Option.map fun (ps, rest) => (.char c :: ps, rest)

theorem readPieces_escaped {e c : Char} (h : escaped? e = some c) (rest : List Char) :
    readPieces ('\\' :: e :: rest) = joined c (readPieces rest) := by
  have hu : e ≠ 'u' := by
    rintro rfl
    cases h
  rw [readPieces.eq_4 e rest fun _ _ _ _ _ he _ => hu he, h]
  cases readPieces rest <;> rfl

theorem hexPadded_control : ∀ n < 0x20,
    hexPadded 4 n = ['0', '0', (n / 16).digitChar, (n % 16).digitChar] ∧
      hexQuad? '0' '0' (n / 16).digitChar (n % 16).digitChar = some n := by decide

theorem readPieces_control {c : Char} (h : c.toNat < 0x20) (rest : List Char) :
    readPieces ('\\' :: 'u' :: hexPadded 4 c.toNat ++ rest) = joined c (readPieces rest) := by
  obtain ⟨hpad, hquad⟩ := hexPadded_control c.toNat h
  have hcode : Piece.ofCode c.toNat = .char c := by
    unfold Piece.ofCode Piece.isHigh Piece.isLow
    rw [if_neg (by simp; omega), Char.ofNat_toNat]
  rw [hpad]
  simp only [List.cons_append, List.nil_append, readPieces, hquad]
  cases readPieces rest with
  | none => rfl
  | some p => simp [joined, hcode]

theorem readPieces_plain {c : Char} (hq : c ≠ '"') (hb : c ≠ '\\') (hc : ¬ c.toNat < 0x20)
    (rest : List Char) : readPieces (c :: rest) = joined c (readPieces rest) := by
  rw [readPieces.eq_5 c rest hq (fun _ _ _ _ _ he _ => hb he) fun _ _ he _ => hb he, if_neg hc]
  cases readPieces rest <;> rfl

/-- A written character is read as one piece. -/
theorem readPieces_writeChar (c : Char) (rest : List Char) :
    readPieces (writeChar c ++ rest) = joined c (readPieces rest) := by
  unfold writeChar
  split_ifs with hq hb h8 ht hn hf hr hc
  · exact readPieces_escaped (by rw [hq]; rfl) rest
  · exact readPieces_escaped (by rw [hb]; rfl) rest
  · exact readPieces_escaped (by rw [h8]; rfl) rest
  · exact readPieces_escaped (by rw [ht]; rfl) rest
  · exact readPieces_escaped (by rw [hn]; rfl) rest
  · exact readPieces_escaped (by rw [hf]; rfl) rest
  · exact readPieces_escaped (by rw [hr]; rfl) rest
  · exact readPieces_control hc rest
  · exact readPieces_plain hq hb hc rest

theorem readPieces_written (cs rest : List Char) :
    readPieces (cs.flatMap writeChar ++ '"' :: rest) = some (cs.map .char, rest) := by
  induction cs with
  | nil => rfl
  | cons c cs ih =>
    rw [List.flatMap_cons, List.append_assoc, readPieces_writeChar, ih]
    rfl

theorem join_chars (cs : List Char) : Piece.join (cs.map .char) = cs.map .char := by
  induction cs with
  | nil => rfl
  | cons c cs ih => simp [Piece.join, ih]

theorem ofPieces_chars (cs : List Char) :
    Wording.ofPieces (cs.map .char) = .text (String.ofList cs) := by
  have hchars : (cs.map Piece.char).mapM Piece.char? = some cs := by
    induction cs with
    | nil => rfl
    | cons c cs ih => rw [List.map_cons, List.mapM_cons, ih]; rfl
  unfold Wording.ofPieces
  rw [hchars]

/-- A written text is read as it was, up to its closing quote. -/
theorem readText_written (rules : ReadRules) (s : String) (rest : List Char) :
    readText rules (s.toList.flatMap writeChar ++ '"' :: rest) = .ok (.text s, rest) := by
  unfold readText
  rw [readPieces_written]
  simp only [join_chars, ofPieces_chars, String.ofList_toList]

/-! ## Numbers -/

/-- The number of digits that a whole number is written with. -/
def digitCount (n : Int) : Nat := (Nat.toDigits 10 n.natAbs).length

/-- Whether whole numbers are short enough to be read. The first that is not is the fault. -/
def spell : List Int → Except ReadFault Unit
  | [] => .ok ()
  | n :: ns =>
    if maxDigits < digitCount n then .error (.numberTooLong (digitCount n)) else spell ns

theorem spell_append (ns ms : List Int) : spell (ns ++ ms) = spell ns >>= fun _ => spell ms := by
  induction ns with
  | nil => rfl
  | cons n ns ih =>
    rw [List.cons_append, spell, spell]
    split
    · rfl
    · exact ih

theorem spell_eq_ok {ns : List Int} : spell ns = .ok () ↔ ∀ n ∈ ns, digitCount n ≤ maxDigits := by
  induction ns with
  | nil => simp [spell]
  | cons n ns ih =>
    rw [spell, List.forall_mem_cons]
    split
    · rename_i h
      simp [Nat.not_le.2 h]
    · rename_i h
      simp [ih, Nat.not_lt.1 h]

/-- No number goes on into the text. -/
def EndsNumber (cs : List Char) : Prop :=
  ∀ c ∈ cs.head?, c.isDigit = false ∧ c ≠ '.' ∧ c ≠ 'e' ∧ c ≠ 'E'

theorem splitWhole_digits (n : Nat) {rest : List Char} (h : EndsNumber rest) :
    splitWhole (Nat.toDigits 10 n ++ rest) = (Nat.toDigits 10 n, rest) := by
  by_cases hn : n = 0
  · subst hn
    rfl
  · have hdigits : ∀ c ∈ Nat.toDigits 10 n, c.isDigit = true := fun c => isDigit_of_mem_digits
    have hhead := Cell.digits_head_ne_zero (n := n) (by omega)
    have htake : rest.takeWhile Char.isDigit = [] := by
      cases rest with
      | nil => rfl
      | cons c cs => simp [(h c rfl).1]
    have hdrop : rest.dropWhile Char.isDigit = rest := by
      cases rest with
      | nil => rfl
      | cons c cs => simp [(h c rfl).1]
    unfold splitWhole
    split
    · rename_i rest' he
      cases hd : Nat.toDigits 10 n with
      | nil => exact absurd hd Nat.toDigits_ne_nil
      | cons d ds =>
        rw [hd] at he hhead
        simp only [List.cons_append, List.cons.injEq] at he
        exact absurd (congrArg some he.1) hhead
    · unfold splitDigits
      rw [List.takeWhile_append_of_pos hdigits, List.dropWhile_append_of_pos hdigits, htake, hdrop,
        List.append_nil]

theorem splitFraction_of_ends {rest : List Char} (h : EndsNumber rest) :
    splitFraction rest = ([], rest) := by
  unfold splitFraction
  split
  · exact absurd rfl (h '.' rfl).2.1
  · rfl

theorem splitPower_of_ends {rest : List Char} (h : EndsNumber rest) :
    splitPower rest = (none, rest) := by
  cases rest with
  | nil => rfl
  | cons c cs =>
    obtain ⟨-, -, he, hE⟩ := h c rfl
    simp [splitPower, he, hE]

/-- The digits of a number are read as the number, unless they are too many. -/
theorem readMagnitude_digits (rules : ReadRules) (negative : Bool) (n : Nat) {rest : List Char}
    (h : EndsNumber rest) :
    readMagnitude rules negative (Nat.toDigits 10 n ++ rest) =
      if maxDigits < (Nat.toDigits 10 n).length then
        .error (.numberTooLong (Nat.toDigits 10 n).length)
      else .ok (.int (signed negative n), rest) := by
  have hne : (Nat.toDigits 10 n).isEmpty = false := by simp [Nat.toDigits_ne_nil]
  unfold readMagnitude
  rw [splitWhole_digits n h]
  simp only [splitFraction_of_ends h, splitPower_of_ends h]
  simp [hne, Nat.ofDigitChars_ten_toDigits]

theorem ne_of_isDigit {c d : Char} (hd : d.isDigit = true) (hc : c.isDigit = false) : c ≠ d := by
  rintro rfl
  rw [hd] at hc
  cases hc

/-- Digits begin with no word, with or without a minus in front. -/
theorem readWord_digit {d : Char} (h : d.isDigit = true) (cs : List Char) :
    readWord (d :: cs) words = none ∧ readWord ('-' :: d :: cs) words = none := by
  constructor
  · simp [words, readWord, dropWord?, ne_of_isDigit h]
  · simp [words, readWord, dropWord?, ne_of_isDigit h]

theorem digits_eq_cons (n : Nat) : ∃ d ds, Nat.toDigits 10 n = d :: ds ∧ d.isDigit = true := by
  cases hd : Nat.toDigits 10 n with
  | nil => exact absurd hd Nat.toDigits_ne_nil
  | cons d ds => exact ⟨d, ds, rfl, isDigit_of_mem_digits (n := n) (by simp [hd])⟩

theorem readLeaf_digits (rules : ReadRules) (n : Nat) (rest : List Char) :
    readLeaf rules (Nat.toDigits 10 n ++ rest) =
        readMagnitude rules false (Nat.toDigits 10 n ++ rest) ∧
      readLeaf rules ('-' :: Nat.toDigits 10 n ++ rest) =
        readMagnitude rules true (Nat.toDigits 10 n ++ rest) := by
  obtain ⟨d, ds, hds, hd⟩ := digits_eq_cons n
  obtain ⟨hword, hminus⟩ := readWord_digit hd (ds ++ rest)
  have hquote : '"' ≠ d := ne_of_isDigit hd (by decide)
  have hsign : '-' ≠ d := ne_of_isDigit hd (by decide)
  rw [hds]
  constructor
  · unfold readLeaf
    split
    · rename_i he
      exact absurd (List.cons.inj he).1.symm hquote
    · rw [List.cons_append, hword]
      simp [hsign.symm]
  · simp [readLeaf, hminus]

/-- A written number is read as it was, unless it is too long. -/
theorem readLeaf_int (rules : ReadRules) (n : Int) {rest : List Char} (h : EndsNumber rest) :
    readLeaf rules ((toString n).toList ++ rest) = spell [n] >>= fun _ => .ok (.int n, rest) := by
  have hread : readLeaf rules ((toString n).toList ++ rest) =
      readMagnitude rules (decide (n < 0)) (Nat.toDigits 10 n.natAbs ++ rest) := by
    rw [toList_toString_int]
    split
    · rename_i hn
      rw [(readLeaf_digits rules n.toNat rest).1, show n.toNat = n.natAbs by omega,
        decide_eq_false (by omega)]
    · rename_i hn
      rw [(readLeaf_digits rules (-n).toNat rest).2, show (-n).toNat = n.natAbs by omega,
        decide_eq_true (by omega)]
  have hsigned : signed (decide (n < 0)) n.natAbs = n := by
    unfold signed
    by_cases hn : n < 0
    · rw [if_pos (decide_eq_true hn)]
      omega
    · rw [if_neg (by simpa using hn)]
      omega
  rw [hread, readMagnitude_digits rules _ _ h, hsigned, spell]
  unfold digitCount
  split <;> rfl

/-! ## Gaps -/

theorem skipGap_break (spread : Spread) (cs : List Char) :
    skipGap (spread.break ++ cs) = skipGap cs := by
  unfold skipGap
  cases spread with
  | line => rfl
  | lines level =>
    have hgap : ∀ c ∈ (Spread.lines level).break, isGap c = true := by
      intro c hc
      rcases List.mem_cons.1 hc with rfl | hc
      · rfl
      · rw [List.eq_of_mem_replicate hc]
        rfl
    rw [List.dropWhile_append_of_pos hgap]

theorem skipGap_cons {c : Char} (h : isGap c = false) (cs : List Char) :
    skipGap (c :: cs) = c :: cs := by
  simp [skipGap, h]

theorem skipGap_colon (spread : Spread) (cs : List Char) :
    ∃ rest, spread.colon ++ cs = ':' :: rest ∧ skipGap rest = skipGap cs := by
  cases spread with
  | line => exact ⟨cs, rfl, rfl⟩
  | lines level => exact ⟨' ' :: cs, rfl, rfl⟩

theorem colon_inner (spread : Spread) : spread.inner.colon = spread.colon := by
  cases spread <;> rfl

theorem endsNumber_cons {c : Char} (h : c = ',' ∨ c = ']' ∨ c = '}' ∨ c = '\n') (cs : List Char) :
    EndsNumber (c :: cs) := by
  intro d hd
  obtain rfl : c = d := by simpa using hd
  rcases h with rfl | rfl | rfl | rfl <;> decide

theorem endsNumber_break (spread : Spread) {cs : List Char} (h : EndsNumber cs) :
    EndsNumber (spread.break ++ cs) := by
  cases spread with
  | line => exact h
  | lines level => exact endsNumber_cons (by simp) _

/-! ## Documents -/

mutual

/-- The whole numbers of a document in the order in which they are written. -/
def numbers : Doc → List Int
  | .int n => [n]
  | .arr items => numbersOf items
  | .obj fields => numbersIn fields
  | _ => []

/-- The whole numbers of some documents. -/
def numbersOf : List Doc → List Int
  | [] => []
  | item :: items => numbers item ++ numbersOf items

/-- The whole numbers of some fields. -/
def numbersIn : List (Wording × Doc) → List Int
  | [] => []
  | (_, value) :: fields => numbers value ++ numbersIn fields

end

/-- A text made of characters only. -/
def Untorn (w : Wording) : Prop := ∃ s, w = .text s

mutual

/-- A document that can stand inside `depth` others where it is read: its texts are made of
characters, its numbers are whole, no name stands twice in an object, and no array or object is
nested too deep. -/
def Fits (rules : ReadRules) : Nat → Doc → Prop
  | _, .real _ => False
  | _, .str s => Untorn s
  | depth, .arr items =>
    rules.admits (depth + 1) items.isEmpty = true ∧ FitsAll rules (depth + 1) items
  | depth, .obj fields =>
    rules.admits (depth + 1) fields.isEmpty = true ∧ (fields.map Prod.fst).Nodup ∧
      FitsFields rules (depth + 1) fields
  | _, _ => True

/-- Documents that can stand inside `depth` others. -/
def FitsAll (rules : ReadRules) : Nat → List Doc → Prop
  | _, [] => True
  | depth, item :: items => Fits rules depth item ∧ FitsAll rules depth items

/-- Fields that can stand inside `depth` others. -/
def FitsFields (rules : ReadRules) : Nat → List (Wording × Doc) → Prop
  | _, [] => True
  | depth, (key, value) :: fields =>
    Untorn key ∧ Fits rules depth value ∧ FitsFields rules depth fields

end

section

variable {rules : ReadRules} {depth : Nat}

theorem int_eq_cons (n : Int) :
    ∃ c cs, (toString n).toList = c :: cs ∧ (c.isDigit = true ∨ c = '-') := by
  rw [toList_toString_int]
  split
  · obtain ⟨d, ds, hds, hd⟩ := digits_eq_cons n.toNat
    exact ⟨d, ds, hds, .inl hd⟩
  · exact ⟨'-', _, rfl, .inr rfl⟩

theorem not_gap_of_sign {c : Char} (h : c.isDigit = true ∨ c = '-') :
    isGap c = false ∧ c ≠ ']' ∧ c ≠ '}' := by
  rcases h with h | rfl
  · have hne : ∀ d : Char, d.isDigit = false → c ≠ d := fun d hd => (ne_of_isDigit h hd).symm
    simp [isGap, hne]
  · decide

theorem not_bracket_of_sign {c : Char} (h : c.isDigit = true ∨ c = '-') : c ≠ '[' ∧ c ≠ '{' := by
  rcases h with h | rfl
  · exact ⟨(ne_of_isDigit h (by decide)).symm, (ne_of_isDigit h (by decide)).symm⟩
  · decide

/-- What is written begins with no gap and closes nothing. -/
theorem write_eq_cons {doc : Doc} (h : Fits rules depth doc) (spread : Spread) :
    ∃ c cs, write spread doc = c :: cs ∧ isGap c = false ∧ c ≠ ']' ∧ c ≠ '}' := by
  cases doc with
  | null => exact ⟨'n', ['u', 'l', 'l'], rfl, by decide⟩
  | bool b => cases b with
    | false => exact ⟨'f', ['a', 'l', 's', 'e'], rfl, by decide⟩
    | true => exact ⟨'t', ['r', 'u', 'e'], rfl, by decide⟩
  | int n =>
    obtain ⟨c, cs, hcs, hc⟩ := int_eq_cons n
    exact ⟨c, cs, hcs, not_gap_of_sign hc⟩
  | real x => exact absurd h id
  | str s =>
    obtain ⟨t, rfl⟩ := h
    exact ⟨'"', _, rfl, by decide⟩
  | arr items => cases items with
    | nil => exact ⟨'[', _, rfl, by decide⟩
    | cons item items => exact ⟨'[', _, rfl, by decide⟩
  | obj fields => cases fields with
    | nil => exact ⟨'{', _, rfl, by decide⟩
    | cons field fields => exact ⟨'{', _, rfl, by decide⟩

theorem readValue_of_leaf {fuel : Nat} {c : Char} (cs : List Char) (ha : c ≠ '[') (ho : c ≠ '{') :
    readValue rules (fuel + 1) depth (c :: cs) = readLeaf rules (c :: cs) := by
  rw [readValue]
  · simp [ha]
  · simp [ho]

theorem readValue_array {fuel : Nat} {c : Char} {cs inside : List Char}
    (hskip : skipGap cs = c :: inside) (hc : c ≠ ']') (h : rules.admits (depth + 1) false = true) :
    readValue rules (fuel + 1) depth ('[' :: cs) =
      readItems rules fuel (depth + 1) (c :: inside) >>= fun p => .ok (.arr p.1, p.2) := by
  simp [readValue, hskip, hc, h]

theorem readValue_object {fuel : Nat} {c : Char} {cs inside : List Char}
    (hskip : skipGap cs = c :: inside) (hc : c ≠ '}') (h : rules.admits (depth + 1) false = true) :
    readValue rules (fuel + 1) depth ('{' :: cs) =
      readFields rules fuel (depth + 1) [] (c :: inside) >>= fun p => .ok (.obj p.1, p.2) := by
  simp [readValue, hskip, hc, h]

theorem skipGap_write {doc : Doc} (h : Fits rules depth doc) (spread : Spread)
    (rest : List Char) :
    skipGap (write spread doc ++ rest) = write spread doc ++ rest := by
  obtain ⟨c, cs, hcs, hgap, -⟩ := write_eq_cons h spread
  rw [hcs, List.cons_append, skipGap_cons hgap]

theorem skipGap_writeText (key : Wording) (rest : List Char) :
    skipGap (writeText key ++ rest) = writeText key ++ rest := by
  cases key <;> rfl

theorem put_of_not_mem {key : Wording} {before : Fields} (h : key ∉ before.map Prod.fst)
    (value : Doc) : Fields.put key value before = before ++ [(key, value)] := by
  induction before with
  | nil => rfl
  | cons field before ih =>
    obtain ⟨k, v⟩ := field
    simp only [List.map_cons, List.mem_cons, not_or] at h
    rw [Fields.put, if_neg (Ne.symm h.1), ih h.2]
    rfl

theorem endsNumber_items (spread : Spread) (items : List Doc) {tail : List Char}
    (h : EndsNumber tail) : EndsNumber (writeItems spread items ++ tail) := by
  cases items with
  | nil => exact h
  | cons item items => exact endsNumber_cons (by simp) _

theorem endsNumber_fields (spread : Spread) (fields : Fields) {tail : List Char}
    (h : EndsNumber tail) : EndsNumber (writeFields spread fields ++ tail) := by
  cases fields with
  | nil => exact h
  | cons field fields => exact endsNumber_cons (by simp) _

/-- With so much fuel, a written document is read as it was, up to what stands behind it. -/
def ReadsValues (rules : ReadRules) (fuel : Nat) : Prop :=
  ∀ (spread : Spread) {doc depth rest}, Fits rules depth doc →
    (write spread doc).length ≤ fuel → EndsNumber rest →
    readValue rules fuel depth (write spread doc ++ rest) =
      spell doc.numbers >>= fun _ => .ok (doc, rest)

/-- With so much fuel, written items are read as they were, up to the bracket that closes them. -/
def ReadsItems (rules : ReadRules) (fuel : Nat) : Prop :=
  ∀ (spread : Spread) {item items depth tail rest}, FitsAll rules depth (item :: items) →
    (write spread item).length + (writeItems spread items).length < fuel →
    EndsNumber tail → skipGap tail = ']' :: rest →
    readItems rules fuel depth (write spread item ++ (writeItems spread items ++ tail)) =
      spell (numbersOf (item :: items)) >>= fun _ => .ok (item :: items, rest)

/-- With so much fuel, written fields are read as they were behind the fields read before. -/
def ReadsFields (rules : ReadRules) (fuel : Nat) : Prop :=
  ∀ (spread : Spread) (before : Fields) {key value fields depth tail rest},
    FitsFields rules depth ((key, value) :: fields) →
    ((before ++ (key, value) :: fields).map Prod.fst).Nodup →
    (write spread value).length + (writeFields spread fields).length < fuel →
    EndsNumber tail → skipGap tail = '}' :: rest →
    readFields rules fuel depth before (writeText key ++
        (spread.colon ++ (write spread value ++ (writeFields spread fields ++ tail)))) =
      spell (numbersIn ((key, value) :: fields)) >>= fun _ =>
        .ok (before ++ (key, value) :: fields, rest)

theorem readsItems_succ {fuel : Nat} (hvalue : ReadsValues rules fuel)
    (hitems : ReadsItems rules fuel) : ReadsItems rules (fuel + 1) := by
  intro spread item items depth tail rest hfits hfuel hends hclose
  rw [readItems, hvalue spread hfits.1 (by omega) (endsNumber_items spread items hends), numbersOf,
    spell_append]
  -- A number that is too long stops the reader before it looks for a comma or a bracket.
  cases spell item.numbers with
  | error e => rfl
  | ok u =>
    cases items with
    | nil =>
      have hskip : skipGap (writeItems spread [] ++ tail) = ']' :: rest := hclose
      simp only [bind, Except.bind, hskip]
      rfl
    | cons next items =>
      have hlen : (writeItems spread (next :: items)).length =
          1 + spread.break.length + (write spread next).length
            + (writeItems spread items).length := by
        simp [writeItems]
        omega
      have hskip : skipGap (writeItems spread (next :: items) ++ tail) =
          ',' :: (spread.break ++ (write spread next ++ (writeItems spread items ++ tail))) := by
        simp [writeItems, skipGap_cons (c := ',') rfl]
      have hnext := hitems spread hfits.2 (by omega) hends hclose
      simp only [bind, Except.bind, hskip, skipGap_break, skipGap_write hfits.2.1 spread] at hnext ⊢
      rw [hnext]
      cases spell (numbersOf (next :: items)) <;> rfl

theorem readsFields_succ {fuel : Nat} (hvalue : ReadsValues rules fuel)
    (hfields : ReadsFields rules fuel) : ReadsFields rules (fuel + 1) := by
  intro spread before key value fields depth tail rest hfits hnodup hfuel hends hclose
  obtain ⟨⟨name, rfl⟩, hfit, hmore⟩ := hfits
  obtain ⟨after, hcolon, hafter⟩ := skipGap_colon spread
    (write spread value ++ (writeFields spread fields ++ tail))
  -- The name is new, so the field is added behind the others and replaces none of them.
  have hput : Fields.put (.text name) value before = before ++ [(.text name, value)] := by
    refine put_of_not_mem ?_ value
    rw [List.map_append] at hnodup
    intro hmem
    exact (List.nodup_append.1 hnodup).2.2 _ hmem _ (by simp) rfl
  rw [writeText, hcolon]
  simp only [List.cons_append, List.append_assoc, List.nil_append, readFields, readText_written]
  simp only [bind, Except.bind, skipGap_cons (c := ':') rfl, hafter, skipGap_write hfit spread]
  rw [hvalue spread hfit (by omega) (endsNumber_fields spread fields hends), numbersIn,
    spell_append]
  cases spell value.numbers with
  | error e => rfl
  | ok u =>
    cases fields with
    | nil =>
      have hskip : skipGap (writeFields spread [] ++ tail) = '}' :: rest := hclose
      simp only [bind, Except.bind, hskip, hput]
      rfl
    | cons next fields =>
      obtain ⟨key, next⟩ := next
      have hlen : (write spread next).length + (writeFields spread fields).length <
          (writeFields spread ((key, next) :: fields)).length := by
        simp [writeFields]
        omega
      have hskip : skipGap (writeFields spread ((key, next) :: fields) ++ tail) =
          ',' :: (spread.break ++ (writeText key ++
            (spread.colon ++ (write spread next ++ (writeFields spread fields ++ tail))))) := by
        simp [writeFields, skipGap_cons (c := ',') rfl]
      have hnext := hfields spread (before ++ [(.text name, value)]) hmore
        (by simpa using hnodup) (by omega) hends hclose
      simp only [bind, Except.bind, hskip, hput, skipGap_break, skipGap_writeText] at hnext ⊢
      rw [hnext]
      simp

/-- A written array is read as it was if its items are. -/
theorem readValue_writtenArray {fuel : Nat} (hitems : ReadsItems rules fuel) (spread : Spread)
    {items : List Doc} {rest : List Char} (hfits : Fits rules depth (.arr items))
    (hfuel : (write spread (.arr items)).length ≤ fuel + 1) :
    readValue rules (fuel + 1) depth (write spread (.arr items) ++ rest) =
      spell (numbersOf items) >>= fun _ => .ok (.arr items, rest) := by
  obtain ⟨hadmits, hall⟩ := hfits
  cases items with
  | nil =>
    simp only [List.isEmpty_nil] at hadmits
    simp [write, readValue, skipGap_cons (c := ']') rfl, hadmits]
    rfl
  | cons item items =>
    obtain ⟨c, cs, hcs, -, hc, -⟩ := write_eq_cons hall.1 spread.inner
    have hclose : skipGap (spread.break ++ ']' :: rest) = ']' :: rest := by
      rw [skipGap_break, skipGap_cons rfl]
    have hlen :
        (write spread.inner item).length + (writeItems spread.inner items).length < fuel := by
      simp [write] at hfuel
      omega
    have hread := hitems spread.inner hall hlen
      (endsNumber_break spread (endsNumber_cons (by simp) rest)) hclose
    have hskip := skipGap_write hall.1 spread.inner
      (writeItems spread.inner items ++ (spread.break ++ ']' :: rest))
    -- The reader looks at the first character to tell an empty array, so it has to be in sight.
    rw [hcs, List.cons_append] at hread hskip
    rw [write]
    simp only [List.cons_append, List.append_assoc, List.nil_append, hcs]
    rw [readValue_array (by rw [skipGap_break, hskip]) hc hadmits, hread]
    cases spell (numbersOf (item :: items)) <;> rfl

/-- A written object is read as it was if its fields are. -/
theorem readValue_writtenObject {fuel : Nat} (hfields : ReadsFields rules fuel) (spread : Spread)
    {fields : Fields} {rest : List Char} (hfits : Fits rules depth (.obj fields))
    (hfuel : (write spread (.obj fields)).length ≤ fuel + 1) :
    readValue rules (fuel + 1) depth (write spread (.obj fields) ++ rest) =
      spell (numbersIn fields) >>= fun _ => .ok (.obj fields, rest) := by
  obtain ⟨hadmits, hnodup, hall⟩ := hfits
  cases fields with
  | nil =>
    simp only [List.isEmpty_nil] at hadmits
    simp [write, readValue, skipGap_cons (c := '}') rfl, hadmits]
    rfl
  | cons field fields =>
    obtain ⟨key, value⟩ := field
    have hclose : skipGap (spread.break ++ '}' :: rest) = '}' :: rest := by
      rw [skipGap_break, skipGap_cons rfl]
    have hlen :
        (write spread.inner value).length + (writeFields spread.inner fields).length < fuel := by
      simp [write] at hfuel
      omega
    have hread := hfields spread.inner [] hall hnodup hlen
      (endsNumber_break spread (endsNumber_cons (by simp) rest)) hclose
    obtain ⟨name, rfl⟩ := hall.1
    rw [write]
    simp only [writeText, colon_inner, List.cons_append, List.append_assoc, List.nil_append]
      at hread ⊢
    rw [readValue_object (by rw [skipGap_break, skipGap_cons rfl]) (by decide) hadmits, hread]
    cases spell (numbersIn ((.text name, value) :: fields)) <;> rfl

theorem readsValues_succ {fuel : Nat} (hitems : ReadsItems rules fuel)
    (hfields : ReadsFields rules fuel) : ReadsValues rules (fuel + 1) := by
  intro spread doc depth rest hfits hfuel hends
  cases doc with
  | null => rfl
  | bool b => cases b <;> rfl
  | int n =>
    obtain ⟨c, cs, hcs, hc⟩ := int_eq_cons n
    obtain ⟨ha, ho⟩ := not_bracket_of_sign hc
    have hleaf := readLeaf_int rules n hends
    rw [hcs] at hleaf
    rw [write, hcs, List.cons_append, readValue_of_leaf (cs ++ rest) ha ho]
    exact hleaf
  | real x => exact absurd hfits id
  | str s =>
    obtain ⟨t, rfl⟩ := hfits
    rw [write, writeText]
    simp [readValue_of_leaf, readLeaf, readText_written]
    rfl
  | arr items =>
    rw [numbers]
    exact readValue_writtenArray hitems spread hfits hfuel
  | obj fields =>
    rw [numbers]
    exact readValue_writtenObject hfields spread hfits hfuel

/-- The three readers call each other with less fuel, so they are proved together. -/
theorem reads_back (rules : ReadRules) (fuel : Nat) :
    ReadsValues rules fuel ∧ ReadsItems rules fuel ∧ ReadsFields rules fuel := by
  induction fuel with
  | zero =>
    refine ⟨?_, ?_, ?_⟩
    · intro spread doc depth rest hfits hfuel
      obtain ⟨c, cs, hcs, -⟩ := write_eq_cons hfits spread
      simp [hcs] at hfuel
    · intro spread item items depth tail rest hfits hfuel
      simp at hfuel
    · intro spread before key value fields depth tail rest hfits hnodup hfuel
      simp at hfuel
  | succ fuel ih =>
    obtain ⟨hvalue, hitems, hfields⟩ := ih
    exact ⟨readsValues_succ hitems hfields, readsItems_succ hvalue hitems,
      readsFields_succ hvalue hfields⟩

/-- A written document is read as it was, however it is spread over lines, unless one of its
numbers is too long. -/
theorem read_written {doc : Doc} (h : Fits rules 0 doc) (spread : Spread) :
    read rules (String.ofList (write spread doc)) = spell doc.numbers >>= fun _ => .ok doc := by
  have hends : EndsNumber [] := by simp [EndsNumber]
  have hvalue := (reads_back rules (2 * (write spread doc).length + 2)).1 spread h (by omega) hends
  have hskip := skipGap_write h spread []
  rw [List.append_nil] at hvalue hskip
  unfold read
  simp only [String.toList_ofList, hskip, hvalue]
  cases spell doc.numbers <;> rfl

end

end BlockMaze.Doc
