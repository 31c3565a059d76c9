-- Traces in files. A trace comes back from the text it was saved in, whatever
-- its ids, names and messages are and in whatever order the keys of a set are
-- listed. The only limit is that of all text: a number with too many digits
-- is not read, and then the file is no document at all.
import BlockMaze.Proofs.WrittenDocs
import BlockMaze.Session.Trace
import Mathlib.Algebra.GroupWithZero.Nat
import Mathlib.Data.List.Forall2

namespace BlockMaze

/-! ## Run ids -/

namespace RunId

open Text

theorem hexValue?_digitChar : ∀ d < 16, hexValue? d.digitChar = some d := by decide

theorem hexNumber?_append (cs : List Char) (d : Char) :
    hexNumber? (cs ++ [d]) =
      (hexNumber? cs).bind fun n => (hexValue? d).map (n * 16 + ·) := by
  unfold hexNumber?
  rw [List.foldlM_append]
  cases List.foldlM (fun n c => (hexValue? c).map (n * 16 + ·)) 0 cs <;> simp

theorem hexNumber?_zeros (k : Nat) (cs : List Char) :
    hexNumber? (List.replicate k '0' ++ cs) = hexNumber? cs := by
  induction k with
  | zero => rfl
  | succ k ih => exact ih

theorem hexNumber?_digits (n : Nat) : hexNumber? (Nat.toDigits 16 n) = some n := by
  induction n using Nat.strongRecOn with
  | ind n ih =>
    by_cases hn : n < 16
    · rw [Nat.toDigits_of_lt_base hn]
      simp [hexNumber?, hexValue?_digitChar n hn]
    · rw [Nat.toDigits_of_base_le (by decide) (by omega), hexNumber?_append,
        ih (n / 16) (by omega), hexValue?_digitChar (n % 16) (by omega)]
      simp only [Option.bind_some, Option.map_some, Option.some.injEq]
      omega

theorem hexNumber?_hexPadded (width n : Nat) : hexNumber? (hexPadded width n) = some n := by
  unfold hexPadded
  rw [hexNumber?_zeros, hexNumber?_digits]

theorem length_hexPadded {width n : Nat} (hw : 0 < width) (h : n < 16 ^ width) :
    (hexPadded width n).length = width := by
  have hlen : (Nat.toDigits 16 n).length ≤ width :=
    (Nat.length_toDigits_le_iff (by decide) hw).2 h
  simp only [hexPadded, List.length_append, List.length_replicate]
  omega

/-- Groups that take up all digits are put together again. -/
theorem ungroup?_hyphenated {ns : List Nat} (hne : ns ≠ []) {cs : List Char}
    (h : cs.length = ns.sum) : ungroup? ns (hyphenated ns cs) = some cs := by
  induction ns generalizing cs with
  | nil => exact absurd rfl hne
  | cons n ns ih =>
    cases ns with
    | nil =>
      have hall : cs.take n = cs := List.take_of_length_le (by simp [h])
      simp [hyphenated, ungroup?, hall, h]
    | cons m ns =>
      rw [List.sum_cons] at h
      have hn : (cs.take n).length = n := by
        rw [List.length_take]
        omega
      have hlen : (cs.drop n).length = (m :: ns).sum := by
        rw [List.length_drop]
        omega
      have hrest := ih (by simp) hlen
      rw [hyphenated, ungroup?, List.drop_left' hn, List.take_left' hn]
      · simp [hrest]
      · simp
      · simp

theorem length_hyphenated {cs : List Char} (h : cs.length = 32) :
    (hyphenated groups cs).length = 36 := by
  simp [groups, hyphenated, h]

/-- The text of a run id is read as the run id. -/
theorem ofText?_text (id : RunId) : ofText? id.text = some id := by
  have hlen : (hexPadded 32 id.value).length = 32 := length_hexPadded (by decide) id.bound
  have hdigits : digits? (hyphenated groups (hexPadded 32 id.value)) =
      some (hexPadded 32 id.value) := by
    unfold digits?
    rw [if_neg (by simp [length_hyphenated hlen]), if_pos (length_hyphenated hlen)]
    exact ungroup?_hyphenated (by simp [groups]) hlen
  unfold ofText? text
  rw [String.toList_ofList, hdigits]
  simp [hexNumber?_hexPadded, id.bound]

theorem read_text (id : RunId) : read (.text id.text) = .good id := by
  simp [read, ofText?_text]

end RunId

/-! ## Snapshots -/

theorem Reader.word_status (s : Status) : word Status (.text s.name) = .good s := by
  cases s <;> rfl

namespace Snapshot

/-- The fields of a snapshot, with the keys of its sets in a given order. -/
def fieldsWith (s : Snapshot) (stars keys doors : List String) : Fields :=
  [("pose", s.pose.toDoc), ("active_instruction_id", .ofOption .text s.active),
    ("status", .text s.status.name), ("collected_stars", .texts stars),
    ("collected_keys", .texts keys), ("opened_doors", .texts doors),
    ("message", .ofOption .text s.message)]

/-- The document is one of the snapshot: the keys of a set may stand in any order. -/
def WrittenAs (s : Snapshot) (doc : Doc) : Prop :=
  ∃ stars keys doors, stars.Perm s.changes.stars.keys ∧ keys.Perm s.changes.keys.keys ∧
    doors.Perm s.changes.doors.keys ∧ doc = .obj (s.fieldsWith stars keys doors)

theorem writtenAs_toDoc (s : Snapshot) : s.WrittenAs s.toDoc :=
  ⟨_, _, _, .rfl, .rfl, .rfl, rfl⟩

/-- Every document of a snapshot is read as the snapshot. -/
theorem read_of_writtenAs {s : Snapshot} {doc : Doc} (h : s.WrittenAs doc) :
    Snapshot.read doc = .good s := by
  obtain ⟨stars, keys, doors, hstars, hkeys, hdoors, rfl⟩ := h
  have hpose : Slot.need (.plain "pose") Pose.read (s.fieldsWith stars keys doors) =
      .good s.pose := Slot.need_of_found rfl s.pose.read_toDoc
  have hactive : Slot.get (.plain "active_instruction_id") none (.orNull .text)
      (s.fieldsWith stars keys doors) = .good s.active :=
    Slot.get_of_found none rfl (Reader.orNull_text s.active)
  have hstatus : Slot.need (.plain "status") (.word Status) (s.fieldsWith stars keys doors) =
      .good s.status := Slot.need_of_found rfl (Reader.word_status s.status)
  have hstars : Slot.get (.plain "collected_stars") .empty .keySet
      (s.fieldsWith stars keys doors) = .good s.changes.stars :=
    Slot.get_of_found .empty rfl (Reader.keySet_texts hstars)
  have hkeys : Slot.get (.plain "collected_keys") .empty .keySet
      (s.fieldsWith stars keys doors) = .good s.changes.keys :=
    Slot.get_of_found .empty rfl (Reader.keySet_texts hkeys)
  have hdoors : Slot.get (.plain "opened_doors") .empty .keySet
      (s.fieldsWith stars keys doors) = .good s.changes.doors :=
    Slot.get_of_found .empty rfl (Reader.keySet_texts hdoors)
  have hmessage : Slot.get (.plain "message") none (.orNull .text)
      (s.fieldsWith stars keys doors) = .good s.message :=
    Slot.get_of_found none rfl (Reader.orNull_text s.message)
  simp only [Snapshot.read, Reader.record, hpose, hactive, hstatus, hstars, hkeys, hdoors, hmessage]
  rfl

end Snapshot

/-! ## Traces -/

namespace Trace

/-- The fields of a trace, with given documents for its snapshots. -/
def fieldsWith (t : Trace) (steps : List Doc) : Fields :=
  [("run_id", .text t.runId.text), ("level_id", .int t.levelId),
    ("level_name", .text t.levelName), ("block_count", .int t.blockCount),
    ("best_block_count", .ofOption .int t.par), ("status", .text t.status.name),
    ("message", .ofOption .text t.message), ("steps", .arr steps)]

/-- The document is one of the trace: the keys of a set may stand in any order. -/
def WrittenAs (t : Trace) (doc : Doc) : Prop :=
  ∃ steps, List.Forall₂ Snapshot.WrittenAs t.steps steps ∧ doc = .obj (t.fieldsWith steps)

theorem writtenAs_toDoc (t : Trace) : t.WrittenAs t.toDoc := by
  refine ⟨t.steps.map Snapshot.toDoc, ?_, rfl⟩
  rw [List.forall₂_map_right_iff]
  exact List.forall₂_same.2 fun s _ => s.writtenAs_toDoc

theorem read_steps {steps : List Snapshot} {docs : List Doc}
    (h : List.Forall₂ Snapshot.WrittenAs steps docs) :
    Reader.list Snapshot.read (.arr docs) = .good steps := by
  refine Reader.items_eq_good.2 ?_
  induction h with
  | nil => rfl
  | cons hs _ ih => rw [List.map_cons, List.map_cons, Snapshot.read_of_writtenAs hs, ih]

/-- Every document of a trace is read as the trace. -/
theorem read_of_writtenAs (fresh : RunId) {t : Trace} {doc : Doc} (h : t.WrittenAs doc) :
    read fresh doc = .good t := by
  obtain ⟨steps, hsteps, rfl⟩ := h
  have hid : Slot.get (.plain "run_id") fresh RunId.read (t.fieldsWith steps) = .good t.runId :=
    Slot.get_of_found fresh rfl t.runId.read_text
  have hlevel : Slot.get (.plain "level_id") 0 .whole (t.fieldsWith steps) = .good t.levelId := rfl
  have hname : Slot.get (.plain "level_name") "" .text (t.fieldsWith steps) =
      .good t.levelName := rfl
  have hcount : Slot.get (.plain "block_count") 0 .whole (t.fieldsWith steps) =
      .good t.blockCount := rfl
  have hpar : Slot.get (.plain "best_block_count") none (.orNull .whole) (t.fieldsWith steps) =
      .good t.par := Slot.get_of_found none rfl (Reader.orNull_int t.par)
  have hstatus : Slot.get (.plain "status") .running (.word Status) (t.fieldsWith steps) =
      .good t.status := Slot.get_of_found .running rfl (Reader.word_status t.status)
  have hmessage : Slot.get (.plain "message") none (.orNull .text) (t.fieldsWith steps) =
      .good t.message := Slot.get_of_found none rfl (Reader.orNull_text t.message)
  have hsteps : Slot.get (.plain "steps") [] (.list Snapshot.read) (t.fieldsWith steps) =
      .good t.steps := Slot.get_of_found [] rfl (read_steps hsteps)
  simp only [read, Reader.record, hid, hlevel, hname, hcount, hpar, hstatus, hmessage, hsteps]
  rfl

end Trace

/-! ## Traces as text -/

section

open Doc

theorem admits_traceRules {depth : Nat} (h : depth ≤ 200) (empty : Bool) :
    traceRules.admits depth empty = true := by
  simp [ReadRules.admits, traceRules, h]

variable {rules : ReadRules} {depth : Nat}

theorem Doc.fits_text (s : String) : Fits rules depth (.text s) := ⟨s, rfl⟩

theorem Doc.fits_orNull_text (o : Option String) : Fits rules depth (.ofOption .text o) := by
  cases o with
  | none => trivial
  | some s => exact fits_text s

theorem Doc.fits_orNull_int (o : Option Int) : Fits rules depth (.ofOption .int o) := by
  cases o <;> trivial

theorem Doc.fits_texts (h : depth + 1 ≤ 200) (ss : List String) :
    Fits traceRules depth (.texts ss) := by
  refine ⟨admits_traceRules h _, ?_⟩
  induction ss with
  | nil => trivial
  | cons s ss ih => exact ⟨fits_text s, ih⟩

theorem Pose.fits_toDoc (p : Pose) : Fits traceRules 3 p.toDoc := by
  refine ⟨rfl, by simp, ?_⟩
  simp [FitsFields, Fits, Untorn]

theorem Snapshot.fits_of_writtenAs {s : Snapshot} {doc : Doc} (h : s.WrittenAs doc) :
    Fits traceRules 2 doc := by
  obtain ⟨stars, keys, doors, -, -, -, rfl⟩ := h
  refine ⟨rfl, by simp [fieldsWith], ?_⟩
  simp [FitsFields, fieldsWith, Untorn, fits_texts, fits_text, fits_orNull_text, Pose.fits_toDoc]

theorem Snapshot.fitsAll_of_writtenAs {steps : List Snapshot} {docs : List Doc}
    (h : List.Forall₂ WrittenAs steps docs) : FitsAll traceRules 2 docs := by
  induction h with
  | nil => trivial
  | cons hs _ ih => exact ⟨fits_of_writtenAs hs, ih⟩

theorem Trace.fits_of_writtenAs {t : Trace} {doc : Doc} (h : t.WrittenAs doc) :
    Fits traceRules 0 doc := by
  obtain ⟨docs, hdocs, rfl⟩ := h
  refine ⟨rfl, by simp [fieldsWith], ?_⟩
  simp [FitsFields, fieldsWith, Untorn, Fits, fits_orNull_text, fits_orNull_int,
    admits_traceRules, Snapshot.fitsAll_of_writtenAs hdocs]

/-! ## The numbers of a trace -/

/-- The whole numbers of a snapshot. -/
def Snapshot.numbers (s : Snapshot) : List Int := [s.pose.cell.x, s.pose.cell.y]

/-- The whole numbers of a trace. -/
def Trace.numbers (t : Trace) : List Int :=
  t.levelId :: t.blockCount :: (t.par.toList ++ t.steps.flatMap Snapshot.numbers)

theorem Doc.numbers_orNull_text (o : Option String) : (Doc.ofOption .text o).numbers = [] := by
  cases o <;> rfl

theorem Doc.numbers_orNull_int (o : Option Int) :
    (Doc.ofOption .int o).numbers = o.toList := by
  cases o <;> rfl

theorem Doc.numbers_texts (ss : List String) : (Doc.texts ss).numbers = [] := by
  unfold texts
  rw [numbers]
  induction ss with
  | nil => rfl
  | cons s ss ih => simpa [numbersOf, numbers] using ih

theorem Snapshot.numbers_of_writtenAs {s : Snapshot} {doc : Doc} (h : s.WrittenAs doc) :
    doc.numbers = s.numbers := by
  obtain ⟨stars, keys, doors, -, -, -, rfl⟩ := h
  simp [Doc.numbers, numbersIn, fieldsWith, Snapshot.numbers, Pose.toDoc, numbers_texts,
    numbers_orNull_text]

theorem Snapshot.numbersOf_of_writtenAs {steps : List Snapshot} {docs : List Doc}
    (h : List.Forall₂ WrittenAs steps docs) :
    numbersOf docs = steps.flatMap Snapshot.numbers := by
  induction h with
  | nil => rfl
  | cons hs _ ih => rw [numbersOf, numbers_of_writtenAs hs, ih, List.flatMap_cons]

theorem Trace.numbers_of_writtenAs {t : Trace} {doc : Doc} (h : t.WrittenAs doc) :
    doc.numbers = t.numbers := by
  obtain ⟨docs, hdocs, rfl⟩ := h
  simp [Doc.numbers, numbersIn, fieldsWith, Trace.numbers, numbers_orNull_text, numbers_orNull_int,
    Snapshot.numbersOf_of_writtenAs hdocs]

end

namespace Trace

/-- No number of the trace has more digits than are ever read. -/
def Legible (t : Trace) : Prop := ∀ n ∈ t.numbers, n.natAbs < 10 ^ Number.maxDigits

instance (t : Trace) : Decidable t.Legible :=
  inferInstanceAs (Decidable (∀ n ∈ t.numbers, n.natAbs < 10 ^ Number.maxDigits))

theorem spell_numbers (t : Trace) : Doc.spell t.numbers = .ok () ↔ t.Legible := by
  rw [Doc.spell_eq_ok]
  unfold Legible Doc.digitCount
  simp only [Nat.length_toDigits_le_iff (b := 10) (by decide) (by decide : 0 < Number.maxDigits)]

/-- Saving a trace loses nothing. Every document of a trace, in whatever order it lists the keys
of the sets, is read as the trace; and so is the text of that document, as long as no number is
too long to be read from text at all. What is saved is the text of such a document. -/
theorem loading_undoes_saving (fresh : RunId) (t : Trace) :
    (∃ doc, t.WrittenAs doc ∧ t.save = doc.toLines) ∧
      ∀ doc, t.WrittenAs doc → read fresh doc = .good t ∧
        load fresh doc.toLines = if t.Legible then .good t else .refuse .badText := by
  refine ⟨⟨t.toDoc, t.writtenAs_toDoc, rfl⟩, ?_⟩
  intro doc h
  have hread := read_of_writtenAs fresh h
  have htext : Doc.read Doc.traceRules doc.toLines = Doc.spell t.numbers >>= fun _ => .ok doc := by
    rw [← numbers_of_writtenAs h]
    exact Doc.read_written (fits_of_writtenAs h) (.lines 0)
  refine ⟨hread, ?_⟩
  unfold load
  by_cases hlegible : t.Legible
  · rw [if_pos hlegible, htext, t.spell_numbers.2 hlegible]
    exact hread
  · rw [if_neg hlegible, htext]
    cases hspell : Doc.spell t.numbers with
    | error e => rfl
    | ok u => exact absurd (t.spell_numbers.1 hspell) hlegible

/-- A trace with a quoted message, a cell west of the grid and two collected stars is loaded from
a file that lists the later star first. -/
theorem a_trace_is_loaded_whatever_the_order_of_its_stars :
    let stars : KeySet := ⟨["1,0", "2,0"], by decide⟩
    let last : Snapshot := ⟨⟨⟨-1, 0⟩, .left, .deny⟩, some "b\"1", .failed,
      ⟨stars, .empty, .empty⟩, some "The \"runner\"\nhit a wall"⟩
    let t : Trace := ⟨.ofNat 0xDEADBEEF, -7, "Straße", 3, some 2, .failed, none, [last]⟩
    let doc : Doc := .obj (t.fieldsWith [.obj (last.fieldsWith ["2,0", "1,0"] [] [])])
    t.WrittenAs doc ∧ t.Legible ∧ load (.ofNat 0) doc.toLines = .good t := by
  intro stars last t doc
  have hwritten : t.WrittenAs doc :=
    ⟨_, .cons ⟨_, _, _, .swap .., .rfl, .rfl, rfl⟩ .nil, rfl⟩
  have hlegible : t.Legible := by decide +kernel
  have hload := ((loading_undoes_saving (.ofNat 0) t).2 doc hwritten).2
  rw [if_pos hlegible] at hload
  exact ⟨hwritten, hlegible, hload⟩

end Trace

end BlockMaze
