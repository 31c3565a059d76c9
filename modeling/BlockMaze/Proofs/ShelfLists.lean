-- The list of levels. A level is listed by the number of its id in the broad
-- reading and loaded with the number of the plain one. Where all levels of a
-- directory load and the broad reading takes their ids, the list is that of
-- their names, each once, by the ids they load with.
import BlockMaze.Proofs.ShelfFacts
import BlockMaze.Proofs.WholeTexts
import Mathlib.Data.List.Induction
import Mathlib.Data.List.Sort
import Mathlib.Data.String.Basic

namespace BlockMaze

/-! ## Ids in both readings -/

namespace Doc

/-- The broad reading takes the document, if it is a text. -/
def IsBroad (doc : Doc) : Prop :=
  ∀ text, doc = .text text → ∃ n, Number.readBroad text.toList = .ok n

theorem whole_text_cases {text : String} {n : Int} (h : Number.readPlain text.toList = .ok n) :
    ((Doc.text text).IsBroad ∧ (Doc.text text).whole = .ok n) ∨
      (¬ (Doc.text text).IsBroad ∧
        ∃ e, (Doc.text text).whole = .error e ∧ (ShelfError.badNumber e).kind = .value) := by
  simp only [Doc.whole, Doc.wholeOfText, Wording.plain]
  cases hbroad : Number.readBroad text.toList with
  | ok broad =>
    obtain rfl := Number.readBroad_eq_readPlain h hbroad
    refine .inl ⟨?_, rfl⟩
    rintro _ ⟨⟩
    exact ⟨broad, hbroad⟩
  | error fault =>
    right
    constructor
    · intro hall
      obtain ⟨m, hm⟩ := hall text rfl
      rw [hbroad] at hm
      cases hm
    · cases fault <;> exact ⟨_, rfl, rfl⟩

/-- A document is one whole number in both readings, unless it is a text that the broad reading
refuses. -/
theorem whole_cases {doc : Doc} {n : Int} (h : Reader.whole doc = .good n) :
    (doc.IsBroad ∧ doc.whole = .ok n) ∨
      (¬ doc.IsBroad ∧ ∃ e, doc.whole = .error e ∧ (ShelfError.badNumber e).kind = .value) := by
  unfold Reader.whole at h
  split at h
  · cases h
    exact .inl ⟨by rintro _ ⟨⟩, rfl⟩
  · cases h
    exact .inl ⟨by rintro _ ⟨⟩, rfl⟩
  · split at h
    · cases h
    split at h
    · cases h
      exact .inl ⟨by rintro _ ⟨⟩, rfl⟩
    · cases h
  · cases h
  · cases h
  · split at h
    · rename_i hplain
      cases h
      exact whole_text_cases hplain
    · cases h
    · cases h
  · cases h

end Doc

/-! ## Names of files -/

/-- A walk gives a value for every item, or fails with what one of them fails with. -/
theorem mapM_cases (f : α → Except ε β) (xs : List α) :
    (∃ ys, xs.mapM f = .ok ys ∧ ∀ x ∈ xs, ∃ y, f x = .ok y) ∨
      ∃ e, xs.mapM f = .error e ∧ ∃ x ∈ xs, f x = .error e := by
  induction xs with
  | nil => exact .inl ⟨[], rfl, by simp⟩
  | cons x xs ih =>
    rw [List.mapM_cons]
    cases hx : f x with
    | error e => exact .inr ⟨e, rfl, x, List.mem_cons_self, hx⟩
    | ok y =>
      obtain ⟨ys, hys, hall⟩ | ⟨e, he, x', hx', hfail⟩ := ih
      · rw [hys]
        exact .inl ⟨y :: ys, rfl, List.forall_mem_cons.2 ⟨⟨y, hx⟩, hall⟩⟩
      · rw [he]
        exact .inr ⟨e, rfl, x', List.mem_cons_of_mem x hx', hfail⟩

theorem nodup_eraseDups (names : List String) : names.eraseDups.Nodup := by
  -- From the end, since an item stays where it stands first.
  induction names using List.reverseRecOn with
  | nil => simp
  | append_singleton names last ih =>
    rw [List.eraseDups_append]
    by_cases hlast : last ∈ names
    · simpa [List.removeAll, hlast] using ih
    · have hkept : ([last].removeAll names).eraseDups = [last] := by
        simp [List.removeAll, List.eraseDups_cons, hlast]
      rw [hkept]
      exact ih.append (List.nodup_singleton last) (by simpa using hlast)

theorem Files.nodup_namesIn (files : Files) (place : Path) : (files.namesIn place).Nodup :=
  (nodup_eraseDups _).mergeSort

namespace Shelf

theorem isListed_append {name : String} (h : name ≠ "") :
    isListed (name ++ ".json") = !name.startsWith "_" := by
  have hend : (name ++ ".json").endsWith ".json" = true := by
    rw [String.endsWith_eq_endsWith_toSlice, String.Slice.endsWith_string_iff]
    simp
  have hstart : (name ++ ".json").startsWith "_" = name.startsWith "_" := by
    rw [Bool.eq_iff_iff, String.startsWith_string_iff, String.startsWith_string_iff,
      String.toList_append]
    cases hcs : name.toList with
    | nil => exact absurd (String.toList_eq_nil_iff.1 hcs) h
    | cons c cs => simp
  rw [isListed, hend, hstart, Bool.true_and]

/-- A listed file has a name before the ending, or is named by the ending alone. -/
theorem exists_name {file : String} (h : isListed file = true) :
    ∃ name, file = name ++ ".json" := by
  have hend : file.endsWith ".json" = true := (Bool.and_eq_true_iff.1 h).1
  rw [String.endsWith_eq_endsWith_toSlice, String.Slice.endsWith_string_iff] at hend
  obtain ⟨front, hfront⟩ := hend
  refine ⟨String.ofList front, String.toList_inj.1 ?_⟩
  rw [String.toList_append, String.toList_ofList, hfront, String.copy_toSlice]

theorem append_ne_bare {name : String} (h : name ≠ "") : name ++ ".json" ≠ ".json" := by
  intro he
  have hlength := congrArg String.length he
  rw [String.length_append] at hlength
  exact h (String.length_eq_zero_iff.1 (by omega))

theorem stem_append {name : String} (h : name ≠ "") : stem (name ++ ".json") = name := by
  rw [stem, if_neg (append_ne_bare h), String.length_append, String.toList_append]
  have hfive : name.length + ".json".length - 5 = name.toList.length := by
    rw [String.length_toList]
    rfl
  rw [hfive, List.take_left, String.ofList_toList]

/-! ## Levels of a directory -/

/-- A name in a directory under which a level is listed: a file has the name before its ending, and
the name is neither empty nor marked as hidden. -/
structure IsLevel (shelf : Shelf) (place : Path) (name : String) : Prop where
  named : name ≠ ""
  shown : name.startsWith "_" = false
  there : name ++ ".json" ∈ shelf.files.namesIn place

/-- Every level of the directory loads, and no file is named by the ending alone. -/
structure AllLoad (shelf : Shelf) (place : Path) : Prop where
  found : shelf.files.find shelf.directory = .directory place
  loads : ∀ name, shelf.IsLevel place name → ∃ level, shelf.load name = .ok level
  noBare : ".json" ∉ shelf.files.namesIn place

/-- The names of the levels of a directory. -/
def levelNames (shelf : Shelf) (place : Path) : List String :=
  ((shelf.files.namesIn place).filter isListed).map stem

section

variable {shelf : Shelf} {place : Path} {name : String} {level : Level}

/-- The listed files are those of the levels. -/
theorem mem_filter_isListed (h : shelf.AllLoad place) {file : String} :
    file ∈ (shelf.files.namesIn place).filter isListed ↔
      ∃ name, shelf.IsLevel place name ∧ file = name ++ ".json" := by
  rw [List.mem_filter]
  constructor
  · rintro ⟨hthere, hlisted⟩
    obtain ⟨name, rfl⟩ := exists_name hlisted
    have hnamed : name ≠ "" := by
      rintro rfl
      exact h.noBare hthere
    rw [isListed_append hnamed, Bool.not_eq_true'] at hlisted
    exact ⟨name, ⟨hnamed, hlisted, hthere⟩, rfl⟩
  · rintro ⟨name, hlevel, rfl⟩
    refine ⟨hlevel.there, ?_⟩
    rw [isListed_append hlevel.named, hlevel.shown]
    rfl

theorem mem_levelNames (h : shelf.AllLoad place) :
    name ∈ shelf.levelNames place ↔ shelf.IsLevel place name := by
  unfold levelNames
  rw [List.mem_map]
  constructor
  · rintro ⟨file, hfile, rfl⟩
    obtain ⟨name, hlevel, rfl⟩ := (mem_filter_isListed h).1 hfile
    rwa [stem_append hlevel.named]
  · intro hlevel
    exact ⟨name ++ ".json", (mem_filter_isListed h).2 ⟨name, hlevel, rfl⟩,
      stem_append hlevel.named⟩

theorem nodup_levelNames (h : shelf.AllLoad place) : (shelf.levelNames place).Nodup := by
  refine List.Nodup.map_on ?_ ((shelf.files.nodup_namesIn place).filter _)
  intro file hfile file' hfile' hstem
  obtain ⟨name, hlevel, rfl⟩ := (mem_filter_isListed h).1 hfile
  obtain ⟨name', hlevel', rfl⟩ := (mem_filter_isListed h).1 hfile'
  rw [stem_append hlevel.named, stem_append hlevel'.named] at hstem
  rw [hstem]

/-! ## Entries -/

/-- The broad reading takes the id in the file of a level, if it is a text. -/
def IdIsBroad (shelf : Shelf) (name : String) : Prop :=
  ∀ fields id, docAt shelf.files (shelf.pathOf name) = .ok (.obj fields) →
    Fields.get? fields "id" = some id → id.IsBroad

theorem idIsBroad_iff {fields : Fields}
    (h : docAt shelf.files (shelf.pathOf name) = .ok (.obj fields)) :
    shelf.IdIsBroad name ↔ ((fields.get? "id").getD (.int 0)).IsBroad := by
  constructor
  · intro hall
    cases hid : fields.get? "id" with
    | none => rintro _ ⟨⟩
    | some id => exact hall fields id h hid
  · intro hbroad fields' id hdoc hid
    rw [h] at hdoc
    cases hdoc
    rwa [hid] at hbroad

/-- A level has an entry with the id that it loads with, or its id is a text that the broad reading
refuses. -/
theorem entryOf_cases (hname : name ≠ "") (h : shelf.load name = .ok level) :
    (shelf.IdIsBroad name ∧ shelf.entryOf (name ++ ".json") = .ok (level.id, name)) ∨
      (¬ shelf.IdIsBroad name ∧
        ∃ e, shelf.entryOf (name ++ ".json") = .error e ∧ e.kind = .value) := by
  obtain ⟨fields, hdoc, -, hread⟩ := object_of_load h
  have hid := Slot.read_value
    (Level.readForm_eq_good.1 (Level.read_eq_ok.1 hread).2).id (.int 0) rfl
  rw [Slot.value?_plain] at hid
  have hentry : shelf.entryOf (name ++ ".json") =
      (numberOf (.obj fields)).map fun number => (number, name) := by
    have hat : docAt shelf.files (shelf.directory.join (name ++ ".json")) = .ok (.obj fields) :=
      hdoc
    simp only [entryOf, hat, stem_append hname, bind, Except.bind]
    cases numberOf (.obj fields) <;> rfl
  rw [hentry, idIsBroad_iff hdoc]
  obtain ⟨hbroad, hwhole⟩ | ⟨hrefused, e, hwhole, hkind⟩ := Doc.whole_cases hid
  · exact .inl ⟨hbroad, by simp [numberOf, hwhole, Except.map, Level.form]⟩
  · exact .inr ⟨hrefused, .badNumber e, by simp [numberOf, hwhole, Except.map], hkind⟩

/-! ## The list -/

/-- The id that a level loads with. -/
def loadedId (shelf : Shelf) (name : String) : Int :=
  match shelf.load name with
  | .ok level => level.id
  | .error _ => 0

theorem loadedId_of_load (h : shelf.load name = .ok level) : shelf.loadedId name = level.id := by
  rw [loadedId, h]

/-- One level goes before another: by the ids that they load with, then by their names. -/
def idLe (shelf : Shelf) (a b : String) : Bool :=
  entryLe (shelf.loadedId a, a) (shelf.loadedId b, b)

theorem entryLe_iff {a b : Int × String} :
    entryLe a b = true ↔ a.1 < b.1 ∨ a.1 = b.1 ∧ a.2 ≤ b.2 := by
  simp [entryLe]

/-- With ids that the broad reading takes, the list is that of the names by the ids. -/
theorem list_of_broad (h : shelf.AllLoad place)
    (hbroad : ∀ name, shelf.IsLevel place name → shelf.IdIsBroad name) :
    shelf.list = .ok ((shelf.levelNames place).mergeSort shelf.idLe) := by
  have hentries : ((shelf.files.namesIn place).filter isListed).mapM shelf.entryOf =
      .ok ((shelf.levelNames place).map fun name => (shelf.loadedId name, name)) := by
    rw [levelNames, List.map_map, mapM_eq_ok, List.forall₂_map_right_iff, List.forall₂_same]
    intro file hfile
    obtain ⟨name, hlevel, rfl⟩ := (mem_filter_isListed h).1 hfile
    obtain ⟨level, hload⟩ := h.loads name hlevel
    obtain ⟨-, hentry⟩ | ⟨hrefused, -⟩ := entryOf_cases hlevel.named hload
    · simp only [Function.comp_apply, stem_append hlevel.named, loadedId_of_load hload, hentry]
    · exact absurd (hbroad name hlevel) hrefused
  have hsort := List.map_mergeSort (f := fun name => (shelf.loadedId name, name))
    (r := shelf.idLe) (s := entryLe) (l := shelf.levelNames place) fun _ _ _ _ => rfl
  simp only [list, h.found, hentries, bind, Except.bind, ← hsort, List.map_map]
  simp [Function.comp_def]

/-- With an id that the broad reading refuses there is no list. -/
theorem list_of_not_broad (h : shelf.AllLoad place) (hlevel : shelf.IsLevel place name)
    (hrefused : ¬ shelf.IdIsBroad name) : ∃ e, shelf.list = .error e ∧ e.kind = .value := by
  -- Each file that has no entry lacks it for a bad value, whichever of them comes first.
  have hfile : ∀ file ∈ (shelf.files.namesIn place).filter isListed, ∀ e,
      shelf.entryOf file = .error e → e.kind = .value := by
    intro file hfile e he
    obtain ⟨name, hlevel, rfl⟩ := (mem_filter_isListed h).1 hfile
    obtain ⟨level, hload⟩ := h.loads name hlevel
    obtain ⟨-, hentry⟩ | ⟨-, e', hentry, hkind⟩ := entryOf_cases hlevel.named hload
    · rw [hentry] at he
      cases he
    · rw [hentry] at he
      cases he
      exact hkind
  obtain ⟨level, hload⟩ := h.loads name hlevel
  obtain ⟨hbroad, -⟩ | ⟨-, e, hentry, -⟩ := entryOf_cases hlevel.named hload
  · exact absurd hbroad hrefused
  have hmem := (mem_filter_isListed h).2 ⟨name, hlevel, rfl⟩
  obtain ⟨entries, -, hall⟩ | ⟨e', hentries, file, hmem', he'⟩ :=
    mapM_cases shelf.entryOf ((shelf.files.namesIn place).filter isListed)
  · obtain ⟨entry, hok⟩ := hall _ hmem
    rw [hentry] at hok
    cases hok
  · refine ⟨e', ?_, hfile file hmem' e' he'⟩
    simp only [list, h.found, hentries, bind, Except.bind]

/-- One level loads with a smaller id than another, or with the same id and has the smaller
name. -/
def LoadsBefore (shelf : Shelf) (a b : String) : Prop :=
  ∃ first second, shelf.load a = .ok first ∧ shelf.load b = .ok second ∧
    (first.id < second.id ∨ first.id = second.id ∧ a < b)

theorem idLe_trans (shelf : Shelf) (a b c : String) (hab : shelf.idLe a b = true)
    (hbc : shelf.idLe b c = true) : shelf.idLe a c = true := by
  simp only [idLe, entryLe_iff] at *
  rcases hab with hab | ⟨hab, hab'⟩
  · exact .inl (by omega)
  · rcases hbc with hbc | ⟨hbc, hbc'⟩
    · exact .inl (by omega)
    · exact .inr ⟨by omega, le_trans hab' hbc'⟩

theorem idLe_total (shelf : Shelf) (a b : String) : (shelf.idLe a b || shelf.idLe b a) = true := by
  rw [Bool.or_eq_true]
  simp only [idLe, entryLe_iff]
  rcases lt_trichotomy (shelf.loadedId a) (shelf.loadedId b) with hlt | heq | hgt
  · exact .inl (.inl hlt)
  · exact (le_total a b).imp (fun h => .inr ⟨heq, h⟩) (fun h => .inr ⟨heq.symm, h⟩)
  · exact .inr (.inl hgt)

theorem pairwise_levelNames (h : shelf.AllLoad place) :
    ((shelf.levelNames place).mergeSort shelf.idLe).Pairwise shelf.LoadsBefore := by
  have hsorted := List.pairwise_mergeSort shelf.idLe_trans shelf.idLe_total (shelf.levelNames place)
  have hnodup : ((shelf.levelNames place).mergeSort shelf.idLe).Nodup :=
    (nodup_levelNames h).mergeSort
  have hloads : ∀ name ∈ (shelf.levelNames place).mergeSort shelf.idLe,
      ∃ level, shelf.load name = .ok level := by
    intro name hname
    rw [List.mem_mergeSort, mem_levelNames h] at hname
    exact h.loads name hname
  refine (hsorted.and hnodup).imp_of_mem ?_
  rintro a b ha hb ⟨hle, hne⟩
  obtain ⟨first, hfirst⟩ := hloads a ha
  obtain ⟨second, hsecond⟩ := hloads b hb
  simp only [idLe, entryLe_iff, loadedId_of_load hfirst, loadedId_of_load hsecond] at hle
  exact ⟨first, second, hfirst, hsecond, hle.imp_right fun hle => ⟨hle.1, lt_of_le_of_ne hle.2 hne⟩⟩

end

/-! ## The law -/

/-- Levels are listed by the ids they load with. In a directory where every level loads there is a
list if and only if the broad reading takes every id that is a text; each level stands in it once
and nothing else does, by the id that it loads with and then by its name. If there is none, it is
for a bad value. -/
theorem levels_are_listed_by_the_ids_they_load_with {shelf : Shelf} {place : Path}
    (h : shelf.AllLoad place) :
    ((∃ names, shelf.list = .ok names) ↔
      ∀ name, shelf.IsLevel place name → shelf.IdIsBroad name) ∧
      (∀ names, shelf.list = .ok names →
        names.Nodup ∧ (∀ name, name ∈ names ↔ shelf.IsLevel place name) ∧
          names.Pairwise shelf.LoadsBefore) ∧
      ∀ e, shelf.list = .error e → e.kind = .value := by
  by_cases hbroad : ∀ name, shelf.IsLevel place name → shelf.IdIsBroad name
  · rw [list_of_broad h hbroad]
    refine ⟨⟨fun _ => hbroad, fun _ => ⟨_, rfl⟩⟩, ?_, fun e he => by cases he⟩
    rintro names ⟨⟩
    refine ⟨(nodup_levelNames h).mergeSort, fun name => ?_, pairwise_levelNames h⟩
    rw [List.mem_mergeSort, mem_levelNames h]
  · simp only [not_forall] at hbroad
    obtain ⟨name, hlevel, hrefused⟩ := hbroad
    obtain ⟨e, hlist, hkind⟩ := list_of_not_broad h hlevel hrefused
    rw [hlist]
    refine ⟨⟨?_, fun hall => absurd (hall name hlevel) hrefused⟩, ?_, ?_⟩
    · rintro ⟨names, ⟨⟩⟩
    · rintro names ⟨⟩
    · rintro e' ⟨⟩
      exact hkind

/-- Two levels, of which the second is loaded with the smaller id, from a text with a sign and
a separator. -/
theorem a_level_with_the_smaller_id_is_listed_first :
    let doc (id : Doc) : Doc := .obj [("id", id), ("name", .text "A"),
      ("grid", .arr [.text "SF"]), ("start", .obj [("x", .int 0), ("y", .int 0)])]
    let shelf : Shelf := ⟨.ofTexts [(.ofText "/levels/a.json", (doc (.int 10)).toLine),
      (.ofText "/levels/b.json", (doc (.text " +0_2")).toLine)], .ofText "/levels"⟩
    shelf.AllLoad ⟨"/", ["levels"]⟩ ∧ shelf.loadedId "a" = 10 ∧ shelf.loadedId "b" = 2 ∧
      ∃ names, shelf.list = .ok names ∧ names.Nodup ∧ "a" ∈ names ∧ "b" ∈ names ∧
        names.Pairwise shelf.LoadsBefore := by
  intro doc shelf
  have hfiles : ∀ text text',
      let files : Files := .ofTexts
        [(.ofText "/levels/a.json", text), (.ofText "/levels/b.json", text')]
      files.read (Path.join (.ofText "/levels") ("a" ++ ".json")) = .ok text ∧
        files.read (Path.join (.ofText "/levels") ("b" ++ ".json")) = .ok text' ∧
        files.find (.ofText "/levels") = .directory ⟨"/", ["levels"]⟩ ∧
        files.namesIn ⟨"/", ["levels"]⟩ =
          ["a" ++ ".json", "b" ++ ".json"].eraseDups.mergeSort (· ≤ ·) :=
    fun _ _ => ⟨rfl, rfl, rfl, rfl⟩
  obtain ⟨ha, hb, hfound, hnames⟩ := hfiles (doc (.int 10)).toLine (doc (.text " +0_2")).toLine
  have hthere : ∀ name, name ++ ".json" ∈ shelf.files.namesIn ⟨"/", ["levels"]⟩ ↔
      name = "a" ∨ name = "b" := by
    intro name
    rw [show shelf.files.namesIn ⟨"/", ["levels"]⟩ = _ from hnames, List.mem_mergeSort,
      List.mem_eraseDups, List.mem_pair, String.append_left_inj, String.append_left_inj]
  -- Both files hold their documents, and the documents are levels.
  have hfits : ∀ id, Doc.Fits Doc.fileRules 1 id → Doc.Fits Doc.fileRules 0 (doc id) := by
    intro id hid
    simpa [doc, Doc.Fits, Doc.FitsAll, Doc.FitsFields, Doc.Untorn, Doc.ReadRules.admits,
      Doc.fileRules] using hid
  have hdoc : docAt shelf.files (shelf.pathOf "a") = .ok (doc (.int 10)) :=
    docAt_of_read ha (hfits _ (by simp [Doc.Fits])) rfl
  have hdoc' : docAt shelf.files (shelf.pathOf "b") = .ok (doc (.text " +0_2")) :=
    docAt_of_read hb (hfits _ (by simp [Doc.Fits, Doc.Untorn])) rfl
  have hload : ∃ level, shelf.load "a" = .ok level ∧ level.id = 10 := by
    rw [load_of_docAt hdoc]
    exact ⟨_, rfl, rfl⟩
  have hload' : ∃ level, shelf.load "b" = .ok level ∧ level.id = 2 := by
    rw [load_of_docAt hdoc']
    exact ⟨_, rfl, rfl⟩
  obtain ⟨level, hlevel, hid⟩ := hload
  obtain ⟨level', hlevel', hid'⟩ := hload'
  have hall : shelf.AllLoad ⟨"/", ["levels"]⟩ := by
    refine ⟨hfound, fun name hany => ?_, fun hbare => ?_⟩
    · obtain rfl | rfl := (hthere name).1 hany.there
      · exact ⟨level, hlevel⟩
      · exact ⟨level', hlevel'⟩
    · simpa using (hthere "").1 hbare
  obtain ⟨hlist, hnames, -⟩ := levels_are_listed_by_the_ids_they_load_with hall
  have hsome : ∃ names, shelf.list = .ok names := by
    refine hlist.2 fun name hlevel => ?_
    obtain rfl | rfl := (hthere name).1 hlevel.there
    · rw [idIsBroad_iff hdoc]
      rintro _ ⟨⟩
    · rw [idIsBroad_iff hdoc']
      rintro _ ⟨⟩
      exact ⟨2, rfl⟩
  obtain ⟨names, hlist⟩ := hsome
  obtain ⟨hnodup, hmem, hsorted⟩ := hnames names hlist
  refine ⟨hall, by rw [loadedId_of_load hlevel, hid], by rw [loadedId_of_load hlevel', hid'],
    names, hlist, hnodup, ?_, ?_, hsorted⟩
  · exact (hmem "a").2 ⟨by decide, by simp [String.startsWith_string_eq_false_iff],
      (hthere "a").2 (.inl rfl)⟩
  · exact (hmem "b").2 ⟨by decide, by simp [String.startsWith_string_eq_false_iff],
      (hthere "b").2 (.inr rfl)⟩

/-- One level, loaded with the id three from a text with a fraction of zeros, which the broad
reading refuses: there is no list. -/
theorem an_id_with_a_fraction_of_zeros_breaks_the_list :
    let doc : Doc := .obj [("id", .text "3.0"), ("name", .text "A"),
      ("grid", .arr [.text "SF"]), ("start", .obj [("x", .int 0), ("y", .int 0)])]
    let shelf : Shelf := ⟨.ofTexts [(.ofText "/levels/a.json", doc.toLine)], .ofText "/levels"⟩
    shelf.AllLoad ⟨"/", ["levels"]⟩ ∧ (∃ level, shelf.load "a" = .ok level ∧ level.id = 3) ∧
      ¬ ∃ names, shelf.list = .ok names := by
  intro doc shelf
  have hfiles : ∀ text,
      let files : Files := .ofTexts [(.ofText "/levels/a.json", text)]
      files.read (Path.join (.ofText "/levels") ("a" ++ ".json")) = .ok text ∧
        files.find (.ofText "/levels") = .directory ⟨"/", ["levels"]⟩ ∧
        files.namesIn ⟨"/", ["levels"]⟩ = ["a" ++ ".json"].eraseDups.mergeSort (· ≤ ·) :=
    fun _ => ⟨rfl, rfl, rfl⟩
  obtain ⟨hread, hfound, hnames⟩ := hfiles doc.toLine
  have hthere : ∀ name, name ++ ".json" ∈ shelf.files.namesIn ⟨"/", ["levels"]⟩ ↔
      name = "a" := by
    intro name
    rw [show shelf.files.namesIn ⟨"/", ["levels"]⟩ = _ from hnames, List.mem_mergeSort,
      List.mem_eraseDups, List.mem_singleton, String.append_left_inj]
  have hfits : Doc.Fits Doc.fileRules 0 doc := by
    simp [doc, Doc.Fits, Doc.FitsAll, Doc.FitsFields, Doc.Untorn, Doc.ReadRules.admits,
      Doc.fileRules]
  have hdoc : docAt shelf.files (shelf.pathOf "a") = .ok doc := docAt_of_read hread hfits rfl
  have hload : ∃ level, shelf.load "a" = .ok level ∧ level.id = 3 := by
    rw [load_of_docAt hdoc]
    exact ⟨_, rfl, rfl⟩
  have hall : shelf.AllLoad ⟨"/", ["levels"]⟩ := by
    refine ⟨hfound, fun name hany => ?_, fun hbare => ?_⟩
    · obtain rfl := (hthere name).1 hany.there
      exact hload.imp fun _ h => h.1
    · simpa using (hthere "").1 hbare
  have hlevel : shelf.IsLevel ⟨"/", ["levels"]⟩ "a" :=
    ⟨by decide, by simp [String.startsWith_string_eq_false_iff], (hthere "a").2 rfl⟩
  have hrefused : ¬ shelf.IdIsBroad "a" := by
    rw [idIsBroad_iff hdoc]
    intro hbroad
    obtain ⟨n, hn⟩ := hbroad "3.0" rfl
    cases hn
  obtain ⟨e, hlist, -⟩ := list_of_not_broad hall hlevel hrefused
  refine ⟨hall, hload, ?_⟩
  rintro ⟨names, hnames⟩
  rw [hlist] at hnames
  cases hnames

end Shelf

end BlockMaze
