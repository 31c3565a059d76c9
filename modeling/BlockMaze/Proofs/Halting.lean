-- Halting is decided by a limit. At every moment a run is in one of finitely
-- many situations, and their number is bounded by the program and the size of
-- the grid. A run that goes on for longer is in some situation twice, and then
-- it goes round for ever.
import BlockMaze.Proofs.FramePath
import BlockMaze.Proofs.GridCells
import BlockMaze.Proofs.Limits
import BlockMaze.Proofs.TreeWalk
import Mathlib.Data.Finset.Card
import Mathlib.Data.List.ProdSigma

namespace BlockMaze

/-! ## Words -/

/-- The lists of at most a length with all entries from a list. -/
def words {α : Type} (letters : List α) : Nat → List (List α)
  | 0 => [[]]
  | n + 1 => [] :: letters.flatMap fun a => (words letters n).map (a :: ·)

/-- The number of lists of at most a length with entries from a number of letters. -/
def wordCount (letters : Nat) : Nat → Nat
  | 0 => 1
  | n + 1 => letters * wordCount letters n + 1

theorem length_words {α : Type} (letters : List α) (n : Nat) :
    (words letters n).length = wordCount letters.length n := by
  induction n with
  | zero => rfl
  | succ n ih => simp [words, wordCount, List.length_flatMap, ih]

theorem mem_words {α : Type} {letters w : List α} {n : Nat} (hn : w.length ≤ n)
    (h : ∀ a ∈ w, a ∈ letters) : w ∈ words letters n := by
  induction n generalizing w with
  | zero =>
    have hw : w = [] := List.eq_nil_of_length_eq_zero (by omega)
    simp [words, hw]
  | succ n ih =>
    cases w with
    | nil => simp [words]
    | cons a w =>
      have hrest := ih (w := w) (by simpa using hn) fun c hc => h c (List.mem_cons_of_mem a hc)
      simp only [words, List.mem_cons, List.mem_flatMap, List.mem_map]
      exact Or.inr ⟨a, h a List.mem_cons_self, w, hrest, rfl⟩

/-! ## The places in a program -/

/-- The frames of a list of blocks, one for each cursor. -/
def framesOf (blocks : List Block) (left : Option Int) : List Frame :=
  (List.range (blocks.length + 1)).map fun cursor => ⟨blocks, cursor, left⟩

/-- The rounds that may be left of a body: none are counted, or as many as the loop has, or any
positive number below. -/
def roundsOf (b : Block) : List (Option Int) :=
  none :: some b.rounds :: (List.range b.rounds.toNat).map fun (n : Nat) => some (n + 1 : Int)

/-- All frames that a run of a program can open. -/
def framesIn (program : Program) : List Frame :=
  framesOf program none ++
    (Program.walk program).flatMap fun b => (roundsOf b).flatMap (framesOf b.children)

theorem mem_framesOf {f : Frame} (h : f.cursor ≤ f.blocks.length) :
    f ∈ framesOf f.blocks f.roundsLeft :=
  List.mem_map.2 ⟨f.cursor, List.mem_range.2 (by omega), rfl⟩

theorem rounds_ne_zero (b : Block) : b.rounds ≠ 0 := by
  unfold Block.rounds
  cases b.loopCount with
  | none => simp
  | some n =>
    simp only
    split <;> simp_all

theorem mem_roundsOf {b : Block} {left : Option Int} (h : RoundsFit b left) :
    left ∈ roundsOf b := by
  unfold RoundsFit at h
  unfold roundsOf
  split at h
  · obtain ⟨n, rfl, hpos, hneg⟩ := h
    rcases Int.lt_trichotomy b.rounds 0 with hlt | hzero | hgt
    · rw [hneg hlt]
      exact List.mem_cons_of_mem _ List.mem_cons_self
    · exact absurd hzero (rounds_ne_zero b)
    · obtain ⟨h1, h2⟩ := hpos hgt
      have hn : ((n - 1).toNat : Int) + 1 = n := by omega
      refine List.mem_cons_of_mem _ (List.mem_cons_of_mem _ (List.mem_map.2 ?_))
      have hlt : (n - 1).toNat < b.rounds.toNat := by omega
      exact ⟨(n - 1).toNat, List.mem_range.2 hlt, congrArg some hn⟩
  · subst h
    exact List.mem_cons_self

/-- The frames of a program hold nothing but its blocks. -/
theorem mem_walk_of_frame {program : Program} {f : Frame} (h : f ∈ framesIn program) {b : Block}
    (hb : b ∈ f.blocks) : b ∈ Program.walk program := by
  unfold framesIn framesOf at h
  simp only [List.mem_append, List.mem_flatMap, List.mem_map] at h
  rcases h with ⟨cursor, -, rfl⟩ | ⟨c, hc, left, -, cursor, -, rfl⟩
  · exact Program.mem_walk_of_mem hb
  · exact Program.mem_walk_of_child hc hb

theorem mem_framesIn_of_opened {program : Program} {upper lower : Frame}
    (h : OpenedOver upper lower) (hcur : upper.cursor ≤ upper.blocks.length)
    (hlower : lower ∈ framesIn program) : upper ∈ framesIn program := by
  obtain ⟨b, -, hat, hbody, -, hfit⟩ := h
  have hframe := mem_framesOf hcur
  rw [hbody] at hframe
  refine List.mem_append_right _ (List.mem_flatMap.2 ⟨b, mem_walk_of_frame hlower hat.mem, ?_⟩)
  exact List.mem_flatMap.2 ⟨upper.roundsLeft, mem_roundsOf hfit, hframe⟩

/-- A path in a program is made of frames of the program. -/
theorem IsPath.mem_framesIn {program : Program} {stack : List Frame} (h : IsPath program stack) :
    ∀ f ∈ stack, f ∈ framesIn program := by
  induction stack with
  | nil => simp
  | cons f below ih =>
    have hcur := h.within f List.mem_cons_self
    intro g hg
    rcases List.mem_cons.1 hg with rfl | hg
    · cases below with
      | nil =>
        obtain ⟨hblocks, hleft⟩ := h.bottom g rfl
        have hframe := mem_framesOf hcur
        rw [hblocks, hleft] at hframe
        exact List.mem_append_left _ hframe
      | cons lower rest =>
        have hover := (List.isChain_cons_cons.1 h.chain).1
        exact mem_framesIn_of_opened hover hcur (ih h.tail lower List.mem_cons_self)
    · exact ih h.tail g hg

/-! ## The cells of a run -/

/-- The cells of a grid of a size. -/
def cellsIn (rows cols : Nat) : List Cell :=
  (List.range cols ×ˢ List.range rows).map fun (x, y) => ⟨x, y⟩

theorem length_cellsIn (rows cols : Nat) : (cellsIn rows cols).length = cols * rows := by
  simp [cellsIn, List.length_product]

theorem mem_cellsIn {g : Grid} {c : Cell} (h : g.Holds c) : c ∈ cellsIn g.height g.width := by
  obtain ⟨hx, hx', hy, hy'⟩ := h
  obtain ⟨x, y⟩ := c
  simp only at hx hx' hy hy'
  refine List.mem_map.2 ⟨(x.toNat, y.toNat), ?_, ?_⟩
  · rw [List.mem_product, List.mem_range, List.mem_range]
    omega
  · simp only [Cell.mk.injEq]
    omega

/-- Cells of a grid, each at most once. -/
structure Listed (g : Grid) (cells : List Cell) : Prop where
  nodup : cells.Nodup
  inside : ∀ c ∈ cells, g.Holds c

theorem listed_nil (g : Grid) : Listed g [] := ⟨List.nodup_nil, by simp⟩

theorem Listed.insert {g : Grid} {cells : List Cell} (h : Listed g cells) {c : Cell}
    (hc : g.Holds c) : Listed g (cells.insert c) := by
  refine ⟨h.nodup.insert, ?_⟩
  intro d hd
  rcases List.mem_insert_iff.1 hd with rfl | hd
  · exact hc
  · exact h.inside d hd

theorem Listed.insertAll {g : Grid} {cells more : List Cell} (h : Listed g cells)
    (hmore : ∀ c ∈ more, g.Holds c) : Listed g (more.foldr List.insert cells) := by
  induction more with
  | nil => exact h
  | cons c more ih =>
    have hrest := ih fun d hd => hmore d (List.mem_cons_of_mem c hd)
    exact hrest.insert (hmore c List.mem_cons_self)

theorem Listed.length_le {g : Grid} {cells : List Cell} (h : Listed g cells) :
    cells.length ≤ g.width * g.height := by
  rw [← length_cellsIn]
  exact h.nodup.length_le_of_subset fun c hc => mem_cellsIn (h.inside c hc)

theorem Listed.mem_words {g : Grid} {cells : List Cell} (h : Listed g cells) :
    cells ∈ words (cellsIn g.height g.width) (g.width * g.height) :=
  BlockMaze.mem_words h.length_le fun c hc => mem_cellsIn (h.inside c hc)

/-- The runner is at home or in the grid, and all that it has lies in the grid. -/
structure Confined (level : Level) (home : Cell) (s : State) : Prop where
  cell : s.pose.cell = home ∨ level.grid.Holds s.pose.cell
  stars : Listed level.grid s.stars
  keys : Listed level.grid s.keys
  doors : Listed level.grid s.doors

section

variable {level : Level} {home : Cell} {s : State}

theorem Confined.collect (h : Confined level home s) :
    Confined level home (s.collect level) := by
  have hin : ∀ {tile : Tile}, level.tileAt s.pose.cell = tile → tile ≠ .outside →
      level.grid.Holds s.pose.cell := by
    intro tile ht hne
    exact Level.holds_of_tileAt (by rw [ht]; exact hne)
  rcases State.collect_cases level s with ⟨ht, he⟩ | ⟨ht, -, he⟩ | ⟨-, -, he⟩ | ⟨-, -, he⟩ <;>
    rw [he]
  · exact ⟨h.cell, h.stars.insert (hin ht (by decide)), h.keys, h.doors⟩
  · refine ⟨h.cell, h.stars, h.keys.insert (hin ht (by decide)), h.doors.insertAll ?_⟩
    intro c hc
    rw [Level.mem_cellsOf (by decide)] at hc
    exact Level.holds_of_tileAt (by rw [hc]; decide)
  · exact h
  · exact h

theorem Confined.arrive (h : Confined level home s) {c : Cell}
    (hfree : (level.tileAt c).isWallLike = false) (fallen : Notice) :
    Confined level home (s.arrive level c fallen).1 := by
  have hc : level.grid.Holds c := by
    apply Level.holds_of_tileAt
    intro ht
    rw [ht] at hfree
    exact absurd hfree (by decide)
  have hplace : Confined level home (s.place c) := ⟨Or.inr hc, h.stars, h.keys, h.doors⟩
  obtain ⟨status, he⟩ := State.arrive_leaves level s c fallen
  rw [he]
  obtain ⟨h1, h2, h3, h4⟩ := hplace.collect
  exact ⟨h1, h2, h3, h4⟩

theorem Confined.step (h : Confined level home s) : Confined level home (s.step level).1 := by
  obtain ⟨hcell, hstars, hkeys, hdoors⟩ := h
  have hst := State.stepped level s
  generalize (s.step level).1 = t at hst ⊢
  cases hst with
  | ended terminal => exact ⟨hcell, hstars, hkeys, hdoors⟩
  | exhausted running done =>
    obtain ⟨status, he⟩ := State.judge_leaves level (s.rested.withStack [])
    rw [he]
    exact ⟨hcell, hstars, hkeys, hdoors⟩
  | stays running next facing animation stack => exact ⟨hcell, hstars, hkeys, hdoors⟩
  | @arrives running next c moved free fallen stack =>
    have hrest : Confined level home s.rested := ⟨hcell, hstars, hkeys, hdoors⟩
    obtain ⟨h1, h2, h3, h4⟩ := hrest.arrive free fallen
    exact ⟨h1, h2, h3, h4⟩

theorem confined_after (level : Level) (program : Program) (start : Pose) (n : Nat) :
    Confined level start.cell ((State.initial program start).after level n) := by
  induction n with
  | zero => exact ⟨Or.inl rfl, listed_nil _, listed_nil _, listed_nil _⟩
  | succ n ih =>
    rw [State.after_succ]
    exact ih.step

end

/-! ## Situations -/

/-- All of a state but its picture and its status: the cell and the facing, the place in the
program, and the stars, keys and doors. -/
abbrev Situation := (Cell × Direction) × List Frame × List Cell × List Cell × List Cell

def State.situation (s : State) : Situation :=
  ((s.pose.cell, s.pose.facing), s.stack, s.stars, s.keys, s.doors)

/-- The situations that a run can be in, from its first cell on a grid of a size. -/
def situations (home : Cell) (program : Program) (rows cols : Nat) : List Situation :=
  let sets := words (cellsIn rows cols) (cols * rows)
  let paths := words (framesIn program) (1 + Block.nestingAll program)
  let poses := (home :: cellsIn rows cols) ×ˢ [Direction.up, .right, .down, .left]
  poses ×ˢ (paths ×ˢ (sets ×ˢ (sets ×ˢ sets)))

/-- A bound on the number of situations, from the program and the size of the grid. -/
def haltingBound (program : Program) (rows cols : Nat) : Nat :=
  let sets := wordCount (cols * rows) (cols * rows)
  ((cols * rows + 1) * 4) *
    (wordCount (framesIn program).length (1 + Block.nestingAll program) * (sets * (sets * sets)))

theorem length_situations (home : Cell) (program : Program) (rows cols : Nat) :
    (situations home program rows cols).length = haltingBound program rows cols := by
  simp only [situations, haltingBound, List.length_product, length_words, length_cellsIn,
    List.length_cons, List.length_nil]

theorem situation_mem (level : Level) (program : Program) (start : Pose) (n : Nat) :
    ((State.initial program start).after level n).situation ∈
      situations start.cell program level.grid.height level.grid.width := by
  have hpath := isPath_after level program start n
  obtain ⟨hcell, hstars, hkeys, hdoors⟩ := confined_after level program start n
  have hhome : ((State.initial program start).after level n).pose.cell ∈
      start.cell :: cellsIn level.grid.height level.grid.width := by
    rcases hcell with he | hin
    · exact List.mem_cons.2 (Or.inl he)
    · exact List.mem_cons_of_mem _ (mem_cellsIn hin)
  have hfacing : ∀ d : Direction, d ∈ [Direction.up, .right, .down, .left] := by
    intro d
    cases d <;> decide
  unfold situations State.situation
  simp only [List.mem_product]
  exact ⟨⟨hhome, hfacing _⟩, mem_words hpath.length_le hpath.mem_framesIn, hstars.mem_words,
    hkeys.mem_words, hdoors.mem_words⟩

/-! ## The law -/

section

variable {level : Level} {s t : State}

/-- The next step is told by the situation and the status. -/
theorem step_of_situation (h : s.situation = t.situation) (hs : s.status = t.status) :
    s.step level = t.step level := by
  have hrest : ∀ u : State, u.step level = u.rested.step level := fun _ => rfl
  have he : s.rested = t.rested := by
    simp only [State.situation, Prod.mk.injEq] at h
    obtain ⟨⟨h1, h2⟩, h3, h4, h5, h6⟩ := h
    simp [State.rested, Pose.atRest, h1, h2, h3, h4, h5, h6, hs]
  rw [hrest s, hrest t, he]

/-- A run that comes back to a situation goes on for ever. -/
theorem running_of_repeat {i j : Nat} (hij : i < j)
    (h : (s.after level i).situation = (s.after level j).situation)
    (hj : (s.after level j).status.isTerminal = false) (n : Nat) :
    (s.after level n).status.isTerminal = false := by
  have hi := State.running_before hij.le hj
  have hstatus : (s.after level i).status = (s.after level j).status :=
    (State.isTerminal_eq_false.1 hi).trans (State.isTerminal_eq_false.1 hj).symm
  have hnext : s.after level (i + 1) = s.after level (j + 1) := by
    rw [State.after_succ, State.after_succ, step_of_situation h hstatus]
  -- a later step is the same as one a whole round before
  induction n using Nat.strongRecOn with
  | ind n ih =>
    rcases Nat.lt_or_ge j n with hlt | hle
    · obtain ⟨k, rfl⟩ : ∃ k, n = j + 1 + k := ⟨n - (j + 1), by omega⟩
      rw [State.after_add, ← hnext, ← State.after_add]
      exact ih (i + 1 + k) (by omega)
    · exact State.running_before hle hj

end

theorem exists_repeat (level : Level) (program : Program) (start : Pose) :
    ∃ i j, i < j ∧ j ≤ haltingBound program level.grid.height level.grid.width ∧
      ((State.initial program start).after level i).situation =
        ((State.initial program start).after level j).situation := by
  set bound := haltingBound program level.grid.height level.grid.width with hbound
  have hcard : (situations start.cell program level.grid.height level.grid.width).toFinset.card <
      (Finset.range (bound + 1)).card := by
    rw [Finset.card_range, hbound, ← length_situations start.cell]
    exact Nat.lt_succ_of_le (List.toFinset_card_le _)
  obtain ⟨i, hi, j, hj, hne, he⟩ := Finset.exists_ne_map_eq_of_card_lt_of_maps_to hcard
    (f := fun n => ((State.initial program start).after level n).situation)
    fun n _ => List.mem_toFinset.2 (situation_mem level program start n)
  simp only [Finset.mem_range] at hi hj
  rcases Nat.lt_or_gt_of_ne hne with hlt | hlt
  · exact ⟨i, j, hlt, by omega, he⟩
  · exact ⟨j, i, hlt, by omega, he.symm⟩

/-- Halting is decided by a limit that is computed from the program and the size of the grid alone:
a run that still goes on at this limit goes on for ever, whatever the tiles and wherever it starts,
and then it breaks off at every limit. -/
theorem a_run_beyond_the_bound_never_ends (level : Level) (program : Program) (start : Pose) :
    let run := State.initial program start
    let bound := haltingBound program level.grid.height level.grid.width
    ((run.after level bound).status = .running ↔
        ∀ n, (run.after level n).status = .running) ∧
      ((run.after level bound).status = .running ↔
        ∀ limit : Int, (run.run level limit).2 =
          .error ⟨limit, (run.steps level limit.toNat).2⟩) := by
  intro run bound
  simp only [← State.isTerminal_eq_false, ← State.never_over_iff]
  have h : (run.after level bound).status.isTerminal = false ↔
      ∀ n, (run.after level n).status.isTerminal = false := by
    refine ⟨fun hrun => ?_, fun hrun => hrun bound⟩
    obtain ⟨i, j, hij, hj, he⟩ := exists_repeat level program start
    exact running_of_repeat hij he (State.running_before hj hrun)
  exact ⟨h, h⟩

end BlockMaze
