-- The laws of what a run collects. A step arrives on a cell when it changes
-- the runner's cell. What has been collected is told by the arrivals of the
-- run alone: the stars and the keys that lie where the runner arrived, and
-- every door as soon as there is a key.
import BlockMaze.Proofs.CellKeys
import BlockMaze.Proofs.GridCells
import BlockMaze.Proofs.Steps
import Mathlib.Data.List.Dedup

namespace BlockMaze.State

/-! ## Arrivals -/

/-- The cell on which the next step arrives, if it changes the runner's cell. -/
def arrival? (level : Level) (s : State) : Option Cell :=
  let c := (s.step level).1.pose.cell
  if c = s.pose.cell then none else some c

theorem arrival?_eq_none {level : Level} {s : State}
    (h : (s.step level).1.pose.cell = s.pose.cell) : s.arrival? level = none := by
  unfold arrival?
  rw [if_pos h]

theorem arrival?_eq_some {level : Level} {s : State} {c : Cell}
    (h : (s.step level).1.pose.cell = c) (hc : c ≠ s.pose.cell) : s.arrival? level = some c := by
  unfold arrival?
  simp only [h]
  rw [if_neg hc]

theorem cell_of_arrival? {level : Level} {s : State} {c : Cell} (h : s.arrival? level = some c) :
    (s.step level).1.pose.cell = c := by
  unfold arrival? at h
  simp only at h
  split at h
  · exact absurd h (by simp)
  · exact Option.some.inj h

/-- The cells on which a number of steps arrive, in order. -/
def arrivals (level : Level) (s : State) (n : Nat) : List Cell :=
  (List.range n).filterMap fun i => (s.after level i).arrival? level

theorem arrivals_succ (level : Level) (s : State) (n : Nat) :
    s.arrivals level (n + 1) =
      s.arrivals level n ++ ((s.after level n).arrival? level).toList := by
  unfold arrivals
  rw [List.range_succ, List.filterMap_append]
  cases h : (s.after level n).arrival? level <;> simp [h]

/-- Later arrivals never change the earlier ones. -/
theorem arrivals_mono (level : Level) (s : State) {m n : Nat} (h : m ≤ n) {c : Cell}
    (hc : c ∈ s.arrivals level m) : c ∈ s.arrivals level n := by
  unfold arrivals at *
  rw [List.mem_filterMap] at *
  obtain ⟨i, hi, he⟩ := hc
  rw [List.mem_range] at hi
  exact ⟨i, List.mem_range.2 (by omega), he⟩

/-- The runner has not left its first cell, or it stands where some step has arrived. -/
theorem arrived_or_not (level : Level) (s : State) (n : Nat) :
    s.arrivals level n = [] ∨
      ∃ k < n, (s.after level k).arrival? level = some (s.after level n).pose.cell := by
  induction n with
  | zero => exact Or.inl rfl
  | succ n ih =>
    rw [arrivals_succ, after_succ]
    by_cases hc : ((s.after level n).step level).1.pose.cell = (s.after level n).pose.cell
    · rw [arrival?_eq_none hc, hc]
      rcases ih with h | ⟨k, hk, h⟩
      · exact Or.inl (by simp [h])
      · exact Or.inr ⟨k, by omega, h⟩
    · exact Or.inr ⟨n, by omega, arrival?_eq_some rfl hc⟩

theorem mem_foldr_insert {c : Cell} {cells doors : List Cell} :
    c ∈ cells.foldr List.insert doors ↔ c ∈ cells ∨ c ∈ doors := by
  induction cells with
  | nil => simp
  | cons a cells ih => simp [ih, or_assoc]

/-! ## What is taken on one cell -/

section

variable {level : Level} {s : State}

/-- The stars and the keys grow by the runner's cell, if it holds one. -/
theorem mem_collect (c : Cell) :
    (c ∈ (s.collect level).stars ↔
      c ∈ s.stars ∨ (c = s.pose.cell ∧ level.tileAt c = .star)) ∧
    (c ∈ (s.collect level).keys ↔
      c ∈ s.keys ∨ (c = s.pose.cell ∧ level.tileAt c = .key)) := by
  by_cases hc : c = s.pose.cell
  · subst hc
    rcases collect_cases level s with ⟨h, he⟩ | ⟨h, -, he⟩ | ⟨h, hk, he⟩ | ⟨hs, hk, he⟩ <;> rw [he]
    · simp [h]
    · simp [h]
    · simp [h, hk]
    · simp [hs, hk]
  · rcases collect_cases level s with ⟨-, he⟩ | ⟨-, -, he⟩ | ⟨-, -, he⟩ | ⟨-, -, he⟩ <;> rw [he] <;>
      simp [hc]

theorem nodup_stars_collect (h : s.stars.Nodup) : (s.collect level).stars.Nodup := by
  rcases collect_cases level s with ⟨-, he⟩ | ⟨-, -, he⟩ | ⟨-, -, he⟩ | ⟨-, -, he⟩ <;> rw [he]
  · exact h.insert
  all_goals exact h

/-- The doors are open once there is a key. -/
def DoorsFit (level : Level) (s : State) : Prop :=
  ∀ c, c ∈ s.doors ↔ s.keys ≠ [] ∧ level.tileAt c = .door

theorem doorsFit_collect (h : DoorsFit level s) : DoorsFit level (s.collect level) := by
  rcases collect_cases level s with ⟨-, he⟩ | ⟨-, -, he⟩ | ⟨-, -, he⟩ | ⟨-, -, he⟩ <;> rw [he]
  · exact h
  · intro c
    have hne : s.keys.insert s.pose.cell ≠ [] := List.ne_nil_of_mem List.mem_insert_self
    have hcells : c ∈ level.cellsOf .door ↔ level.tileAt c = .door :=
      Level.mem_cellsOf (by decide)
    simp only [mem_foldr_insert, hcells, h c]
    constructor
    · rintro (hd | hd)
      · exact ⟨hne, hd⟩
      · exact ⟨hne, hd.2⟩
    · rintro ⟨-, hd⟩
      exact Or.inl hd
  · exact h
  · exact h

end

/-! ## What is taken along a run -/

/-- What a state has taken is what lies on some cells: the stars and the keys there, each star
once, and every door once there is a key. -/
structure Taken (level : Level) (past : List Cell) (s : State) : Prop where
  stars : ∀ c, c ∈ s.stars ↔ c ∈ past ∧ level.tileAt c = .star
  keys : ∀ c, c ∈ s.keys ↔ c ∈ past ∧ level.tileAt c = .key
  doors : DoorsFit level s
  nodup : s.stars.Nodup

section

variable {level : Level} {past : List Cell} {s : State}

/-- Whatever leaves the three sets leaves what is taken. -/
theorem Taken.congr {t : State} (h : Taken level past s) (hs : t.stars = s.stars)
    (hk : t.keys = s.keys) (hd : t.doors = s.doors) : Taken level past t := by
  refine ⟨?_, ?_, ?_, ?_⟩
  · rw [hs]; exact h.stars
  · rw [hk]; exact h.keys
  · unfold DoorsFit
    rw [hk, hd]
    exact h.doors
  · rw [hs]; exact h.nodup

theorem Taken.collect (h : Taken level past s) :
    Taken level (past ++ [s.pose.cell]) (s.collect level) := by
  refine ⟨?_, ?_, doorsFit_collect h.doors, nodup_stars_collect h.nodup⟩
  · intro c
    rw [(mem_collect c).1, h.stars c, List.mem_append, List.mem_singleton, or_and_right]
  · intro c
    rw [(mem_collect c).2, h.keys c, List.mem_append, List.mem_singleton, or_and_right]

theorem Taken.arrive (h : Taken level past s) (c : Cell) (fallen : Notice) :
    Taken level (past ++ [c]) (s.arrive level c fallen).1 := by
  have hplace : Taken level past (s.place c) := h.congr rfl rfl rfl
  obtain ⟨status, he⟩ := arrive_leaves level s c fallen
  rw [he]
  exact hplace.collect.congr rfl rfl rfl

theorem Taken.judge (h : Taken level past s) : Taken level past (s.judge level).1 := by
  obtain ⟨status, he⟩ := judge_leaves level s
  rw [he]
  exact h.congr rfl rfl rfl

/-- A step takes what lies where it arrives, and nothing without an arrival. -/
theorem Taken.step (h : Taken level past s) :
    Taken level (past ++ (s.arrival? level).toList) (s.step level).1 := by
  have hnone : ∀ {t : State}, (s.step level).1 = t → t.pose.cell = s.pose.cell →
      Taken level past t →
      Taken level (past ++ (s.arrival? level).toList) t := by
    intro t ht hcell htaken
    rw [arrival?_eq_none (by rw [ht, hcell])]
    simpa using htaken
  have hst := stepped level s
  generalize ht : (s.step level).1 = t at hst ⊢
  cases hst with
  | ended terminal => exact hnone ht rfl (h.congr rfl rfl rfl)
  | exhausted running done =>
    refine hnone ht (by simp [rested, Pose.atRest]) ?_
    exact (h.congr (t := s.rested.withStack []) rfl rfl rfl).judge
  | stays running next facing animation stack => exact hnone ht rfl (h.congr rfl rfl rfl)
  | @arrives running next c moved free fallen stack =>
    rw [arrival?_eq_some (by rw [ht]; simp) moved]
    have hrest : Taken level past s.rested := h.congr rfl rfl rfl
    exact (hrest.arrive c fallen).congr rfl rfl rfl

end

theorem taken_after (level : Level) (program : Program) (start : Pose) (n : Nat) :
    Taken level ((initial program start).arrivals level n)
      ((initial program start).after level n) := by
  induction n with
  | zero =>
    refine ⟨?_, ?_, ?_, List.nodup_nil⟩
    · intro c
      simp [initial, arrivals]
    · intro c
      simp [initial, arrivals]
    · intro c
      simp [initial]
  | succ n ih =>
    rw [after_succ, arrivals_succ]
    exact ih.step

/-! ## The sets of keys -/

theorem mem_keysOf {cells : List Cell} {k : String} :
    k ∈ keysOf cells ↔ ∃ c ∈ cells, c.key = k := by
  unfold keysOf
  rw [KeySet.mem_ofList, List.mem_map]

theorem keysOf_congr {cells others : List Cell} (h : ∀ c, c ∈ cells ↔ c ∈ others) :
    keysOf cells = keysOf others := by
  apply KeySet.ext_mem
  intro k
  rw [mem_keysOf, mem_keysOf]
  constructor
  · rintro ⟨c, hc, hk⟩
    exact ⟨c, (h c).1 hc, hk⟩
  · rintro ⟨c, hc, hk⟩
    exact ⟨c, (h c).2 hc, hk⟩

theorem keysOf_eq_empty {cells : List Cell} : keysOf cells = .empty ↔ cells = [] := by
  constructor
  · intro h
    apply List.eq_nil_iff_forall_not_mem.2
    intro c hc
    have hk : c.key ∈ keysOf cells := mem_keysOf.2 ⟨c, hc, rfl⟩
    rw [h] at hk
    exact KeySet.not_mem_empty _ hk
  · rintro rfl
    rfl

theorem keysOf_mono {cells others : List Cell} (h : ∀ c ∈ cells, c ∈ others) :
    ∀ k ∈ keysOf cells, k ∈ keysOf others := by
  intro k hk
  obtain ⟨c, hc, rfl⟩ := mem_keysOf.1 hk
  exact mem_keysOf.2 ⟨c, h c hc, rfl⟩

/-- Every key of a set is that of a cell of the grid that holds a tile, and reads back as this
cell. -/
def ReadsBack (level : Level) (tile : Tile) (set : KeySet) : Prop :=
  ∀ k ∈ set, ∃ c, c.key = k ∧ level.grid.Holds c ∧ level.tileAt c = tile ∧
    (c.Readable → Cell.ofKey k = .ok c)

theorem readsBack_keysOf {level : Level} {tile : Tile} {cells : List Cell} (ht : tile ≠ .outside)
    (h : ∀ c ∈ cells, level.tileAt c = tile) : ReadsBack level tile (keysOf cells) := by
  intro k hk
  obtain ⟨c, hc, rfl⟩ := mem_keysOf.1 hk
  have htile := h c hc
  have hholds : level.grid.Holds c := Level.holds_of_tileAt (by rw [htile]; exact ht)
  refine ⟨c, rfl, hholds, htile, ?_⟩
  obtain ⟨hx, -, hy, -⟩ := hholds
  exact Cell.ofKey_key hx hy

section

variable {level : Level} {past : List Cell} {s : State}

theorem Taken.stars_eq (h : Taken level past s) :
    s.changes.stars = keysOf (past.filter fun c => level.tileAt c = .star) := by
  apply keysOf_congr
  intro c
  rw [h.stars c]
  simp

theorem Taken.keys_eq (h : Taken level past s) :
    s.changes.keys = keysOf (past.filter fun c => level.tileAt c = .key) := by
  apply keysOf_congr
  intro c
  rw [h.keys c]
  simp

theorem Taken.doors_eq (h : Taken level past s) :
    s.changes.doors =
      if s.changes.keys = .empty then .empty else keysOf (level.cellsOf .door) := by
  have hcells : ∀ c, c ∈ level.cellsOf .door ↔ level.tileAt c = .door :=
    fun c => Level.mem_cellsOf (by decide)
  unfold changes
  simp only [keysOf_eq_empty]
  split
  · rename_i hk
    apply keysOf_eq_empty.2
    apply List.eq_nil_iff_forall_not_mem.2
    intro c hc
    exact ((h.doors c).1 hc).1 hk
  · rename_i hk
    apply keysOf_congr
    intro c
    rw [h.doors c, hcells c]
    exact and_iff_right hk

theorem Taken.readsBack (h : Taken level past s) :
    ReadsBack level .star s.changes.stars ∧ ReadsBack level .key s.changes.keys ∧
      ReadsBack level .door s.changes.doors := by
  refine ⟨?_, ?_, ?_⟩
  · exact readsBack_keysOf (by decide) fun c hc => ((h.stars c).1 hc).2
  · exact readsBack_keysOf (by decide) fun c hc => ((h.keys c).1 hc).2
  · exact readsBack_keysOf (by decide) fun c hc => ((h.doors c).1 hc).2

/-- What lies on more cells is more. -/
theorem Taken.mono {later : List Cell} {t : State} (h : Taken level past s)
    (ht : Taken level later t) (hp : ∀ c ∈ past, c ∈ later) :
    (∀ k ∈ s.changes.stars, k ∈ t.changes.stars) ∧ (∀ k ∈ s.changes.keys, k ∈ t.changes.keys) ∧
      (∀ k ∈ s.changes.doors, k ∈ t.changes.doors) := by
  have hkeys : ∀ c ∈ s.keys, c ∈ t.keys := by
    intro c hc
    obtain ⟨h1, h2⟩ := (h.keys c).1 hc
    exact (ht.keys c).2 ⟨hp c h1, h2⟩
  refine ⟨keysOf_mono ?_, keysOf_mono hkeys, keysOf_mono ?_⟩
  · intro c hc
    obtain ⟨h1, h2⟩ := (h.stars c).1 hc
    exact (ht.stars c).2 ⟨hp c h1, h2⟩
  · intro c hc
    obtain ⟨hne, hd⟩ := (h.doors c).1 hc
    obtain ⟨k, hk⟩ := List.exists_mem_of_ne_nil _ hne
    exact (ht.doors c).2 ⟨List.ne_nil_of_mem (hkeys k hk), hd⟩

end

/-! ## The law -/

/-- After any number of steps the collected stars and keys are those of the cells on which a step
has arrived, every door is open if there is a key and none otherwise, each key of a set reads back
as a cell of the grid with the right tile, and no set ever shrinks. -/
theorem the_sets_are_the_history_of_arrivals (level : Level) (program : Program) (start : Pose)
    (n : Nat) :
    let run := initial program start
    let past := run.arrivals level n
    let sets := (run.after level n).changes
    sets.stars = keysOf (past.filter fun c => level.tileAt c = .star) ∧
      sets.keys = keysOf (past.filter fun c => level.tileAt c = .key) ∧
      sets.doors = (if sets.keys = .empty then .empty else keysOf (level.cellsOf .door)) ∧
      (ReadsBack level .star sets.stars ∧ ReadsBack level .key sets.keys ∧
        ReadsBack level .door sets.doors) ∧
      ∀ m ≤ n,
        let before := (run.after level m).changes
        (∀ k ∈ before.stars, k ∈ sets.stars) ∧ (∀ k ∈ before.keys, k ∈ sets.keys) ∧
          (∀ k ∈ before.doors, k ∈ sets.doors) := by
  have h := taken_after level program start n
  refine ⟨h.stars_eq, h.keys_eq, h.doors_eq, h.readsBack, ?_⟩
  intro m hm
  exact (taken_after level program start m).mono h fun c hc => arrivals_mono level _ hm hc

end BlockMaze.State
