-- Walls confine the runner. A region is enclosed when every neighbour of its
-- cells is in it, is a wall, or lies around the grid. No program leads out of
-- an enclosed region, neither by a jump nor over the edge of the grid, so a
-- run wins only with what lies inside.
import BlockMaze.Proofs.LegalSteps
import BlockMaze.Proofs.Verdict
import Mathlib.Data.Set.Card

namespace BlockMaze

/-! ## Neighbours -/

namespace Cell

/-- The four cells beside a cell. -/
def neighbours (c : Cell) : List Cell :=
  [⟨c.x, c.y - 1⟩, ⟨c.x + 1, c.y⟩, ⟨c.x, c.y + 1⟩, ⟨c.x - 1, c.y⟩]

theorem ahead_one_mem (c : Cell) (d : Direction) : c.ahead d 1 ∈ c.neighbours := by
  unfold ahead neighbours
  cases d <;> simp [Direction.offset, Int.sub_eq_add_neg]

end Cell

/-- Every cell beside the region belongs to it, is a wall, or is not in the grid. -/
def Enclosed (level : Level) (region : Set Cell) : Prop :=
  ∀ c ∈ region, ∀ d ∈ c.neighbours,
    d ∈ region ∨ level.tileAt d = .wall ∨ ¬ level.grid.Holds d

section

variable {level : Level} {region : Set Cell}

theorem Enclosed.ahead_mem (h : Enclosed level region) {c : Cell} (hc : c ∈ region)
    {d : Direction} (hin : level.grid.Holds (c.ahead d 1))
    (hwall : level.tileAt (c.ahead d 1) ≠ .wall) : c.ahead d 1 ∈ region := by
  rcases h c hc _ (c.ahead_one_mem d) with hmem | hw | hout
  · exact hmem
  · exact absurd hw hwall
  · exact absurd hin hout

end

/-! ## Staying inside -/

namespace State

section

variable {level : Level} {region : Set Cell}

theorem step_mem (h : Enclosed level region) {s : State} (hs : s.pose.cell ∈ region) :
    (s.step level).1.pose.cell ∈ region := by
  have hlegal := legal_step level s
  by_cases hc : (s.step level).1.pose.cell = s.pose.cell
  · rw [hc]
    exact hs
  · rcases hlegal.cell hc with ⟨-, hcell, hin, hwall, -⟩ | ⟨-, hcell, ⟨hin, hwall, -⟩, hin', hwall'⟩
    · rw [hcell]
      exact h.ahead_mem hs hin hwall
    · -- the cell between lets the runner through, so it belongs to the region, and the landing
      -- is beside it
      have hmiddle : s.pose.ahead 1 ∈ region := h.ahead_mem hs hin hwall
      have hland : s.pose.ahead 2 = (s.pose.ahead 1).ahead s.pose.facing 1 := Cell.ahead_two _ _
      rw [hland] at hcell hin' hwall'
      rw [hcell]
      exact h.ahead_mem hmiddle hin' hwall'

theorem after_mem (h : Enclosed level region) {s : State} (hs : s.pose.cell ∈ region) (n : Nat) :
    (s.after level n).pose.cell ∈ region := by
  induction n with
  | zero => exact hs
  | succ n ih =>
    rw [after_succ]
    exact step_mem h ih

theorem arrival_mem (h : Enclosed level region) {s : State} (hs : s.pose.cell ∈ region) {c : Cell}
    (hc : s.arrival? level = some c) : c ∈ region := by
  rw [← cell_of_arrival? hc]
  exact step_mem h hs

theorem arrivals_mem (h : Enclosed level region) {s : State} (hs : s.pose.cell ∈ region) (n : Nat) :
    ∀ c ∈ s.arrivals level n, c ∈ region := by
  intro c hc
  unfold arrivals at hc
  obtain ⟨i, -, hi⟩ := List.mem_filterMap.1 hc
  exact arrival_mem h (after_mem h hs i) hi

/-! ## Winning with what lies inside -/

theorem flag_of_reachesFlag (h : Enclosed level region) {s : State} (hs : s.pose.cell ∈ region)
    (hf : s.ReachesFlag level) : ∃ c ∈ region, level.tileAt c = .flag := by
  rcases hf with ⟨c, hc, hflag⟩ | ⟨-, hflag⟩
  · exact ⟨c, arrival_mem h hs hc, hflag⟩
  · exact ⟨s.pose.cell, hs, hflag⟩

/-- The distinct stars of the arrivals all lie inside. -/
theorem starCount_le_inside (h : Enclosed level region) {s : State} (hs : s.pose.cell ∈ region)
    (n : Nat) :
    (s.starCount level n : ℕ∞) ≤ {c ∈ region | level.tileAt c = .star}.encard := by
  unfold starCount
  generalize hl : ((s.arrivals level n).filter fun c => level.tileAt c = .star).dedup = stars
  have hnodup : stars.Nodup := by
    rw [← hl]
    exact List.nodup_dedup _
  have hsub : (stars.toFinset : Set Cell) ⊆ {c ∈ region | level.tileAt c = .star} := by
    intro c hc
    rw [List.coe_toFinset, Set.mem_ofPred_eq, ← hl, List.mem_dedup, List.mem_filter] at hc
    exact ⟨arrivals_mem h hs n c hc.1, by simpa using hc.2⟩
  have hcard := Set.encard_le_encard hsub
  rw [Set.encard_coe_eq_coe_finsetCard, List.toFinset_card_of_nodup hnodup] at hcard
  exact hcard

end

/-- From inside an enclosed region no program leads out of it. So no program wins if the region
has no flag, or fewer stars than the level asks for. -/
theorem walls_confine_the_runner (level : Level) (region : Set Cell) (h : Enclosed level region)
    (start : Pose) (hs : start.cell ∈ region) :
    (∀ (program : Program) (n : Nat),
        ((initial program start).after level n).pose.cell ∈ region) ∧
      ((∀ c ∈ region, level.tileAt c ≠ .flag) ∨
          {c ∈ region | level.tileAt c = .star}.encard < level.minStars →
        ∀ (program : Program) (n : Nat),
          ((initial program start).after level n).status ≠ .completed) := by
  have hinitial : ∀ program : Program, (initial program start).pose.cell ∈ region := fun _ => hs
  refine ⟨fun program n => after_mem h (hinitial program) n, ?_⟩
  intro hpoor program n hcompleted
  obtain ⟨k, -, hflag, hstars⟩ := (settled level program start n).completed.1 hcompleted
  rcases hpoor with hnone | hfew
  · obtain ⟨c, hc, hf⟩ := flag_of_reachesFlag h (after_mem h (hinitial program) k) hflag
    exact hnone c hc hf
  · have hle := starCount_le_inside h (hinitial program) (k + 1)
    have hmin : (level.minStars : ℕ∞) ≤ (initial program start).starCount level (k + 1) := by
      exact_mod_cast hstars
    exact absurd hfew (not_lt.2 (hmin.trans hle))

/-- A room of two cells, closed by a wall on one side and by the edge of the grid on the others. The
flag is two cells behind the wall. -/
theorem a_closed_room_confines_the_runner :
    let level : Level :=
      ⟨1, "Room", ⟨[[.empty, .star, .wall, .empty, .flag]], 5, by decide, by decide, by decide,
        by decide⟩, ⟨⟨0, 0⟩, .right, .idle⟩, [], 0, none, none⟩
    let room : Set Cell := {⟨0, 0⟩, ⟨1, 0⟩}
    (Enclosed level room ∧ level.start.cell ∈ room ∧ ∀ c ∈ room, level.tileAt c ≠ .flag) ∧
      (∀ (program : Program) (n : Nat),
        ((initial program level.start).after level n).pose.cell ∈ room) ∧
      ∀ (program : Program) (n : Nat),
        ((initial program level.start).after level n).status ≠ .completed := by
  intro level room
  have henclosed : Enclosed level room := by
    rintro c (rfl | rfl) d hd
    · simp only [Cell.neighbours, List.mem_cons, List.not_mem_nil, or_false] at hd
      rcases hd with rfl | rfl | rfl | rfl <;> simp [room, level, Grid.Holds, Grid.height]
    · simp only [Cell.neighbours, List.mem_cons, List.not_mem_nil, or_false] at hd
      rcases hd with rfl | rfl | rfl | rfl <;>
        simp [room, level, Grid.Holds, Grid.height, Level.tileAt, Grid.tileAt]
  have hstart : level.start.cell ∈ room := Or.inl rfl
  have hflag : ∀ c ∈ room, level.tileAt c ≠ .flag := by
    rintro c (rfl | rfl) <;> decide
  have hconfined := walls_confine_the_runner level room henclosed level.start hstart
  exact ⟨⟨henclosed, hstart, hflag⟩, hconfined.1, hconfined.2 (Or.inl hflag)⟩

end State

end BlockMaze
