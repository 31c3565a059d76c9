-- The star guard. Whoever arrives on a star takes it, so a runner stands on a
-- star that it has not collected only where it started and has not moved yet.
-- Once a move or a jump has succeeded, every `IF_STAR` is passed over.
import BlockMaze.Proofs.LegalSteps

namespace BlockMaze.State

/-! ## Standing still -/

section

variable {level : Level} {s : State}

theorem arrival?_eq_none_iff :
    s.arrival? level = none ↔ (s.step level).1.pose.cell = s.pose.cell := by
  refine ⟨fun h => ?_, arrival?_eq_none⟩
  by_contra hc
  rw [arrival?_eq_some rfl hc] at h
  cases h

/-- Nothing has been arrived at if and only if no step has changed the runner's cell. -/
theorem arrivals_eq_nil_iff {n : Nat} :
    s.arrivals level n = [] ↔
      ∀ k < n, (s.after level (k + 1)).pose.cell = (s.after level k).pose.cell := by
  unfold arrivals
  rw [List.filterMap_eq_nil_iff]
  simp only [List.mem_range, arrival?_eq_none_iff, after_succ]

theorem cell_of_arrivals_eq_nil {n : Nat} (h : s.arrivals level n = []) :
    (s.after level n).pose.cell = s.pose.cell := by
  rw [arrivals_eq_nil_iff] at h
  induction n with
  | zero => rfl
  | succ n ih =>
    rw [h n (Nat.lt_succ_self n)]
    exact ih fun k hk => h k (Nat.lt_succ_of_lt hk)

end

/-- The runner finds a star under its feet if and only if it has not moved and started on one. -/
theorem isOnStar_iff (level : Level) (program : Program) (start : Pose) (n : Nat) :
    let run := initial program start
    (run.after level n).isOnStar level = true ↔
      run.arrivals level n = [] ∧ level.tileAt start.cell = .star := by
  intro run
  have htaken := taken_after level program start n
  have hguard : (run.after level n).isOnStar level = true ↔
      level.tileAt (run.after level n).pose.cell = .star ∧
        (run.after level n).pose.cell ∉ (run.after level n).stars := by
    simp [isOnStar]
  rw [hguard]
  constructor
  · rintro ⟨hstar, hleft⟩
    rcases arrived_or_not level run n with hnil | ⟨k, hk, harrival⟩
    · rw [cell_of_arrivals_eq_nil hnil] at hstar
      exact ⟨hnil, hstar⟩
    · -- the step that arrived here has taken the star
      have hpast : (run.after level n).pose.cell ∈ run.arrivals level n :=
        List.mem_filterMap.2 ⟨k, List.mem_range.2 hk, harrival⟩
      exact absurd ((htaken.stars _).2 ⟨hpast, hstar⟩) hleft
  · rintro ⟨hnil, hstar⟩
    rw [cell_of_arrivals_eq_nil hnil]
    refine ⟨hstar, fun hmem => ?_⟩
    have hpast := ((htaken.stars _).1 hmem).1
    change _ ∈ run.arrivals level n at hpast
    rw [hnil] at hpast
    exact absurd hpast List.not_mem_nil

/-! ## Passing over a block -/

/-- The next step is a move or a jump, and it is not denied. -/
def Succeeds (level : Level) (s : State) : Prop :=
  (s.order? = some .moveForward ∨ s.order? = some .jump) ∧
    (s.step level).1.pose.animation ≠ .deny

/-- A move or a jump that is not denied takes the runner to another cell. -/
theorem Succeeds.moves {level : Level} {s : State} (h : s.Succeeds level) :
    (s.step level).1.pose.cell ≠ s.pose.cell := by
  intro hcell
  exact h.2 ((legal_step level s).denied.2 ⟨h.1, hcell⟩)

/-- The next step visits a block and does nothing else: only the cursor goes on behind the block,
no body is opened, and the snapshot has no message. -/
def PassesOver (level : Level) (s : State) (b : Block) : Prop :=
  ∃ f below, settle s.stack = some (b, f, below) ∧
    s.step level =
      (s.rested.withStack ({ f with cursor := f.cursor + 1 } :: below),
        s.rested.shown (some b.id) none) ∧
    (s.step level).1.depth ≤ s.depth

/-- Closing finished bodies only takes frames away. -/
theorem length_of_settle {stack below : List Frame} {b : Block} {f : Frame}
    (h : settle stack = some (b, f, below)) : below.length + 1 ≤ stack.length := by
  fun_induction settle stack with
  | case1 => simp at h
  | case2 blocks cursor left rest c hc =>
    simp only [Option.some.injEq, Prod.mk.injEq] at h
    obtain ⟨rfl, rfl, rfl⟩ := h
    exact Nat.le_refl _
  | case3 cursor rest n c cs hn hc =>
    simp only [Option.some.injEq, Prod.mk.injEq] at h
    obtain ⟨rfl, rfl, rfl⟩ := h
    exact Nat.le_refl _
  | case4 cursor rest n c cs hn hc ih => exact Nat.le_succ_of_le (ih h)
  | case5 blocks cursor left rest hc hother ih => exact Nat.le_succ_of_le (ih h)

/-- A block that neither acts nor opens a body is passed over. -/
theorem passesOver_of_opened {level : Level} {s : State} {b : Block} (h : s.next? = some b)
    (hc : b.kind.isControl = true) (ho : s.rested.opened level b = none) :
    s.PassesOver level b := by
  obtain ⟨ht, f, below, hs⟩ := next?_eq_some.1 h
  have hstep : s.step level =
      (s.rested.withStack ({ f with cursor := f.cursor + 1 } :: below),
        s.rested.shown (some b.id) none) := by
    rw [step_of_next ht hs, act_of_control level s.rested hc]
    simp [stackAfter, passed, ho]
  refine ⟨f, below, hs, hstep, ?_⟩
  rw [hstep]
  exact length_of_settle hs

theorem opened_of_not_isOnStar {level : Level} {s : State} {b : Block} (hk : b.kind = .ifStar)
    (h : s.isOnStar level = false) : s.opened level b = none := by
  simp [opened, hk, h]

/-! ## The law -/

/-- The star guard fires only before the runner first moves: it holds exactly as long as no step has
changed the runner's cell and the run started on a star. So once a move or a jump has succeeded,
every visit of an `IF_STAR`, at any depth, is a step that does nothing and opens no body. -/
theorem the_star_guard_fires_only_before_the_first_move (level : Level) (program : Program)
    (start : Pose) :
    let run := initial program start
    (∀ n, (run.after level n).isOnStar level = true ↔
        (∀ k < n, (run.after level (k + 1)).pose.cell = (run.after level k).pose.cell) ∧
          level.tileAt start.cell = .star) ∧
      ∀ k n b, k < n → (run.after level k).Succeeds level →
        (run.after level n).next? = some b → b.kind = .ifStar →
        (run.after level n).PassesOver level b := by
  intro run
  have hguard : ∀ n, (run.after level n).isOnStar level = true ↔
      (∀ k < n, (run.after level (k + 1)).pose.cell = (run.after level k).pose.cell) ∧
        level.tileAt start.cell = .star := by
    intro n
    rw [← arrivals_eq_nil_iff]
    exact isOnStar_iff level program start n
  refine ⟨hguard, ?_⟩
  intro k n b hkn hsucceeds hnext hkind
  have hoff : (run.after level n).isOnStar level = false := by
    by_contra hon
    have hstill := ((hguard n).1 (by simpa using hon)).1 k hkn
    rw [after_succ] at hstill
    exact hsucceeds.moves hstill
  exact passesOver_of_opened hnext (by rw [hkind]; rfl) (opened_of_not_isOnStar hkind hoff)

/-- A run from a star: the first `IF_STAR` moves the runner off it, and when the runner has come
back, the second one is passed over. -/
theorem a_star_is_found_at_the_start_and_never_again :
    let level : Level :=
      ⟨1, "Star", ⟨[[.star, .empty]], 2, by decide, by decide, by decide, by decide⟩,
        ⟨⟨0, 0⟩, .right, .idle⟩, [], 0, none, none⟩
    let move : Block := ⟨"move", .moveForward, none, none⟩
    let turn : Block := ⟨"turn", .turnLeft, none, none⟩
    let again : Block := ⟨"again", .ifStar, none, some [move]⟩
    let program : Program :=
      [⟨"first", .ifStar, none, some [move]⟩, turn, turn, move,
        ⟨"loop", .loop, some 2, some [again]⟩]
    let run := initial program level.start
    ((run.after level 0).isOnStar level = true ∧ (run.after level 1).depth = 2) ∧
      ((run.after level 1).Succeeds level ∧ (run.after level 6).next? = some again ∧
        (run.after level 6).pose.cell = level.start.cell ∧ again.kind = .ifStar) ∧
      (run.after level 6).PassesOver level again := by
  intro level move turn again program run
  have hsucceeds : (run.after level 1).Succeeds level := ⟨by decide, by decide⟩
  have hnext : (run.after level 6).next? = some again := by decide +kernel
  obtain ⟨hguard, hpass⟩ :=
    the_star_guard_fires_only_before_the_first_move level program level.start
  have hon : (run.after level 0).isOnStar level = true := (hguard 0).2 ⟨by simp, rfl⟩
  have hdepth : (run.after level 1).depth = 2 := by decide
  have hback : (run.after level 6).pose.cell = level.start.cell := by decide
  refine ⟨⟨hon, hdepth⟩, ⟨hsucceeds, hnext, hback, rfl⟩, ?_⟩
  exact hpass 1 6 again (by decide) hsucceeds hnext rfl

end BlockMaze.State
