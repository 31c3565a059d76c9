-- Runs under a limit. A run that is over stays over, so a run within a limit
-- is told by the first step that shows the end: it returns the snapshots up
-- to this step, or, when the limit comes first, all the snapshots so far.
import BlockMaze.Proofs.Steps
import BlockMaze.Run.Limit
import Mathlib.Data.ENat.Lattice

namespace BlockMaze

/-! ## The first step -/

/-- The number, counted from one, of the first step with a property, where a step is told by the
number of steps before it. It is infinite when no step has the property. -/
noncomputable def firstStep (P : Nat → Prop) : ℕ∞ := ⨅ i, ⨅ _ : P i, ((i + 1 : Nat) : ℕ∞)

section

variable {P : Nat → Prop}

theorem firstStep_eq {i : Nat} (hi : P i) (hbefore : ∀ j < i, ¬ P j) :
    firstStep P = ((i + 1 : Nat) : ℕ∞) := by
  apply le_antisymm
  · exact iInf₂_le i hi
  · refine le_iInf₂ fun j hj => ?_
    have hij : i ≤ j := by
      by_contra hlt
      exact hbefore j (by omega) hj
    exact_mod_cast Nat.succ_le_succ hij

theorem lt_firstStep {n : Nat} : (n : ℕ∞) < firstStep P ↔ ∀ i < n, ¬ P i := by
  constructor
  · intro h i hi hp
    have hle : firstStep P ≤ ((i + 1 : Nat) : ℕ∞) := iInf₂_le i hp
    have hlt : n < i + 1 := by exact_mod_cast lt_of_lt_of_le h hle
    omega
  · intro h
    have hle : ((n + 1 : Nat) : ℕ∞) ≤ firstStep P := by
      refine le_iInf₂ fun j hj => ?_
      have hnj : n ≤ j := by
        by_contra hlt
        exact h j (by omega) hj
      exact_mod_cast Nat.succ_le_succ hnj
    exact lt_of_lt_of_le (by exact_mod_cast Nat.lt_succ_self n) hle

/-- A first step within a number of steps is one of them, and none before it has the property. -/
theorem firstStep_le {n : Nat} (h : firstStep P ≤ n) :
    ∃ i < n, P i ∧ (∀ j < i, ¬ P j) ∧ firstStep P = ((i + 1 : Nat) : ℕ∞) := by
  classical
  have hex : ∃ i, i < n ∧ P i := by
    by_contra hnone
    apply absurd h
    rw [not_le, lt_firstStep]
    intro i hi hp
    exact hnone ⟨i, hi, hp⟩
  obtain ⟨hlt, hp⟩ := Nat.find_spec hex
  have hbefore : ∀ j < Nat.find hex, ¬ P j := by
    intro j hj hpj
    exact Nat.find_min hex hj ⟨by omega, hpj⟩
  exact ⟨Nat.find hex, hlt, hp, hbefore, firstStep_eq hp hbefore⟩

end

namespace State

/-! ## A run in two parts -/

theorem after_add (level : Level) (s : State) (m n : Nat) :
    s.after level (m + n) = (s.after level m).after level n := by
  induction n with
  | zero => rfl
  | succ n ih => rw [← Nat.add_assoc, after_succ, after_succ, ih]

theorem steps_add (level : Level) (s : State) (m n : Nat) :
    (s.steps level (m + n)).2 =
      (s.steps level m).2 ++ ((s.after level m).steps level n).2 := by
  induction m generalizing s with
  | zero => simp [steps]
  | succ m ih =>
    rw [Nat.succ_add, steps_succ_snd, ih, steps_succ_snd, after_succ_first, List.cons_append]

theorem length_steps (level : Level) (s : State) (n : Nat) : (s.steps level n).2.length = n := by
  induction n generalizing s with
  | zero => rfl
  | succ n ih => rw [steps_succ_snd, List.length_cons, ih]

/-- The snapshots of a number of steps, one by one. -/
theorem steps_eq_map (level : Level) (s : State) (n : Nat) :
    (s.steps level n).2 = (List.range n).map (s.result level) := by
  induction n with
  | zero => rfl
  | succ n ih =>
    rw [steps_add, ih, List.range_succ, List.map_append]
    rfl

/-! ## A run that is over -/

section

variable {level : Level} {s : State}

theorem result_isTerminal (level : Level) (s : State) (n : Nat) :
    (s.result level n).isTerminal = (s.after level (n + 1)).status.isTerminal := by
  obtain ⟨active, message, h⟩ := step_shows level (s.after level n)
  unfold result
  rw [h, after_succ]
  rfl

theorem running_of_step (h : (s.step level).1.status.isTerminal = false) :
    s.status.isTerminal = false := by
  by_contra hover
  rw [step_of_over (by simpa using hover)] at h
  exact hover h

/-- A run that goes on has gone on at all times before. -/
theorem running_before {m n : Nat} (hmn : m ≤ n)
    (h : (s.after level n).status.isTerminal = false) :
    (s.after level m).status.isTerminal = false := by
  induction n, hmn using Nat.le_induction with
  | base => exact h
  | succ n _ ih =>
    rw [after_succ] at h
    exact ih (running_of_step h)

/-- A run that is over only takes back what its picture shows of the step before. -/
theorem after_of_over (h : s.status.isTerminal = true) (n : Nat) :
    s.after level (n + 1) = s.rested := by
  induction n with
  | zero => rw [after_succ, after_zero, step_of_over h]
  | succ n ih =>
    rw [after_succ, ih, step_of_over (s := s.rested) h]
    rfl

/-- Behind a snapshot that shows the end, the runner stands still, and no block is visited. -/
theorem result_of_over {i j : Nat} (hij : i < j) (h : (s.result level i).isTerminal = true) :
    s.result level j =
      ⟨(s.result level i).pose.atRest, none, (s.result level i).status,
        (s.result level i).changes, none⟩ := by
  obtain ⟨active, message, hshown⟩ := step_shows level (s.after level i)
  rw [← after_succ] at hshown
  have hover : (s.after level (i + 1)).status.isTerminal = true := by
    rw [← result_isTerminal]
    exact h
  obtain ⟨k, rfl⟩ : ∃ k, j = i + 1 + k := ⟨j - (i + 1), by omega⟩
  unfold result
  rw [hshown, after_add]
  cases k with
  | zero =>
    rw [after_zero, step_of_over hover]
    rfl
  | succ k =>
    rw [after_of_over hover, step_of_over (s := (s.after level (i + 1)).rested) hover]
    rfl

/-! ## Steps within a limit -/

theorem stepsUntilOver_of_running {n : Nat}
    (h : ∀ i < n, (s.result level i).isTerminal = false) :
    s.stepsUntilOver level n = (s.after level n, (s.steps level n).2, false) := by
  induction n generalizing s with
  | zero => rfl
  | succ n ih =>
    have hfirst : (s.step level).2.isTerminal = false := h 0 (by omega)
    have hrest := ih (s := (s.step level).1) fun i hi => h (i + 1) (by omega)
    simp only [stepsUntilOver, hfirst, hrest, Bool.false_eq_true, if_false]
    rfl

theorem stepsUntilOver_of_over {k n : Nat} (hkn : k < n)
    (hbefore : ∀ i < k, (s.result level i).isTerminal = false)
    (hk : (s.result level k).isTerminal = true) :
    s.stepsUntilOver level n = (s.after level (k + 1), (s.steps level (k + 1)).2, true) := by
  induction k generalizing s n with
  | zero =>
    obtain ⟨m, rfl⟩ : ∃ m, n = m + 1 := ⟨n - 1, by omega⟩
    have hfirst : (s.step level).2.isTerminal = true := hk
    simp only [stepsUntilOver, hfirst, if_true]
    rfl
  | succ k ih =>
    obtain ⟨m, rfl⟩ : ∃ m, n = m + 1 := ⟨n - 1, by omega⟩
    have hfirst : (s.step level).2.isTerminal = false := hbefore 0 (by omega)
    have hrest := ih (s := (s.step level).1) (n := m) (by omega)
      (fun i hi => hbefore (i + 1) (by omega)) hk
    simp only [stepsUntilOver, hfirst, hrest, Bool.false_eq_true, if_false]
    rfl

/-- The number of the first step that shows the end of a run. -/
noncomputable def endStep (level : Level) (s : State) : ℕ∞ :=
  firstStep fun i => (s.result level i).isTerminal = true

/-- A run within a limit goes to the first snapshot that shows its end, or it takes all the steps
that the limit allows. -/
theorem run_cases (level : Level) (s : State) (limit : Int) :
    (∃ k < limit.toNat, (s.result level k).isTerminal = true ∧
        (∀ i < k, (s.result level i).isTerminal = false) ∧
        s.run level limit = (s.after level (k + 1), .ok (s.steps level (k + 1)).2)) ∨
      ((∀ i < limit.toNat, (s.result level i).isTerminal = false) ∧
        s.run level limit =
          (s.after level limit.toNat, .error ⟨limit, (s.steps level limit.toNat).2⟩)) := by
  unfold run
  by_cases h : s.endStep level ≤ limit.toNat
  · obtain ⟨k, hk, hover, hbefore, -⟩ := firstStep_le h
    have hrunning : ∀ i < k, (s.result level i).isTerminal = false := by simpa using hbefore
    refine Or.inl ⟨k, hk, hover, hrunning, ?_⟩
    rw [stepsUntilOver_of_over hk hrunning hover]
    rfl
  · have hnone := lt_firstStep.1 (not_le.1 h)
    have hrunning : ∀ i < limit.toNat, (s.result level i).isTerminal = false := by
      simpa using hnone
    refine Or.inr ⟨hrunning, ?_⟩
    rw [stepsUntilOver_of_running hrunning]
    rfl

/-- A run within a limit returns the snapshots up to its end, or breaks off with all snapshots so
far when the limit comes first. -/
theorem run_eq (level : Level) (s : State) (limit : Int) :
    (s.run level limit).2 =
      if s.endStep level ≤ limit.toNat then .ok (s.steps level (s.endStep level).toNat).2
      else .error ⟨limit, (s.steps level limit.toNat).2⟩ := by
  rcases run_cases level s limit with ⟨k, hk, hover, hbefore, hrun⟩ | ⟨hrunning, hrun⟩
  · have hend : s.endStep level = ((k + 1 : Nat) : ℕ∞) :=
      firstStep_eq hover (by simpa using hbefore)
    rw [hrun, hend, if_pos (by exact_mod_cast hk), ENat.toNat_natCast]
  · have hlt : (limit.toNat : ℕ∞) < s.endStep level := lt_firstStep.2 (by simpa using hrunning)
    rw [hrun, if_neg (not_le.2 hlt)]

/-- A run never ends if and only if it breaks off at every limit. -/
theorem never_over_iff (level : Level) (s : State) :
    (∀ n, (s.after level n).status.isTerminal = false) ↔
      ∀ limit : Int, (s.run level limit).2 =
        .error ⟨limit, (s.steps level limit.toNat).2⟩ := by
  constructor
  · intro h limit
    have hlt : (limit.toNat : ℕ∞) < s.endStep level := by
      refine lt_firstStep.2 fun i _ => ?_
      rw [result_isTerminal, h]
      decide
    rw [run_eq, if_neg (not_le.2 hlt)]
  · intro h n
    have hlt : ((n + 1 : Nat) : ℕ∞) < s.endStep level := by
      by_contra hle
      have hrun := h (n + 1 : Nat)
      rw [run_eq, Int.toNat_natCast, if_pos (not_lt.1 hle)] at hrun
      cases hrun
    have hnext := lt_firstStep.1 hlt n (Nat.lt_succ_self n)
    rw [result_isTerminal] at hnext
    exact running_before (Nat.le_succ n) (by simpa using hnext)

end

end State

end BlockMaze
