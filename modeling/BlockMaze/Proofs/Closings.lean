-- Closing finished bodies. A step looks at the stack again and again, until a
-- look finds the next block or no body open; every look before that pops a
-- body or starts the next round of a loop. The looks come to an end on any
-- stack at all. In a run one of them at most starts a round, and there is one
-- more of them than open bodies at most; so no step only closes bodies.
import BlockMaze.Proofs.FramePath

namespace BlockMaze

/-! ## One look -/

/-- What a look that closes does to the stack: the innermost body is finished, and is popped, or
is rewound if it is a loop with another round to go. -/
inductive Closes : List Frame → List Frame → Prop
  | pops {f : Frame} {below : List Frame} (finished : f.blocks[f.cursor]? = none)
      (last : ∀ n ∈ f.roundsLeft, n ≤ 1) : Closes (f :: below) below
  | rewinds {f : Frame} {below : List Frame} {n : Int} (finished : f.blocks[f.cursor]? = none)
      (left : f.roundsLeft = some n) (more : 1 < n) :
      Closes (f :: below) (⟨f.blocks, 0, some (n - 1)⟩ :: below)

theorem closes_of_look {stack rest : List Frame} (h : look stack = .closed rest) :
    Closes stack rest := by
  unfold look at h
  split at h
  · cases h
  · rename_i blocks cursor left below
    split at h
    · cases h
    · rename_i hfinished
      split at h
      · cases h
        exact .pops hfinished (by simp)
      · rename_i n
        split at h
        · rename_i hmore
          cases h
          exact .rewinds (f := ⟨blocks, cursor, some n⟩) hfinished rfl (by omega)
        · rename_i hlast
          cases h
          refine .pops hfinished ?_
          intro m hm
          obtain rfl : n = m := by simpa using hm
          omega

/-- The looks that a frame can take: one for every round that is left, and one to be popped. -/
def Frame.pending (f : Frame) : Nat := (f.roundsLeft.getD 0).toNat + 1

/-- The looks that a stack can take until no body is open. -/
def pending : List Frame → Nat
  | [] => 0
  | f :: below => f.pending + pending below

theorem pending_of_closes {stack rest : List Frame} (h : Closes stack rest) :
    pending rest < pending stack := by
  cases h with
  | pops finished last =>
    rw [pending, Frame.pending]
    omega
  | rewinds finished left more =>
    simp only [pending, Frame.pending, left, Option.getD_some]
    omega

/-- Whatever the frames are, with whatever cursors and rounds, looks do not close for ever. -/
theorem wellFounded_closed : WellFounded fun rest stack => look stack = .closed rest :=
  Subrelation.wf (fun h => pending_of_closes (closes_of_look h)) (measure pending).wf

/-! ## All looks of a step -/

/-- What the looks at a stack come to: the bodies that were popped, the rounds that were started,
and what the last look found. -/
structure Closing where
  popped : Nat
  rewound : Nat
  found : Look

/-- The number of looks, the last one included. -/
def Closing.looks (c : Closing) : Nat := c.popped + c.rewound + 1

/-- Looks at a stack until a look closes nothing. -/
def closing (stack : List Frame) : Closing :=
  match _h : look stack with
  | .closed rest =>
    let later := closing rest
    if rest.length < stack.length then { later with popped := later.popped + 1 }
    else { later with rewound := later.rewound + 1 }
  | found => ⟨0, 0, found⟩
termination_by pending stack
decreasing_by exact pending_of_closes (closes_of_look _h)

theorem closing_of_open {stack : List Frame} (h : ∀ rest, look stack ≠ .closed rest) :
    closing stack = ⟨0, 0, look stack⟩ := by
  rw [closing]
  split
  · rename_i rest hrest
    exact absurd hrest (h rest)
  · rfl

theorem closing_of_closed {stack rest : List Frame} (h : look stack = .closed rest) :
    closing stack =
      if rest.length < stack.length then
        { closing rest with popped := (closing rest).popped + 1 }
      else { closing rest with rewound := (closing rest).rewound + 1 } := by
  rw [closing]
  split
  · rename_i other hother
    obtain rfl : rest = other := by simpa [h] using hother
    rfl
  · rename_i hopen
    exact absurd h (hopen rest)

/-- The last look, said by the next block with its frame and the frames below. -/
def Look.ofNext : Option (Block × Frame × List Frame) → Look
  | none => .done
  | some (block, frame, below) => .next block frame below

/-- The last look finds the next block, if there is one. -/
theorem found_closing (stack : List Frame) : (closing stack).found = .ofNext (settle stack) := by
  induction stack using wellFounded_closed.induction with
  | h stack ih =>
    cases hlook : look stack with
    | done =>
      rw [closing_of_open (by simp [hlook]), settle_of_done hlook]
      exact hlook
    | next block frame below =>
      rw [closing_of_open (by simp [hlook]), settle_of_next hlook]
      exact hlook
    | closed rest =>
      rw [settle_of_closed hlook, ← ih rest hlook, closing_of_closed hlook]
      split <;> rfl

/-- On any stack there is one look more at most than the stack can take. -/
theorem looks_closing_le (stack : List Frame) : (closing stack).looks ≤ pending stack + 1 := by
  induction stack using wellFounded_closed.induction with
  | h stack ih =>
    by_cases hclosed : ∃ rest, look stack = .closed rest
    · obtain ⟨rest, hlook⟩ := hclosed
      have hlater := ih rest hlook
      have hless := pending_of_closes (closes_of_look hlook)
      have hone : (closing stack).looks = (closing rest).looks + 1 := by
        rw [closing_of_closed hlook]
        split
        · simp only [Closing.looks]
          omega
        · simp only [Closing.looks]
          omega
      omega
    · rw [closing_of_open (by simpa using hclosed)]
      simp [Closing.looks]

/-! ## The looks of a run -/

/-- Every loop that is open has blocks. A loop without any would use up a look for each round. -/
def LoopsHaveBlocks (stack : List Frame) : Prop :=
  ∀ f ∈ stack, f.roundsLeft ≠ none → f.blocks ≠ []

theorem IsPath.loopsHaveBlocks {program : Program} {stack : List Frame} (h : IsPath program stack) :
    LoopsHaveBlocks stack := by
  induction stack with
  | nil => simp [LoopsHaveBlocks]
  | cons f below ih =>
    refine List.forall_mem_cons.2 ⟨?_, ih h.tail⟩
    intro hcounts
    cases below with
    | nil =>
      obtain ⟨-, hnone⟩ := h.bottom f rfl
      exact absurd hnone hcounts
    | cons lower rest =>
      obtain ⟨b, -, -, -, hne, -⟩ := (List.isChain_cons_cons.1 h.chain).1
      exact hne

/-- A loop that was rewound has its first block for the next look. -/
theorem look_rewound {blocks : List Block} (h : blocks ≠ []) (left : Option Int)
    (below : List Frame) :
    ∃ block, look (⟨blocks, 0, left⟩ :: below) = .next block ⟨blocks, 0, left⟩ below := by
  cases blocks with
  | nil => exact absurd rfl h
  | cons block rest => exact ⟨block, rfl⟩

/-- A round that is started ends the looks, and every other look that closes takes a body away. -/
theorem closing_bounds {stack : List Frame} (h : LoopsHaveBlocks stack) :
    (closing stack).rewound ≤ 1 ∧ (closing stack).looks ≤ stack.length + 1 := by
  induction stack with
  | nil =>
    rw [closing_of_open (by simp [look])]
    exact ⟨Nat.zero_le 1, Nat.le_refl 1⟩
  | cons f below ih =>
    obtain ⟨hf, hbelow⟩ := List.forall_mem_cons.1 h
    by_cases hclosed : ∃ rest, look (f :: below) = .closed rest
    · obtain ⟨rest, hlook⟩ := hclosed
      rw [closing_of_closed hlook]
      cases closes_of_look hlook with
      | pops finished last =>
        obtain ⟨hrewound, hlooks⟩ := ih hbelow
        rw [if_pos (by simp)]
        refine ⟨hrewound, ?_⟩
        simp only [Closing.looks, List.length_cons] at hlooks ⊢
        omega
      | @rewinds _ _ n finished left more =>
        obtain ⟨block, hnext⟩ := look_rewound (hf (by simp [left])) (some (n - 1)) below
        rw [if_neg (by simp), closing_of_open (by simp [hnext])]
        simp [Closing.looks]
    · rw [closing_of_open (by simpa using hclosed)]
      simp [Closing.looks]

/-- No such bound holds of a stack that no run has. -/
example : (closing [⟨[], 0, some 5⟩]).looks = 6 := by cbv

namespace State

/-- What a step makes of what its looks have found: it visits the next block, which stands at the
cursor of its frame, or gives the verdict, which ends the run. -/
inductive GoesOn (level : Level) (s : State) : Look → Prop
  | visits {block : Block} {frame : Frame} {below : List Frame}
      (within : frame.blocks[frame.cursor]? = some block)
      (visited : (s.step level).1 = (s.rested.visit level block frame below).1)
      (shown : (s.step level).2.active = some block.id) :
      GoesOn level s (.next block frame below)
  | judges (shown : (s.step level).2.active = none)
      (ended : (s.step level).1.status.isTerminal = true) : GoesOn level s .done

theorem goesOn_of_running (level : Level) {s : State} (h : s.status = .running) :
    GoesOn level s (closing s.stack).found := by
  have hrunning := isTerminal_eq_false.2 h
  rw [found_closing]
  cases hs : settle s.stack with
  | none =>
    refine .judges ?_ ?_
    · rw [step_of_done hrunning hs]
      rfl
    · rw [step_of_done hrunning hs]
      exact judge_isTerminal level _ rfl
  | some next =>
    obtain ⟨block, frame, below⟩ := next
    refine .visits (next_of_settle hs) ?_ ?_
    · rw [step_of_next hrunning hs, visit_eq]
    · rw [step_of_next hrunning hs]
      rfl

/-! ## The law -/

/-- Closing finished bodies is bounded work. From any stack the looks come to an end, after a number
that the rounds left and the open bodies bound, with the next block if there is one. At any moment
of a run they start one round at most, they are one more than the open bodies at most, and the step
goes on from what they have found: it visits a block or ends the run, so the boundaries of loops
take no step of their own. -/
theorem closing_finished_bodies_is_bounded_work :
    (WellFounded fun rest stack => look stack = .closed rest) ∧
      (∀ stack, (closing stack).looks ≤ pending stack + 1 ∧
        (closing stack).found = .ofNext (settle stack)) ∧
      ∀ (level : Level) (program : Program) (start : Pose) (n : Nat),
        let s := (initial program start).after level n
        (closing s.stack).rewound ≤ 1 ∧ (closing s.stack).looks ≤ s.depth + 1 ∧
          (s.status = .running → GoesOn level s (closing s.stack).found) := by
  refine ⟨wellFounded_closed, fun stack => ⟨looks_closing_le stack, found_closing stack⟩, ?_⟩
  intro level program start n s
  obtain ⟨hrewound, hlooks⟩ := closing_bounds (isPath_after level program start n).loopsHaveBlocks
  exact ⟨hrewound, hlooks, goesOn_of_running level⟩

end State

end BlockMaze
