-- Counting visits. In a program whose conditions have nothing inside, a run
-- goes through the blocks as if every loop were written out, and so each block
-- is visited as often as the rounds of the loops around it multiply to. Blocks
-- are told apart by their places, for ids may repeat.
import BlockMaze.Proofs.Halting
import BlockMaze.Proofs.LegalSteps
import BlockMaze.Proofs.TreeRun
import Mathlib.Algebra.BigOperators.Group.List.Basic
import Mathlib.Algebra.BigOperators.Ring.List

namespace BlockMaze

/-! ## Places -/

/-- A block and its place: the number of the block in its list, behind the numbers of the blocks
around it, the outermost first. -/
structure Visit where
  place : List Nat
  block : Block
deriving DecidableEq

/-- The visit with the numbers of further blocks around it. -/
def Visit.under (outer : List Nat) (v : Visit) : Visit := ⟨outer ++ v.place, v.block⟩

theorem Visit.under_injective (outer : List Nat) : Function.Injective (Visit.under outer) := by
  rintro ⟨p, b⟩ ⟨q, c⟩ h
  simpa [under] using h

/-- A block of a program with its place and the blocks around it, the outermost first. -/
structure Spot where
  place : List Nat
  around : List Block
  block : Block

namespace Spot

def visit (s : Spot) : Visit := ⟨s.place, s.block⟩

/-- The spot, seen from around a block with a number. -/
def inside (number : Nat) (b : Block) (s : Spot) : Spot :=
  ⟨number :: s.place, b :: s.around, s.block⟩

theorem visit_inside (number : Nat) (b : Block) (s : Spot) :
    (s.inside number b).visit = s.visit.under [number] := rfl

theorem map_visit_inside (number : Nat) (b : Block) (l : List Spot) :
    (l.map (inside number b)).map visit = (l.map visit).map (Visit.under [number]) := by
  simp [Function.comp_def, visit_inside]

/-- No block around the spot is a primitive one. -/
def isLive (s : Spot) : Bool := s.around.all fun b => b.kind.isControl

/-- The rounds of the loops around the spot, multiplied. -/
def turns (s : Spot) : Nat := ((s.around.filter fun b => b.kind = .loop).map loopRounds).prod

end Spot

namespace Program

/-- The blocks of a list, whose first block has a number, in order: parents before their children,
where what is inside a block comes a number of times. -/
def inOrder (times : Block → Nat) : Nat → List Block → List Spot
  | _, [] => []
  | i, ⟨id, kind, count, none⟩ :: rest =>
    ⟨[i], [], ⟨id, kind, count, none⟩⟩ :: inOrder times (i + 1) rest
  | i, ⟨id, kind, count, some body⟩ :: rest =>
    let b : Block := ⟨id, kind, count, some body⟩
    ⟨[i], [], b⟩ ::
      ((List.replicate (times b) (inOrder times 0 body)).flatten.map (Spot.inside i b) ++
        inOrder times (i + 1) rest)

/-- The blocks of a program, each one once. -/
def spots (program : Program) : List Spot := inOrder (fun _ => 1) 0 program

/-- The rounds in which a block goes through what is inside it, if it is a loop. -/
def passes (b : Block) : Nat := if b.kind = .loop then loopRounds b else 0

/-- The blocks of a program with every loop written out. -/
def unrolled (program : Program) : List Spot := inOrder passes 0 program

section

variable {times : Block → Nat}

theorem inOrder_cons (i : Nat) (b : Block) (bs : List Block) :
    inOrder times i (b :: bs) =
      ⟨[i], [], b⟩ ::
        ((List.replicate (times b) (inOrder times 0 b.children)).flatten.map (Spot.inside i b) ++
          inOrder times (i + 1) bs) := by
  obtain ⟨id, kind, count, body⟩ := b
  cases body with
  | none => simp [inOrder, Block.children]
  | some body => simp [inOrder, Block.children]

theorem mem_inOrder_cons {i : Nat} {b : Block} {bs : List Block} {s : Spot}
    (h : s ∈ inOrder times i (b :: bs)) :
    s = ⟨[i], [], b⟩ ∨ (∃ t ∈ inOrder times 0 b.children, s = t.inside i b) ∨
      s ∈ inOrder times (i + 1) bs := by
  rw [inOrder_cons, List.mem_cons, List.mem_append, List.mem_map] at h
  rcases h with h | ⟨t, ht, rfl⟩ | h
  · exact Or.inl h
  · obtain ⟨l, hl, ht⟩ := List.mem_flatten.1 ht
    rw [(List.mem_replicate.1 hl).2] at ht
    exact Or.inr (Or.inl ⟨t, ht, rfl⟩)
  · exact Or.inr (Or.inr h)

/-- The places in a list begin with the numbers of its blocks. -/
theorem place_of_mem_inOrder {i : Nat} {bs : List Block} {s : Spot}
    (h : s ∈ inOrder times i bs) : ∃ j rest, i ≤ j ∧ s.place = j :: rest := by
  induction bs generalizing i with
  | nil => simp [inOrder] at h
  | cons b bs ih =>
    rcases mem_inOrder_cons h with rfl | ⟨t, -, rfl⟩ | h
    · exact ⟨i, [], Nat.le_refl i, rfl⟩
    · exact ⟨i, t.place, Nat.le_refl i, rfl⟩
    · obtain ⟨j, rest, hj, hplace⟩ := ih h
      exact ⟨j, rest, by omega, hplace⟩

/-- Around a block stand blocks of the program that have something inside. -/
theorem around_of_mem_inOrder {i : Nat} {bs : List Block} {s : Spot}
    (h : s ∈ inOrder times i bs) : ∀ b ∈ s.around, b ∈ walk bs ∧ b.children ≠ [] := by
  induction bs using tree_induction generalizing i s with
  | nil => simp [inOrder] at h
  | cons b bs inside behind =>
    rcases mem_inOrder_cons h with rfl | ⟨t, ht, rfl⟩ | h
    · simp
    · intro c hc
      rcases List.mem_cons.1 hc with rfl | hc
      · refine ⟨mem_walk_cons.2 (Or.inl rfl), fun he => ?_⟩
        rw [he] at ht
        simp [inOrder] at ht
      · obtain ⟨hwalk, hne⟩ := inside ht c hc
        exact ⟨mem_walk_cons.2 (Or.inr (Or.inl hwalk)), hne⟩
    · intro c hc
      obtain ⟨hwalk, hne⟩ := behind h c hc
      exact ⟨mem_walk_cons.2 (Or.inr (Or.inr hwalk)), hne⟩

end

theorem spots_cons (i : Nat) (b : Block) (bs : List Block) :
    inOrder (fun _ => 1) i (b :: bs) =
      ⟨[i], [], b⟩ :: ((spots b.children).map (Spot.inside i b) ++
        inOrder (fun _ => 1) (i + 1) bs) := by
  rw [inOrder_cons, List.replicate_one, List.flatten_singleton]
  rfl

/-- The spots of a program are its blocks, each one once, parents before their children. -/
theorem blocks_of_spots (i : Nat) (bs : List Block) :
    (inOrder (fun _ => 1) i bs).map Spot.block = walk bs := by
  induction bs using tree_induction generalizing i with
  | nil => simp [inOrder, walk]
  | cons b bs inside behind =>
    rw [spots_cons, walk_cons, List.map_cons, List.map_append, behind, List.map_map, ← inside 0]
    rfl

/-! ## Counting -/

section

variable {times : Block → Nat} {i : Nat}

/-- What is inside a block stands at places inside the block. -/
theorem not_mem_inside {b : Block} {n : Nat} {v : Visit}
    (h : ∀ j rest, v.place ≠ i :: j :: rest) :
    v ∉ ((List.replicate n (inOrder times 0 b.children)).flatten.map Spot.visit).map
      (Visit.under [i]) := by
  intro hmem
  obtain ⟨w, hw, rfl⟩ := List.mem_map.1 hmem
  obtain ⟨s, hs, rfl⟩ := List.mem_map.1 hw
  obtain ⟨l, hl, hs⟩ := List.mem_flatten.1 hs
  rw [(List.mem_replicate.1 hl).2] at hs
  obtain ⟨j, rest, -, hplace⟩ := place_of_mem_inOrder hs
  refine h j rest ?_
  rw [← hplace]
  rfl

/-- What stands behind a block has larger numbers. -/
theorem not_mem_behind {bs : List Block} {v : Visit} {rest : List Nat}
    (h : v.place = i :: rest) : v ∉ (inOrder times (i + 1) bs).map Spot.visit := by
  intro hmem
  obtain ⟨s, hs, rfl⟩ := List.mem_map.1 hmem
  obtain ⟨j, other, hj, hplace⟩ := place_of_mem_inOrder hs
  have hsame : j :: other = i :: rest := hplace.symm.trans h
  obtain ⟨rfl, -⟩ := List.cons.inj hsame
  omega

/-- A block comes as often as the blocks around it multiply what is inside them. -/
theorem count_inOrder {bs : List Block} {s : Spot} (h : s ∈ inOrder (fun _ => 1) i bs) :
    ((inOrder times i bs).map Spot.visit).count s.visit = (s.around.map times).prod := by
  induction bs using tree_induction generalizing i s with
  | nil => simp [inOrder] at h
  | cons b bs inside behind =>
    rw [inOrder_cons, List.map_cons, List.map_append, Spot.map_visit_inside, List.count_cons,
      List.count_append]
    rcases mem_inOrder_cons h with rfl | ⟨t, ht, rfl⟩ | h
    · -- the first block comes once, and nothing else stands at its place
      rw [List.count_eq_zero.2 (not_mem_inside (by simp [Spot.visit])),
        List.count_eq_zero.2 (not_mem_behind rfl)]
      simp
    · -- inside the first block, each time that its inside comes
      obtain ⟨j, rest, -, hplace⟩ := place_of_mem_inOrder ht
      have hne : (Spot.visit ⟨[i], [], b⟩ == (t.inside i b).visit) = false := by
        simp [Spot.visit, Spot.inside, hplace]
      rw [hne, List.count_eq_zero.2 (not_mem_behind rfl), Spot.visit_inside,
        List.count_map_of_injective _ _ (Visit.under_injective [i]), List.map_flatten,
        List.map_replicate, List.count_flatten, List.map_replicate, inside ht,
        List.sum_replicate]
      simp [Spot.inside]
    · obtain ⟨j, rest, hj, hplace⟩ := place_of_mem_inOrder h
      have hne : (Spot.visit ⟨[i], [], b⟩ == s.visit) = false := by
        simp [Spot.visit, hplace]
        omega
      have hother : ∀ k rest', s.visit.place ≠ i :: k :: rest' := by
        intro k rest' he
        have hsame : j :: rest = i :: k :: rest' := hplace.symm.trans he
        obtain ⟨rfl, -⟩ := List.cons.inj hsame
        omega
      rw [hne, List.count_eq_zero.2 (not_mem_inside hother), behind h]
      simp

/-- So all blocks together come as often as these products add up to. -/
theorem length_inOrder (bs : List Block) :
    (inOrder times i bs).length =
      ((inOrder (fun _ => 1) i bs).map fun s => (s.around.map times).prod).sum := by
  induction bs using tree_induction generalizing i with
  | nil => simp [inOrder]
  | cons b bs inside behind =>
    have hproduct : ∀ l : List Spot,
        ((l.map (Spot.inside i b)).map fun s => (s.around.map times).prod).sum =
          times b * (l.map fun s => (s.around.map times).prod).sum := by
      intro l
      rw [List.map_map, ← List.sum_map_mul_left]
      congr 1
    have hlength : (List.replicate (times b) (inOrder times 0 b.children)).flatten.length =
        times b * (inOrder times 0 b.children).length := by
      simp
    rw [inOrder_cons, inOrder_cons, List.map_cons, List.map_append, List.sum_cons, List.sum_append,
      hproduct, List.length_cons, List.length_append, List.length_map, hlength, inside, behind]
    simp only [List.replicate_one, List.flatten_singleton, List.map_nil, List.prod_nil]
    omega

end

/-! ## Plain programs -/

/-- The conditions of a program have nothing inside. -/
def IsPlain (program : Program) : Prop :=
  ∀ b ∈ walk program, b.kind = .ifStar ∨ b.kind = .ifWall ∨ b.kind = .whilePath → b.children = []

/-- In a plain program only loops and primitive blocks have something inside. -/
theorem IsPlain.loop_of_control {program : Program} (h : IsPlain program) {b : Block}
    (hb : b ∈ walk program) (hne : b.children ≠ []) (hc : b.kind.isControl = true) :
    b.kind = .loop := by
  have hempty := h b hb
  cases hk : b.kind with
  | loop => rfl
  | whilePath => exact absurd (hempty (by simp [hk])) hne
  | ifStar => exact absurd (hempty (by simp [hk])) hne
  | ifWall => exact absurd (hempty (by simp [hk])) hne
  | _ => simp [hk, Kind.isControl] at hc

/-- What stands inside a primitive block never comes, and any other block as often as the loops
around it turn. -/
theorem IsPlain.prod_passes {program : Program} (h : IsPlain program) {s : Spot}
    (hs : s ∈ spots program) :
    (s.around.map passes).prod = if s.isLive then s.turns else 0 := by
  have haround := around_of_mem_inOrder hs
  split
  · rename_i hlive
    have hloop : ∀ b ∈ s.around, b.kind = .loop := by
      intro b hb
      obtain ⟨hwalk, hne⟩ := haround b hb
      exact h.loop_of_control hwalk hne (List.all_eq_true.1 hlive b hb)
    have hfilter : s.around.filter (fun b => b.kind = .loop) = s.around :=
      List.filter_eq_self.2 fun b hb => by simpa using hloop b hb
    unfold Spot.turns
    rw [hfilter]
    refine congrArg List.prod (List.map_congr_left fun b hb => ?_)
    exact if_pos (hloop b hb)
  · rename_i hdead
    obtain ⟨b, hb, hprimitive⟩ : ∃ b ∈ s.around, b.kind.isControl = false := by
      simpa [Spot.isLive] using hdead
    have hzero : passes b = 0 := by
      refine if_neg fun hk => ?_
      rw [hk] at hprimitive
      exact absurd hprimitive (by decide)
    exact List.prod_eq_zero (List.mem_map.2 ⟨b, hb, hzero⟩)

theorem IsPlain.count_unrolled {program : Program} (h : IsPlain program) {s : Spot}
    (hs : s ∈ spots program) (hlive : s.isLive = true) :
    ((unrolled program).map Spot.visit).count s.visit = s.turns := by
  rw [unrolled, count_inOrder hs, h.prod_passes hs, if_pos hlive]

theorem IsPlain.length_unrolled {program : Program} (h : IsPlain program) :
    (unrolled program).length = (((spots program).filter Spot.isLive).map Spot.turns).sum := by
  have hproducts : (spots program).map (fun s => (s.around.map passes).prod) =
      (spots program).map fun s => if s.isLive then s.turns else 0 :=
    List.map_congr_left fun s hs => h.prod_passes hs
  rw [unrolled, length_inOrder]
  change ((spots program).map fun s => (s.around.map passes).prod).sum = _
  rw [hproducts, List.sum_map_ite]
  simp

end Program

/-! ## What is left to visit -/

open Program

/-- The place of a body that is open over some frames: the numbers of the blocks that the frames
have just passed, the outermost first. -/
def placeOver (below : List Frame) : List Nat := (below.map fun f => f.cursor - 1).reverse

/-- The visits that are left in a frame, if every loop were written out: those of its present round
and those of the rounds to start. -/
def Frame.left (f : Frame) : List Visit :=
  (inOrder passes f.cursor (f.blocks.drop f.cursor) ++
    (List.replicate f.roundsToStart (inOrder passes 0 f.blocks)).flatten).map Spot.visit

/-- The visits that are left in a stack of frames, the innermost first. -/
def agenda : List Frame → List Visit
  | [] => []
  | f :: below => f.left.map (Visit.under (placeOver below)) ++ agenda below

theorem agenda_initial (program : Program) :
    agenda [.once program] = (unrolled program).map Spot.visit := by
  have hunder : ∀ v : Visit, v.under [] = v := fun _ => rfl
  simp [agenda, Frame.left, Frame.once, Frame.roundsToStart, placeOver, unrolled, hunder]

/-- Closing finished bodies leaves what is to be visited. -/
theorem agenda_of_settle (stack : List Frame) :
    agenda stack =
      match settle stack with
      | none => []
      | some (_, f, below) => agenda (f :: below) := by
  refine eq_of_settle ?_ ?_ stack
  · intro f below h hr
    have hleft : f.left = [] := by
      unfold Frame.left
      rw [h]
      rcases hr with hr | hr
      · simp [hr, inOrder]
      · simp [hr, inOrder]
    rw [agenda, hleft, List.map_nil, List.nil_append]
  · intro blocks cursor n below h hn
    have hs : (n - 1).toNat = (n - 1 - 1).toNat + 1 := by omega
    have hleft :
        (⟨blocks, cursor, some n⟩ : Frame).left = Frame.left ⟨blocks, 0, some (n - 1)⟩ := by
      simp only [Frame.left, Frame.roundsToStart, h, List.drop_zero, inOrder, List.nil_append]
      rw [hs, List.replicate_succ, List.flatten_cons]
    rw [agenda, agenda, hleft]

theorem left_of_next {f : Frame} {b : Block} (h : f.blocks[f.cursor]? = some b) :
    f.left =
      ⟨[f.cursor], b⟩ ::
        (((List.replicate (passes b) (inOrder passes 0 b.children)).flatten.map Spot.visit).map
            (Visit.under [f.cursor]) ++
          Frame.left { f with cursor := f.cursor + 1 }) := by
  have hd : f.blocks.drop f.cursor = b :: f.blocks.drop (f.cursor + 1) := by
    obtain ⟨hlt, hb⟩ := List.getElem?_eq_some_iff.1 h
    rw [List.drop_eq_getElem_cons hlt, hb]
  unfold Frame.left
  rw [hd, inOrder_cons]
  simp only [List.cons_append, List.append_assoc, List.map_cons, List.map_append,
    Spot.map_visit_inside]
  rfl

theorem left_rounds {b : Block} (h : b.kind = .loop) :
    (Frame.rounds b.children b.rounds).left =
      (List.replicate (passes b) (inOrder passes 0 b.children)).flatten.map Spot.visit := by
  have hp : passes b = (b.rounds - 1).toNat + 1 := by
    rw [passes, if_pos h, loopRounds_eq]
  rw [hp]
  simp [Frame.left, Frame.rounds, Frame.roundsToStart, List.replicate_succ]

theorem opened_loop (level : Level) (s : State) {b : Block} (hk : b.kind = .loop)
    (hne : b.children ≠ []) : s.opened level b = some (.rounds b.children b.rounds) := by
  simp [State.opened, hk, hne]

/-- What is inside a block that is no loop, or has nothing inside, is never left to visit. -/
theorem inside_eq_nil {b : Block} (h : b.kind = .loop → b.children = []) :
    (List.replicate (passes b) (inOrder passes 0 b.children)).flatten = [] := by
  by_cases hk : b.kind = .loop
  · simp [h hk, inOrder]
  · simp [passes, hk]

/-- A visit takes the first of what is left, if only loops can open a body. -/
theorem agenda_of_next (level : Level) (s : State) {f : Frame} {b : Block} (below : List Frame)
    (h : f.blocks[f.cursor]? = some b)
    (hloop : b.children ≠ [] → b.kind.isControl = true → b.kind = .loop) :
    agenda (f :: below) =
      ⟨placeOver below ++ [f.cursor], b⟩ :: agenda (s.stackAfter level b f below) := by
  have hplace : placeOver ({ f with cursor := f.cursor + 1 } :: below) =
      placeOver below ++ [f.cursor] := by
    simp [placeOver]
  have hunder : ∀ l : List Visit,
      (l.map (Visit.under [f.cursor])).map (Visit.under (placeOver below)) =
        l.map (Visit.under (placeOver below ++ [f.cursor])) := by
    intro l
    simp [Function.comp_def, Visit.under]
  rw [agenda, left_of_next h, List.map_cons, List.map_append, hunder, List.cons_append,
    List.append_assoc]
  congr 1
  unfold State.stackAfter State.passed
  cases ho : s.opened level b with
  | none =>
    have hnothing : b.kind = .loop → b.children = [] := by
      intro hk
      by_contra hne
      rw [opened_loop level s hk hne] at ho
      cases ho
    simp [inside_eq_nil hnothing, agenda]
  | some g =>
    obtain ⟨hctl, hbody, hne, -, -⟩ := opened_spec ho
    rw [hbody] at hne
    have hk := hloop hne hctl
    rw [opened_loop level s hk hne, Option.some.injEq] at ho
    subst ho
    simp only [hk, reduceCtorEq, false_and, if_false, Option.toList_some, List.singleton_append,
      agenda, left_rounds hk, hplace]

/-! ## The visits of a run -/

namespace State

/-- The visit that the next step makes, while the run goes on and a block is left. The place is told
by the cursors, so it is that of a run in which only loops are open: a `WHILE_PATH` with an open
body is not yet passed. -/
def visit? (s : State) : Option Visit :=
  if s.status.isTerminal then none
  else (settle s.stack).map fun (b, f, below) => ⟨placeOver below ++ [f.cursor], b⟩

theorem visit?_of_settle {s : State} (ht : s.status.isTerminal = false) {b : Block} {f : Frame}
    {below : List Frame} (hs : settle s.stack = some (b, f, below)) :
    s.visit? = some ⟨placeOver below ++ [f.cursor], b⟩ := by
  unfold visit?
  rw [ht, hs]
  rfl

theorem next?_eq_visit? (s : State) : s.next? = s.visit?.map Visit.block := by
  unfold next? visit?
  cases ht : s.status.isTerminal with
  | true => rfl
  | false =>
    cases hs : settle s.stack with
    | none => rfl
    | some found => rfl

/-- A step without a block left ends the run. -/
theorem isTerminal_of_done {level : Level} {s : State} (ht : s.status.isTerminal = false)
    (hs : settle s.stack = none) : (s.step level).1.status.isTerminal = true := by
  rw [step_of_done ht hs]
  exact judge_isTerminal level _ rfl

section

variable {level : Level} {program : Program} {start : Pose}

/-- A step of a plain program takes the first of what is left. -/
theorem agenda_step (hplain : IsPlain program) (n : Nat)
    (hrun : ((initial program start).after level (n + 1)).status.isTerminal = false) :
    (agenda ((initial program start).after level n).stack).map some =
      ((initial program start).after level n).visit? ::
        (agenda ((initial program start).after level (n + 1)).stack).map some := by
  have hpath := isPath_after level program start n
  rw [after_succ] at hrun ⊢
  generalize (initial program start).after level n = s at *
  have ht := running_of_step hrun
  cases hs : settle s.stack with
  | none =>
    rw [isTerminal_of_done ht hs] at hrun
    cases hrun
  | some found =>
    obtain ⟨b, f, below⟩ := found
    have hb := next_of_settle hs
    have hframe := (isPath_settle hpath hs).mem_framesIn f List.mem_cons_self
    have hloop := hplain.loop_of_control (mem_walk_of_frame hframe (List.mem_of_getElem? hb))
    have hagenda : agenda s.stack = agenda (f :: below) := by
      rw [agenda_of_settle s.stack, hs]
    rw [hagenda, agenda_of_next level s.rested below hb hloop, step_of_next ht hs,
      visit?_of_settle ht hs]
    rfl

/-- While a run goes on, its visits so far and what is left are the unrolled program. -/
theorem visits_append_agenda (hplain : IsPlain program) {n : Nat}
    (hrun : ((initial program start).after level n).status.isTerminal = false) :
    ((List.range n).map fun i => ((initial program start).after level i).visit?) ++
        (agenda ((initial program start).after level n).stack).map some =
      (unrolled program).map fun s => some s.visit := by
  induction n with
  | zero =>
    rw [after_zero]
    simp [initial, agenda_initial]
  | succ n ih =>
    have hbefore := running_before (Nat.le_succ n) hrun
    rw [← ih hbefore, agenda_step hplain n hrun, List.range_succ, List.map_append,
      List.append_assoc]
    rfl

/-- A run of a plain program ends, one step behind the unrolled program at the latest. -/
theorem endStep_le (level : Level) (hplain : IsPlain program) (start : Pose) :
    (initial program start).endStep level ≤ ((unrolled program).length + 1 : Nat) := by
  by_contra hlater
  have hrunning := lt_firstStep.1 (not_le.1 hlater) _ (Nat.lt_succ_self _)
  rw [result_isTerminal, Bool.not_eq_true] at hrunning
  have hlength := congrArg List.length (visits_append_agenda hplain hrunning)
  simp only [List.length_append, List.length_map, List.length_range] at hlength
  omega

theorem result_active (level : Level) (s : State) (n : Nat) :
    (s.result level n).active = (s.after level n).next?.map Block.id :=
  congrArg Snapshot.active (legal_step level (s.after level n)).shows

/-- A run that goes on and visits no block any more has visited the unrolled program. -/
theorem visits_eq_unrolled (hplain : IsPlain program) {n : Nat}
    (hrun : ((initial program start).after level n).status.isTerminal = false)
    (hactive : ((initial program start).result level n).active = none) :
    ((List.range n).map fun i => ((initial program start).after level i).visit?) =
      (unrolled program).map fun s => some s.visit := by
  have hnone : settle ((initial program start).after level n).stack = none := by
    rw [result_active, next?_of_settle hrun] at hactive
    simpa using hactive
  have hagenda := agenda_of_settle ((initial program start).after level n).stack
  rw [hnone] at hagenda
  have hvisits := visits_append_agenda hplain hrun
  rw [hagenda, List.map_nil, List.append_nil] at hvisits
  exact hvisits

/-- A run that has shown no end still goes on. -/
theorem running_of_results {s : State} {n : Nat} (hs : s.status.isTerminal = false)
    (h : ∀ i < n, ¬ (s.result level i).isTerminal = true) :
    (s.after level n).status.isTerminal = false := by
  cases n with
  | zero => exact hs
  | succ n =>
    rw [← result_isTerminal]
    simpa using h n (Nat.lt_succ_self n)

end

/-! ## The law -/

/-- Nested loops multiply their rounds. Take a program whose conditions have nothing inside. Its run
ends, and if no block ended it, then the steps before the last one visit the blocks in the order of
the program with every loop written out. So each block that is in no primitive one is visited as
often as the rounds of the loops around it multiply to, and the run takes one step more than these
products add up to. The spots over which this goes are all the blocks of the program. -/
theorem nested_loops_multiply_their_rounds (level : Level) (program : Program)
    (hplain : IsPlain program) (start : Pose) :
    let run := initial program start
    (spots program).map Spot.block = walk program ∧
    ∃ last : Nat, run.endStep level = (last + 1 : Nat) ∧
      ((run.result level last).active = none →
        let visits := (List.range last).map fun i => (run.after level i).visit?
        visits = (unrolled program).map (fun s => some s.visit) ∧
          (List.range last).map (fun i => (run.result level i).active) =
            (unrolled program).map (fun s => some s.block.id) ∧
          (∀ s ∈ spots program, s.isLive = true → visits.count (some s.visit) = s.turns) ∧
          last = (((spots program).filter Spot.isLive).map Spot.turns).sum) := by
  intro run
  refine ⟨blocks_of_spots 0 program, ?_⟩
  obtain ⟨last, -, -, hbefore, hend⟩ := firstStep_le (endStep_le level hplain start)
  refine ⟨last, hend, fun hactive => ?_⟩
  intro visits
  have hvisits : visits = (unrolled program).map fun s => some s.visit :=
    visits_eq_unrolled hplain (running_of_results rfl hbefore) hactive
  refine ⟨hvisits, ?_, ?_, ?_⟩
  · have hids := congrArg (List.map (Option.map fun v : Visit => v.block.id)) hvisits
    simp only [visits, List.map_map, Function.comp_def, Option.map_some] at hids
    refine Eq.trans (List.map_congr_left fun i _ => ?_) hids
    rw [result_active, next?_eq_visit?, Option.map_map]
    rfl
  · intro s hs hlive
    have hsome := List.count_map_of_injective ((unrolled program).map Spot.visit) some
      (Option.some_injective _) s.visit
    rw [List.map_map, hplain.count_unrolled hs hlive] at hsome
    rw [hvisits]
    exact hsome
  · have hlength := congrArg List.length hvisits
    rw [List.length_map, List.length_map, List.length_range] at hlength
    rw [hlength, hplain.length_unrolled]

/-- A loop of two rounds around a turn and a loop of three rounds, and a condition behind them: the
turn in the inner loop is visited six times, and the run takes thirteen steps. -/
theorem two_rounds_of_three :
    let level : Level :=
      ⟨1, "Cell", ⟨[[.empty]], 1, by decide, by decide, by decide, by decide⟩,
        ⟨⟨0, 0⟩, .right, .idle⟩, [], 0, none, none⟩
    let turn : Block := ⟨"turn", .turnLeft, none, none⟩
    let inner : Block := ⟨"inner", .loop, some 3, some [turn]⟩
    let program : Program :=
      [⟨"outer", .loop, some 2, some [turn, inner]⟩, ⟨"if", .ifWall, none, some []⟩]
    let run := initial program level.start
    (IsPlain program ∧ run.endStep level = (13 : Nat) ∧ (run.result level 12).active = none) ∧
      ((List.range 12).map fun i => (run.after level i).visit?).count (some ⟨[0, 1, 0], turn⟩) =
        6 := by
  intro level turn inner program run
  have hplain : IsPlain program := by
    unfold IsPlain
    simp [program, inner, turn, Program.walk, Block.children]
  have hend : run.endStep level = (13 : Nat) := by
    refine firstStep_eq (i := 12) (by decide) ?_
    decide
  have hactive : (run.result level 12).active = none := by decide
  obtain ⟨-, last, hlast, hlaw⟩ :=
    nested_loops_multiply_their_rounds level program hplain level.start
  have hsteps : last = 12 := by
    have h := hlast.symm.trans hend
    have h' : last + 1 = 13 := by exact_mod_cast h
    omega
  subst hsteps
  refine ⟨⟨hplain, hend, hactive⟩, ?_⟩
  let spot : Spot := ⟨[0, 1, 0], [⟨"outer", .loop, some 2, some [turn, inner]⟩, inner], turn⟩
  have hspot : spot ∈ spots program := by
    simp [program, spot, inner, turn, spots, inOrder, Spot.inside]
  have hturns : spot.turns = 6 := by decide
  rw [← hturns]
  exact (hlaw hactive).2.2.1 spot hspot (by decide)

end State

end BlockMaze
