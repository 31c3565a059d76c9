-- The laws of the frame stack. At every moment of a run the open bodies are a
-- path in the program: each frame holds the body of a block of the frame
-- below. So a run never opens more bodies than its blocks are nested.
import BlockMaze.Proofs.Steps
import Mathlib.Data.List.Chain

namespace BlockMaze

/-! ## Nesting -/

namespace Block

mutual

/-- The largest number of control blocks nested inside one another, from a block on. -/
def nesting : Block → Nat
  | ⟨_, kind, _, none⟩ => if kind.isControl then 1 else 0
  | ⟨_, kind, _, some body⟩ => (if kind.isControl then 1 else 0) + nestingAll body

/-- The largest number of control blocks nested inside one another, in a list of blocks. -/
def nestingAll : List Block → Nat
  | [] => 0
  | b :: bs => max (nesting b) (nestingAll bs)

end

theorem nesting_eq (b : Block) :
    b.nesting = (if b.kind.isControl then 1 else 0) + nestingAll b.children := by
  obtain ⟨id, kind, count, body⟩ := b
  cases body with
  | none => simp [nesting, children, nestingAll]
  | some body => simp [nesting, children]

theorem nesting_le_nestingAll {b : Block} {bs : List Block} (h : b ∈ bs) :
    b.nesting ≤ nestingAll bs := by
  induction bs with
  | nil => simp at h
  | cons a bs ih =>
    rw [nestingAll]
    rcases List.mem_cons.1 h with rfl | h
    · omega
    · have := ih h
      omega

end Block

/-! ## The path -/

/-- The place of a block that has opened a body, in the frame of the block: a `WHILE_PATH` is still
the next block, and any other block was just passed. -/
def OpenerAt (lower : Frame) (b : Block) : Prop :=
  if b.kind = .whilePath then lower.blocks[lower.cursor]? = some b
  else ∃ i, lower.cursor = i + 1 ∧ lower.blocks[i]? = some b

theorem OpenerAt.mem {lower : Frame} {b : Block} (h : OpenerAt lower b) : b ∈ lower.blocks := by
  unfold OpenerAt at h
  split at h
  · exact List.mem_of_getElem? h
  · obtain ⟨i, -, hi⟩ := h
    exact List.mem_of_getElem? hi

/-- The rounds left of a body that a block has opened. Only a loop counts rounds: from its count
down to one, and a negative count stays as it is. -/
def RoundsFit (b : Block) (left : Option Int) : Prop :=
  if b.kind = .loop then
    ∃ n, left = some n ∧ (0 < b.rounds → 1 ≤ n ∧ n ≤ b.rounds) ∧ (b.rounds < 0 → n = b.rounds)
  else left = none

/-- A frame holds the body of a control block of the frame below. -/
def OpenedOver (upper lower : Frame) : Prop :=
  ∃ b : Block, b.kind.isControl = true ∧ OpenerAt lower b ∧ upper.blocks = b.children ∧
    upper.blocks ≠ [] ∧ RoundsFit b upper.roundsLeft

/-- A stack of frames is a path in a program. -/
structure IsPath (program : Program) (stack : List Frame) : Prop where
  /-- The outermost frame holds the program and counts no rounds. -/
  bottom : ∀ f, stack.getLast? = some f → f.blocks = program ∧ f.roundsLeft = none
  /-- No cursor is beyond the end of its frame. -/
  within : ∀ f ∈ stack, f.cursor ≤ f.blocks.length
  /-- Every other frame holds a body of the frame below. -/
  chain : stack.IsChain OpenedOver

section

variable {program : Program} {f g : Frame} {below : List Frame}

theorem isPath_nil : IsPath program [] := ⟨by simp, by simp, List.isChain_nil⟩

theorem isPath_initial : IsPath program [.once program] := by
  refine ⟨?_, ?_, List.isChain_singleton _⟩
  · intro f hf
    simp only [List.getLast?_singleton, Option.some.injEq] at hf
    subst hf
    exact ⟨rfl, rfl⟩
  · intro f hf
    rw [List.mem_singleton] at hf
    subst hf
    exact Nat.zero_le _

theorem IsPath.tail (h : IsPath program (f :: below)) : IsPath program below := by
  refine ⟨?_, ?_, h.chain.tail⟩
  · intro g hg
    apply h.bottom g
    cases below with
    | nil => simp at hg
    | cons a rest => rw [List.getLast?_cons_cons]; exact hg
  · intro g hg
    exact h.within g (List.mem_cons_of_mem f hg)

/-- A body opened over the innermost frame. -/
theorem IsPath.push (h : IsPath program (f :: below)) (hg : OpenedOver g f)
    (hc : g.cursor ≤ g.blocks.length) : IsPath program (g :: f :: below) := by
  refine ⟨?_, ?_, ?_⟩
  · intro k hk
    rw [List.getLast?_cons_cons] at hk
    exact h.bottom k hk
  · intro k hk
    rcases List.mem_cons.1 hk with rfl | hk
    · exact hc
    · exact h.within k hk
  · exact List.isChain_cons_cons.2 ⟨hg, h.chain⟩

/-- The innermost frame at another place of its body. -/
theorem IsPath.replace (h : IsPath program (f :: below)) (hb : g.blocks = f.blocks)
    (hc : g.cursor ≤ g.blocks.length)
    (hr : ∀ b, RoundsFit b f.roundsLeft → RoundsFit b g.roundsLeft)
    (hn : f.roundsLeft = none → g.roundsLeft = none) : IsPath program (g :: below) := by
  refine ⟨?_, ?_, ?_⟩
  · intro k hk
    cases below with
    | nil =>
      simp only [List.getLast?_singleton, Option.some.injEq] at hk
      subst hk
      obtain ⟨h1, h2⟩ := h.bottom f rfl
      exact ⟨hb.trans h1, hn h2⟩
    | cons a rest =>
      rw [List.getLast?_cons_cons] at hk
      apply h.bottom k
      rw [List.getLast?_cons_cons]
      exact hk
  · intro k hk
    rcases List.mem_cons.1 hk with rfl | hk
    · exact hc
    · exact h.within k (List.mem_cons_of_mem f hk)
  · refine h.chain.imp_head ?_
    rintro lower ⟨b, hctl, hat, hbody, hne, hfit⟩
    exact ⟨b, hctl, hat, hb.trans hbody, by rw [hb]; exact hne, hr b hfit⟩

end

/-! ## A step keeps the path -/

/-- A round started lowers the count of a loop, which had more than one round left. -/
theorem roundsFit_rewound {b : Block} {n : Int} (h : RoundsFit b (some n)) (hn : 1 < n) :
    RoundsFit b (some (n - 1)) := by
  unfold RoundsFit at *
  split at h
  · obtain ⟨m, hm, hpos, hneg⟩ := h
    simp only [Option.some.injEq] at hm
    subst hm
    rename_i hk
    rw [if_pos hk]
    refine ⟨n - 1, rfl, ?_, ?_⟩
    · intro h0
      have := hpos h0
      omega
    · intro h0
      have := hneg h0
      omega
  · simp at h

/-- Closing finished bodies keeps the path. -/
theorem isPath_settle {program : Program} {stack : List Frame} (h : IsPath program stack)
    {b : Block} {f : Frame} {below : List Frame} (hs : settle stack = some (b, f, below)) :
    IsPath program (f :: below) := by
  fun_induction settle stack with
  | case1 => simp at hs
  | case2 blocks cursor left rest c hc =>
    simp only [Option.some.injEq, Prod.mk.injEq] at hs
    obtain ⟨rfl, rfl, rfl⟩ := hs
    exact h
  | case3 cursor rest n c cs hn hc =>
    simp only [Option.some.injEq, Prod.mk.injEq] at hs
    obtain ⟨rfl, rfl, rfl⟩ := hs
    refine h.replace rfl (Nat.zero_le _) ?_ (by simp)
    intro b hfit
    exact roundsFit_rewound hfit hn
  | case4 cursor rest n c cs hn hc ih => exact ih h.tail hs
  | case5 blocks cursor left rest hc hother ih => exact ih h.tail hs

/-- The body that a visit opens is the body of the block, from its start. -/
theorem opened_spec {level : Level} {s : State} {b : Block} {g : Frame}
    (h : s.opened level b = some g) :
    b.kind.isControl = true ∧ g.blocks = b.children ∧ g.blocks ≠ [] ∧ g.cursor = 0 ∧
      RoundsFit b g.roundsLeft := by
  unfold State.opened at h
  simp only at h
  split at h
  · simp at h
  · rename_i he
    have hne : b.children ≠ [] := by simpa using he
    -- every body but that of a loop is run once
    have honce : ∀ {guard : Bool}, b.kind.isControl = true → b.kind ≠ .loop →
        (if guard then some (Frame.once b.children) else none) = some g →
        b.kind.isControl = true ∧ g.blocks = b.children ∧ g.blocks ≠ [] ∧ g.cursor = 0 ∧
          RoundsFit b g.roundsLeft := by
      intro guard hctl hloop hg
      split at hg
      · simp only [Option.some.injEq] at hg
        subst hg
        refine ⟨hctl, rfl, hne, rfl, ?_⟩
        unfold RoundsFit
        rw [if_neg hloop]
        rfl
      · simp at hg
    cases hk : b.kind with
    | loop =>
      simp only [hk, Option.some.injEq] at h
      subst h
      refine ⟨by simp [Kind.isControl], rfl, hne, rfl, ?_⟩
      unfold RoundsFit
      rw [if_pos hk]
      exact ⟨b.rounds, rfl, fun h0 => ⟨h0, Int.le_refl _⟩, fun _ => rfl⟩
    | whilePath =>
      rw [hk] at h honce
      exact honce rfl (by simp) h
    | ifStar =>
      rw [hk] at h honce
      exact honce rfl (by simp) h
    | ifWall =>
      rw [hk] at h honce
      exact honce rfl (by simp) h
    | _ => simp [hk] at h

/-- A visit keeps the path: it passes its block, or stays at it, and may open its body. -/
theorem isPath_stackAfter {program : Program} {f : Frame} {below : List Frame} {b : Block}
    (level : Level) (s : State) (h : IsPath program (f :: below))
    (hb : f.blocks[f.cursor]? = some b) : IsPath program (s.stackAfter level b f below) := by
  obtain ⟨hlt, -⟩ := List.getElem?_eq_some_iff.1 hb
  have hpassed : IsPath program ({ f with cursor := f.cursor + 1 } :: below) :=
    h.replace rfl hlt (fun _ hfit => hfit) (fun hn => hn)
  unfold State.stackAfter State.passed
  cases ho : s.opened level b with
  | none => simpa using hpassed
  | some g =>
    obtain ⟨hctl, hbody, hne, hzero, hfit⟩ := opened_spec ho
    have hcur : g.cursor ≤ g.blocks.length := by omega
    by_cases hk : b.kind = .whilePath
    · have hat : OpenerAt f b := by
        unfold OpenerAt
        rw [if_pos hk]
        exact hb
      simp only [hk, Option.isSome_some, and_self, if_true, Option.toList_some,
        List.singleton_append]
      exact h.push ⟨b, hctl, hat, hbody, hne, hfit⟩ hcur
    · have hat : OpenerAt { f with cursor := f.cursor + 1 } b := by
        unfold OpenerAt
        rw [if_neg hk]
        exact ⟨f.cursor, rfl, hb⟩
      simp only [hk, false_and, if_false, Option.toList_some, List.singleton_append]
      exact hpassed.push ⟨b, hctl, hat, hbody, hne, hfit⟩ hcur

theorem isPath_step {program : Program} (level : Level) {s : State}
    (h : IsPath program s.stack) : IsPath program (s.step level).1.stack := by
  cases ht : s.status.isTerminal with
  | true =>
    rw [State.step_of_over ht]
    exact h
  | false =>
    cases hs : settle s.stack with
    | none =>
      rw [State.step_of_done ht hs, State.judge_stack]
      exact isPath_nil
    | some found =>
      obtain ⟨b, f, below⟩ := found
      rw [State.step_of_next ht hs]
      exact isPath_stackAfter level _ (isPath_settle h hs) (State.next_of_settle hs)

theorem isPath_after (level : Level) (program : Program) (start : Pose) (n : Nat) :
    IsPath program ((State.initial program start).after level n).stack := by
  induction n with
  | zero => exact isPath_initial
  | succ n ih =>
    rw [State.after_succ]
    exact isPath_step level ih

/-! ## The depth -/

theorem nesting_of_openedOver {upper lower : Frame} (h : OpenedOver upper lower) :
    Block.nestingAll upper.blocks + 1 ≤ Block.nestingAll lower.blocks := by
  obtain ⟨b, hctl, hat, hbody, -, -⟩ := h
  have hle := Block.nesting_le_nestingAll hat.mem
  rw [Block.nesting_eq, if_pos hctl] at hle
  rw [hbody]
  omega

/-- Each frame of a path is one level of nesting further in. -/
theorem IsPath.length_add_nesting {program : Program} {f : Frame} {below : List Frame}
    (h : IsPath program (f :: below)) :
    below.length + Block.nestingAll f.blocks ≤ Block.nestingAll program := by
  induction below generalizing f with
  | nil =>
    obtain ⟨hb, -⟩ := h.bottom f rfl
    simp [hb]
  | cons lower rest ih =>
    have hover := nesting_of_openedOver (List.isChain_cons_cons.1 h.chain).1
    have := ih h.tail
    rw [List.length_cons]
    omega

theorem IsPath.length_le {program : Program} {stack : List Frame} (h : IsPath program stack) :
    stack.length ≤ 1 + Block.nestingAll program := by
  cases stack with
  | nil => simp
  | cons f below =>
    have := h.length_add_nesting
    rw [List.length_cons]
    omega

/-- At every moment of a run the frame stack is a path in the program, and it is never deeper than
one frame more than the control blocks are nested. -/
theorem the_frame_stack_is_a_path (level : Level) (program : Program) (start : Pose) (n : Nat) :
    let s := (State.initial program start).after level n
    IsPath program s.stack ∧ s.depth ≤ 1 + Block.nestingAll program := by
  have h := isPath_after level program start n
  exact ⟨h, h.length_le⟩

end BlockMaze
