-- Running a program by recursion on its tree. There is no stack: a list of
-- blocks is run from left to right, and a control block runs its body itself.
-- The law of this file is that a run with a stack of frames shows the same
-- snapshots, whatever the program, and also when it never ends.
import BlockMaze.Proofs.Steps

namespace BlockMaze

/-! ## The runner by itself -/

/-- The state of a run without a place in a program. -/
structure Runner where
  pose : Pose
  stars : List Cell
  keys : List Cell
  doors : List Cell
  status : Status

def State.runner (s : State) : Runner := ⟨s.pose, s.stars, s.keys, s.doors, s.status⟩

namespace Runner

def atStart (start : Pose) : Runner := ⟨start.atRest, [], [], [], .running⟩

/-- The runner as a state in which no body is open. -/
def state (r : Runner) : State := ⟨r.pose, [], r.stars, r.keys, r.doors, r.status⟩

/-- The runner at a place in a program. -/
def on (r : Runner) (stack : List Frame) : State := r.state.withStack stack

def isOver (r : Runner) : Bool := r.status.isTerminal

/-- Visits a block: the runner does what the block says, and the snapshot carries the id of the
block. -/
def visit (level : Level) (b : Block) (r : Runner) : Runner × Snapshot :=
  let (s, notice) := r.state.rested.act level b.kind
  (s.runner, s.shown (some b.id) (notice.map Notice.text))

/-- The verdict when the program is used up, in a snapshot without an id. -/
def judged (level : Level) (r : Runner) : Runner × Snapshot :=
  let (s, notice) := r.state.rested.judge level
  (s.runner, s.shown none (notice.map Notice.text))

/-- The snapshot of a run that is over. -/
def frozen (r : Runner) : Snapshot := r.state.rested.snapshot

end Runner

/-! ## Activities -/

/-- A stretch of a run: its snapshots and the runner after them. -/
structure Stretch where
  shown : List Snapshot
  runner : Runner

def Stretch.cons (seen : Snapshot) (rest : Stretch) : Stretch :=
  ⟨seen :: rest.shown, rest.runner⟩

/-- What a runner does within a greatest number of snapshots. -/
abbrev Activity := Nat → Runner → Stretch

namespace Activity

def idle : Activity := fun _ r => ⟨[], r⟩

/-- Shows one snapshot, unless the run is over or no snapshot is left. -/
def once (act : Runner → Runner × Snapshot) : Activity
  | 0, r => ⟨[], r⟩
  | _ + 1, r => if r.isOver then ⟨[], r⟩ else ⟨[(act r).2], (act r).1⟩

/-- One activity and then another, with the snapshots that the first leaves. -/
def andThen (a b : Activity) : Activity := fun n r =>
  let first := a n r
  let second := b (n - first.shown.length) first.runner
  ⟨first.shown ++ second.shown, second.runner⟩

/-- An activity a number of times. -/
def times (a : Activity) : Nat → Activity
  | 0 => idle
  | k + 1 => a.andThen (a.times k)

/-- An activity under a condition, which is tested once. -/
def when (a : Activity) (guard : State → Bool) : Activity := fun n r =>
  if guard r.state then a n r else ⟨[], r⟩

end Activity

open Activity

/-! ## The tree -/

/-- Visits a `WHILE_PATH`, and while the path is clear runs the body and visits the block again.
Every visit takes a snapshot, so the number of snapshots left bounds the visits. -/
def whileClear (level : Level) (b : Block) (body : Activity) : Activity
  | 0, r => ⟨[], r⟩
  | n + 1, r =>
    if r.isOver then ⟨[], r⟩
    else
      let (r, seen) := r.visit level b
      if r.state.pathIsClear level then
        let turn := body n r
        let rest := whileClear level b body (n - turn.shown.length) turn.runner
        ⟨seen :: (turn.shown ++ rest.shown), rest.runner⟩
      else ⟨[seen], r⟩
termination_by n => n

/-- The rounds of a loop: its count, but at least one. -/
def loopRounds (b : Block) : Nat := (max 1 (b.loopCount.getD 1)).toNat

/-- Runs a block whose body is run by an activity. An empty body is never run, nor is what hangs
below a block that owns no body. -/
def runAround (level : Level) (b : Block) (body : Activity) : Activity :=
  if b.children.isEmpty then once (Runner.visit level b)
  else
    match b.kind with
    | .loop => (once (Runner.visit level b)).andThen (body.times (loopRounds b))
    | .whilePath => whileClear level b body
    | .ifStar => (once (Runner.visit level b)).andThen (body.when (State.isOnStar level))
    | .ifWall => (once (Runner.visit level b)).andThen (body.when (State.facesWall level))
    | _ => once (Runner.visit level b)

mutual

/-- Runs a block. -/
def runBlock (level : Level) : Block → Activity
  | ⟨id, kind, loopCount, none⟩ => runAround level ⟨id, kind, loopCount, none⟩ idle
  | ⟨id, kind, loopCount, some body⟩ =>
    runAround level ⟨id, kind, loopCount, some body⟩ (runBlocks level body)

/-- Runs blocks from left to right. -/
def runBlocks (level : Level) : List Block → Activity
  | [] => idle
  | b :: bs => (runBlock level b).andThen (runBlocks level bs)

end

/-- Runs a program to its end and gives the verdict, if there is none by then. -/
def runTree (level : Level) (program : Program) : Activity :=
  (runBlocks level program).andThen (once (Runner.judged level))

/-- The first snapshots of an activity. When it ends early, its runner is shown as it is from then
on. -/
def Activity.firstResults (a : Activity) (n : Nat) (r : Runner) : List Snapshot :=
  (a n r).shown ++ List.replicate (n - (a n r).shown.length) (a n r).runner.frozen

/-! ## Activities one after the other -/

namespace Activity

@[simp]
theorem idle_andThen (a : Activity) : idle.andThen a = a := by
  funext n r
  simp [andThen, idle]

@[simp]
theorem andThen_idle (a : Activity) : a.andThen idle = a := by
  funext n r
  simp [andThen, idle]

theorem andThen_assoc (a b c : Activity) : (a.andThen b).andThen c = a.andThen (b.andThen c) := by
  funext n r
  simp [andThen, Nat.sub_sub]

theorem idle_times (k : Nat) : idle.times k = idle := by
  induction k with
  | zero => rfl
  | succ k ih => rw [times, ih, idle_andThen]

/-- An activity that keeps to its bounds: it does nothing when no snapshot is left, and nothing
when the run is over. -/
def Bounded (a : Activity) : Prop := ∀ n r, n = 0 ∨ r.isOver = true → a n r = ⟨[], r⟩

theorem bounded_idle : Bounded idle := fun _ _ _ => rfl

theorem bounded_once (act : Runner → Runner × Snapshot) : Bounded (once act) := by
  intro n r h
  cases n with
  | zero => rfl
  | succ n => simp_all [once]

theorem Bounded.andThen {a b : Activity} (ha : Bounded a) (hb : Bounded b) :
    Bounded (a.andThen b) := by
  intro n r h
  simp only [Activity.andThen, ha n r h, List.length_nil, Nat.sub_zero, hb n r h]
  rfl

theorem Bounded.times {a : Activity} (ha : Bounded a) (k : Nat) : Bounded (a.times k) := by
  induction k with
  | zero => exact bounded_idle
  | succ k ih => exact ha.andThen ih

theorem Bounded.when {a : Activity} (ha : Bounded a) (guard : State → Bool) :
    Bounded (a.when guard) := by
  intro n r h
  unfold Activity.when
  split
  · exact ha n r h
  · rfl

theorem andThen_of_cons {a a' b : Activity} {n : Nat} {r r' : Runner} {seen : Snapshot}
    (h : a (n + 1) r = (a' n r').cons seen) :
    a.andThen b (n + 1) r = (a'.andThen b n r').cons seen := by
  simp [andThen, h, Stretch.cons]

end Activity

theorem bounded_whileClear (level : Level) (b : Block) (body : Activity) :
    Bounded (whileClear level b body) := by
  intro n r h
  cases n with
  | zero => rw [whileClear]
  | succ n =>
    rw [whileClear, if_pos (by simpa using h)]

theorem bounded_runAround (level : Level) (b : Block) {body : Activity} (h : Bounded body) :
    Bounded (runAround level b body) := by
  have hv := bounded_once (Runner.visit level b)
  unfold runAround
  split
  · exact hv
  · split
    · exact hv.andThen (h.times _)
    · exact bounded_whileClear level b body
    · exact hv.andThen (h.when _)
    · exact hv.andThen (h.when _)
    · exact hv

mutual

theorem bounded_runBlock (level : Level) : ∀ b : Block, Bounded (runBlock level b)
  | ⟨_, _, _, none⟩ => by
    rw [runBlock]
    exact bounded_runAround level _ bounded_idle
  | ⟨_, _, _, some body⟩ => by
    rw [runBlock]
    exact bounded_runAround level _ (bounded_runBlocks level body)

theorem bounded_runBlocks (level : Level) : ∀ bs : List Block, Bounded (runBlocks level bs)
  | [] => by
    rw [runBlocks]
    exact bounded_idle
  | b :: bs => by
    rw [runBlocks]
    exact (bounded_runBlock level b).andThen (bounded_runBlocks level bs)

end

theorem runBlock_eq (level : Level) (b : Block) :
    runBlock level b = runAround level b (runBlocks level b.children) := by
  obtain ⟨id, kind, count, body⟩ := b
  cases body with
  | none => rw [runBlock]; simp [Block.children, runBlocks]
  | some body => rw [runBlock]; rfl

/-! ## What a stack of frames has left to do -/

def Frame.roundsToStart (f : Frame) : Nat :=
  match f.roundsLeft with
  | none => 0
  | some n => (n - 1).toNat

/-- What does not change when a finished frame is popped or started again does not change when
finished bodies are closed. -/
theorem eq_of_settle {α : Type} {of : List Frame → α}
    (popped : ∀ (f : Frame) (below : List Frame), f.blocks.drop f.cursor = [] →
      f.blocks = [] ∨ f.roundsToStart = 0 → of (f :: below) = of below)
    (rewound : ∀ (blocks : List Block) (cursor : Nat) (n : Int) (below : List Frame),
      blocks.drop cursor = [] → 1 < n →
      of (⟨blocks, cursor, some n⟩ :: below) = of (⟨blocks, 0, some (n - 1)⟩ :: below))
    (stack : List Frame) :
    of stack =
      match settle stack with
      | none => of []
      | some (_, f, below) => of (f :: below) := by
  have hend : ∀ {blocks : List Block} {cursor : Nat}, blocks[cursor]? = none →
      blocks.drop cursor = [] := fun h => List.drop_eq_nil_of_le (List.getElem?_eq_none_iff.1 h)
  fun_induction settle stack with
  | case1 => rfl
  | case2 blocks cursor left below b hb => rfl
  | case3 cursor below n b rest hn hb => exact rewound _ cursor n below (hend hb) hn
  | case4 cursor below n b rest hn hb ih =>
    have hz : (⟨b :: rest, cursor, some n⟩ : Frame).roundsToStart = 0 := by
      simp only [Frame.roundsToStart]
      omega
    rw [popped _ below (hend hb) (Or.inr hz)]
    exact ih
  | case5 blocks cursor left below hb hother ih =>
    have hnothing : blocks = [] ∨ (⟨blocks, cursor, left⟩ : Frame).roundsToStart = 0 := by
      cases left with
      | none => exact Or.inr rfl
      | some n =>
        cases blocks with
        | nil => exact Or.inl rfl
        | cons b rest => exact absurd rfl (hother n b rest rfl)
    rw [popped _ below (hend hb) hnothing]
    exact ih

/-- Runs what is left of a frame: the rest of its present round, then the rounds to start. -/
def runFrame (level : Level) (f : Frame) : Activity :=
  (runBlocks level (f.blocks.drop f.cursor)).andThen
    ((runBlocks level f.blocks).times f.roundsToStart)

/-- Runs what is left of a stack of frames, the innermost first. -/
def resume (level : Level) : List Frame → Activity
  | [] => idle
  | f :: below => (runFrame level f).andThen (resume level below)

theorem bounded_resume (level : Level) (stack : List Frame) : Bounded (resume level stack) := by
  induction stack with
  | nil => exact bounded_idle
  | cons f below ih =>
    have hf : Bounded (runFrame level f) :=
      (bounded_runBlocks level _).andThen ((bounded_runBlocks level _).times _)
    exact hf.andThen ih

theorem runFrame_of_ended (level : Level) (f : Frame) (h : f.blocks.drop f.cursor = [])
    (hr : f.blocks = [] ∨ f.roundsToStart = 0) : runFrame level f = idle := by
  unfold runFrame
  rw [h, runBlocks, idle_andThen]
  rcases hr with hr | hr
  · rw [hr, runBlocks, idle_times]
  · rw [hr]
    rfl

theorem runFrame_of_rewound (level : Level) (blocks : List Block) (cursor : Nat) (n : Int)
    (h : blocks.drop cursor = []) (hn : 1 < n) :
    runFrame level ⟨blocks, cursor, some n⟩ = runFrame level ⟨blocks, 0, some (n - 1)⟩ := by
  have hs : (n - 1).toNat = (n - 1 - 1).toNat + 1 := by omega
  unfold runFrame Frame.roundsToStart
  simp only [h, List.drop_zero, runBlocks, idle_andThen]
  rw [hs]
  rfl

theorem runFrame_of_next (level : Level) (f : Frame) (b : Block)
    (h : f.blocks[f.cursor]? = some b) :
    runFrame level f =
      (runBlock level b).andThen (runFrame level { f with cursor := f.cursor + 1 }) := by
  have hd : f.blocks.drop f.cursor = b :: f.blocks.drop (f.cursor + 1) := by
    obtain ⟨hlt, hb⟩ := List.getElem?_eq_some_iff.1 h
    rw [List.drop_eq_getElem_cons hlt, hb]
  unfold runFrame
  rw [hd, runBlocks, andThen_assoc]
  rfl

/-- Closing finished bodies leaves what is to be done. -/
theorem resume_of_settle (level : Level) (stack : List Frame) :
    resume level stack =
      match settle stack with
      | none => idle
      | some (_, f, below) => resume level (f :: below) := by
  refine eq_of_settle ?_ ?_ stack
  · intro f below h hr
    rw [resume, runFrame_of_ended level f h hr, idle_andThen]
  · intro blocks cursor n below h hn
    rw [resume, resume, runFrame_of_rewound level blocks cursor n h hn]

/-! ## One visit -/

section

variable (level : Level) (b : Block)

theorem once_succ (act : Runner → Runner × Snapshot) (n : Nat) {r : Runner}
    (h : r.isOver = false) : once act (n + 1) r = (idle n (act r).1).cons (act r).2 := by
  simp [once, h, idle, Stretch.cons]

theorem visit_control (r : Runner) (h : b.kind.isControl = true) :
    (r.visit level b).1.state = r.state.rested := by
  unfold Runner.visit
  rw [State.act_of_control level r.state.rested h]
  rfl

/-- What a block still does after a visit from a state: the body that it opens, and a `WHILE_PATH`
then comes again. -/
def afterVisit (s : State) : Activity :=
  match s.opened level b with
  | none => idle
  | some f => (runFrame level f).andThen (if b.kind = .whilePath then runBlock level b else idle)

theorem loopRounds_eq : loopRounds b = (b.rounds - 1).toNat + 1 := by
  unfold loopRounds Block.rounds
  cases b.loopCount with
  | none => rfl
  | some n =>
    simp only [Option.getD_some]
    split <;> omega

theorem runFrame_rounds (body : List Block) (n : Int) :
    runFrame level (.rounds body n) = (runBlocks level body).times ((n - 1).toNat + 1) := rfl

theorem runFrame_once (body : List Block) :
    runFrame level (.once body) = runBlocks level body := by
  unfold runFrame
  exact andThen_idle _

theorem whileClear_succ (body : Activity) (n : Nat) {r : Runner} (h : r.isOver = false) :
    whileClear level b body (n + 1) r =
      ((if (r.visit level b).1.state.pathIsClear level then
          body.andThen (whileClear level b body)
        else idle) n (r.visit level b).1).cons (r.visit level b).2 := by
  rw [whileClear]
  simp only [h, Bool.false_eq_true, if_false]
  split
  · rfl
  · rfl

theorem runBlock_of_while (hk : b.kind = .whilePath) (he : b.children ≠ []) :
    runBlock level b = whileClear level b (runBlocks level b.children) := by
  rw [runBlock_eq]
  unfold runAround
  simp [hk, he]

theorem when_of_visit (guard : State → Bool) (body : Activity) (n : Nat) (r : Runner)
    (hs : (r.visit level b).1.state = r.state.rested) :
    body.when guard n (r.visit level b).1 =
      (if guard r.state.rested then body else idle) n (r.visit level b).1 := by
  unfold Activity.when
  rw [hs]
  split <;> rfl

/-- A visit shows one snapshot, and what the block still does follows it. -/
theorem runBlock_succ (n : Nat) {r : Runner} (h : r.isOver = false) :
    runBlock level b (n + 1) r =
      (afterVisit level b r.state.rested n (r.visit level b).1).cons (r.visit level b).2 := by
  have hv := once_succ (Runner.visit level b) n h
  rw [runBlock_eq]
  unfold runAround afterVisit State.opened
  by_cases he : b.children = []
  · simpa [he] using hv
  · have he' : b.children.isEmpty = false := by simpa using he
    simp only [he', Bool.false_eq_true, if_false]
    cases hk : b.kind with
    | loop =>
      simp only [runFrame_rounds, ← loopRounds_eq, reduceCtorEq, if_false, andThen_idle]
      rw [andThen_of_cons hv, idle_andThen]
    | whilePath =>
      have hs := visit_control level b r (by simp [hk, Kind.isControl])
      simp only [whileClear_succ level b _ n h, hs, if_true]
      rw [runBlock_of_while level b hk he]
      by_cases hc : r.state.rested.pathIsClear level = true
      · simp only [hc, if_true, runFrame_once]
      · simp only [hc, if_false, Bool.false_eq_true]
    | ifStar =>
      have hs := visit_control level b r (by simp [hk, Kind.isControl])
      simp only
      rw [andThen_of_cons hv, idle_andThen, when_of_visit level b _ _ n r hs]
      by_cases hc : r.state.rested.isOnStar level = true
      · simp only [hc, if_true, runFrame_once, reduceCtorEq, if_false, andThen_idle]
      · simp only [hc, if_false, Bool.false_eq_true]
    | ifWall =>
      have hs := visit_control level b r (by simp [hk, Kind.isControl])
      simp only
      rw [andThen_of_cons hv, idle_andThen, when_of_visit level b _ _ n r hs]
      by_cases hc : r.state.rested.facesWall level = true
      · simp only [hc, if_true, runFrame_once, reduceCtorEq, if_false, andThen_idle]
      · simp only [hc, if_false, Bool.false_eq_true]
    | _ => simpa using hv

end

/-! ## The whole run -/

/-- The place in the program after a visit holds what the block still does and what comes behind
it. -/
theorem resume_stackAfter (level : Level) (s : State) (b : Block) (f : Frame)
    (below : List Frame) (hb : f.blocks[f.cursor]? = some b) :
    resume level (s.stackAfter level b f below) =
      (afterVisit level b s).andThen
        (resume level ({ f with cursor := f.cursor + 1 } :: below)) := by
  unfold State.stackAfter State.passed afterVisit
  cases ho : s.opened level b with
  | none => simp
  | some g =>
    by_cases hk : b.kind = .whilePath
    · simp only [hk, Option.isSome_some, and_self, if_true, Option.toList_some,
        List.singleton_append, resume]
      rw [runFrame_of_next level f b hb, andThen_assoc, andThen_assoc]
    · simp [hk, resume]

/-- A step of the stack is a step of what the stack has left to do. -/
theorem resume_succ (level : Level) (b : Block) (f : Frame) (below : List Frame) (n : Nat)
    {r : Runner} (h : r.isOver = false) (hb : f.blocks[f.cursor]? = some b) :
    resume level (f :: below) (n + 1) r =
      (resume level (r.state.rested.stackAfter level b f below) n (r.visit level b).1).cons
        (r.visit level b).2 := by
  rw [resume_stackAfter level _ b f below hb, resume, runFrame_of_next level f b hb, andThen_assoc,
    ← resume]
  exact andThen_of_cons (runBlock_succ level b n h)

theorem steps_of_over (level : Level) (n : Nat) (stack : List Frame) {r : Runner}
    (h : r.isOver = true) : ((r.on stack).steps level n).2 = List.replicate n r.frozen := by
  induction n generalizing r with
  | zero => rfl
  | succ n ih =>
    have hstep : (r.on stack).step level = (r.state.rested.runner.on stack, r.frozen) :=
      State.step_of_over (s := r.on stack) h
    rw [State.steps_succ_snd, hstep, List.replicate_succ]
    exact congrArg (r.frozen :: ·) (ih h)

theorem firstResults_of_over {a : Activity} (ha : Bounded a) (n : Nat) {r : Runner}
    (h : r.isOver = true) : a.firstResults n r = List.replicate n r.frozen := by
  simp [Activity.firstResults, ha n r (Or.inr h)]

theorem judged_isOver (level : Level) (r : Runner) : (r.judged level).1.isOver = true :=
  State.judge_isTerminal level r.state.rested rfl

theorem step_on_done (level : Level) {r : Runner} {stack : List Frame} (h : r.isOver = false)
    (hs : settle stack = none) :
    (r.on stack).step level = ((r.judged level).1.on [], (r.judged level).2) := by
  have hstack : (r.state.rested.judge level).1.stack = [] := State.judge_stack level _
  rw [State.step_of_done (s := r.on stack) h hs]
  refine Prod.ext ?_ rfl
  exact congrArg (State.withStack (r.state.rested.judge level).1) hstack

theorem step_on_next (level : Level) {r : Runner} {stack below : List Frame} {b : Block}
    {f : Frame} (h : r.isOver = false) (hs : settle stack = some (b, f, below)) :
    (r.on stack).step level =
      ((r.visit level b).1.on (r.state.rested.stackAfter level b f below),
        (r.visit level b).2) := by
  have hact : (r.on stack).rested.act level b.kind =
      ((r.state.rested.act level b.kind).1.withStack stack, (r.state.rested.act level b.kind).2) :=
    State.act_withStack level r.state.rested stack b.kind
  rw [State.step_of_next (s := r.on stack) h hs, hact]
  rfl

theorem firstResults_of_cons {a a' : Activity} {n : Nat} {r r' : Runner} {seen : Snapshot}
    (h : a (n + 1) r = (a' n r').cons seen) :
    a.firstResults (n + 1) r = seen :: a'.firstResults n r' := by
  simp [Activity.firstResults, h, Stretch.cons]

/-- From any place in a program, a run shows what the stack has left to do, and then the
verdict. -/
theorem steps_eq_resume (level : Level) (n : Nat) (stack : List Frame) (r : Runner) :
    ((r.on stack).steps level n).2 =
      ((resume level stack).andThen (once (Runner.judged level))).firstResults n r := by
  have hbound : ∀ st, Bounded ((resume level st).andThen (once (Runner.judged level))) :=
    fun st => (bounded_resume level st).andThen (bounded_once _)
  -- the stack is any stack: a step may close, rewind and open frames all at once
  induction n generalizing stack r with
  | zero => simp [Activity.firstResults, hbound stack 0 r (Or.inl rfl), State.steps]
  | succ n ih =>
    by_cases hover : r.isOver = true
    · rw [steps_of_over level (n + 1) stack hover,
        firstResults_of_over (hbound stack) (n + 1) hover]
    · have hrun : r.isOver = false := by simpa using hover
      have hset := resume_of_settle level stack
      rw [State.steps_succ_snd]
      cases hs : settle stack with
      | none =>
        rw [hs] at hset
        rw [step_on_done level hrun hs, hset, idle_andThen]
        have hend := judged_isOver level r
        rw [firstResults_of_cons (once_succ (Runner.judged level) n hrun),
          firstResults_of_over bounded_idle n hend]
        exact congrArg _ (steps_of_over level n [] hend)
      | some found =>
        obtain ⟨b, f, below⟩ := found
        have hb := State.next_of_settle hs
        rw [hs] at hset
        rw [step_on_next level hrun hs, hset]
        simp only
        rw [ih, firstResults_of_cons (andThen_of_cons (resume_succ level b f below n hrun hb))]

theorem initial_eq_on (program : Program) (start : Pose) :
    State.initial program start = (Runner.atStart start).on [.once program] := rfl

theorem resume_initial (level : Level) (program : Program) :
    resume level [.once program] = runBlocks level program := by
  rw [resume, resume, runFrame_once, andThen_idle]

/-- The frame stack runs the tree: however long a run is taken, its snapshots are those of the
recursion on the blocks of the program. -/
theorem the_frame_stack_runs_the_tree (level : Level) (program : Program) (start : Pose)
    (n : Nat) :
    ((State.initial program start).steps level n).2 =
      (runTree level program).firstResults n (.atStart start) := by
  have h := steps_eq_resume level n [.once program] (.atStart start)
  rw [resume, resume, runFrame_once, andThen_idle] at h
  exact h

end BlockMaze
