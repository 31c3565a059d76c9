-- Unrolling a loop. When a loop is replaced by its blocks, written out as
-- often as the loop runs them, a run shows the same snapshots, less the
-- visits of the loop itself. The loop may stand anywhere in the program, and
-- the run may be of any length or never end.
import BlockMaze.Proofs.TreeRun
import BlockMaze.Proofs.TreeWalk

namespace BlockMaze

open Activity

/-! ## Runners that differ in their picture -/

/-- The runners agree, but for what their pictures show of the step before. -/
def Runner.Like (r r' : Runner) : Prop := r.state.rested = r'.state.rested

namespace Runner.Like

variable {r r' : Runner}

theorem visit (h : r.Like r') (level : Level) (b : Block) :
    r.visit level b = r'.visit level b := by
  unfold Runner.visit
  rw [h]

theorem judged (h : r.Like r') (level : Level) : r.judged level = r'.judged level := by
  unfold Runner.judged
  rw [h]

theorem frozen (h : r.Like r') : r.frozen = r'.frozen := congrArg State.snapshot h

theorem isOver (h : r.Like r') : r.isOver = r'.isOver :=
  congrArg (fun s : State => s.status.isTerminal) h

end Runner.Like

/-! ## Hiding a block -/

/-- The snapshots that are not visits of a block. -/
def hide (id : String) (shown : List Snapshot) : List Snapshot :=
  shown.filter fun r => r.active ≠ some id

theorem hide_append (id : String) (xs ys : List Snapshot) :
    hide id (xs ++ ys) = hide id xs ++ hide id ys := List.filter_append ..

theorem hide_cons {id : String} {seen : Snapshot} (h : seen.active ≠ some id)
    (shown : List Snapshot) : hide id (seen :: shown) = seen :: hide id shown :=
  List.filter_cons_of_pos (by simpa using h)

/-- A number of snapshots is enough for those that are kept, and just enough if the ones that they
are kept from have used up a number of their own. -/
def Covers (n m : Nat) (all kept : List Snapshot) : Prop :=
  kept.length ≤ m ∧ (n ≤ all.length → m ≤ kept.length)

/-- Within a number of snapshots, the second activity shows what the first one shows, less the
visits of a block, and takes a like runner as far. -/
def Hides (id : String) (limit : Nat) (a a' : Activity) : Prop :=
  ∀ n ≤ limit, ∀ m r r', r.Like r' → Covers n m (a n r).shown (hide id (a n r).shown) →
    ∃ r'', a' m r' = ⟨hide id (a n r).shown, r''⟩ ∧ (a n r).runner.Like r''

section

variable {id : String} {limit : Nat} {a a' b b' : Activity}

theorem hides_idle : Hides id limit idle idle := fun _ _ _ _ r' hr _ => ⟨r', rfl, hr⟩

theorem Hides.andThen (ha : Hides id limit a a') (hb : Hides id limit b b') (hbound : Bounded b) :
    Hides id limit (a.andThen b) (a'.andThen b') := by
  intro n hn m r r' hr hc
  have hshown : (a.andThen b n r).shown =
      (a n r).shown ++ (b (n - (a n r).shown.length) (a n r).runner).shown := rfl
  rw [hshown, hide_append] at hc
  obtain ⟨hle, hfull⟩ := hc
  rw [List.length_append] at hle hfull
  -- a first part that uses up its snapshots leaves the second part none
  have hnone : n ≤ (a n r).shown.length →
      (b (n - (a n r).shown.length) (a n r).runner).shown = [] := by
    intro hge
    rw [hbound _ _ (Or.inl (by omega))]
  obtain ⟨r₁, h₁, hr₁⟩ := ha n hn m r r' hr ⟨by omega, fun hge => by
    have := hnone hge
    rw [this] at hfull
    simpa [hide] using hfull (by omega)⟩
  obtain ⟨r₂, h₂, hr₂⟩ := hb (n - (a n r).shown.length) (by omega)
    (m - (hide id (a n r).shown).length) (a n r).runner r₁ hr₁
    ⟨by omega, fun hge => by
      rw [List.length_append] at hfull
      have := hfull (by omega)
      omega⟩
  refine ⟨r₂, ?_, hr₂⟩
  rw [hshown, hide_append]
  simp [Activity.andThen, h₁, h₂]

theorem Hides.times (ha : Hides id limit a a') (hbound : Bounded a) (k : Nat) :
    Hides id limit (a.times k) (a'.times k) := by
  induction k with
  | zero => exact hides_idle
  | succ k ih => exact ha.andThen ih (hbound.times k)

theorem Hides.when (ha : Hides id limit a a') {guard : State → Bool}
    (hguard : ∀ s : State, guard s.rested = guard s) :
    Hides id limit (a.when guard) (a'.when guard) := by
  intro n hn m r r' hr hc
  have hg : guard r.state = guard r'.state := by
    rw [← hguard r.state, ← hguard r'.state, hr]
  unfold Activity.when at hc ⊢
  rw [← hg]
  cases hgr : guard r.state with
  | true =>
    simp only [hgr, if_true] at hc ⊢
    exact ha n hn m r r' hr hc
  | false => exact ⟨r', rfl, hr⟩

/-- Activities that show the same snapshot first, and then hide the block. -/
theorem hides_of_cons (ha : Bounded a) (ha' : Bounded a')
    (hcons : ∀ n < limit, ∀ r r', r.Like r' → r.isOver = false →
      ∃ next next' seen r₁, a (n + 1) r = (next n r₁).cons seen ∧
        (∀ m, a' (m + 1) r' = (next' m r₁).cons seen) ∧ seen.active ≠ some id ∧
        Hides id n next next') : Hides id limit a a' := by
  intro n hn m r r' hr hc
  by_cases hend : n = 0 ∨ r.isOver = true
  · have hstop : m = 0 ∨ r'.isOver = true := by
      rw [← hr.isOver]
      rcases hend with rfl | hover
      · rw [ha 0 r (Or.inl rfl)] at hc
        exact Or.inl (Nat.le_zero.1 (hc.2 (Nat.zero_le _)))
      · exact Or.inr hover
    rw [ha n r hend, ha' m r' hstop]
    exact ⟨r', rfl, hr⟩
  · obtain ⟨n, rfl⟩ : ∃ k, n = k + 1 := ⟨n - 1, by omega⟩
    obtain ⟨next, next', seen, r₁, h, h', hseen, hnext⟩ :=
      hcons n (by omega) r r' hr (by simpa using (not_or.1 hend).2)
    rw [h] at hc ⊢
    simp only [Stretch.cons, hide_cons hseen] at hc ⊢
    obtain ⟨hle, hfull⟩ := hc
    simp only [List.length_cons] at hle hfull
    obtain ⟨m, rfl⟩ : ∃ k, m = k + 1 := ⟨m - 1, by omega⟩
    obtain ⟨r₂, h₂, hr₂⟩ := hnext n (Nat.le_refl n) m r₁ r₁ rfl
      ⟨by omega, fun hge => by have := hfull (by omega); omega⟩
    refine ⟨r₂, ?_, hr₂⟩
    rw [h', h₂]
    rfl

theorem hides_once {act : Runner → Runner × Snapshot}
    (hlike : ∀ r r' : Runner, r.Like r' → act r = act r')
    (hseen : ∀ r, (act r).2.active ≠ some id) : Hides id limit (once act) (once act) := by
  refine hides_of_cons (bounded_once act) (bounded_once act) ?_
  intro n _ r r' hr hover
  refine ⟨idle, idle, (act r).2, (act r).1, once_succ act n hover, ?_, hseen r, hides_idle⟩
  intro m
  rw [hlike r r' hr]
  exact once_succ act m (by rw [← hr.isOver]; exact hover)

/-- A snapshot that is hidden and changes nothing but the picture. -/
theorem hides_once_idle {act : Runner → Runner × Snapshot} (hlike : ∀ r, (act r).1.Like r)
    (hseen : ∀ r, (act r).2.active = some id) : Hides id limit (once act) idle := by
  intro n _ m r r' hr _
  cases n with
  | zero => exact ⟨r', rfl, hr⟩
  | succ n =>
    refine ⟨r', ?_, ?_⟩
    · simp only [once]
      split
      · rfl
      · simp [idle, hide, hseen]
    · simp only [once]
      split
      · exact hr
      · exact (hlike r).trans hr

/-- Hiding in the first snapshots of a run. -/
theorem Hides.firstResults (h : ∀ limit, Hides id limit a a') (n : Nat) {r r' : Runner}
    (hr : r.Like r') :
    a'.firstResults (hide id (a.firstResults n r)).length r' = hide id (a.firstResults n r) := by
  have hkept : hide id (a.firstResults n r) =
      hide id (a n r).shown ++
        List.replicate (n - (a n r).shown.length) (a n r).runner.frozen := by
    unfold Activity.firstResults
    rw [hide_append]
    congr 1
    exact List.filter_replicate_of_pos (by rfl)
  rw [hkept, List.length_append, List.length_replicate]
  obtain ⟨r₁, h₁, hr₁⟩ := h n n (Nat.le_refl n)
    ((hide id (a n r).shown).length + (n - (a n r).shown.length)) r r' hr
    ⟨by omega, fun hge => by omega⟩
  unfold Activity.firstResults
  rw [h₁, hr₁.frozen]
  simp

end

/-! ## Hiding a block in a tree -/

section

variable {id : String} (level : Level)

/-- The blocks differ in what hangs below them, and have both or neither something there. -/
structure SameHead (b b' : Block) : Prop where
  id : b'.id = b.id
  kind : b'.kind = b.kind
  count : b'.loopCount = b.loopCount
  empty : b'.children.isEmpty = b.children.isEmpty

theorem SameHead.visit {b b' : Block} (h : SameHead b b') :
    Runner.visit level b' = Runner.visit level b := by
  funext r
  unfold Runner.visit
  rw [h.id, h.kind]

theorem hides_visit {b b' : Block} (h : SameHead b b') (hb : b.id ≠ id) (limit : Nat) :
    Hides id limit (once (Runner.visit level b)) (once (Runner.visit level b')) := by
  rw [h.visit level]
  exact hides_once (fun _ _ hr => hr.visit level b) fun _ he => hb (Option.some.inj he)

theorem hides_whileClear {b b' : Block} (h : SameHead b b') (hb : b.id ≠ id)
    {body body' : Activity} (hbody : ∀ limit, Hides id limit body body') (limit : Nat) :
    Hides id limit (whileClear level b body) (whileClear level b' body') := by
  -- every test of the path shows the block, so fewer snapshots are left for the next one
  induction limit using Nat.strongRecOn with
  | ind limit ih =>
    refine hides_of_cons (bounded_whileClear level b body) (bounded_whileClear level b' body') ?_
    intro n hn r r' hr hover
    have hover' : r'.isOver = false := by rw [← hr.isOver]; exact hover
    have hvisit : r'.visit level b' = r.visit level b := by rw [h.visit level, hr.visit level b]
    have hrun' := fun m => whileClear_succ level b' body' m hover'
    simp only [hvisit] at hrun'
    refine ⟨_, _, _, _, whileClear_succ level b body n hover, hrun',
      fun he => hb (Option.some.inj he), ?_⟩
    split
    · exact (hbody n).andThen (ih n hn) (bounded_whileClear level b body)
    · exact hides_idle

theorem hides_runBlock {b b' : Block} (h : SameHead b b') (hb : b.id ≠ id)
    (hbody : ∀ limit,
      Hides id limit (runBlocks level b.children) (runBlocks level b'.children)) (limit : Nat) :
    Hides id limit (runBlock level b) (runBlock level b') := by
  have hv := hides_visit level h hb limit
  have hbound := bounded_runBlocks level b.children
  have hrounds : loopRounds b' = loopRounds b := by unfold loopRounds; rw [h.count]
  rw [runBlock_eq, runBlock_eq]
  unfold runAround
  simp only [h.empty, h.kind, hrounds]
  split
  · exact hv
  · split
    · exact hv.andThen ((hbody limit).times hbound _) (hbound.times _)
    · exact hides_whileClear level h hb hbody limit
    · exact hv.andThen ((hbody limit).when fun _ => rfl) (hbound.when _)
    · exact hv.andThen ((hbody limit).when fun _ => rfl) (hbound.when _)
    · exact hv

theorem hides_cons {b b' : Block} {bs bs' : List Block}
    (hb : ∀ limit, Hides id limit (runBlock level b) (runBlock level b'))
    (hbs : ∀ limit, Hides id limit (runBlocks level bs) (runBlocks level bs')) (limit : Nat) :
    Hides id limit (runBlocks level (b :: bs)) (runBlocks level (b' :: bs')) := by
  rw [runBlocks, runBlocks]
  exact (hb limit).andThen (hbs limit) (bounded_runBlocks level bs)

/-- Where the block does not stand, nothing is hidden. -/
theorem hides_runBlocks {bs : List Block} (h : ∀ c ∈ Program.walk bs, c.id ≠ id) (limit : Nat) :
    Hides id limit (runBlocks level bs) (runBlocks level bs) := by
  induction bs using Program.tree_induction generalizing limit with
  | nil =>
    rw [runBlocks]
    exact hides_idle
  | cons b bs inside behind =>
    obtain ⟨hb, hin, hbehind⟩ := Program.forall_mem_walk_cons.1 h
    exact hides_cons level (hides_runBlock level ⟨rfl, rfl, rfl, rfl⟩ hb (inside hin))
      (behind hbehind) limit

end

/-! ## The loop -/

/-- The blocks inside a loop, written out as often as the loop runs them. -/
def Block.unrolled (b : Block) : List Block := (List.replicate (loopRounds b) b.children).flatten

section

variable (level : Level)

theorem runBlocks_append (bs cs : List Block) :
    runBlocks level (bs ++ cs) = (runBlocks level bs).andThen (runBlocks level cs) := by
  induction bs with
  | nil => rw [runBlocks, idle_andThen, List.nil_append]
  | cons b bs ih => rw [List.cons_append, runBlocks, runBlocks, ih, andThen_assoc]

theorem runBlocks_replicate (bs : List Block) (k : Nat) :
    runBlocks level (List.replicate k bs).flatten = (runBlocks level bs).times k := by
  induction k with
  | zero =>
    rw [List.replicate_zero, List.flatten_nil, runBlocks]
    rfl
  | succ k ih =>
    rw [List.replicate_succ, List.flatten_cons, runBlocks_append, ih]
    rfl

theorem unrolled_ne_nil {b : Block} (h : b.children ≠ []) : b.unrolled ≠ [] := by
  unfold Block.unrolled
  rw [loopRounds_eq, List.replicate_succ, List.flatten_cons]
  exact List.append_ne_nil_of_left_ne_nil h _

theorem hides_loop {b : Block} (hk : b.kind = .loop) (hne : b.children ≠ [])
    (hin : ∀ c ∈ Program.walk b.children, c.id ≠ b.id) (limit : Nat) :
    Hides b.id limit (runBlock level b) (runBlocks level b.unrolled) := by
  have hrun : runBlock level b =
      (once (Runner.visit level b)).andThen
        ((runBlocks level b.children).times (loopRounds b)) := by
    rw [runBlock_eq]
    unfold runAround
    simp [hk, hne]
  have hvisit : Hides b.id limit (once (Runner.visit level b)) idle := by
    refine hides_once_idle (fun r => ?_) fun _ => rfl
    unfold Runner.Like
    rw [visit_control level b r (by simp [hk, Kind.isControl])]
    rfl
  have hbound := bounded_runBlocks level b.children
  unfold Block.unrolled
  rw [hrun, runBlocks_replicate, ← idle_andThen ((runBlocks level b.children).times (loopRounds b))]
  exact hvisit.andThen ((hides_runBlocks level hin limit).times hbound _) (hbound.times _)

end

/-- A loop that is the only block with its id can be unrolled where it stands. -/
theorem hides_unrolled {b : Block} (hk : b.kind = .loop) (hne : b.children ≠ []) {bs : List Block}
    (honly : (Program.walk bs).filter (fun c => c.id = b.id) = [b]) :
    ∃ bs', Program.replace? b.id Block.unrolled bs = some bs' ∧ bs' ≠ [] ∧
      ∀ level limit, Hides b.id limit (runBlocks level bs) (runBlocks level bs') := by
  have hnone : ∀ {cs : List Block}, cs.filter (fun c => c.id = b.id) = [] →
      ∀ c ∈ cs, c.id ≠ b.id := by
    intro cs hcs c hc
    simpa using List.filter_eq_nil_iff.1 hcs c hc
  induction bs using Program.tree_induction with
  | nil => simp [Program.walk] at honly
  | cons c bs inside behind =>
    rw [Program.walk_cons] at honly
    by_cases hc : c.id = b.id
    · -- the loop stands here
      rw [List.filter_cons_of_pos (by simpa using hc), List.filter_append] at honly
      obtain ⟨rfl, hrest⟩ := List.cons_eq_cons.1 honly
      obtain ⟨hin, hbehind⟩ := List.append_eq_nil_iff.1 hrest
      refine ⟨c.unrolled ++ bs, by rw [Program.replace?_cons, if_pos rfl], ?_, ?_⟩
      · exact List.append_ne_nil_of_left_ne_nil (unrolled_ne_nil hne) _
      · intro level limit
        rw [runBlocks, runBlocks_append]
        exact (hides_loop level hk hne (hnone hin) limit).andThen
          (hides_runBlocks level (hnone hbehind) limit) (bounded_runBlocks level bs)
    · rw [List.filter_cons_of_neg (by simpa using hc), List.filter_append] at honly
      rcases List.append_eq_singleton_iff.1 honly with ⟨hin, hbehind⟩ | ⟨hin, hbehind⟩
      · -- the loop stands behind
        obtain ⟨bs', hr, -, hhides⟩ := behind hbehind
        refine ⟨c :: bs', ?_, List.cons_ne_nil _ _, ?_⟩
        · rw [Program.replace?_cons, if_neg hc, Program.replace?_eq_none (hnone hin), hr]
          rfl
        · intro level limit
          exact hides_cons level (hides_runBlock level ⟨rfl, rfl, rfl, rfl⟩ hc
            (hides_runBlocks level (hnone hin))) (hhides level) limit
      · -- the loop stands inside
        obtain ⟨inside', hr, hne', hhides⟩ := inside hin
        have hc' : c.children ≠ [] := by
          intro he
          simp [he, Program.walk] at hin
        have hsame : SameHead c { c with body := some inside' } := by
          refine ⟨rfl, rfl, rfl, ?_⟩
          rw [List.isEmpty_eq_false_iff.2 hc']
          exact List.isEmpty_eq_false_iff.2 hne'
        refine ⟨{ c with body := some inside' } :: bs, ?_, List.cons_ne_nil _ _, ?_⟩
        · rw [Program.replace?_cons, if_neg hc, hr]
        · intro level limit
          exact hides_cons level (hides_runBlock level hsame hc (hhides level))
            (hides_runBlocks level (hnone hbehind)) limit

/-! ## The law -/

/-- Unrolling a loop only takes its visits away. A loop with blocks inside that is the only block
with its id can be replaced, wherever it stands in a program, by these blocks written out as often
as it runs them; and of any number of first snapshots of the program, those that are no visits of
the loop are the first snapshots of the unrolled program. -/
theorem unrolling_a_loop_only_hides_its_visits (program : Program) (b : Block)
    (hk : b.kind = .loop) (hne : b.children ≠ [])
    (honly : (Program.walk program).filter (fun c => c.id = b.id) = [b]) :
    ∃ unrolled, Program.replace? b.id Block.unrolled program = some unrolled ∧
      ∀ (level : Level) (start : Pose) (n : Nat),
        let kept := hide b.id ((State.initial program start).steps level n).2
        ((State.initial unrolled start).steps level kept.length).2 = kept := by
  obtain ⟨unrolled, hr, -, hhides⟩ := hides_unrolled hk hne honly
  refine ⟨unrolled, hr, ?_⟩
  intro level start n
  have hjudged : ∀ limit, Hides b.id limit (once (Runner.judged level))
      (once (Runner.judged level)) := fun limit =>
    hides_once (fun _ _ hlike => hlike.judged level) fun _ he => by cases he
  simp only [initial_eq_on, steps_eq_resume, resume_initial]
  exact Hides.firstResults
    (fun limit => (hhides level limit).andThen (hjudged limit) (bounded_once _)) n rfl

/-- A loop inside a `WHILE_PATH`, run twice. -/
theorem unrolling_a_loop_inside_a_while :
    let loop : Block := ⟨"twice", .loop, some 2, some [⟨"step", .moveForward, none, none⟩]⟩
    let program : Program :=
      [⟨"while", .whilePath, none, some [loop, ⟨"turn", .turnLeft, none, none⟩]⟩]
    (loop.kind = .loop ∧ loop.children ≠ [] ∧
      (Program.walk program).filter (fun c => c.id = loop.id) = [loop]) ∧
    ∃ unrolled, Program.replace? loop.id Block.unrolled program = some unrolled ∧
      ∀ (level : Level) (start : Pose) (n : Nat),
        let kept := hide loop.id ((State.initial program start).steps level n).2
        ((State.initial unrolled start).steps level kept.length).2 = kept := by
  intro loop program
  have hk : loop.kind = .loop := rfl
  have hne : loop.children ≠ [] := by decide
  have honly : (Program.walk program).filter (fun c => c.id = loop.id) = [loop] := by
    simp [program, loop, Program.walk]
  exact ⟨⟨hk, hne, honly⟩, unrolling_a_loop_only_hides_its_visits program loop hk hne honly⟩

end BlockMaze
