-- Programs that mean the same. A run never looks at the count of a block that
-- is no loop, nor at what hangs below a block that owns no body; a body that
-- is absent is an empty one; of a loop's count only the rounds matter; and an
-- id goes into the snapshots and nowhere else. So two programs that differ in
-- nothing but this have the same run, up to the ids that it shows.
import BlockMaze.Proofs.Limits
import BlockMaze.Proofs.TreeRun

namespace BlockMaze

open Activity

/-! ## Meaning -/

/-- The second program says the same as the first, at every depth: its ids are those of the first
under a renaming, its kinds are the same, and so are the rounds of its loops and the bodies of its
control blocks. All else may differ. -/
inductive Rephrased (rename : String → String) : List Block → List Block → Prop
  | nil : Rephrased rename [] []
  | cons {b c : Block} {bs cs : List Block} (id : c.id = rename b.id) (kind : c.kind = b.kind)
      (rounds : b.kind = .loop → loopRounds c = loopRounds b)
      (inside : b.kind.isControl = true → Rephrased rename b.children c.children)
      (behind : Rephrased rename bs cs) : Rephrased rename (b :: bs) (c :: cs)

/-- The snapshot with another id for the visited block. -/
def Snapshot.renamed (rename : String → String) (s : Snapshot) : Snapshot :=
  { s with active := s.active.map rename }

/-- The activity with other ids in its snapshots. -/
def Activity.renamed (rename : String → String) (a : Activity) : Activity := fun n r =>
  ⟨(a n r).shown.map (Snapshot.renamed rename), (a n r).runner⟩

/-! ## Renamed activities -/

section

variable {rename : String → String}

theorem renamed_idle : idle.renamed rename = idle := rfl

theorem renamed_andThen (a b : Activity) :
    (a.andThen b).renamed rename = (a.renamed rename).andThen (b.renamed rename) := by
  funext n r
  simp [Activity.renamed, andThen]

theorem renamed_times (a : Activity) (k : Nat) :
    (a.times k).renamed rename = (a.renamed rename).times k := by
  induction k with
  | zero => rfl
  | succ k ih => rw [times, renamed_andThen, ih, times]

theorem renamed_when (a : Activity) (guard : State → Bool) :
    (a.when guard).renamed rename = (a.renamed rename).when guard := by
  funext n r
  unfold Activity.renamed Activity.when
  split <;> rfl

theorem renamed_once {act act' : Runner → Runner × Snapshot}
    (h : ∀ r, act' r = ((act r).1, (act r).2.renamed rename)) :
    (once act).renamed rename = once act' := by
  funext n r
  cases n with
  | zero => rfl
  | succ n =>
    simp only [Activity.renamed, once, h]
    split <;> rfl

theorem renamed_cons {a : Activity} {n : Nat} {r r' : Runner} {next : Activity} {seen : Snapshot}
    (h : a (n + 1) r = (next n r').cons seen) :
    a.renamed rename (n + 1) r = (next.renamed rename n r').cons (seen.renamed rename) := by
  simp [Activity.renamed, h, Stretch.cons]

/-- Renaming changes no snapshot of a run that is over. -/
theorem firstResults_renamed (a : Activity) (n : Nat) (r : Runner) :
    (a.renamed rename).firstResults n r =
      (a.firstResults n r).map (Snapshot.renamed rename) := by
  have hfrozen : ∀ q : Runner, q.frozen.renamed rename = q.frozen := fun _ => rfl
  simp [Activity.firstResults, Activity.renamed, hfrozen]

/-! ## Rephrased blocks -/

theorem Rephrased.isEmpty {bs cs : List Block} (h : Rephrased rename bs cs) :
    cs.isEmpty = bs.isEmpty := by
  cases h <;> rfl

variable (level : Level) {b c : Block}

theorem visit_renamed (hid : c.id = rename b.id) (hkind : c.kind = b.kind) (r : Runner) :
    r.visit level c = ((r.visit level b).1, (r.visit level b).2.renamed rename) := by
  unfold Runner.visit
  rw [hid, hkind]
  rfl

theorem renamed_whileClear (hvisit : ∀ r : Runner,
      r.visit level c = ((r.visit level b).1, (r.visit level b).2.renamed rename))
    (body : Activity) :
    (whileClear level b body).renamed rename = whileClear level c (body.renamed rename) := by
  funext n r
  -- every test of the path takes a snapshot, so the rest of the visits has fewer left
  induction n using Nat.strongRecOn generalizing r with
  | ind n ih =>
    by_cases hend : n = 0 ∨ r.isOver = true
    · rw [bounded_whileClear level c _ n r hend]
      unfold Activity.renamed
      rw [bounded_whileClear level b body n r hend]
      rfl
    · obtain ⟨n, rfl⟩ : ∃ k, n = k + 1 := ⟨n - 1, by omega⟩
      have hover : r.isOver = false := by simpa using (not_or.1 hend).2
      rw [renamed_cons (whileClear_succ level b body n hover), whileClear_succ level c _ n hover,
        hvisit]
      congr 1
      split
      · have hrest : ∀ q, (whileClear level b body).renamed rename
            (n - (body n (r.visit level b).1).shown.length) q =
            whileClear level c (body.renamed rename)
              (n - (body n (r.visit level b).1).shown.length) q := fun q => ih _ (by omega) q
        rw [renamed_andThen]
        simp only [andThen, Activity.renamed, List.length_map] at hrest ⊢
        rw [← hrest]
      · rfl

theorem renamed_runBlock (hid : c.id = rename b.id) (hkind : c.kind = b.kind)
    (hrounds : b.kind = .loop → loopRounds c = loopRounds b)
    (hempty : b.kind.isControl = true → c.children.isEmpty = b.children.isEmpty)
    (hbody : b.kind.isControl = true →
      (runBlocks level b.children).renamed rename = runBlocks level c.children) :
    (runBlock level b).renamed rename = runBlock level c := by
  have hvisit := visit_renamed level hid hkind
  have honce : (once (Runner.visit level b)).renamed rename = once (Runner.visit level c) :=
    renamed_once hvisit
  rw [runBlock_eq, runBlock_eq]
  unfold runAround
  rw [hkind]
  cases hk : b.kind with
  | loop =>
    rw [hk] at hempty hbody
    rw [hempty rfl, hrounds hk]
    split
    · exact honce
    · rw [renamed_andThen, honce, renamed_times, hbody rfl]
  | whilePath =>
    rw [hk] at hempty hbody
    rw [hempty rfl]
    split
    · exact honce
    · rw [renamed_whileClear level hvisit, hbody rfl]
  | ifStar =>
    rw [hk] at hempty hbody
    rw [hempty rfl]
    split
    · exact honce
    · rw [renamed_andThen, honce, renamed_when, hbody rfl]
  | ifWall =>
    rw [hk] at hempty hbody
    rw [hempty rfl]
    split
    · exact honce
    · rw [renamed_andThen, honce, renamed_when, hbody rfl]
  | _ => simp only [ite_self, honce]

theorem renamed_runBlocks {bs cs : List Block} (h : Rephrased rename bs cs) :
    (runBlocks level bs).renamed rename = runBlocks level cs := by
  induction h with
  | nil =>
    rw [runBlocks]
    exact renamed_idle
  | cons id kind rounds inside behind ihinside ihbehind =>
    rw [runBlocks, runBlocks, renamed_andThen, ihbehind]
    rw [renamed_runBlock level id kind rounds (fun hc => (inside hc).isEmpty) ihinside]

end

/-! ## The law -/

/-- A run shows of its program only what the program means: a program that says the same in other
words, with other ids, shows the same snapshots with those ids. -/
theorem a_run_shows_only_the_meaning_of_its_program (rename : String → String)
    (program other : Program) (h : Rephrased rename program other) (level : Level) (start : Pose)
    (n : Nat) :
    (State.initial other start).result level n =
      ((State.initial program start).result level n).renamed rename := by
  have hjudged : (once (Runner.judged level)).renamed rename = once (Runner.judged level) :=
    renamed_once fun _ => rfl
  have hsteps : ((State.initial other start).steps level (n + 1)).2 =
      ((State.initial program start).steps level (n + 1)).2.map (Snapshot.renamed rename) := by
    simp only [initial_eq_on, steps_eq_resume, resume_initial]
    rw [← firstResults_renamed, renamed_andThen, renamed_runBlocks level h, hjudged]
  rw [State.steps_eq_map, State.steps_eq_map, List.map_map, List.map_inj_left] at hsteps
  exact hsteps n (List.mem_range.2 (Nat.lt_succ_self n))

/-- A loop with a negative count, a move with a count and a block below it, and an `IF_WALL` without
a body; then the same without all that, and with one id for all blocks. -/
theorem a_program_and_what_it_means :
    let program : Program :=
      [⟨"loop", .loop, some (-3),
        some [⟨"move", .moveForward, some 7, some [⟨"lost", .jump, none, none⟩]⟩]⟩,
        ⟨"if", .ifWall, some 2, none⟩]
    let other : Program :=
      [⟨"any", .loop, none, some [⟨"any", .moveForward, none, none⟩]⟩,
        ⟨"any", .ifWall, none, some []⟩]
    Rephrased (fun _ => "any") program other ∧
      ∀ (level : Level) (start : Pose) (n : Nat),
        (State.initial other start).result level n =
          ((State.initial program start).result level n).renamed fun _ => "any" := by
  intro program other
  have h : Rephrased (fun _ => "any") program other := by
    refine .cons rfl rfl (fun _ => rfl) (fun _ => ?_) (.cons rfl rfl ?_ (fun _ => .nil) .nil)
    · refine .cons rfl rfl ?_ ?_ .nil
      · intro hk
        cases hk
      · intro hk
        cases hk
    · intro hk
      cases hk
  exact ⟨h, a_run_shows_only_the_meaning_of_its_program _ program other h⟩

end BlockMaze
