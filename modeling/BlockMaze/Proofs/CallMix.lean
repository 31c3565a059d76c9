-- One stream of results for every caller. A run can be stepped, taken to its
-- end within a limit, and looked at, in any order and as often as one likes,
-- also after its end and after a limit was reached. Whatever the calls, they
-- give out the results of plain stepping, one after the other.
import BlockMaze.Proofs.Limits

namespace BlockMaze

/-! ## Calls and answers -/

/-- What can be asked of a run. -/
inductive Call where
  | step
  | run (limit : Int)
  | snapshot
  | views

/-- The answer of a run. -/
inductive Answer where
  | stepped (r : Snapshot)
  | ran (outcome : Except LimitReached (List Snapshot))
  | shown (r : Snapshot)
  | viewed (status : Status) (pose : Pose) (depth : Nat) (changes : Changes)

/-- The call only looks at a run. -/
def Call.looks : Call → Bool
  | .snapshot => true
  | .views => true
  | _ => false

/-- The results that an answer gives out. A limit that was reached gives out those before it. -/
def Answer.results : Answer → List Snapshot
  | .stepped r => [r]
  | .ran (.ok results) => results
  | .ran (.error reached) => reached.results
  | _ => []

/-- The results that answers give out, one answer after the other. -/
def resultsOf (answers : List Answer) : List Snapshot := answers.flatMap Answer.results

namespace State

/-- Answers one call: the state after it and the answer. -/
def answer (level : Level) (s : State) : Call → State × Answer
  | .step => ((s.step level).1, .stepped (s.step level).2)
  | .run limit => ((s.run level limit).1, .ran (s.run level limit).2)
  | .snapshot => (s, .shown s.snapshot)
  | .views => (s, .viewed s.status s.pose s.depth s.changes)

/-- Answers calls in order. -/
def answers (level : Level) : List Call → State → State × List Answer
  | [], s => (s, [])
  | call :: calls, s =>
    let (s, first) := s.answer level call
    let (s, rest) := answers level calls s
    (s, first :: rest)

/-! ## What the stream says -/

/-- A number of results of a run, from a place in its stream on. -/
def stretch (level : Level) (run : State) (place count : Nat) : List Snapshot :=
  (List.range count).map fun i => run.result level (place + i)

/-- What is to be seen at a place in the stream: the result before it, without its id and its
message, and at the first place the start. -/
def latest (level : Level) (run : State) : Nat → Snapshot
  | 0 => run.snapshot
  | place + 1 => { run.result level place with active := none, message := none }

/-- The answer to a call at a place in the stream. -/
inductive Told (level : Level) (run : State) (place : Nat) : Call → Answer → Prop
  | step : Told level run place .step (.stepped (run.result level place))
  -- one of the next results shows the end, and the first such is the last one given out
  | over {limit : Int} {k : Nat} (within : k < limit.toNat)
      (ends : (run.result level (place + k)).isTerminal = true)
      (first : ∀ i < k, (run.result level (place + i)).isTerminal = false) :
      Told level run place (.run limit) (.ran (.ok (stretch level run place (k + 1))))
  -- none of the next results shows the end, and all of them are given out
  | limit {limit : Int}
      (running : ∀ i < limit.toNat, (run.result level (place + i)).isTerminal = false) :
      Told level run place (.run limit)
        (.ran (.error ⟨limit, stretch level run place limit.toNat⟩))
  | snapshot : Told level run place .snapshot (.shown (latest level run place))
  | views : Told level run place .views
      (.viewed (latest level run place).status (latest level run place).pose
        (run.after level place).depth (latest level run place).changes)

/-! ## One call -/

section

variable (level : Level) (s : State)

theorem result_after (m i : Nat) : (s.after level m).result level i = s.result level (m + i) := by
  unfold result
  rw [after_add]

theorem steps_after (m n : Nat) : ((s.after level m).steps level n).2 = stretch level s m n := by
  rw [steps_eq_map]
  unfold stretch
  congr 1
  funext i
  exact result_after level s m i

theorem answer_of_looks {call : Call} (h : call.looks = true) : (s.answer level call).1 = s := by
  cases call with
  | snapshot => rfl
  | views => rfl
  | step => cases h
  | run limit => cases h

/-- A call takes a number of steps and gives out their results. -/
theorem answer_steps (call : Call) :
    ∃ n, (s.answer level call).1 = s.after level n ∧
      (s.answer level call).2.results = (s.steps level n).2 := by
  cases call with
  | step => exact ⟨1, rfl, rfl⟩
  | run limit =>
    rcases run_cases level s limit with ⟨k, -, -, -, hrun⟩ | ⟨-, hrun⟩
    · simp only [answer, hrun]
      exact ⟨k + 1, rfl, rfl⟩
    · simp only [answer, hrun]
      exact ⟨limit.toNat, rfl, rfl⟩
  | snapshot => exact ⟨0, rfl, rfl⟩
  | views => exact ⟨0, rfl, rfl⟩

end

/-! ## Calls in a row -/

section

variable (level : Level)

theorem answers_append (calls later : List Call) (s : State) :
    s.answers level (calls ++ later) =
      (((s.answers level calls).1.answers level later).1,
        (s.answers level calls).2 ++ ((s.answers level calls).1.answers level later).2) := by
  induction calls generalizing s with
  | nil => rfl
  | cons call calls ih =>
    simp only [List.cons_append, answers, ih]

/-- Calls in a row take a number of steps in all, and give out their results. -/
theorem answers_steps (calls : List Call) (s : State) :
    (s.answers level calls).1 = s.after level (resultsOf (s.answers level calls).2).length ∧
      resultsOf (s.answers level calls).2 =
        (s.steps level (resultsOf (s.answers level calls).2).length).2 := by
  have hsome : ∃ n, (s.answers level calls).1 = s.after level n ∧
      resultsOf (s.answers level calls).2 = (s.steps level n).2 := by
    induction calls generalizing s with
    | nil => exact ⟨0, rfl, rfl⟩
    | cons call calls ih =>
      obtain ⟨m, hstate, hresults⟩ := answer_steps level s call
      obtain ⟨n, hstate', hresults'⟩ := ih (s.answer level call).1
      rw [hstate] at hstate' hresults'
      refine ⟨m + n, ?_, ?_⟩
      · simp only [answers]
        rw [hstate, hstate', after_add]
      · simp only [answers, resultsOf, List.flatMap_cons] at hresults' ⊢
        rw [hresults, hstate, hresults', steps_add]
  obtain ⟨n, hstate, hresults⟩ := hsome
  have hlength : (resultsOf (s.answers level calls).2).length = n := by
    rw [hresults, length_steps]
  rw [hlength]
  exact ⟨hstate, hresults⟩

/-- A run at a place in its stream shows what is to be seen there. -/
theorem snapshot_after (run : State) (place : Nat) :
    (run.after level place).snapshot = latest level run place := by
  cases place with
  | zero => rfl
  | succ place =>
    obtain ⟨active, message, hshown⟩ := step_shows level (run.after level place)
    simp only [latest, result]
    rw [hshown, after_succ]
    rfl

/-- A call is answered by the stream. -/
theorem told_answer (run : State) (place : Nat) (call : Call) :
    Told level run place call ((run.after level place).answer level call).2 := by
  have hsnapshot := snapshot_after level run place
  cases call with
  | step => exact .step
  | run limit =>
    rcases run_cases level (run.after level place) limit with
      ⟨k, hk, hover, hbefore, hrun⟩ | ⟨hrunning, hrun⟩
    · simp only [result_after] at hover hbefore
      simp only [answer, hrun, steps_after]
      exact .over hk hover hbefore
    · simp only [result_after] at hrunning
      simp only [answer, hrun, steps_after]
      exact .limit hrunning
  | snapshot =>
    simp only [answer, hsnapshot]
    exact .snapshot
  | views =>
    have hviews : Told level run place .views _ := .views
    rw [← hsnapshot] at hviews
    exact hviews

end

/-! ## The law -/

/-- Any mix of calls gives out one stream of results, that of plain stepping. The next call is
answered by what follows in the stream; a call that only looks adds its own answer and changes no
other; and once a result shows the end, all later ones show the same runner at rest, with no block
and no message. -/
theorem any_mix_of_calls_gives_out_one_stream (level : Level) (program : Program) (start : Pose)
    (calls : List Call) (call : Call) :
    let run := initial program start
    let before := run.answers level calls
    let given := resultsOf before.2
    let answer := (before.1.answer level call).2
    given = (run.steps level given.length).2 ∧
      Told level run given.length call answer ∧
      run.snapshot = ⟨start.atRest, none, .running, .none, none⟩ ∧
      (call.looks = true → ∀ later, ∃ rest,
        (run.answers level (calls ++ later)).2 = before.2 ++ rest ∧
          (run.answers level (calls ++ call :: later)).2 = before.2 ++ answer :: rest) ∧
      ∀ i j, i < j → (run.result level i).isTerminal = true →
        run.result level j =
          ⟨(run.result level i).pose.atRest, none, (run.result level i).status,
            (run.result level i).changes, none⟩ := by
  intro run before given answer
  obtain ⟨hstate, hgiven⟩ := answers_steps level calls run
  refine ⟨hgiven, ?_, rfl, ?_, ?_⟩
  · have htold := told_answer level run given.length call
    rw [← hstate] at htold
    exact htold
  · intro hlooks later
    refine ⟨(before.1.answers level later).2, ?_, ?_⟩
    · rw [answers_append]
    · rw [answers_append]
      simp only [answers]
      rw [answer_of_looks level before.1 hlooks]
  · intro i j hij hi
    exact result_of_over hij hi

end State

end BlockMaze
