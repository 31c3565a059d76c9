-- The laws of a session's trace. Three things can end a session: the run is
-- over, someone asks to stop, or the limit is used up. The trace is told by
-- the step at which each of them comes, and the one that comes first decides.
import BlockMaze.Proofs.Limits
import BlockMaze.Session.Basic

namespace BlockMaze

/-! ## Who asks to stop -/

namespace Setup

/-- Some listener asks to stop when it is told of a step. -/
def stopsInRecord (setup : Setup) (number : Int) (r : Snapshot) : Bool :=
  setup.listeners.any fun listener => (listener number r).stops

/-- Someone asks to stop in the pause after a step, if there is one. -/
def stopsInRest (setup : Setup) (number : Int) : Bool :=
  setup.pace.isPositive && setup.stopInPause number

/-- Someone asks to stop while a step is recorded or in the pause after it. -/
def stopsAt (setup : Setup) (number : Int) (r : Snapshot) : Bool :=
  setup.stopsInRecord number r || setup.stopsInRest number

end Setup

namespace Session

variable {setup : Setup} {s : Session}

/-! ## Who is told -/

/-- The tellings among what happens in a session: the listener, the number of the step and its
snapshot. -/
def tellings (events : List Event) : List (Nat × Int × Snapshot) :=
  events.filterMap fun
    | .told i number r => some (i, number, r)
    | _ => none

/-- Every one of a number of listeners is told of every snapshot once: the snapshots in order, with
numbers from a first one on, and the listeners in order for each of them. -/
def tellingsOf (listeners : Nat) : Int → List Snapshot → List (Nat × Int × Snapshot)
  | _, [] => []
  | number, r :: rest =>
    (List.range listeners).map (fun i => (i, number, r)) ++ tellingsOf listeners (number + 1) rest

theorem tellings_append (xs ys : List Event) : tellings (xs ++ ys) = tellings xs ++ tellings ys :=
  List.filterMap_append ..

theorem tellings_report (setup : Setup) (kind : Report) (text : String) :
    tellings (report setup kind text) = [] := by
  unfold report
  split <;> rfl

theorem tellings_reaction (reaction : Reaction) : tellings (reactionEvents reaction) = [] := by
  unfold tellings reactionEvents
  rw [List.filterMap_append, List.filterMap_map]
  cases reaction.breakdown <;> simp

theorem tellings_outcome (setup : Setup) (s : Session) (r : Snapshot) :
    tellings (s.outcomeLine setup r) = [] := by
  unfold outcomeLine
  split <;> exact tellings_report setup _ _

/-! ## The parts of a step -/

theorem tell_session (number : Int) (r : Snapshot) (i : Nat) (listeners : List Listener)
    (s : Session) :
    (s.tell number r i listeners).1 =
      { s with stopped := s.stopped || listeners.any fun l => (l number r).stops } := by
  induction listeners generalizing i s with
  | nil => simp [tell]
  | cons l rest ih =>
    simp only [tell, ih, List.any_cons]
    cases (l number r).stops <;> simp [stop]

theorem tellings_tell (number : Int) (r : Snapshot) (i : Nat) (listeners : List Listener)
    (s : Session) :
    tellings (s.tell number r i listeners).2 =
      (List.range' i listeners.length).map fun j => (j, number, r) := by
  induction listeners generalizing i s with
  | nil => rfl
  | cons l rest ih =>
    simp only [tell, List.length_cons, List.range'_succ, List.map_cons]
    rw [← ih, List.cons_append, ← List.singleton_append, tellings_append, tellings_append,
      tellings_reaction, List.nil_append]
    rfl

theorem record_session (setup : Setup) (number : Int) (r : Snapshot) (s : Session) :
    (s.record setup number r).1 =
      { s with
        trace := { s.trace with steps := s.trace.steps ++ [r] }
        stopped := s.stopped || setup.stopsInRecord number r } :=
  tell_session number r 0 setup.listeners _

theorem tellings_record (setup : Setup) (number : Int) (r : Snapshot) (s : Session) :
    tellings (s.record setup number r).2 =
      (List.range setup.listeners.length).map fun i => (i, number, r) := by
  simp only [record, tellings_append]
  rw [tellings_tell, List.range_eq_range']
  unfold stepLine
  rw [tellings_report, List.nil_append]

theorem rest_session (setup : Setup) (number : Int) (s : Session) :
    (s.rest setup number).1 = { s with stopped := s.stopped || setup.stopsInRest number } := by
  unfold rest Setup.stopsInRest
  cases setup.pace.isPositive with
  | false => simp
  | true => cases setup.stopInPause number <;> simp [stop]

theorem tellings_rest (setup : Setup) (number : Int) (s : Session) :
    tellings (s.rest setup number).2 = [] := by
  unfold rest
  split <;> rfl

/-- A step in a session without breakdowns is a step of its run. -/
theorem takeStep_eq (hsound : ∀ call, setup.breakdown call = none) (number : Int) :
    s.takeStep setup number =
      ({ s with state := (s.state.step setup.level).1, calls := s.calls + 1 },
        (s.state.step setup.level).2) := by
  unfold takeStep
  simp only [hsound]

theorem takeStep_trace (setup : Setup) (number : Int) (s : Session) :
    (s.takeStep setup number).1.trace = s.trace := by
  unfold takeStep
  simp only
  split <;> rfl

/-! ## Steps in a row -/

/-- The session a number of steps later, if nothing else happens. -/
def later (setup : Setup) (s : Session) (n : Nat) : Session :=
  { s with
    state := s.state.after setup.level n
    trace := { s.trace with steps := s.trace.steps ++ (s.state.steps setup.level n).2 }
    calls := s.calls + n }

theorem later_add (setup : Setup) (s : Session) (m n : Nat) :
    (s.later setup m).later setup n = s.later setup (m + n) := by
  simp [later, State.after_add, State.steps_add, Nat.add_assoc]

theorem loop_of_stopped (left : Nat) (number : Int) (h : s.stopped = true) :
    (s.loop setup left number).1 = s := by
  cases left with
  | zero => simp [loop, atLimit, h]
  | succ left => simp [loop, h]

/-- A step that does not end the run is recorded, and the session goes on, stopped or not. -/
theorem loop_of_running (hsound : ∀ call, setup.breakdown call = none) (left : Nat) (number : Int)
    (h : s.stopped = false) (hr : (s.state.result setup.level 0).isTerminal = false) :
    (s.loop setup (left + 1) number).1 =
      (loop setup left (number + 1)
        { s.later setup 1 with
          stopped := setup.stopsAt number (s.state.result setup.level 0) }).1 := by
  have hr' : (s.state.step setup.level).2.isTerminal = false := hr
  rw [loop]
  simp only [h, takeStep_eq hsound, record_session, rest_session, hr', Bool.false_eq_true, if_false,
    Bool.false_or]
  rfl

/-- A step that ends the run is recorded, and its status and message are those of the trace. -/
theorem loop_of_over (hsound : ∀ call, setup.breakdown call = none) (left : Nat) (number : Int)
    (h : s.stopped = false) (hr : (s.state.result setup.level 0).isTerminal = true) :
    (s.loop setup (left + 1) number).1.trace =
      { (s.later setup 1).trace with
        status := (s.state.result setup.level 0).status
        message := (s.state.result setup.level 0).message } := by
  have hr' : (s.state.step setup.level).2.isTerminal = true := hr
  rw [loop]
  simp only [h, takeStep_eq hsound, record_session, hr', Bool.false_eq_true, if_false, if_true,
    finish]
  rfl

/-- Steps at which neither the run ends nor anyone asks to stop. -/
theorem loop_of_quiet (hsound : ∀ call, setup.breakdown call = none) (n left : Nat) (number : Int)
    (h : s.stopped = false)
    (hquiet : ∀ i < n, (s.state.result setup.level i).isTerminal = false ∧
      setup.stopsAt (number + i) (s.state.result setup.level i) = false) :
    (s.loop setup (left + n) number).1 = ((s.later setup n).loop setup left (number + n)).1 := by
  induction n generalizing s number with
  | zero =>
    have hzero : s.later setup 0 = s := by simp [later, State.steps]
    simp [hzero]
  | succ n ih =>
    obtain ⟨hr, hs⟩ := hquiet 0 (by omega)
    have hs' : setup.stopsAt number (s.state.result setup.level 0) = false := by simpa using hs
    have hfirst : { s.later setup 1 with stopped := false } = s.later setup 1 := by
      simp [later, h]
    have hrest := ih (s := s.later setup 1) (number + 1) h fun i hi => by
      have hnum : number + 1 + (i : Int) = number + ((i + 1 : Nat) : Int) := by omega
      rw [hnum]
      exact hquiet (i + 1) (by omega)
    have hnum : number + 1 + (n : Int) = number + ((n + 1 : Nat) : Int) := by omega
    rw [← Nat.add_assoc, loop_of_running hsound _ _ h hr, hs', hfirst, hrest, hnum, later_add,
      Nat.add_comm 1 n]

/-- Whatever ends a session, its listeners are told of every snapshot that it has recorded. -/
theorem told_loop (setup : Setup) (left : Nat) (number : Int)
    (hn : number + left = setup.limit + 1) (s : Session) :
    ∃ new, (s.loop setup left number).1.trace.steps = s.trace.steps ++ new ∧
      tellings (s.loop setup left number).2 = tellingsOf setup.listeners.length number new := by
  induction left generalizing s number with
  | zero =>
    have hlast : setup.limit + 1 = number := by simpa using hn.symm
    simp only [loop, atLimit]
    split
    · exact ⟨[], by simp, rfl⟩
    · refine ⟨[s.errorResult ("Stopped after " ++ toString setup.limit ++
          " steps without finishing.")], ?_, ?_⟩
      · simp [record_session, finish]
      · simp only [finish]
        rw [tellings_append, tellings_record, tellings_outcome, hlast]
        simp [tellingsOf]
  | succ left ih =>
    rw [loop]
    split
    · exact ⟨[], by simp, tellings_report setup _ _⟩
    · simp only
      split
      · refine ⟨[(s.takeStep setup number).2], ?_, ?_⟩
        · simp [record_session, finish, takeStep_trace]
        · simp only [finish]
          rw [tellings_append, tellings_record, tellings_outcome]
          simp [tellingsOf]
      · obtain ⟨new, hsteps, htold⟩ := ih (number + 1) (by push_cast at hn; omega)
          (rest setup number
            (record setup number (s.takeStep setup number).2 (s.takeStep setup number).1).1).1
        refine ⟨(s.takeStep setup number).2 :: new, ?_, ?_⟩
        · rw [hsteps]
          simp [record_session, rest_session, takeStep_trace]
        · rw [tellings_append, tellings_append, tellings_record, tellings_rest, htold]
          simp [tellingsOf]

/-! ## The three ways to end -/

/-- The number of the step at which someone first asks to stop: none if it was before the session,
and infinite if nobody ever asks. -/
noncomputable def askStep (setup : Setup) (s : Session) : ℕ∞ :=
  if s.stopped then 0
  else firstStep fun i => setup.stopsAt (1 + i) (s.state.result setup.level i) = true

theorem askStep_eq (h : s.stopped = false) :
    s.askStep setup =
      firstStep fun i => setup.stopsAt (1 + i) (s.state.result setup.level i) = true := by
  unfold askStep
  rw [h]
  rfl

theorem not_stopped {n : ℕ∞} (h : n < s.askStep setup) : s.stopped = false := by
  cases hs : s.stopped with
  | false => rfl
  | true => simp [askStep, hs] at h

/-- Before the run is over and before anyone asks to stop, a session just takes steps. -/
theorem loop_of_lt (hsound : ∀ call, setup.breakdown call = none) {n : Nat} (left : Nat)
    (hover : n < s.state.endStep setup.level) (hask : n < s.askStep setup) :
    (s.loop setup (left + n) 1).1 = ((s.later setup n).loop setup left (1 + n)).1 := by
  have h := not_stopped hask
  rw [askStep_eq h] at hask
  refine loop_of_quiet hsound n left 1 h fun i hi => ?_
  exact ⟨by simpa using lt_firstStep.1 hover i hi, by simpa using lt_firstStep.1 hask i hi⟩

section

variable (hsound : ∀ call, setup.breakdown call = none) (s : Session) (limit : Nat)
include hsound

/-- The run is over first, or at the step at which someone asks to stop. -/
theorem trace_of_over (hover : s.state.endStep setup.level ≤ limit)
    (hask : s.state.endStep setup.level ≤ s.askStep setup) :
    let last := s.state.result setup.level ((s.state.endStep setup.level).toNat - 1)
    (s.loop setup limit 1).1.trace =
      { s.trace with
        status := last.status
        message := last.message
        steps :=
          s.trace.steps ++ (s.state.steps setup.level (s.state.endStep setup.level).toNat).2 } := by
  obtain ⟨n, hn, hr, -, he⟩ := firstStep_le hover
  replace he : s.state.endStep setup.level = ((n + 1 : Nat) : ℕ∞) := he
  have hlt : (n : ℕ∞) < s.state.endStep setup.level := by
    rw [he]
    exact_mod_cast Nat.lt_succ_self n
  obtain ⟨left, rfl⟩ : ∃ left, limit = left + 1 + n := ⟨limit - n - 1, by omega⟩
  have hask' := lt_of_lt_of_le hlt hask
  have h := not_stopped hask'
  rw [loop_of_lt hsound (left + 1) hlt hask',
    loop_of_over hsound (s := s.later setup n) left _ h hr, later_add, he, ENat.toNat_natCast]
  rfl

/-- Someone asks to stop before the run is over. -/
theorem trace_of_ask (hask : s.askStep setup ≤ limit)
    (hover : s.askStep setup < s.state.endStep setup.level) :
    (s.loop setup limit 1).1.trace =
      { s.trace with
        steps := s.trace.steps ++ (s.state.steps setup.level (s.askStep setup).toNat).2 } := by
  cases h : s.stopped with
  | true =>
    have hzero : s.askStep setup = 0 := by simp [askStep, h]
    rw [loop_of_stopped limit 1 h, hzero]
    simp [State.steps]
  | false =>
    rw [askStep_eq h] at hask
    obtain ⟨n, hn, hs, -, he⟩ := firstStep_le hask
    rw [← askStep_eq h] at he
    have hlt : (n : ℕ∞) < s.askStep setup := by
      rw [he]
      exact_mod_cast Nat.lt_succ_self n
    obtain ⟨left, rfl⟩ : ∃ left, limit = left + 1 + n := ⟨limit - n - 1, by omega⟩
    have hr : (s.state.result setup.level n).isTerminal = false := by
      rw [he] at hover
      simpa using lt_firstStep.1 hover n (Nat.lt_succ_self n)
    have hs' : setup.stopsAt (1 + n) ((s.later setup n).state.result setup.level 0) = true := hs
    rw [loop_of_lt hsound (left + 1) (lt_trans hlt hover) hlt,
      loop_of_running hsound (s := s.later setup n) left _ h hr, hs', loop_of_stopped left _ rfl,
      later_add, he, ENat.toNat_natCast]
    rfl

/-- The limit is used up before the run is over and before anyone asks to stop. -/
theorem trace_of_limit (hover : limit < s.state.endStep setup.level)
    (hask : limit < s.askStep setup) :
    let last := (s.later setup limit).errorResult
      ("Stopped after " ++ toString setup.limit ++ " steps without finishing.")
    (s.loop setup limit 1).1.trace =
      { s.trace with
        status := .error
        message := last.message
        steps := s.trace.steps ++ (s.state.steps setup.level limit).2 ++ [last] } := by
  have hloop := loop_of_lt hsound 0 hover hask
  have h := not_stopped hask
  have hrun : (s.later setup limit).stopped = false := h
  rw [Nat.zero_add] at hloop
  rw [hloop]
  simp only [loop, atLimit, hrun, Bool.false_eq_true, if_false, finish, record_session]
  rfl

end

theorem tellings_run (hlimit : 0 ≤ setup.limit) (h : s.trace.steps = []) :
    tellings (s.run setup).2 =
      tellingsOf setup.listeners.length 1 (s.run setup).1.trace.steps := by
  obtain ⟨new, hsteps, htold⟩ := told_loop setup setup.limit.toNat 1 (by omega) s
  rw [h, List.nil_append] at hsteps
  simp only [run, tellings_append]
  rw [hsteps, htold]
  unfold opening openingUnder
  rw [tellings_report, List.nil_append]

end Session

/-! ## The law -/

open Session

/-- The trace of a session is told by the snapshots of its run, the limit, and the step at which
someone first asks to stop. The end of the run comes first, then the asking, then the limit, which
adds an error to the trace. Each listener is told of each recorded snapshot once, in order,
whatever the listeners do; and the same run under the same limit without a session returns the
same snapshots if it ends, and breaks off with the same snapshots if it does not. -/
theorem the_trace_is_told_by_the_run_the_limit_and_the_asking (runId : RunId) (program : Program)
    (level : Level) (start : Option Pose) (pace : Pace) (limit : Nat) (verbose : Bool) (ink : Ink)
    (listeners : List Listener) (stopInPause : Int → Bool) (asked : Bool) :
    let setup : Setup :=
      ⟨level, pace, limit, verbose, ink, listeners, fun _ => none, stopInPause⟩
    let fresh := Session.new runId program level start
    let session := if asked then fresh.stop else fresh
    let run := State.initial program (start.getD level.start)
    let ending := run.endStep level
    let asking := session.askStep setup
    let ended := (session.run setup).1
    (ending ≤ limit ∧ ending ≤ asking →
      let last := run.result level (ending.toNat - 1)
      ended.trace =
        { fresh.trace with
          status := last.status
          message := last.message
          steps := (run.steps level ending.toNat).2 }) ∧
    (asking ≤ limit ∧ asking < ending →
      ended.trace =
        { fresh.trace with
          status := .running
          message := none
          steps := (run.steps level asking.toNat).2 }) ∧
    (¬ (ending ≤ limit ∧ ending ≤ asking) ∧ ¬ (asking ≤ limit ∧ asking < ending) →
      let refusal := "Stopped after " ++ toString limit ++ " steps without finishing."
      ended.trace =
        { fresh.trace with
          status := .error
          message := some refusal
          steps := (run.steps level limit).2 ++
            [{ (run.after level limit).snapshot with
                status := .error
                message := some refusal }] }) ∧
    tellings (session.run setup).2 = tellingsOf listeners.length 1 ended.trace.steps ∧
    (run.run level limit).2 =
      (if ending ≤ limit then .ok (run.steps level ending.toNat).2
      else .error ⟨limit, (run.steps level limit).2⟩) := by
  intro setup fresh session run ending asking ended
  have hsound : ∀ call, setup.breakdown call = none := fun _ => rfl
  -- asking before the session changes nothing but the mark for it
  have hstate : session.state = run := by cases asked <;> rfl
  have htrace : session.trace = fresh.trace := by cases asked <;> rfl
  refine ⟨?_, ?_, ?_, ?_, State.run_eq level run limit⟩
  · rintro ⟨hover, hask⟩
    have h := trace_of_over hsound session limit
    rw [hstate, htrace] at h
    exact h hover hask
  · rintro ⟨hask, hover⟩
    have h := trace_of_ask hsound session limit
    rw [hstate, htrace] at h
    exact h hask hover
  · rintro ⟨hover, hask⟩
    have hover' : limit < ending := by
      by_contra hle
      have hlt : asking < ending := by
        by_contra hge
        exact hover ⟨not_lt.1 hle, not_lt.1 hge⟩
      exact hask ⟨le_trans hlt.le (not_lt.1 hle), hlt⟩
    have hask' : limit < asking := by
      by_contra hle
      exact hask ⟨not_lt.1 hle, lt_of_le_of_lt (not_lt.1 hle) hover'⟩
    have h := trace_of_limit hsound session limit
    simp only [later, errorResult] at h
    rw [hstate, htrace] at h
    exact h hover' hask'
  · exact tellings_run (s := session) (Int.natCast_nonneg limit) (by rw [htrace]; rfl)

end BlockMaze
