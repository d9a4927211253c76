import Mathlib.Algebra.GroupWithZero.Nat
import Mathlib.Data.List.Infix
import SceneFlow.Proofs.Machine.Decision
import SceneFlow.Proofs.Session.Deed

/-!
Sessions as clockworks. What the lines of a session come to is a machine and a clock: each line does
one deed to them, or none, and nothing else is left of it.
-/

namespace SceneFlow

variable {graph : Graph} {machine : Machine} {now since step : Nat} {fresh : Stage}
  {clock platform : Clock} {line : String} {input start : Input} {inputs before later : List Input}

namespace Machine

theorem eq_waitsSince_of_tick
    (h : (machine.tick graph now true).2.machine.phase = .waiting since) :
    since = machine.waitsSince now := by
  cases htarget : (machine.tick graph now true).2.outcome.target?.isSome with
  | true =>
    rw [phase_tick_of_target? htarget] at h
    cases h
  | false =>
    rw [phase_tick_of_not_target? htarget, settled_phase_of_ready] at h
    cases h
    rfl

theorem isTimed_tick_ready_iff :
    (machine.tick graph now true).2.outcome.IsTimed ↔
      ∃ state timed, machine.currentState? graph = some state ∧ state.timed = some timed ∧
        timed.delay < now - machine.waitsSince now := by
  rw [isTimed_tick_iff, settled_phase_of_ready]
  constructor
  · rintro ⟨since, state, hphase, hstate, timed, htimed, hdelay⟩
    cases hphase
    exact ⟨state, timed, hstate, htimed, hdelay⟩
  · rintro ⟨state, timed, hstate, htimed, hdelay⟩
    exact ⟨_, state, rfl, hstate, timed, htimed, hdelay⟩

end Machine

def Clock.plus (clock : Clock) (step : Nat) : Clock :=
  { clock with reading := clock.reading + step }

theorem Clock.plus_plus (clock : Clock) (step more : Nat) :
    (clock.plus step).plus more = clock.plus (step + more) := by
  rw [plus, plus, plus, Nat.add_assoc]

theorem Stage.create_eq_ok {stage : Stage} {notices : List Notice}
    (h : create graph = .ok (stage, notices)) :
    Machine.create graph = .ok stage.machine ∧ stage.loaded = [] := by
  rw [create] at h
  split at h
  · next hmake =>
    cases h
    rw [Machine.create, hmake]
    exact ⟨rfl, rfl⟩
  · cases h

structure Clockwork where
  stage : Stage
  clock : Clock
  deriving DecidableEq

namespace Clockwork

def perform (graph : Graph) (fresh : Stage) (platform : Clock) (work : Clockwork) :
    Deed → Clockwork
  | .advance step =>
    ⟨(work.stage.tick graph (work.clock.reading + step) true).1, work.clock.plus step⟩
  | .submit event =>
    match work.stage.machine.submit graph event with
    | .ok receipt => { work with stage := { work.stage with machine := receipt.machine } }
    | .error _ => work
  | .restart => ⟨fresh, platform⟩
  | .nothing => work

def obey (graph : Graph) (fresh : Stage) (work : Clockwork) (input : Input) : Clockwork :=
  work.perform graph fresh input.world.clock (.ofLine work.clock input.line)

def after (graph : Graph) (fresh : Stage) (platform : Clock) (inputs : List Input) : Clockwork :=
  inputs.foldl (obey graph fresh) ⟨fresh, platform⟩

theorem after_concat (graph : Graph) (fresh : Stage) (platform : Clock) (inputs : List Input)
    (input : Input) :
    after graph fresh platform (inputs ++ [input]) =
      (after graph fresh platform inputs).obey graph fresh input :=
  List.foldl_concat ..

def entered (clock : Clock) : List Input → List Nat
  | [] => []
  | input :: inputs =>
    let steps := (Deed.ofLine clock input.line).steps
    steps ++ entered (clock.plus steps.sum) inputs

theorem entered_append (clock : Clock) (earlier later : List Input) :
    entered clock (earlier ++ later) =
      entered clock earlier ++ entered (clock.plus (entered clock earlier).sum) later := by
  induction earlier generalizing clock with
  | nil => rfl
  | cons input earlier ih =>
    rw [List.cons_append, entered, entered, ih]
    simp only [List.sum_append, List.append_assoc, Clock.plus_plus]

theorem clock_perform (work : Clockwork) {deed : Deed} (h : deed ≠ .restart) :
    (work.perform graph fresh platform deed).clock = work.clock.plus deed.steps.sum := by
  cases deed with
  | advance step => simp [perform, Deed.steps]
  | submit event =>
    rw [perform]
    split <;> rfl
  | restart => exact absurd rfl h
  | nothing => rfl

theorem clock_after_append (graph : Graph) (fresh : Stage) (platform : Clock)
    (earlier later : List Input) (h : ∀ input ∈ later, ¬ Session.Restarts input.line) :
    (after graph fresh platform (earlier ++ later)).clock =
      (after graph fresh platform earlier).clock.plus
        (entered (after graph fresh platform earlier).clock later).sum := by
  induction later using List.reverseRecOn with
  | nil =>
    rw [List.append_nil]
    rfl
  | append_singleton later input ih =>
    have hlater := ih fun other hother => h other (List.mem_append_left _ hother)
    have hline (clock : Clock) : Deed.ofLine clock input.line ≠ .restart :=
      mt Session.ofLine_eq_restart_iff.1 (h input (by simp))
    rw [← List.append_assoc, after_concat, obey, clock_perform _ (hline _), hlater, entered_append]
    simp only [entered, List.append_nil, List.sum_append, Clock.plus_plus]

def Waits (work : Clockwork) : Prop := ∃ since, work.stage.machine.phase = .waiting since

instance (work : Clockwork) : Decidable work.Waits :=
  match hphase : work.stage.machine.phase with
  | .waiting since => .isTrue ⟨since, hphase⟩
  | .entering => .isFalse fun ⟨_, hsince⟩ => absurd (hphase.symm.trans hsince) nofun
  | .activating _ _ => .isFalse fun ⟨_, hsince⟩ => absurd (hphase.symm.trans hsince) nofun

theorem phase_obey {work : Clockwork} (hfresh : fresh.machine.phase = .entering)
    (h : (work.obey graph fresh input).stage.machine.phase = .waiting since) :
    work.stage.machine.phase = .waiting since ∧ ¬ Session.Restarts input.line ∨
      ¬ work.Waits ∧ (∃ step, Deed.ofLine work.clock input.line = .advance step) ∧
        since = (work.obey graph fresh input).clock.reading := by
  have hrestarts {deed : Deed} (hdeed : Deed.ofLine work.clock input.line = deed)
      (hne : deed ≠ .restart) : ¬ Session.Restarts input.line :=
    fun hrestarts => hne (hdeed.symm.trans (Session.ofLine_eq_restart_iff.2 hrestarts))
  rw [obey] at h ⊢
  cases hdeed : Deed.ofLine work.clock input.line with
  | nothing =>
    rw [hdeed] at h
    exact .inl ⟨h, hrestarts hdeed nofun⟩
  | restart =>
    rw [hdeed] at h
    exact absurd (hfresh.symm.trans h) nofun
  | submit event =>
    rw [hdeed, perform] at h
    split at h
    · next receipt hsubmit =>
      rw [Machine.submit_machine hsubmit] at h
      exact .inl ⟨h, hrestarts hdeed nofun⟩
    · exact .inl ⟨h, hrestarts hdeed nofun⟩
  | advance step =>
    rw [hdeed] at h
    obtain rfl := Machine.eq_waitsSince_of_tick h
    by_cases hwaits : work.Waits
    · obtain ⟨since, hsince⟩ := hwaits
      refine .inl ⟨?_, hrestarts hdeed nofun⟩
      rw [Machine.waitsSince, hsince]
    · exact .inr ⟨hwaits, ⟨step, rfl⟩, Machine.waitsSince_of_not_waiting (not_exists.1 hwaits)⟩

/-- The wait that goes on after some lines began with one of them, a tick. -/
structure Wait (graph : Graph) (fresh : Stage) (platform : Clock) (before : List Input)
    (start : Input) (later : List Input) : Prop where
  rested : ¬ (after graph fresh platform before).Waits
  ticked : ∃ step,
    Deed.ofLine (after graph fresh platform before).clock start.line = .advance step
  waits : ∀ earlier, earlier <+: later →
    (after graph fresh platform (before ++ start :: earlier)).Waits

theorem exists_wait (hfresh : fresh.machine.phase = .entering)
    (h : (after graph fresh platform inputs).Waits) :
    ∃ before start later, inputs = before ++ start :: later ∧
      Wait graph fresh platform before start later := by
  induction inputs using List.reverseRecOn with
  | nil =>
    obtain ⟨since, hsince⟩ := h
    exact absurd (hfresh.symm.trans hsince) nofun
  | append_singleton inputs input ih =>
    have hwaits := h
    obtain ⟨since, hsince⟩ := h
    rw [after_concat] at hsince
    rcases phase_obey hfresh hsince with ⟨hearlier, _⟩ | ⟨hbefore, htick, _⟩
    · obtain ⟨before, start, later, rfl, hwait⟩ := ih ⟨since, hearlier⟩
      refine ⟨before, start, later ++ [input], by simp, hwait.rested, hwait.ticked, ?_⟩
      intro earlier hearly
      rcases List.prefix_concat_iff.1 hearly with rfl | hearly
      · simpa using hwaits
      · exact hwait.waits earlier hearly
    · refine ⟨inputs, input, [], rfl, hbefore, htick, ?_⟩
      intro earlier hearly
      rw [List.prefix_nil.1 hearly]
      exact hwaits

theorem Wait.phase (hfresh : fresh.machine.phase = .entering)
    (h : Wait graph fresh platform before start later) :
    (after graph fresh platform (before ++ start :: later)).stage.machine.phase =
        .waiting (after graph fresh platform (before ++ [start])).clock.reading ∧
      ∀ input ∈ later, ¬ Session.Restarts input.line := by
  induction later using List.reverseRecOn with
  | nil =>
    obtain ⟨since, hsince⟩ := h.waits [] List.prefix_rfl
    rw [after_concat] at hsince ⊢
    rcases phase_obey hfresh hsince with ⟨hearlier, _⟩ | ⟨_, _, hclock⟩
    · exact absurd ⟨since, hearlier⟩ h.rested
    · exact ⟨by rw [hsince, hclock], List.forall_mem_nil _⟩
  | append_singleton later input ih =>
    have hwait : Wait graph fresh platform before start later :=
      ⟨h.rested, h.ticked, fun earlier hearly =>
        h.waits earlier (hearly.trans (List.prefix_append _ _))⟩
    obtain ⟨hphase, hlater⟩ := ih hwait
    obtain ⟨since, hsince⟩ := h.waits _ List.prefix_rfl
    have hconcat : before ++ start :: (later ++ [input]) = before ++ start :: later ++ [input] := by
      simp
    rw [hconcat, after_concat] at hsince ⊢
    rcases phase_obey hfresh hsince with ⟨hearlier, hline⟩ | ⟨hbefore, _⟩
    · rw [hsince, ← hearlier, hphase]
      exact ⟨rfl, by simpa [or_imp, forall_and, hline] using hlater⟩
    · exact absurd ⟨_, hphase⟩ hbefore

theorem isTimed_iff (hfresh : fresh.machine.phase = .entering) (step : Nat) :
    let work := after graph fresh platform inputs
    (work.stage.tick graph (work.clock.reading + step) true).2.2.outcome.IsTimed ↔
      ∃ before start later state timed, inputs = before ++ start :: later ∧
        Wait graph fresh platform before start later ∧
        work.stage.machine.currentState? graph = some state ∧ state.timed = some timed ∧
        timed.delay <
          (entered (after graph fresh platform (before ++ [start])).clock later).sum + step := by
  intro work
  have hsum {before later : List Input} {start : Input}
      (hinputs : inputs = before ++ start :: later)
      (hwait : Wait graph fresh platform before start later) :
      work.clock.reading + step - work.stage.machine.waitsSince (work.clock.reading + step) =
        (entered (after graph fresh platform (before ++ [start])).clock later).sum + step := by
    obtain ⟨hphase, hlater⟩ := hwait.phase hfresh
    have hclock := clock_after_append graph fresh platform (before ++ [start]) later hlater
    rw [List.append_assoc, List.singleton_append, ← hinputs] at hclock
    rw [← hinputs] at hphase
    have hsince : work.stage.machine.waitsSince (work.clock.reading + step) =
        (after graph fresh platform (before ++ [start])).clock.reading := by
      rw [Machine.waitsSince, hphase]
    rw [hsince, hclock, Clock.plus, Nat.add_assoc, Nat.add_sub_cancel_left]
  refine Machine.isTimed_tick_ready_iff.trans ⟨?_, ?_⟩
  · rintro ⟨state, timed, hstate, htimed, hdelay⟩
    have hwaits : work.Waits := by
      by_contra hrests
      rw [Machine.waitsSince_of_not_waiting (not_exists.1 hrests), Nat.sub_self] at hdelay
      exact absurd hdelay (Nat.not_lt_zero _)
    obtain ⟨before, start, later, hinputs, hwait⟩ := exists_wait hfresh hwaits
    exact ⟨before, start, later, state, timed, hinputs, hwait, hstate, htimed,
      hsum hinputs hwait ▸ hdelay⟩
  · rintro ⟨before, start, later, state, timed, hinputs, hwait, hstate, htimed, hdelay⟩
    exact ⟨state, timed, hstate, htimed, (hsum hinputs hwait).symm ▸ hdelay⟩

end Clockwork

namespace Session

variable {path : String} {world : World} {opened : Session}

def next [Checksum] (session : Session) (input : Input) : Session :=
  (session.respond input.world (.ofLine input.line)).session

def after [Checksum] (session : Session) (inputs : List Input) : Session :=
  inputs.foldl next session

def put (opened : Session) (work : Clockwork) : Session :=
  { opened with stage := work.stage, clock := work.clock }

theorem phase_of_create {notices : List Notice} (h : Stage.create graph = .ok (fresh, notices)) :
    fresh.machine.phase = .entering := by
  obtain ⟨hcreate, _⟩ := Stage.create_eq_ok h
  obtain ⟨_, state, _, hmachine⟩ := Machine.create_eq_ok hcreate
  rw [hmachine]

theorem load_eq_ok [Checksum] (h : (load path world).session = .ok opened) :
    opened.path = path ∧ opened.clock = world.clock ∧
      Program.load world.file = .ok opened.program ∧
      ∃ notices, Stage.create opened.graph = .ok (opened.stage, notices) := by
  rw [load] at h
  split at h
  · cases h
  · next program hprogram =>
    split at h
    · cases h
    · next graph hgraph =>
      split at h
      · cases h
      · next stage notices hstage =>
        cases h
        rw [Program.validGraph] at hgraph
        split at hgraph
        · cases hgraph
          exact ⟨rfl, rfl, hprogram, notices, hstage⟩
        · cases hgraph

theorem load_of_file_eq [Checksum] (path : String) {later : World} (h : later.file = world.file) :
    (load path later).session =
      (load path world).session.map fun session => { session with clock := later.clock } := by
  simp only [load, h]
  split
  · rfl
  · split
    · rfl
    · split <;> rfl

theorem tick_session (session : Session) (argument : Option String) :
    (session.tick argument).session =
      (step? session.clock argument).elim session fun step =>
        (session.tickAt (session.clock.plus step)).session := by
  have hstep : step? session.clock argument =
      ((argument.elim (some (.zero false)) Number.Binary64.ofLiteral?).bind (·.delay?)).filter
        (session.clock.reading + · < session.clock.range) := by
    have hzero : (Number.Binary64.zero false).delay? = some 0 := by decide +kernel
    cases argument with
    | none => rw [Option.elim_none, Option.bind_some, hzero, step?, Option.elim_none]
    | some text => rw [step?, Option.elim_some, Option.elim_some]
  rw [tick, hstep]
  cases argument.elim (some (.zero false)) Number.Binary64.ofLiteral? with
  | none => rfl
  | some seconds =>
    rw [Option.bind_some]
    cases hdelay : seconds.delay? with
    | none => simp [hdelay, Session.answer]
    | some step =>
      by_cases hrange : session.clock.reading + step < session.clock.range
      · simp [hdelay, Clock.forward?, Clock.plus, hrange, Option.filter_some]
      · simp [hdelay, Clock.forward?, hrange, Session.answer, Option.filter_some]

/-- A request does one deed, if the program's file holds what it held when it was opened. -/
theorem respond_put [Checksum] (h : (load path world).session = .ok opened) (work : Clockwork)
    {later : World} (hfile : later.file = world.file) (request : Request) :
    ((opened.put work).respond later request).session =
      opened.put
        (work.perform opened.graph opened.stage later.clock (request.deed work.clock)) := by
  obtain ⟨hpath, _, _⟩ := load_eq_ok h
  cases request with
  | tick argument =>
    have hput : (opened.put work).clock = work.clock := rfl
    rw [respond, tick_session, Request.deed, hput]
    cases step? work.clock argument <;> rfl
  | reload =>
    have hload : (load (opened.put work).path later).session =
        .ok (opened.put ⟨opened.stage, later.clock⟩) := by
      have hsame : (load (opened.put work).path later).session = (load path later).session := by
        rw [← hpath]
        rfl
      rw [hsame, load_of_file_eq path hfile, h]
      rfl
    simp only [respond, reload, hload]
    rfl
  | submit event =>
    have hput : (opened.put work).stage.machine.submit (opened.put work).graph event =
        work.stage.machine.submit opened.graph event := rfl
    simp only [respond, submit, Request.deed, Clockwork.perform, hput]
    cases work.stage.machine.submit opened.graph event <;> rfl
  | _ => rfl

theorem next_put [Checksum] (h : (load path world).session = .ok opened) (work : Clockwork)
    (hfile : input.world.file = world.file) :
    (opened.put work).next input = opened.put (work.obey opened.graph opened.stage input) := by
  rw [next, respond_put h work hfile, Request.deed_ofLine]
  rfl

theorem after_eq_put [Checksum] (h : (load path world).session = .ok opened)
    (hfile : ∀ input ∈ inputs, input.world.file = world.file) :
    opened.after inputs =
      opened.put (.after opened.graph opened.stage world.clock inputs) := by
  induction inputs using List.reverseRecOn with
  | nil =>
    obtain ⟨_, hclock, _⟩ := load_eq_ok h
    rw [Clockwork.after, List.foldl_nil, ← hclock]
    rfl
  | append_singleton inputs input ih =>
    obtain ⟨hinputs, hinput⟩ := List.forall_mem_append.1 hfile
    rw [Clockwork.after_concat, ← next_put h _ (hinput input List.mem_cons_self), ← ih hinputs]
    exact List.foldl_concat ..

theorem eq_quit_of_farewell [Checksum] {session : Session} {request : Request}
    (h : (session.respond world request).answer = .farewell) : request = .quit := by
  cases request with
  | quit => rfl
  | tick argument =>
    rw [respond, tick] at h
    split at h
    · cases h
    · split at h <;> cases h
  | reload =>
    simp only [respond, reload] at h
    split at h <;> cases h
  | submit event =>
    simp only [respond, submit] at h
    split at h <;> cases h
  | _ => cases h

theorem converse_of_blank [Checksum] (h : request? input.line = none) (session : Session)
    (more : List Input) : session.converse (input :: more) = session.converse more := by
  simp only [converse, h]

theorem converse_of_request [Checksum] {session : Session}
    (h : request? input.line = some (.ofLine input.line))
    (hanswer : (session.respond input.world (.ofLine input.line)).answer ≠ .farewell)
    (more : List Input) :
    let response := session.respond input.world (.ofLine input.line)
    let rest := response.session.converse more
    session.converse (input :: more) =
      ⟨response.answer.shown ++ rest.output, response.faults ++ rest.faults,
        response.log ++ rest.log, rest.failure⟩ := by
  simp only [converse, h]

theorem converse_cons [Checksum] (h : ¬ Quits input.line) (session : Session) :
    ∃ output faults log, ∀ more,
      let rest := (session.next input).converse more
      session.converse (input :: more) =
        ⟨output ++ rest.output, faults ++ rest.faults, log ++ rest.log, rest.failure⟩ := by
  cases request?_eq input.line with
  | inl hnone =>
    obtain ⟨hrequest, hnothing⟩ := hnone
    refine ⟨"", [], [], fun more => ?_⟩
    rw [converse_of_blank hrequest, next, hnothing]
    simp [respond, answer]
  | inr hsome =>
    refine ⟨_, _, _, converse_of_request hsome fun hfarewell => h (quits_iff.2 ?_)⟩
    rw [hsome, eq_quit_of_farewell hfarewell]

theorem converse_append [Checksum] (h : ∀ input ∈ inputs, ¬ Quits input.line) (session : Session) :
    ∃ output faults log, ∀ more,
      let rest := (session.after inputs).converse more
      session.converse (inputs ++ more) =
        ⟨output ++ rest.output, faults ++ rest.faults, log ++ rest.log, rest.failure⟩ := by
  induction inputs generalizing session with
  | nil => exact ⟨"", [], [], fun more => by simp [after]⟩
  | cons input inputs ih =>
    obtain ⟨hinput, hinputs⟩ := List.forall_mem_cons.1 h
    obtain ⟨output, faults, log, hcons⟩ := converse_cons hinput session
    obtain ⟨others, moreFaults, moreLog, hrest⟩ := ih hinputs (session.next input)
    refine ⟨output ++ others, faults ++ moreFaults, log ++ moreLog, fun more => ?_⟩
    have hafter : session.after (input :: inputs) = (session.next input).after inputs :=
      List.foldl_cons ..
    rw [List.cons_append, hcons, hrest, hafter]
    simp only [String.append_assoc, List.append_assoc]

theorem converse_of_quits [Checksum] (h : Quits input.line) (session : Session)
    (more : List Input) : session.converse (input :: more) = ⟨"", [], [], none⟩ := by
  simp [converse, quits_iff.1 h, respond, answer, Answer.shown]

/-- A session is a machine and a clock that starts from the platform's: whatever its lines are, they
come to the deeds that their words tell, done in order to a fresh machine, and this is all that the
rest of the session goes by. The clock never goes back but to start all over, and a tick makes a
timed transition exactly if the steps entered since the tick that began the wait come to more than
its delay. -/
theorem session_is_clockwork [Checksum] (h : (load path world).session = .ok opened)
    (inputs : List Input) (hfile : ∀ input ∈ inputs, input.world.file = world.file) :
    Program.load world.file = .ok opened.program ∧
      ∃ fresh notices, Stage.create opened.graph = .ok (fresh, notices) ∧
      let work := Clockwork.after opened.graph fresh world.clock
      let after := opened.after inputs
      after = { opened with stage := (work inputs).stage, clock := (work inputs).clock } ∧
      ((∀ input ∈ inputs, ¬ Quits input.line) →
        ∃ output faults log, ∀ more,
          let rest := after.converse more
          opened.converse (inputs ++ more) =
            ⟨output ++ rest.output, faults ++ rest.faults, log ++ rest.log, rest.failure⟩) ∧
      (∀ input more, Quits input.line → after.converse (input :: more) = ⟨"", [], [], none⟩) ∧
      (∀ earlier later, inputs = earlier ++ later →
        (∀ input ∈ later, ¬ Restarts input.line) →
        (work inputs).clock =
          (work earlier).clock.plus (Clockwork.entered (work earlier).clock later).sum) ∧
      ((work inputs).Waits → ∃ before start later, inputs = before ++ start :: later ∧
        Clockwork.Wait opened.graph fresh world.clock before start later) ∧
      ∀ line step, Deed.ofLine (work inputs).clock line = .advance step →
        (((work inputs).stage.tick opened.graph
            ((work inputs).clock.reading + step) true).2.2.outcome.IsTimed ↔
          ∃ before start later state timed, inputs = before ++ start :: later ∧
            Clockwork.Wait opened.graph fresh world.clock before start later ∧
            (work inputs).stage.machine.currentState? opened.graph = some state ∧
            state.timed = some timed ∧
            timed.delay <
              (Clockwork.entered (work (before ++ [start])).clock later).sum + step) := by
  obtain ⟨_, _, hprogram, notices, hcreate⟩ := load_eq_ok h
  have hfresh := phase_of_create hcreate
  refine ⟨hprogram, opened.stage, notices, hcreate, ?_⟩
  intro work after
  refine ⟨after_eq_put h hfile, fun hinputs => converse_append hinputs opened,
    fun input more hquits => converse_of_quits hquits after more, ?clock,
    Clockwork.exists_wait hfresh, fun line step _ => Clockwork.isTimed_iff hfresh step⟩
  case clock =>
    rintro earlier later rfl hlater
    exact Clockwork.clock_after_append _ _ _ earlier later hlater

theorem load_toByteArray [Checksum] {source : String} {stage : Stage} {notices : List Notice}
    (path : String) (clock : Clock) (hvalid : (Program.compile source).isValid)
    (hstage : Stage.create (Program.compile source).graph = .ok (stage, notices)) :
    (load path ⟨clock, some source.toByteArray⟩).session =
      .ok ⟨path, .compile source, stage, clock⟩ := by
  have htext : String.fromUTF8? source.toByteArray = some source :=
    dif_pos source.isValidUTF8
  simp [load, Program.load, fileText, htext, Program.validGraph, hvalid, hstage]

def lampSource : String :=
  "State(Dark); State(Lit); DefineStart(Dark); TimedTransition(Dark, Lit, 1);"

def lampWorld : World := ⟨⟨5 * second, 8 * second⟩, some lampSource.toByteArray⟩

def lamp : Session :=
  ⟨"lamp.fsm", .compile lampSource, ⟨⟨⟨"dark"⟩, .entering, [], ⟨⟨"dark"⟩, [], []⟩, none⟩, []⟩,
    lampWorld.clock⟩

theorem create_lamp : Stage.create lamp.graph = .ok (lamp.stage, []) := by
  decide +kernel

theorem load_lamp : (load "lamp.fsm" lampWorld).session = .ok lamp := by
  have hvalid : (Program.compile lampSource).isValid := by decide +kernel
  exact load_toByteArray "lamp.fsm" lampWorld.clock hvalid create_lamp

theorem session_is_clockwork_lamp :
    let inputs := ["tick", "T 1", "tick 2", "tick soon"].map (Input.mk lampWorld)
    let after := lamp.after inputs
    (load "lamp.fsm" lampWorld).session = .ok lamp ∧
      (∀ input ∈ inputs, input.world.file = lampWorld.file) ∧
      after.clock.reading = 6 * second ∧
      Deed.ofLine after.clock " t 0.5" = .advance 500000000 ∧
      (after.stage.tick lamp.graph (after.clock.reading + 500000000) true).2.2.outcome.IsTimed := by
  intro inputs after
  have hload : (load "lamp.fsm" lampWorld).session = .ok lamp := load_lamp
  have hfile : ∀ input ∈ inputs, input.world.file = lampWorld.file := by simp [inputs]
  obtain ⟨_, fresh, notices, hfresh, hafter, _, _, _, _, htimed⟩ :=
    session_is_clockwork hload inputs hfile
  obtain ⟨rfl, -⟩ := Prod.ext_iff.1 (Except.ok.inj (hfresh.symm.trans create_lamp))
  have hwork : Clockwork.after lamp.graph lamp.stage lampWorld.clock inputs =
      ⟨⟨⟨⟨"dark"⟩, .waiting (5 * second), [], ⟨⟨"dark"⟩, [], []⟩, none⟩, []⟩,
        ⟨6 * second, 8 * second⟩⟩ := by
    decide +kernel
  have hdeed : Deed.ofLine ⟨6 * second, 8 * second⟩ " t 0.5" = .advance 500000000 := by
    decide +kernel
  simp only [hwork] at hafter htimed
  have hafter : after = _ := hafter
  rw [hafter]
  refine ⟨hload, hfile, rfl, hdeed, (htimed " t 0.5" _ hdeed).2 ?_⟩
  have hwait : Clockwork.Wait lamp.graph lamp.stage lampWorld.clock [] ⟨lampWorld, "tick"⟩
      (["T 1", "tick 2", "tick soon"].map (Input.mk lampWorld)) := by
    refine ⟨by decide +kernel, ⟨0, by decide +kernel⟩, fun earlier hearly => ?_⟩
    have hinits : ∀ earlier ∈ ["T 1", "tick 2", "tick soon"].inits,
        (Clockwork.after lamp.graph lamp.stage lampWorld.clock
          (("tick" :: earlier).map (Input.mk lampWorld))).Waits := by
      decide +kernel
    obtain ⟨lines, hlines, rfl⟩ := List.prefix_map_iff.1 hearly
    exact hinits lines ((List.mem_inits _ _).2 hlines)
  have hstate : lamp.graph.state? ⟨"dark"⟩ = some ⟨"Dark", ⟨"dark"⟩, none, false,
      some ⟨⟨"lit"⟩, .finite false 0x10000000000000 (-52)⟩, [], []⟩ := by
    decide +kernel
  exact ⟨[], _, _, _, _, rfl, hwait, hstate, rfl, by decide +kernel⟩

end Session

end SceneFlow
