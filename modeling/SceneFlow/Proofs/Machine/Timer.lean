import Mathlib.Data.List.DropRight
import SceneFlow.Proofs.Machine.Mailbox

/-!
Timers. How long a state has waited is told by the visit alone: the wait begins at the first tick
of the visit that finds nothing to load or unload, or finds it done, and nothing later in the visit,
and nothing before it, changes this.
-/

namespace SceneFlow

variable {graph : Graph} {state : State} {machine : Machine} {now since : Nat} {ready called : Bool}
  {name : String} {resource : String} {unloading : Bool} {visit : List Moment} {moment : Moment}
  {course : Course}

def Outcome.IsTimed (outcome : Outcome) : Prop :=
  ∃ transition seconds, outcome = .transitioned transition ∧ transition.trigger = .timed seconds

namespace Moment

def call? (moment : Moment) : Option Call :=
  match moment.reaction with
  | .ticked call _ => call
  | .submitted _ => none

def leaves (moment : Moment) : Bool :=
  match moment.reaction with
  | .ticked _ outcome => outcome.target?.isSome
  | .submitted _ => false

end Moment

def currentVisit (moments : List Moment) : List Moment := moments.rtakeWhile (!·.leaves)

theorem currentVisit_concat (moments : List Moment) (moment : Moment) :
    currentVisit (moments ++ [moment]) =
      if moment.leaves then [] else currentVisit moments ++ [moment] := by
  rw [currentVisit, List.rtakeWhile_concat]
  cases moment.leaves with
  | false => rfl
  | true => rfl

/-- When the wait of a visit began: the clock of the first tick up to which no call had to be made,
or at which the call made was complete. -/
def waitStart? (called : Bool) : List Moment → Option Nat
  | [] => none
  | moment :: rest =>
    let called := called || moment.call?.isSome
    match moment.action with
    | .tick now ready => if ready || !called then some now else waitStart? called rest
    | .submit _ => waitStart? called rest

theorem waitStart?_append (called : Bool) (visit later : List Moment) :
    waitStart? called (visit ++ later) =
      (waitStart? called visit).or (waitStart? (called || visit.any (·.call?.isSome)) later) := by
  induction visit generalizing called with
  | nil => simp [waitStart?]
  | cons moment visit ih =>
    simp only [List.cons_append, waitStart?, List.any_cons, ← Bool.or_assoc]
    split
    · split
      · rfl
      · exact ih _
    · exact ih _

def Phase.Knows (visit : List Moment) : Phase → Prop
  | entering => waitStart? false visit = none ∧ visit.any (·.call?.isSome) = false
  | activating _ _ => waitStart? false visit = none ∧ visit.any (·.call?.isSome) = true
  | waiting since => waitStart? false visit = some since

namespace Machine

theorem begin_of_entering (now : Nat) (h : machine.phase = .entering) :
    ((machine.begin graph now).2.isSome ∧ ∃ resource unloading,
        (machine.begin graph now).1.phase = .activating resource unloading) ∨
      (machine.begin graph now).2 = none ∧ (machine.begin graph now).1.phase = .waiting now := by
  simp only [begin, h]
  split
  · exact .inl ⟨rfl, _, _, rfl⟩
  · split
    · exact .inl ⟨rfl, _, _, rfl⟩
    · exact .inr ⟨rfl, rfl⟩

theorem settled_phase_of_waiting (h : (machine.begin graph now).1.phase = .waiting since) :
    (machine.settled graph now ready).phase = .waiting since := by
  rw [settled, settle_of_waiting h, h]

theorem settled_phase_of_activating
    (h : (machine.begin graph now).1.phase = .activating resource unloading) :
    (machine.settled graph now ready).phase =
      if ready then .waiting now else .activating resource unloading := by
  simp only [settled, settle, h]
  split
  · rfl
  · exact h

theorem isTimed_tick_iff :
    (machine.tick graph now ready).2.outcome.IsTimed ↔
      ∃ since state, (machine.settled graph now ready).phase = .waiting since ∧
        machine.currentState? graph = some state ∧ state.Due now since := by
  constructor
  · rintro ⟨transition, seconds, houtcome, htrigger⟩
    have htick := tick_ticked graph now ready machine
    generalize (machine.tick graph now ready).2 = step at htick houtcome
    cases htick with
    | activating _ => cases houtcome
    | lost _ _ => cases houtcome
    | idle _ _ _ _ => cases houtcome
    | timed hphase hstate htimed hdelay _ => exact ⟨_, _, hphase, hstate, _, htimed, hdelay⟩
    | chosen _ _ _ _ _ hevent hfired =>
      cases houtcome
      rw [hfired, fire_transition] at htrigger
      cases State.choose?_eq_some hevent with
      | inl hnamed =>
        obtain ⟨_, _, rfl⟩ := hnamed
        cases htrigger
      | inr hback =>
        obtain ⟨_, _, _, _, rfl⟩ := hback
        cases htrigger
  · rintro ⟨since, state, hphase, hstate, timed, htimed, hdelay⟩
    rw [tick_of_waiting hphase, poll_of_due (settled_currentState?.trans hstate) htimed hdelay]
    exact ⟨_, _, rfl, rfl⟩

theorem phase_tick_of_target? (h : (machine.tick graph now ready).2.outcome.target?.isSome) :
    (machine.tick graph now ready).2.machine.phase = .entering := by
  have htick := tick_ticked graph now ready machine
  generalize (machine.tick graph now ready).2 = step at htick h ⊢
  cases htick with
  | activating _ => cases h
  | lost _ _ => cases h
  | idle _ _ _ _ => cases h
  | timed _ _ _ _ hfired =>
    rw [hfired]
    rfl
  | chosen _ _ _ _ _ _ hfired =>
    rw [hfired]
    rfl

theorem phase_tick_of_not_target?
    (h : (machine.tick graph now ready).2.outcome.target?.isSome = false) :
    (machine.tick graph now ready).2.machine.phase = (machine.settled graph now ready).phase := by
  have htick := tick_ticked graph now ready machine
  generalize (machine.tick graph now ready).2 = step at htick h ⊢
  cases htick with
  | activating _ => rfl
  | lost _ _ => rfl
  | idle _ _ _ _ => rfl
  | timed _ _ _ _ _ => cases h
  | chosen _ _ _ _ _ _ _ => cases h

end Machine

namespace Phase

theorem Knows.submit {phase : Phase} (h : phase.Knows visit)
    (haction : moment.action = .submit name) (hcall : moment.call? = none) :
    phase.Knows (visit ++ [moment]) := by
  have hwait : waitStart? false (visit ++ [moment]) = waitStart? false visit := by
    simp [waitStart?_append, waitStart?, haction]
  have hcalls : (visit ++ [moment]).any (·.call?.isSome) = visit.any (·.call?.isSome) := by
    simp [hcall]
  cases phase with
  | entering => exact ⟨hwait.trans h.1, hcalls.trans h.2⟩
  | activating resource unloading => exact ⟨hwait.trans h.1, hcalls.trans h.2⟩
  | waiting since => exact hwait.trans h

theorem Knows.settled (h : machine.phase.Knows visit) (haction : moment.action = .tick now ready)
    (hcall : moment.call? = (machine.begin graph now).2) :
    (machine.settled graph now ready).phase.Knows (visit ++ [moment]) := by
  have hwait : ∀ called, waitStart? called [moment] =
      if ready || !(called || moment.call?.isSome) then some now else none := by
    intro called
    simp [waitStart?, haction]
  cases hphase : machine.phase with
  | waiting since =>
    rw [hphase] at h
    have hbegin : machine.begin graph now = (machine, none) :=
      Machine.begin_of_not_entering (by simp [hphase])
    have hsettled : (machine.settled graph now ready).phase = .waiting since :=
      Machine.settled_phase_of_waiting (by rw [hbegin, hphase])
    rw [hsettled, Knows, waitStart?_append, h]
    rfl
  | activating resource unloading =>
    rw [hphase] at h
    have hbegin : machine.begin graph now = (machine, none) :=
      Machine.begin_of_not_entering (by simp [hphase])
    rw [hbegin] at hcall
    rw [Machine.settled_phase_of_activating (by rw [hbegin, hphase])]
    cases ready with
    | true => simp [Knows, waitStart?_append, h.1, hwait]
    | false => simp [Knows, waitStart?_append, h.1, h.2, hwait]
  | entering =>
    rw [hphase] at h
    cases Machine.begin_of_entering now hphase with
    | inl hactivating =>
      obtain ⟨hsome, resource, unloading, hbegin⟩ := hactivating
      rw [← hcall] at hsome
      rw [Machine.settled_phase_of_activating hbegin]
      cases ready with
      | true => simp [Knows, waitStart?_append, h.1, hwait]
      | false => simp [Knows, waitStart?_append, h.1, h.2, hwait, hsome]
    | inr hwaiting =>
      obtain ⟨hnone, hbegin⟩ := hwaiting
      rw [← hcall] at hnone
      rw [Machine.settled_phase_of_waiting hbegin, Knows, waitStart?_append, h.1, h.2, hwait, hnone]
      simp

theorem Knows.waitStart?_eq_none {phase : Phase} (h : phase.Knows visit)
    (hphase : ∀ since, phase ≠ .waiting since) : waitStart? false visit = none := by
  cases phase with
  | entering => exact h.1
  | activating resource unloading => exact h.1
  | waiting since => exact absurd rfl (hphase since)

theorem Knows.eq_now (h : machine.phase.Knows visit)
    (hphase : ∀ earlier, machine.phase ≠ .waiting earlier)
    (hsettled : (machine.settled graph now ready).phase = .waiting since) : since = now := by
  have hknows : (machine.settled graph now ready).phase.Knows
      (visit ++ [(Course.start machine).react graph (.tick now ready)]) := h.settled rfl rfl
  rw [hsettled, Knows, waitStart?_append, h.waitStart?_eq_none hphase, Option.none_or] at hknows
  simp only [waitStart?, Course.react_action] at hknows
  split at hknows
  · exact (Option.some.inj hknows).symm
  · cases hknows

theorem Knows.due_iff (h : machine.phase.Knows visit) :
    (∃ since, (machine.settled graph now ready).phase = .waiting since ∧ state.Due now since) ↔
      ∃ since, waitStart? false visit = some since ∧ state.Due now since := by
  by_cases hphase : ∃ earlier, machine.phase = .waiting earlier
  · obtain ⟨earlier, hphase⟩ := hphase
    have hbegin : machine.begin graph now = (machine, none) :=
      Machine.begin_of_not_entering (by simp [hphase])
    have hsettled : (machine.settled graph now ready).phase = .waiting earlier :=
      Machine.settled_phase_of_waiting (by rw [hbegin, hphase])
    rw [hphase] at h
    have hwait : waitStart? false visit = some earlier := h
    simp [hsettled, hwait]
  · rw [not_exists] at hphase
    constructor
    · rintro ⟨since, hsettled, timed, _, hdelay⟩
      rw [h.eq_now hphase hsettled, Nat.sub_self] at hdelay
      exact absurd hdelay (Nat.not_lt_zero _)
    · rintro ⟨since, hwait, _⟩
      rw [h.waitStart?_eq_none hphase] at hwait
      cases hwait

end Phase

namespace Course

theorem run_append (graph : Graph) (actions more : List Action) (course : Course) :
    course.run graph (actions ++ more) =
      course.run graph actions ++ (course.finish graph actions).run graph more := by
  induction actions generalizing course with
  | nil => rfl
  | cons action actions ih => simp only [List.cons_append, run, finish, ih]

theorem finish_append (graph : Graph) (actions more : List Action) (course : Course) :
    course.finish graph (actions ++ more) = (course.finish graph actions).finish graph more := by
  induction actions generalizing course with
  | nil => rfl
  | cons action actions ih => exact ih _

theorem run_concat (graph : Graph) (actions : List Action) (action : Action) (course : Course) :
    course.run graph (actions ++ [action]) =
      course.run graph actions ++ [(course.finish graph actions).react graph action] :=
  run_append graph actions [action] course

theorem finish_concat (graph : Graph) (actions : List Action) (action : Action) (course : Course) :
    course.finish graph (actions ++ [action]) =
      ((course.finish graph actions).react graph action).after :=
  finish_append graph actions [action] course

theorem knows_react (action : Action) (h : course.machine.phase.Knows visit) :
    let moment := course.react graph action
    moment.after.machine.phase.Knows (if moment.leaves then [] else visit ++ [moment]) := by
  cases action with
  | submit name =>
    cases hresult : course.machine.submit graph name with
    | error failure =>
      rw [react_of_error hresult]
      exact h.submit rfl rfl
    | ok receipt =>
      rw [react_of_ok hresult]
      have hphase : receipt.machine.phase = course.machine.phase := by
        rw [Machine.submit_machine hresult]
      dsimp only
      rw [hphase]
      exact h.submit rfl rfl
  | tick now ready =>
    have hsettled : (course.machine.settled graph now ready).phase.Knows
        (visit ++ [course.react graph (.tick now ready)]) := h.settled rfl rfl
    intro moment
    have hafter : moment.after.machine = (course.machine.tick graph now ready).2.machine := rfl
    have hleaves : moment.leaves = (course.machine.tick graph now ready).2.outcome.target?.isSome :=
      rfl
    rw [hafter, hleaves]
    split
    · next hleaves =>
      rw [Machine.phase_tick_of_target? hleaves]
      exact ⟨rfl, rfl⟩
    · next hstays =>
      rw [Machine.phase_tick_of_not_target? (Bool.eq_false_iff.2 hstays)]
      exact hsettled

theorem knows_run (h : Machine.create graph = .ok machine) (actions : List Action) :
    ((start machine).finish graph actions).machine.phase.Knows
      (currentVisit ((start machine).run graph actions)) := by
  -- The induction takes the latest action off, for it decides whether the visit goes on.
  induction actions using List.reverseRecOn with
  | nil =>
    obtain ⟨_, state, _, rfl⟩ := Machine.create_eq_ok h
    exact ⟨rfl, rfl⟩
  | append_singleton actions action ih =>
    rw [run_concat, finish_concat, currentVisit_concat]
    exact knows_react action ih

/-- A tick makes a timed transition exactly if the current state has one, the wait of this visit
began at an earlier tick, and the time since then exceeds the delay. A clock that reads less than it
did when the wait began counts as no time. -/
theorem timed_iff_waited_longer (h : Machine.create graph = .ok machine) (actions : List Action)
    (now : Nat) (ready : Bool) :
    let course := (start machine).finish graph actions
    let visit := currentVisit ((start machine).run graph actions)
    (course.machine.tick graph now ready).2.outcome.IsTimed ↔
      ∃ state timed since, graph.state? course.machine.current = some state ∧
        state.timed = some timed ∧ waitStart? false visit = some since ∧
        timed.delay < now - since := by
  intro course visit
  have hknows : course.machine.phase.Knows visit := knows_run h actions
  rw [Machine.isTimed_tick_iff]
  constructor
  · rintro ⟨since, state, hphase, hstate, hdue⟩
    obtain ⟨began, hwait, timed, htimed, hdelay⟩ := hknows.due_iff.1 ⟨since, hphase, hdue⟩
    exact ⟨state, timed, began, hstate, htimed, hwait, hdelay⟩
  · rintro ⟨state, timed, began, hstate, htimed, hwait, hdelay⟩
    obtain ⟨since, hphase, hdue⟩ := hknows.due_iff.2 ⟨began, hwait, timed, htimed, hdelay⟩
    exact ⟨since, state, hphase, hstate, hdue⟩

end Course

def Graph.lighthouse : Graph where
  states := [⟨"Lit", ⟨"lit"⟩, some "Lamp", false, some ⟨⟨"dark"⟩, .finite false 1 1⟩, [], []⟩,
    ⟨"Dark", ⟨"dark"⟩, none, false, none, [], []⟩]
  events := []
  start := some ⟨"lit"⟩
  error := none
  flags := .none
  checksum := ""
  errors := 0

theorem Course.timed_iff_waited_longer_lighthouse :
    ∃ machine, Machine.create .lighthouse = .ok machine ∧
      let actions : List Action := [.tick 5 false, .tick 10 true, .tick 3 true]
      let course := (start machine).finish .lighthouse actions
      waitStart? false (currentVisit ((start machine).run .lighthouse actions)) = some 10 ∧
        (course.machine.tick .lighthouse (10 + 2 * second + 1) true).2.outcome.IsTimed ∧
        ¬ (course.machine.tick .lighthouse (10 + 2 * second) true).2.outcome.IsTimed := by
  have hcreate : Machine.create .lighthouse =
      .ok ⟨⟨"lit"⟩, .entering, [], ⟨⟨"lit"⟩, [], []⟩, none⟩ := rfl
  refine ⟨_, hcreate, ?_⟩
  intro actions course
  have hwait : waitStart? false
      (currentVisit ((start ⟨⟨"lit"⟩, .entering, [], ⟨⟨"lit"⟩, [], []⟩, none⟩).run .lighthouse
        actions)) = some 10 := rfl
  have hiff := timed_iff_waited_longer hcreate actions
  refine ⟨hwait, ?_, ?_⟩
  · exact (hiff _ true).2 ⟨_, _, 10, rfl, rfl, hwait, by decide⟩
  · intro htimed
    obtain ⟨state, timed, since, hstate, htimed, hsince, hdelay⟩ := (hiff _ true).1 htimed
    obtain rfl : since = 10 := Option.some.inj (hsince.symm.trans hwait)
    cases hstate
    cases htimed
    revert hdelay
    decide

end SceneFlow
