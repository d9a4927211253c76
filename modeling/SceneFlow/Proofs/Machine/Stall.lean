import SceneFlow.Proofs.Machine.Course

/-!
Stalls. How long activations take shows in the ticks that wait for them and nowhere else. Leave
those ticks out of a run, let every activation be complete at once in what remains, and the
remaining moments look as before.

A stalled machine has begun what the other one begins at its next tick, so the two runs are related
by the machines that they have after the beginning of a tick, whenever that is.
-/

namespace SceneFlow

variable {graph : Graph} {machine : Machine} {now later : Nat} {ready unloading : Bool}
  {resource name : String}

namespace Machine

theorem begin_begin :
    (machine.begin graph now).1.begin graph later = ((machine.begin graph now).1, none) :=
  begin_of_not_entering begin_phase_ne_entering

theorem begin_of_activating (later : Nat)
    (h : (machine.begin graph now).1.phase = .activating resource unloading) :
    machine.begin graph later = machine.begin graph now := by
  revert h
  simp only [begin]
  split
  · split
    · intro _
      rfl
    · split
      · intro _
        rfl
      · intro h
        cases h
  · intro _
    rfl

theorem settled_of_activating
    (h : (machine.settled graph now ready).phase = .activating resource unloading) :
    machine.settled graph now ready = (machine.begin graph now).1 := by
  revert h
  simp only [settled, settle]
  split
  · split
    · intro h
      cases h
    · intro _
      rfl
  · intro _
    rfl

theorem tick_snd_eq_advance :
    (machine.tick graph now ready).2 = advance graph now ready (machine.begin graph now).1 := rfl

theorem tick_of_stalled (h : (machine.tick graph now ready).2.outcome = .activating) :
    (machine.tick graph now ready).2.machine = (machine.begin graph now).1 ∧
      ∃ resource unloading, (machine.begin graph now).1.phase = .activating resource unloading := by
  have htick := tick_ticked graph now ready machine
  generalize (machine.tick graph now ready).2 = step at htick h ⊢
  cases htick with
  | activating hphase =>
    have hsettled := settled_of_activating hphase
    exact ⟨hsettled, _, _, hsettled ▸ hphase⟩
  | lost _ _ => cases h
  | idle _ _ _ _ => cases h
  | timed _ _ _ _ _ => cases h
  | chosen _ _ _ _ _ _ _ => cases h

theorem tick_of_not_stalled (h : (machine.tick graph now ready).2.outcome ≠ .activating) :
    (machine.tick graph now ready).2 = (machine.tick graph now true).2 := by
  revert h
  simp only [tick_snd_eq_advance]
  cases hphase : (machine.begin graph now).1.phase with
  | entering => exact absurd hphase begin_phase_ne_entering
  | waiting since =>
    intro _
    simp only [advance, settle_of_waiting hphase]
  | activating resource unloading =>
    cases ready with
    | true =>
      intro _
      rfl
    | false =>
      intro h
      simp [advance, settle_of_activating hphase, hphase] at h

end Machine

def Reaction.outcome? : Reaction → Option Outcome
  | ticked _ outcome => some outcome
  | submitted _ => none

def Moment.isStalled (moment : Moment) : Bool := moment.reaction.outcome? = some .activating

/-- The same action, with whatever is to be loaded there at once. -/
def Action.prompt : Action → Action
  | tick now _ => tick now true
  | submit name => submit name

/-- What comes to light in a moment, with all calls made up to it if it is a tick. -/
inductive Sight
  | ticked (outcome : Outcome) (calls : List Call)
  | submitted (result : Except Failure Submission)

structure View where
  sight : Sight
  notices : List Notice
  history : List Name
  pending : List Name

def Moment.view (moment : Moment) : View where
  sight :=
    match moment.reaction with
    | .ticked _ outcome => .ticked outcome moment.after.calls
    | .submitted result => .submitted result
  notices := moment.notices
  history := moment.after.machine.history
  pending := moment.after.machine.mailbox.pending

namespace Course

structure Alike (graph : Graph) (slow prompt : Course) : Prop where
  machine : ∀ now, (slow.machine.begin graph now).1 = (prompt.machine.begin graph now).1
  calls : ∀ now, slow.calls ++ (slow.machine.begin graph now).2.toList =
    prompt.calls ++ (prompt.machine.begin graph now).2.toList

variable {slow prompt : Course}

theorem alike_refl (course : Course) : course.Alike graph course := ⟨fun _ => rfl, fun _ => rfl⟩

theorem alike_of_eq (hmachine : slow.machine = prompt.machine)
    (hcalls : slow.calls = prompt.calls) : slow.Alike graph prompt := by
  constructor
  · intro now
    rw [hmachine]
  · intro now
    rw [hmachine, hcalls]

theorem Alike.history (h : slow.Alike graph prompt) :
    slow.machine.history = prompt.machine.history := by
  simpa using congrArg Machine.history (h.machine 0)

theorem Alike.mailbox (h : slow.Alike graph prompt) :
    slow.machine.mailbox = prompt.machine.mailbox := by
  simpa using congrArg Machine.mailbox (h.machine 0)

theorem isStalled_tick {course : Course} :
    (course.react graph (.tick now ready)).isStalled ↔
      (course.machine.tick graph now ready).2.outcome = .activating := by
  simp [Moment.isStalled, react_tick, Reaction.outcome?]

theorem not_isStalled_submit {course : Course} :
    ¬ (course.react graph (.submit name)).isStalled := by
  cases hresult : course.machine.submit graph name with
  | error failure => simp [react_of_error hresult, Moment.isStalled, Reaction.outcome?]
  | ok receipt => simp [react_of_ok hresult, Moment.isStalled, Reaction.outcome?]

theorem Alike.stall (h : slow.Alike graph prompt) {action : Action}
    (hstalled : (slow.react graph action).isStalled) :
    (slow.react graph action).after.Alike graph prompt := by
  cases action with
  | submit name => exact absurd hstalled not_isStalled_submit
  | tick now ready =>
    obtain ⟨hmachine, resource, unloading, hphase⟩ :=
      Machine.tick_of_stalled (isStalled_tick.1 hstalled)
    rw [react_tick]
    constructor
    · intro later
      dsimp only
      rw [hmachine, Machine.begin_begin, ← h.machine later,
        Machine.begin_of_activating later hphase]
    · intro later
      dsimp only
      rw [hmachine, Machine.begin_begin, ← h.calls later, Machine.begin_of_activating later hphase]
      exact List.append_nil _

theorem Alike.tick (h : slow.Alike graph prompt) {now : Nat} {ready : Bool}
    (hstalled : ¬ (slow.react graph (.tick now ready)).isStalled) :
    (slow.react graph (.tick now ready)).view = (prompt.react graph (.tick now true)).view ∧
      (slow.react graph (.tick now ready)).after.Alike graph
        (prompt.react graph (.tick now true)).after := by
  have houtcome := mt isStalled_tick.2 hstalled
  have hstep : (slow.machine.tick graph now ready).2 = (prompt.machine.tick graph now true).2 := by
    rw [Machine.tick_of_not_stalled houtcome, Machine.tick_snd_eq_advance, h.machine now]
    rfl
  have hcalls : slow.calls ++ (slow.machine.tick graph now ready).1.toList =
      prompt.calls ++ (prompt.machine.tick graph now true).1.toList := h.calls now
  rw [react_tick, react_tick]
  constructor
  · simp only [Moment.view, hstep, hcalls]
  · exact alike_of_eq (congrArg Machine.Step.machine hstep) hcalls

theorem Alike.submit (h : slow.Alike graph prompt) (name : String) :
    (slow.react graph (.submit name)).view = (prompt.react graph (.submit name)).view ∧
      (slow.react graph (.submit name)).after.Alike graph
        (prompt.react graph (.submit name)).after := by
  have hsubmit := Machine.submit_of_mailbox_eq graph name h.mailbox.symm
  cases hslow : slow.machine.submit graph name with
  | error failure =>
    rw [hslow] at hsubmit
    rw [react_of_error hslow, react_of_error hsubmit]
    constructor
    · simp only [Moment.view, h.history, h.mailbox]
    · exact h
  | ok receipt =>
    rw [hslow] at hsubmit
    have hbegin := fun now =>
      Machine.begin_mailbox_update graph now prompt.machine receipt.machine.mailbox
    rw [react_of_ok hslow, react_of_ok hsubmit]
    constructor
    · simp only [Moment.view, Machine.submit_history hslow, h.history]
    · constructor
      · intro now
        rw [Machine.begin_of_submit hslow, hbegin, h.machine now]
      · intro now
        rw [Machine.begin_of_submit hslow, hbegin]
        exact h.calls now

theorem Alike.react (h : slow.Alike graph prompt) {action : Action}
    (hstalled : ¬ (slow.react graph action).isStalled) :
    (slow.react graph action).view = (prompt.react graph action.prompt).view ∧
      (slow.react graph action).after.Alike graph (prompt.react graph action.prompt).after := by
  cases action with
  | tick now ready => exact h.tick hstalled
  | submit name => exact h.submit name

theorem Alike.run (h : slow.Alike graph prompt) (actions : List Action) :
    let kept := (slow.run graph actions).filter (!·.isStalled)
    kept.map Moment.view = (prompt.run graph (kept.map (·.action.prompt))).map Moment.view := by
  -- A stalled tick moves the slow course alone, any other action moves both.
  induction actions generalizing slow prompt with
  | nil => rfl
  | cons action actions ih =>
    rw [Course.run]
    by_cases hstalled : (slow.react graph action).isStalled
    · rw [List.filter_cons_of_neg (by simp [hstalled])]
      exact ih (h.stall hstalled)
    · obtain ⟨hview, hafter⟩ := h.react hstalled
      rw [List.filter_cons_of_pos (by simp [hstalled])]
      simp only [List.map_cons, react_action, Course.run]
      rw [hview, ih hafter]

/-- A run looks as it would without the ticks that stall, if all activations were complete at once
instead. -/
theorem views_of_not_stalled (graph : Graph) (course : Course) (actions : List Action) :
    let kept := (course.run graph actions).filter (!·.isStalled)
    kept.map Moment.view = (course.run graph (kept.map (·.action.prompt))).map Moment.view :=
  (alike_refl course).run actions

example :
    ((start .inHouse).run .house [.submit "enter", .tick 0 false, .tick 1 false, .submit "leave",
      .tick 2 true]).map Moment.isStalled = [false, false, true, false, false] := by
  decide

end Course

end SceneFlow
