import SceneFlow.Proofs.Machine.Conservation
import SceneFlow.Proofs.Machine.History
import SceneFlow.Runner

/-!
Accounts. The counters of a runner, the queue and the history of its machine, and its channel are
written to at different places. At any time, and whatever has been asked of the runner in which
order, they tell the same of what has happened since the runner was put around its machine.
-/

namespace SceneFlow

variable {graph : Graph} {machine : Machine} {now : Nat} {ready : Bool} {name : String}

namespace Machine

theorem length_history_tick_le (graph : Graph) (now : Nat) (ready : Bool) (machine : Machine) :
    let step := (machine.tick graph now ready).2
    step.machine.history.length ≤
      machine.history.length + step.outcome.transition?.toList.length := by
  intro step
  cases htransition : step.outcome.transition? with
  | none => exact (congrArg List.length (history_of_no_transition htransition)).le
  | some transition => exact (rewrites_of_tick htransition).2.length_le

theorem pending_of_submit {receipt : Receipt} (h : machine.submit graph name = .ok receipt) :
    receipt.machine.mailbox.pending.length =
      machine.mailbox.pending.length + if receipt.submission = .accepted then 1 else 0 := by
  cases hevent : graph.event? (.of name) with
  | none =>
    rw [submit_of_unknown hevent] at h
    cases h
  | some event =>
    by_cases haccepted : .of name ∈ machine.mailbox.accepted
    · rw [submit_of_accepted hevent haccepted] at h
      cases h
      simp
    · rw [submit_of_dropped hevent haccepted] at h
      cases h
      simp

end Machine

namespace Runner

variable {σ κ : Type}

inductive Operation (σ : Type)
  | submit (event : String)
  | tick
  | shutdown
  | subscribe
  | snapshot
  /-- Time passes between two calls, and the resources come to what they do. -/
  | elapse (clock : Nat) (resources : σ)

def Operation.isTick : Operation σ → Bool
  | tick => true
  | _ => false

inductive Answer
  | submitted (result : Except RunnerFailure Submission)
  | ticked (outcome : Outcome)
  | subscribed (receiver : Nat)
  | observed (snapshot : Snapshot)
  | done
  deriving DecidableEq

structure Turn (σ : Type) where
  operation : Operation σ
  answer : Answer
  strayed : List Name

namespace Turn

def transition? (turn : Turn σ) : Option Transition :=
  match turn.answer with
  | .ticked outcome => outcome.transition?
  | _ => none

def post (broadcast : Broadcast κ) (turn : Turn σ) (channel : κ) : κ :=
  match turn.answer with
  | .ticked outcome => outcome.transition?.elim channel (broadcast.send · channel)
  | .subscribed _ => (broadcast.subscribe channel).2
  | _ => channel

end Turn

def called (runner : Runner σ κ) : σ :=
  (runner.machine.begin runner.graph runner.clock).2.elim runner.resources fun call =>
    runner.loader.perform runner.clock call runner.resources

def step (runner : Runner σ κ) : Machine.Step :=
  (runner.machine.tick runner.graph runner.clock
    (runner.loader.isComplete runner.clock runner.called)).2

def serve (operation : Operation σ) (runner : Runner σ κ) : Turn σ × Runner σ κ :=
  match operation with
  | .submit event =>
    match runner.submit event with
    | .error failure => (⟨operation, .submitted (.error failure), []⟩, runner)
    | .ok (submission, after, _) => (⟨operation, .submitted (.ok submission), []⟩, after)
  | .tick =>
    let (outcome, after, _) := runner.tick
    (⟨operation, .ticked outcome, runner.step.notices.filterMap Notice.strayed?⟩, after)
  | .shutdown => (⟨operation, .done, []⟩, runner.shutdown)
  | .subscribe =>
    let (receiver, after) := runner.subscribe
    (⟨operation, .subscribed receiver, []⟩, after)
  | .snapshot => (⟨operation, .observed runner.snapshot, []⟩, runner)
  | .elapse clock resources => (⟨operation, .done, []⟩, { runner with clock, resources })

def turns : List (Operation σ) → Runner σ κ → List (Turn σ)
  | [], _ => []
  | operation :: operations, runner =>
    let (turn, after) := runner.serve operation
    turn :: after.turns operations

def finish : List (Operation σ) → Runner σ κ → Runner σ κ
  | [], runner => runner
  | operation :: operations, runner => (runner.serve operation).2.finish operations

variable {config : Config} {runner : Runner σ κ} {log : List LogLine} {operation : Operation σ}
  {operations earlier later : List (Operation σ)} {past : List (Turn σ)} {before : Machine}

theorem create_eq_ok {broadcast : Broadcast κ} {runner : Runner Simulation κ}
    (h : create graph broadcast config = .ok (runner, log)) :
    ∃ machine, Machine.create graph = .ok machine ∧
      runner = new graph machine Simulation.loader
        (.create (config.activationLatency * millisecond)) 0 broadcast config := by
  rw [create] at h
  split at h
  · cases h
  · next machine notices hmake =>
    cases h
    refine ⟨machine, ?_, rfl⟩
    rw [Machine.create, hmake]
    rfl

theorem serve_tick (runner : Runner σ κ) :
    runner.serve .tick =
      (⟨.tick, .ticked runner.step.outcome, runner.step.notices.filterMap Notice.strayed?⟩,
        publish runner.step.outcome
          { runner with machine := runner.step.machine, resources := runner.called }) := rfl

theorem serve_submit_of_shuttingDown (h : runner.shuttingDown) (event : String) :
    runner.serve (.submit event) =
      (⟨.submit event, .submitted (.error .shuttingDown), []⟩, runner) := by
  simp [serve, submit, h]

theorem serve_submit_of_error {failure : Failure} (h : ¬ runner.shuttingDown)
    (hsubmit : runner.machine.submit runner.graph name = .error failure) :
    runner.serve (.submit name) =
      (⟨.submit name, .submitted (.error (.failure failure)), []⟩, runner) := by
  simp [serve, submit, send, h, hsubmit]

theorem serve_submit_of_ok {receipt : Machine.Receipt} (h : ¬ runner.shuttingDown)
    (hsubmit : runner.machine.submit runner.graph name = .ok receipt) :
    runner.serve (.submit name) =
      (⟨.submit name, .submitted (.ok receipt.submission), []⟩,
        { runner with
          machine := receipt.machine
          counters := countSubmission runner.counters receipt.submission }) := by
  simp [serve, submit, send, h, hsubmit]

theorem length_pending_step (h : runner.machine.Agrees runner.graph) :
    runner.machine.mailbox.pending.length =
      (runner.step.notices.filterMap Notice.strayed?).length + runner.step.outcome.events.length
        + runner.step.machine.mailbox.pending.length := by
  obtain ⟨hpending, _⟩ :=
    Machine.pending_tick runner.clock
      (runner.loader.isComplete runner.clock runner.called) h
  rw [← List.length_append, ← List.length_append]
  exact congrArg List.length hpending

theorem length_history_step_le (runner : Runner σ κ) :
    runner.step.machine.history.length ≤
      runner.machine.history.length + runner.step.outcome.transition?.toList.length :=
  Machine.length_history_tick_le runner.graph runner.clock _ runner.machine

theorem countSubmission_eq (counters : Counters) (submission : Submission) :
    countSubmission counters submission =
      { counters with
        accepted := counters.accepted + if submission = .accepted then 1 else 0
        dropped := counters.dropped + if submission = .dropped then 1 else 0 } := by
  cases submission <;> rfl

section Publish

variable (outcome : Outcome) (runner : Runner σ κ)

@[simp] theorem publish_graph : (runner.publish outcome).graph = runner.graph := by
  cases outcome <;> rfl

@[simp] theorem publish_machine : (runner.publish outcome).machine = runner.machine := by
  cases outcome <;> rfl

@[simp] theorem publish_shuttingDown :
    (runner.publish outcome).shuttingDown = runner.shuttingDown := by
  cases outcome <;> rfl

@[simp] theorem publish_channel :
    (runner.publish outcome).channel =
      outcome.transition?.elim runner.channel (runner.broadcast.send · runner.channel) := by
  cases outcome <;> rfl

@[simp] theorem publish_broadcast : (runner.publish outcome).broadcast = runner.broadcast := by
  cases outcome <;> rfl

@[simp] theorem publish_counters :
    (runner.publish outcome).counters =
      { runner.counters with
        ticks := runner.counters.ticks + 1
        transitions := runner.counters.transitions + outcome.transition?.toList.length } := by
  cases outcome <;> rfl

end Publish

/-- How many events have been taken off the queue: those that made transitions, those thrown away
with a transition, and those that strayed. -/
def spent (turns : List (Turn σ)) : Nat :=
  let transitions := turns.filterMap Turn.transition?
  (transitions.filterMap (·.trigger.event?)).length + (transitions.flatMap (·.discarded)).length
    + (turns.flatMap Turn.strayed).length

theorem spent_concat (turns : List (Turn σ)) (turn : Turn σ) :
    spent (turns ++ [turn]) =
      spent turns + (turn.transition?.elim [] fun transition =>
        transition.trigger.event?.toList ++ transition.discarded).length + turn.strayed.length := by
  cases htransition : turn.transition? with
  | none => simp [spent, htransition]; omega
  | some transition =>
    cases hevent : transition.trigger.event? <;>
      simp [spent, htransition, hevent] <;> omega

/-- The books of a runner agree with what has been asked of it so far, and with the machine that it
was put around. -/
structure Balances (before : Machine) (past : List (Turn σ)) (runner : Runner σ κ) : Prop where
  agrees : runner.machine.Agrees runner.graph
  ticks : runner.counters.ticks = (past.map Turn.operation).countP Operation.isTick
  transitions : runner.counters.transitions = (past.filterMap Turn.transition?).length
  accepted : runner.counters.accepted = (past.map Turn.answer).count (.submitted (.ok .accepted))
  dropped : runner.counters.dropped = (past.map Turn.answer).count (.submitted (.ok .dropped))
  pending : runner.counters.accepted + before.mailbox.pending.length =
    spent past + runner.machine.mailbox.pending.length
  history : runner.machine.history.length ≤ before.history.length + runner.counters.transitions
  bounded : runner.counters.transitions ≤ runner.counters.ticks
  calls : runner.counters.ticks + runner.counters.accepted + runner.counters.dropped ≤ past.length

namespace Balances

theorem quiet {after : Runner σ κ} {turn : Turn σ} (h : runner.Balances before past)
    (hgraph : after.graph = runner.graph) (hmachine : after.machine = runner.machine)
    (hcounters : after.counters = runner.counters)
    (hoperation : turn.operation.isTick = false)
    (hanswer : ∀ submission, turn.answer ≠ .submitted (.ok submission))
    (htransition : turn.transition? = none) (hstrayed : turn.strayed = []) :
    after.Balances before (past ++ [turn]) := by
  obtain ⟨hagrees, hticks, htransitions, haccepted, hdropped, hpending, hhistory, hbounded,
    hcalls⟩ := h
  constructor
  case agrees => rwa [hgraph, hmachine]
  case ticks => simp [hcounters, hticks, hoperation]
  case transitions => simp [hcounters, htransitions, htransition]
  case accepted => simp [hcounters, haccepted, hanswer]
  case dropped => simp [hcounters, hdropped, hanswer]
  case pending => simp [hcounters, hmachine, hpending, spent_concat, htransition, hstrayed]
  case history => rwa [hmachine, hcounters]
  case bounded => rwa [hcounters]
  case calls =>
    rw [hcounters, List.length_append]
    omega

theorem tick (h : runner.Balances before past) :
    (runner.serve .tick).2.Balances before (past ++ [(runner.serve .tick).1]) := by
  have hagrees : runner.step.machine.Agrees runner.graph := Machine.tick_agrees h.agrees
  have hpending := length_pending_step h.agrees
  have hhistory := length_history_step_le runner
  obtain ⟨_, hticks, htransitions, haccepted, hdropped, hspent, hlength, hbounded, hcalls⟩ := h
  rw [serve_tick]
  constructor
  case agrees => simpa using hagrees
  case ticks => simp [hticks, Operation.isTick]
  case transitions =>
    simp only [publish_counters, htransitions, List.filterMap_append, List.length_append]
    cases houtcome : runner.step.outcome.transition? <;> simp [Turn.transition?, houtcome]
  case accepted => simp [haccepted]
  case dropped => simp [hdropped]
  case pending =>
    have hevents : runner.step.outcome.events =
        runner.step.outcome.transition?.elim [] fun transition =>
          transition.trigger.event?.toList ++ transition.discarded := by
      cases runner.step.outcome <;> rfl
    simp only [publish_counters, publish_machine, spent_concat, Turn.transition?, ← hevents]
    omega
  case history =>
    simp only [publish_counters, publish_machine]
    omega
  case bounded =>
    have hone : runner.step.outcome.transition?.toList.length ≤ 1 := by
      cases runner.step.outcome.transition? <;> simp
    simp only [publish_counters]
    omega
  case calls =>
    simp only [publish_counters, List.length_append, List.length_singleton]
    omega

theorem submit (h : runner.Balances before past) (event : String) :
    (runner.serve (.submit event)).2.Balances before
      (past ++ [(runner.serve (.submit event)).1]) := by
  by_cases hdown : runner.shuttingDown
  · rw [serve_submit_of_shuttingDown hdown]
    exact h.quiet rfl rfl rfl rfl (by simp) rfl rfl
  cases hsubmit : runner.machine.submit runner.graph event with
  | error failure =>
    rw [serve_submit_of_error hdown hsubmit]
    exact h.quiet rfl rfl rfl rfl (by simp) rfl rfl
  | ok receipt =>
    have hagrees := Machine.submit_agrees h.agrees hsubmit
    have hqueued := Machine.pending_of_submit hsubmit
    have hhistory := Machine.submit_history hsubmit
    obtain ⟨_, hticks, htransitions, haccepted, hdropped, hspent, hlength, hbounded, hcalls⟩ := h
    rw [serve_submit_of_ok hdown hsubmit]
    constructor
    case agrees => exact hagrees
    case ticks => simp [countSubmission_eq, hticks, Operation.isTick]
    case transitions => simp [countSubmission_eq, htransitions, Turn.transition?]
    case accepted => simp [countSubmission_eq, haccepted, List.count_singleton]
    case dropped => simp [countSubmission_eq, hdropped, List.count_singleton]
    case pending =>
      simp only [countSubmission_eq, spent_concat, hqueued, Turn.transition?,
        Option.elim_none, List.length_nil]
      omega
    case history => simpa [countSubmission_eq, hhistory] using hlength
    case bounded => simpa [countSubmission_eq] using hbounded
    case calls =>
      simp only [countSubmission_eq, List.length_append, List.length_singleton]
      cases receipt.submission <;> simp <;> omega

theorem serve (h : runner.Balances before past) (operation : Operation σ) :
    (runner.serve operation).2.Balances before (past ++ [(runner.serve operation).1]) := by
  cases operation with
  | submit event => exact h.submit event
  | tick => exact h.tick
  | shutdown => exact h.quiet rfl rfl rfl rfl (by simp [Runner.serve]) rfl rfl
  | subscribe => exact h.quiet rfl rfl rfl rfl (by simp [Runner.serve]) rfl rfl
  | snapshot => exact h.quiet rfl rfl rfl rfl (by simp [Runner.serve]) rfl rfl
  | elapse clock resources =>
    exact h.quiet rfl rfl rfl rfl (by simp [Runner.serve]) rfl rfl

theorem finish (h : runner.Balances before past) (operations : List (Operation σ)) :
    (runner.finish operations).Balances before (past ++ runner.turns operations) := by
  induction operations generalizing runner past with
  | nil => simpa [turns, Runner.finish] using h
  | cons operation operations ih => simpa [turns, Runner.finish] using ih (h.serve operation)

end Balances

theorem balances_new (h : machine.Agrees graph) (loader : Loader σ) (resources : σ) (clock : Nat)
    (broadcast : Broadcast κ) (config : Config) :
    (new graph machine loader resources clock broadcast config).Balances machine [] :=
  ⟨h, rfl, rfl, rfl, rfl, by simp [new, spent], le_rfl, le_rfl, le_rfl⟩

theorem channel_serve (operation : Operation σ) (runner : Runner σ κ) :
    (runner.serve operation).2.broadcast = runner.broadcast ∧
      (runner.serve operation).2.channel =
        (runner.serve operation).1.post runner.broadcast runner.channel := by
  cases operation with
  | tick =>
    rw [serve_tick, publish_channel, publish_broadcast]
    exact ⟨rfl, rfl⟩
  | submit event =>
    by_cases hdown : runner.shuttingDown
    · rw [serve_submit_of_shuttingDown hdown]
      exact ⟨rfl, rfl⟩
    · cases hsubmit : runner.machine.submit runner.graph event with
      | error failure =>
        rw [serve_submit_of_error hdown hsubmit]
        exact ⟨rfl, rfl⟩
      | ok receipt =>
        rw [serve_submit_of_ok hdown hsubmit]
        exact ⟨rfl, rfl⟩
  | _ => exact ⟨rfl, rfl⟩

theorem channel_finish (operations : List (Operation σ)) (runner : Runner σ κ) :
    (runner.finish operations).channel =
      (runner.turns operations).foldl (fun channel turn => turn.post runner.broadcast channel)
        runner.channel := by
  induction operations generalizing runner with
  | nil => rfl
  | cons operation operations ih =>
    obtain ⟨hbroadcast, hchannel⟩ := channel_serve operation runner
    rw [finish, ih, hbroadcast, hchannel, turns, List.foldl_cons]

theorem finish_append (earlier later : List (Operation σ)) (runner : Runner σ κ) :
    runner.finish (earlier ++ later) = (runner.finish earlier).finish later := by
  induction earlier generalizing runner with
  | nil => rfl
  | cons operation earlier ih => exact ih _

theorem ticks_eq_finish (count : Nat) (runner : Runner σ κ) :
    (ticks count runner).1 = runner.finish (.replicate count .tick) := by
  induction count generalizing runner with
  | zero => rfl
  | succ count ih => exact ih _

theorem run_eq_finish (duration : Nat) (runner : Runner σ κ) :
    let count := if runner.shuttingDown then 0 else ticksWithin duration runner.interval
    (runner.run duration).1 = runner.finish (.replicate count .tick ++ [.shutdown]) := by
  intro count
  rw [finish_append, ← ticks_eq_finish]
  rfl

theorem operation_serve (operation : Operation σ) (runner : Runner σ κ) :
    (runner.serve operation).1.operation = operation := by
  cases operation with
  | submit event =>
    rw [serve]
    split <;> rfl
  | _ => rfl

theorem map_operation_turns (operations : List (Operation σ)) (runner : Runner σ κ) :
    (runner.turns operations).map Turn.operation = operations := by
  induction operations generalizing runner with
  | nil => rfl
  | cons operation operations ih => rw [turns, List.map_cons, ih, operation_serve]

theorem shuttingDown_serve (h : runner.shuttingDown) (operation : Operation σ) :
    (runner.serve operation).2.shuttingDown := by
  cases operation with
  | submit event => rwa [serve_submit_of_shuttingDown h]
  | tick => simpa [serve_tick] using h
  | shutdown => rfl
  | _ => exact h

theorem shuttingDown_finish (h : runner.shuttingDown) (operations : List (Operation σ)) :
    (runner.finish operations).shuttingDown := by
  induction operations generalizing runner with
  | nil => exact h
  | cons operation operations ih => exact ih (shuttingDown_serve h operation)

theorem shuttingDown_of_mem (h : .shutdown ∈ operations) (runner : Runner σ κ) :
    (runner.finish operations).shuttingDown := by
  obtain ⟨earlier, later, rfl⟩ := List.append_of_mem h
  rw [finish_append]
  exact shuttingDown_finish rfl later

/-- The counters of a runner agree with what has been asked of it and with what its machine holds:
each event that was pending before or has been accepted is one that made a transition, was thrown
away with one, strayed, or is still pending. The channel is sent the transitions, in their order.
After a shutdown no event comes in. The machine may have been used before, and where it was just
made the accounts begin with nothing. -/
theorem counters_balance {course : Course} (hcourse : course.Reachable graph) (loader : Loader σ)
    (resources : σ) (clock : Nat) (broadcast : Broadcast κ) (config : Config)
    (operations : List (Operation σ)) :
    let before := course.machine
    let runner := new graph before loader resources clock broadcast config
    let turns := runner.turns operations
    let after := runner.finish operations
    let transitions := turns.filterMap Turn.transition?
    let answers := turns.map Turn.answer
    let spent := (transitions.filterMap (·.trigger.event?)).length
      + (transitions.flatMap (·.discarded)).length + (turns.flatMap Turn.strayed).length
    after.counters.ticks = operations.countP Operation.isTick ∧
      after.counters.transitions = transitions.length ∧
      after.counters.accepted + before.mailbox.pending.length =
        spent + after.machine.mailbox.pending.length ∧
      after.counters.accepted = answers.count (.submitted (.ok .accepted)) ∧
      after.counters.dropped = answers.count (.submitted (.ok .dropped)) ∧
      after.machine.history.length ≤ before.history.length + after.counters.transitions ∧
      (Machine.create graph = .ok before →
        after.counters.accepted = spent + after.machine.mailbox.pending.length ∧
          after.machine.history.length ≤ after.counters.transitions) ∧
      after.counters.transitions ≤ after.counters.ticks ∧
      after.counters.ticks + after.counters.accepted + after.counters.dropped
        ≤ operations.length ∧
      after.channel =
        turns.foldl (fun channel turn => turn.post broadcast channel) runner.channel ∧
      (.shutdown ∈ operations → ∀ event,
        after.submit event = .error .shuttingDown ∧
          after.serve (.submit event) =
            (⟨.submit event, .submitted (.error .shuttingDown), []⟩, after)) := by
  intro before runner turns after transitions answers spent
  have hbalances : after.Balances before turns :=
    (balances_new hcourse.agrees loader resources clock broadcast config).finish operations
  have hoperations : turns.map Turn.operation = operations := map_operation_turns operations runner
  have hlength : turns.length = operations.length := by
    rw [← hoperations, List.length_map]
  refine ⟨hoperations ▸ hbalances.ticks, hbalances.transitions, hbalances.pending,
    hbalances.accepted, hbalances.dropped, hbalances.history, ?fresh, hbalances.bounded,
    hlength ▸ hbalances.calls, channel_finish operations runner, ?shutdown⟩
  case fresh =>
    intro hcreate
    obtain ⟨_, state, _, hbefore⟩ := Machine.create_eq_ok hcreate
    have hpending := hbalances.pending
    have hhistory := hbalances.history
    rw [hbefore] at hpending hhistory
    exact ⟨hpending, by simpa using hhistory⟩
  case shutdown =>
    intro hmem event
    have hdown := shuttingDown_of_mem hmem runner
    exact ⟨by simp [submit, after, hdown], serve_submit_of_shuttingDown hdown event⟩

def record : Broadcast (List Transition) where
  create _ := []
  send transition sent := sent ++ [transition]
  subscribe sent := (0, sent)

def visited : Course :=
  (Course.start .inHouse).finish .house [.submit "enter", .tick 0 true, .submit "leave"]

def aroundVisited : Runner Simulation (List Transition) :=
  new .house visited.machine Simulation.loader (.create 0) 0 record .default

theorem counters_balance_house :
    let operations : List (Operation Simulation) := [.tick, .subscribe, .submit "leave",
      .submit "enter", .submit "jump", .tick, .snapshot, .shutdown, .submit "enter"]
    let after := aroundVisited.finish operations
    let left : Transition := ⟨⟨"attic"⟩, ⟨"hall"⟩, .back ⟨"leave"⟩, []⟩
    let returned : Transition := ⟨⟨"hall"⟩, ⟨"attic"⟩, .back ⟨"leave"⟩, [⟨"enter"⟩]⟩
    visited.Reachable .house ∧ visited.machine.mailbox.pending = [⟨"leave"⟩] ∧
      visited.machine.history = [⟨"hall"⟩] ∧ after.counters.ticks = 2 ∧
      after.counters.transitions = 2 ∧
      after.counters.accepted + 1 = 2 + 1 + 0 + after.machine.mailbox.pending.length ∧
      after.counters.dropped = 0 ∧ after.channel = [left, returned] ∧
      after.submit "leave" = .error .shuttingDown := by
  intro operations after left returned
  have hcreate : Machine.create .house = .ok .inHouse := rfl
  have hcourse : visited.Reachable .house := Course.Reachable.finish (.start hcreate) _
  have hpending : visited.machine.mailbox.pending = [⟨"leave"⟩] := by decide
  have hhistory : visited.machine.history = [⟨"hall"⟩] := by decide
  have hspent : spent (aroundVisited.turns operations) = 2 + 1 + 0 := by decide
  obtain ⟨hticks, htotal, haccepted, _, hdropped, _, _, _, _, hchannel, hdown⟩ :=
    counters_balance hcourse Simulation.loader (.create 0) 0 record .default operations
  have haccepted : after.counters.accepted + visited.machine.mailbox.pending.length =
      spent (aroundVisited.turns operations) + after.machine.mailbox.pending.length := haccepted
  rw [hspent, hpending] at haccepted
  refine ⟨hcourse, hpending, hhistory, hticks, htotal, haccepted, hdropped, hchannel,
    (hdown ?_ "leave").1⟩
  simp [operations]

end Runner

end SceneFlow
