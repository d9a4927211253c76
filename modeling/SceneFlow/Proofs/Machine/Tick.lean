import SceneFlow.Machine.Tick

/-!
Ticks in cases. A tick first settles the phase of its machine, which leaves all else alone, and then
does one of five things: it goes on activating, finds no state to be in, refuses every pending
event, lets the timed transition happen, or lets the first event happen that leads anywhere.
-/

namespace SceneFlow

variable {graph : Graph} {state : State} {machine : Machine} {current target event name : Name}
  {history older earlier rest pending : List Name} {choice : Choice} {now since : Nat}
  {ready : Bool} {resource : String} {unloading : Bool}

theorem wayBack?_map_fst (current : Name) (history : List Name) :
    (wayBack? current history).map Prod.fst = history.find? (· ≠ current) := by
  induction history with
  | nil => rfl
  | cons state older ih =>
    by_cases h : state = current
    · simpa [wayBack?, h] using ih
    · simp [wayBack?, h]

theorem Name.lookup_eq_none_iff {α : Type} {name : Name} {entries : List (Name × α)} :
    entries.lookup name = none ↔ name ∉ entries.map Prod.fst := by
  rw [List.lookup_eq_none_iff, List.mem_map]
  constructor
  · rintro h ⟨entry, hentry, rfl⟩
    simpa using h entry hentry
  · intro h entry hentry
    simpa using fun heq : name = entry.1 => h ⟨entry, hentry, heq.symm⟩

theorem ne_of_wayBack? (h : wayBack? current history = some (target, older)) :
    target ≠ current := by
  have hfind := wayBack?_map_fst current history
  rw [h] at hfind
  simpa using List.find?_some hfind.symm

theorem suffix_of_wayBack? (h : wayBack? current history = some (target, older)) :
    target :: older <:+ history := by
  rw [wayBack?] at h
  split at h
  · cases h
  · next heq =>
    cases h
    rw [← heq]
    exact List.dropWhile_suffix _

def Notice.isRefusal : Notice → Bool
  | noWayBack _ _ | noTransition _ _ => true
  | _ => false

namespace State

def refusal (state : State) (event : Name) : Notice :=
  if event ∈ state.back then .noWayBack event state.key else .noTransition event state.key

def Due (state : State) (now since : Nat) : Prop :=
  ∃ timed, state.timed = some timed ∧ timed.delay < now - since

theorem mem_accepted :
    event ∈ state.accepted ↔ event ∈ state.named.map Prod.fst ∨ event ∈ state.back :=
  List.mem_append

theorem choose?_eq_none_iff :
    state.choose? current history event = none ↔
      event ∉ state.named.map Prod.fst ∧
        (event ∈ state.back → ∀ previous ∈ history, previous = current) := by
  have hway : wayBack? current history = none ↔ ∀ previous ∈ history, previous = current := by
    rw [← Option.map_eq_none_iff, wayBack?_map_fst]
    simp
  rw [← hway, ← Name.lookup_eq_none_iff]
  rw [choose?]
  cases state.named.lookup event with
  | some target => simp
  | none => by_cases hback : event ∈ state.back <;> simp [hback]

theorem choose?_of_named (h : state.named.lookup event = some target) :
    state.choose? current history event = some ⟨.named event, target, history⟩ := by
  simp [choose?, h]

theorem choose?_of_back (hnamed : event ∉ state.named.map Prod.fst) (hback : event ∈ state.back) :
    state.choose? current history event =
      (wayBack? current history).map fun (target, older) => ⟨.back event, target, older⟩ := by
  simp [choose?, Name.lookup_eq_none_iff.2 hnamed, hback]

theorem choose?_eq_some (h : state.choose? current history event = some choice) :
    (∃ target, state.named.lookup event = some target ∧
        choice = ⟨.named event, target, history⟩) ∨
      ∃ target older, event ∈ state.back ∧ wayBack? current history = some (target, older) ∧
        choice = ⟨.back event, target, older⟩ := by
  cases hnamed : state.named.lookup event with
  | some target =>
    rw [choose?_of_named hnamed] at h
    exact .inl ⟨target, rfl, (Option.some.inj h).symm⟩
  | none =>
    have hnamed := Name.lookup_eq_none_iff.1 hnamed
    by_cases hback : event ∈ state.back
    · rw [choose?_of_back hnamed hback, Option.map_eq_some_iff] at h
      obtain ⟨⟨target, older⟩, hway, rfl⟩ := h
      exact .inr ⟨target, older, hback, hway, rfl⟩
    · rw [choose?_eq_none_iff.2 ⟨hnamed, fun h => absurd h hback⟩] at h
      cases h

theorem mem_back_of_refused (haccepted : event ∈ state.accepted)
    (h : state.choose? current history event = none) : event ∈ state.back := by
  cases mem_accepted.1 haccepted with
  | inl hnamed => exact absurd hnamed (choose?_eq_none_iff.1 h).1
  | inr hback => exact hback

theorem drain_cons_of_some (h : state.choose? current history event = some choice) :
    state.drain current history (event :: rest) = ⟨[], some choice, rest⟩ := by
  simp [drain, h]

theorem drain_cons_of_none (h : state.choose? current history event = none) :
    state.drain current history (event :: rest) =
      { state.drain current history rest with
        dropped :=
          (event, state.refusal event) :: (state.drain current history rest).dropped } := by
  simp [drain, h, refusal]

theorem drain_append (h : ∀ event ∈ earlier, state.choose? current history event = none)
    (rest : List Name) :
    state.drain current history (earlier ++ rest) =
      { state.drain current history rest with
        dropped := earlier.map (fun event => (event, state.refusal event))
          ++ (state.drain current history rest).dropped } := by
  induction earlier with
  | nil => rfl
  | cons event others ih =>
    have hothers := ih fun other hother => h other (List.mem_cons_of_mem event hother)
    rw [List.cons_append, drain_cons_of_none (h event List.mem_cons_self), hothers]
    rfl

theorem drain_of_refused (h : ∀ event ∈ pending, state.choose? current history event = none) :
    state.drain current history pending =
      ⟨pending.map fun event => (event, state.refusal event), none, []⟩ := by
  simpa [drain] using drain_append h []

theorem drain_of_chosen (hearlier : ∀ event ∈ earlier, state.choose? current history event = none)
    (hevent : state.choose? current history event = some choice) :
    state.drain current history (earlier ++ event :: rest) =
      ⟨earlier.map fun event => (event, state.refusal event), some choice, rest⟩ := by
  simp [drain_append hearlier, drain_cons_of_some hevent]

theorem refused_or_chosen (state : State) (current : Name) (history pending : List Name) :
    (∀ event ∈ pending, state.choose? current history event = none) ∨
      ∃ earlier event rest choice, pending = earlier ++ event :: rest ∧
        (∀ event ∈ earlier, state.choose? current history event = none) ∧
        state.choose? current history event = some choice := by
  induction pending with
  | nil => simp
  | cons event others ih =>
    cases hevent : state.choose? current history event with
    | some choice => exact .inr ⟨[], event, others, choice, rfl, by simp, hevent⟩
    | none =>
      cases ih with
      | inl hothers => exact .inl (List.forall_mem_cons.2 ⟨hevent, hothers⟩)
      | inr hothers =>
        obtain ⟨earlier, other, rest, choice, rfl, hearlier, hother⟩ := hothers
        exact .inr ⟨event :: earlier, other, rest, choice, rfl,
          List.forall_mem_cons.2 ⟨hevent, hearlier⟩, hother⟩

end State

namespace Machine

/-- The machine of a tick when its phase is settled, before it looks for a transition. -/
def settled (graph : Graph) (now : Nat) (ready : Bool) (machine : Machine) : Machine :=
  (settle graph now ready (machine.begin graph now).1).1

def arrival (graph : Graph) (now : Nat) (ready : Bool) (machine : Machine) : List Notice :=
  (settle graph now ready (machine.begin graph now).1).2

theorem begin_eq (graph : Graph) (now : Nat) (machine : Machine) :
    (machine.begin graph now).1 =
      { machine with
        phase := (machine.begin graph now).1.phase
        unload := (machine.begin graph now).1.unload } := by
  rw [begin]
  split
  · split
    · rfl
    · split <;> rfl
  · rfl

@[simp] theorem begin_current : (machine.begin graph now).1.current = machine.current := by
  rw [begin_eq]

@[simp] theorem begin_history : (machine.begin graph now).1.history = machine.history := by
  rw [begin_eq]

@[simp] theorem begin_mailbox : (machine.begin graph now).1.mailbox = machine.mailbox := by
  rw [begin_eq]

theorem begin_of_not_entering (h : machine.phase ≠ .entering) :
    machine.begin graph now = (machine, none) := by
  rw [begin]
  split
  · contradiction
  · rfl

theorem settle_of_activating (h : machine.phase = .activating resource unloading) :
    settle graph now false machine = (machine, []) := by
  simp [settle, h]

theorem settle_of_waiting (h : machine.phase = .waiting since) :
    settle graph now ready machine = (machine, []) := by
  simp [settle, h]

theorem settle_eq (graph : Graph) (now : Nat) (ready : Bool) (machine : Machine) :
    (settle graph now ready machine).1 =
      { machine with phase := (settle graph now ready machine).1.phase } := by
  rw [settle]
  split
  · split <;> rfl
  · rfl

@[simp] theorem settled_current :
    (machine.settled graph now ready).current = machine.current := by
  rw [settled, settle_eq]
  exact begin_current

@[simp] theorem settled_history :
    (machine.settled graph now ready).history = machine.history := by
  rw [settled, settle_eq]
  exact begin_history

@[simp] theorem settled_mailbox :
    (machine.settled graph now ready).mailbox = machine.mailbox := by
  rw [settled, settle_eq]
  exact begin_mailbox

@[simp] theorem settled_currentState? :
    (machine.settled graph now ready).currentState? graph = machine.currentState? graph := by
  simp [currentState?]

@[simp] theorem fire_current :
    (machine.fire graph state choice rest).machine.current = choice.target := rfl

@[simp] theorem fire_transition :
    (machine.fire graph state choice rest).transition =
      ⟨machine.current, choice.target, choice.trigger, rest⟩ := rfl

@[simp] theorem fire_pending :
    (machine.fire graph state choice rest).machine.mailbox.pending = [] := by
  rw [fire]
  cases graph.state? choice.target <;> rfl

theorem isRefusal_of_mem_arrival {notice : Notice} (h : notice ∈ machine.arrival graph now ready) :
    notice.isRefusal = false := by
  rw [arrival, settle] at h
  split at h
  · split at h
    · next unloading _ _ =>
      cases unloading
      · obtain ⟨_, hloaded⟩ := List.mem_ite_nil_right.1 h
        rw [List.mem_singleton.1 hloaded]
        rfl
      · rw [List.mem_singleton.1 h]
        rfl
    · cases h
  · cases h

theorem isRefusal_of_mem_fire {notice : Notice}
    (h : notice ∈ (machine.fire graph state choice rest).notices) : notice.isRefusal = false := by
  simp only [fire, List.mem_append, List.mem_ite_nil_right, List.mem_singleton] at h
  rcases h with ((hrace | ⟨_, rfl⟩) | hchange) | ⟨_, rfl⟩
  · obtain ⟨event, _, rfl⟩ := List.mem_map.1 hrace
    rfl
  · rfl
  · split at hchange
    all_goals
      obtain ⟨_, hchange⟩ := List.mem_ite_nil_right.1 hchange
      rw [List.mem_singleton.1 hchange]
      rfl
  · rfl

theorem begin_phase_ne_entering : (machine.begin graph now).1.phase ≠ .entering := by
  rw [begin]
  split
  · split
    · simp
    · split <;> simp
  · assumption

theorem settled_phase_ne_entering : (machine.settled graph now ready).phase ≠ .entering := by
  rw [settled, settle]
  split
  · split
    · simp
    · exact begin_phase_ne_entering
  · exact begin_phase_ne_entering

def withPending (machine : Machine) (pending : List Name) : Machine :=
  { machine with mailbox := { machine.mailbox with pending } }

/-- The ways in which a tick can go. -/
inductive Ticked (graph : Graph) (now : Nat) (ready : Bool) (machine : Machine) : Step → Prop
  | activating {resource : String} {unloading : Bool} :
      (machine.settled graph now ready).phase = .activating resource unloading →
      Ticked graph now ready machine
        ⟨machine.settled graph now ready, .activating, [],
          machine.arrival graph now ready⟩
  | lost {since : Nat} :
      (machine.settled graph now ready).phase = .waiting since →
      machine.currentState? graph = none →
      Ticked graph now ready machine
        ⟨machine.settled graph now ready, .idle, [],
          machine.arrival graph now ready⟩
  | idle {since : Nat} {state : State} :
      (machine.settled graph now ready).phase = .waiting since →
      machine.currentState? graph = some state →
      ¬ state.Due now since →
      (∀ event ∈ machine.mailbox.pending,
        state.choose? machine.current machine.history event = none) →
      Ticked graph now ready machine
        ⟨(machine.settled graph now ready).withPending [], .idle, machine.mailbox.pending,
          machine.arrival graph now ready ++ machine.mailbox.pending.map state.refusal⟩
  | timed {since : Nat} {state : State} {timed : Timed} {fired : Fired} :
      (machine.settled graph now ready).phase = .waiting since →
      machine.currentState? graph = some state →
      state.timed = some timed →
      timed.delay < now - since →
      fired = (machine.settled graph now ready).fire graph state
        ⟨.timed timed.seconds, timed.target, machine.history⟩ machine.mailbox.pending →
      Ticked graph now ready machine
        ⟨fired.machine, .transitioned fired.transition, [],
          machine.arrival graph now ready ++ fired.notices⟩
  | chosen {since : Nat} {state : State} {earlier : List Name} {event : Name} {rest : List Name}
      {choice : Choice} {fired : Fired} :
      (machine.settled graph now ready).phase = .waiting since →
      machine.currentState? graph = some state →
      ¬ state.Due now since →
      machine.mailbox.pending = earlier ++ event :: rest →
      (∀ other ∈ earlier, state.choose? machine.current machine.history other = none) →
      state.choose? machine.current machine.history event = some choice →
      fired = (machine.settled graph now ready).fire graph state choice rest →
      Ticked graph now ready machine
        ⟨fired.machine, .transitioned fired.transition, earlier,
          machine.arrival graph now ready ++ (earlier.map state.refusal ++ fired.notices)⟩

theorem examine_of_due {timed : Timed} (h : state.timed = some timed)
    (hdue : timed.delay < now - since) :
    examine state now since machine =
      ⟨[], some ⟨.timed timed.seconds, timed.target, machine.history⟩,
        machine.mailbox.pending⟩ := by
  simp [examine, h, hdue]

theorem examine_of_not_due (h : ¬ state.Due now since) :
    examine state now since machine =
      state.drain machine.current machine.history machine.mailbox.pending := by
  rw [examine]
  split
  · next timed htimed => exact if_neg fun hdue => h ⟨timed, htimed, hdue⟩
  · rfl

theorem poll_of_none (hstate : machine.currentState? graph = none) :
    poll graph now since machine = ⟨machine, .idle, [], []⟩ := by
  simp [poll, hstate]

theorem poll_of_due {timed : Timed} (hstate : machine.currentState? graph = some state)
    (htimed : state.timed = some timed) (hdue : timed.delay < now - since) :
    poll graph now since machine =
      let fired := machine.fire graph state
        ⟨.timed timed.seconds, timed.target, machine.history⟩ machine.mailbox.pending
      ⟨fired.machine, .transitioned fired.transition, [], fired.notices⟩ := by
  simp [poll, hstate, examine_of_due htimed hdue]

theorem poll_of_refused (hstate : machine.currentState? graph = some state)
    (hdue : ¬ state.Due now since)
    (hrefused : ∀ event ∈ machine.mailbox.pending,
      state.choose? machine.current machine.history event = none) :
    poll graph now since machine =
      ⟨machine.withPending [], .idle, machine.mailbox.pending,
        machine.mailbox.pending.map state.refusal⟩ := by
  simp [poll, hstate, examine_of_not_due hdue, State.drain_of_refused hrefused, Function.comp_def,
    withPending]

theorem poll_of_chosen (hstate : machine.currentState? graph = some state)
    (hdue : ¬ state.Due now since) (hpending : machine.mailbox.pending = earlier ++ event :: rest)
    (hearlier : ∀ other ∈ earlier, state.choose? machine.current machine.history other = none)
    (hevent : state.choose? machine.current machine.history event = some choice) :
    poll graph now since machine =
      let fired := machine.fire graph state choice rest
      ⟨fired.machine, .transitioned fired.transition, earlier,
        earlier.map state.refusal ++ fired.notices⟩ := by
  simp [poll, hstate, examine_of_not_due hdue, hpending, State.drain_of_chosen hearlier hevent,
    Function.comp_def]

theorem fire_withPending (pending : List Name) :
    (machine.withPending pending).fire graph state choice rest =
      machine.fire graph state choice rest := rfl

theorem poll_of_append (hstate : machine.currentState? graph = some state)
    (hdue : ¬ state.Due now since) (hpending : machine.mailbox.pending = earlier ++ rest)
    (hearlier : ∀ event ∈ earlier,
      state.choose? machine.current machine.history event = none) :
    poll graph now since machine =
      let others := poll graph now since (machine.withPending rest)
      { others with
        dropped := earlier ++ others.dropped
        notices := earlier.map state.refusal ++ others.notices } := by
  have hothers : (machine.withPending rest).currentState? graph = some state := hstate
  cases state.refused_or_chosen machine.current machine.history rest with
  | inl hrest =>
    have hall := List.forall_mem_append.2 ⟨hearlier, hrest⟩
    rw [← hpending] at hall
    rw [poll_of_refused hstate hdue hall, poll_of_refused hothers hdue hrest, hpending]
    simp [withPending]
  | inr hrest =>
    obtain ⟨others, event, left, choice, rfl, hothersRefused, hevent⟩ := hrest
    have hall := List.forall_mem_append.2 ⟨hearlier, hothersRefused⟩
    rw [← List.append_assoc] at hpending
    rw [poll_of_chosen hstate hdue hpending hall hevent,
      poll_of_chosen hothers hdue rfl hothersRefused hevent, fire_withPending]
    simp

theorem tick_of_activating
    (h : (machine.settled graph now ready).phase = .activating resource unloading) :
    (machine.tick graph now ready).2 =
      ⟨machine.settled graph now ready, .activating, [],
        machine.arrival graph now ready⟩ := by
  simp only [tick, advance]
  rw [settled] at h
  rw [h]
  rfl

theorem tick_of_waiting (h : (machine.settled graph now ready).phase = .waiting since) :
    (machine.tick graph now ready).2 =
      { poll graph now since (machine.settled graph now ready) with
        notices := machine.arrival graph now ready
          ++ (poll graph now since (machine.settled graph now ready)).notices } := by
  simp only [tick, advance]
  rw [settled] at h
  rw [h]
  rfl

theorem tick_ticked (graph : Graph) (now : Nat) (ready : Bool) (machine : Machine) :
    Ticked graph now ready machine (machine.tick graph now ready).2 := by
  have hpending : (machine.settled graph now ready).mailbox.pending = machine.mailbox.pending := by
    rw [settled_mailbox]
  have hcurrent : (machine.settled graph now ready).current = machine.current := settled_current
  have hhistory : (machine.settled graph now ready).history = machine.history := settled_history
  cases hphase : (machine.settled graph now ready).phase with
  | entering => exact absurd hphase settled_phase_ne_entering
  | activating resource unloading =>
    rw [tick_of_activating hphase]
    exact .activating hphase
  | waiting since =>
    rw [tick_of_waiting hphase]
    cases hstate : (machine.settled graph now ready).currentState? graph with
    | none =>
      rw [poll_of_none hstate, List.append_nil]
      rw [settled_currentState?] at hstate
      exact .lost hphase hstate
    | some state =>
      have hdeclared := hstate
      rw [settled_currentState?] at hdeclared
      by_cases hdue : state.Due now since
      · obtain ⟨timed, htimed, hdelay⟩ := hdue
        rw [poll_of_due hstate htimed hdelay, hhistory, hpending]
        exact .timed hphase hdeclared htimed hdelay rfl
      · cases state.refused_or_chosen machine.current machine.history machine.mailbox.pending with
        | inl hrefused =>
          rw [poll_of_refused hstate hdue (by rwa [hpending, hcurrent, hhistory]), hpending]
          exact .idle hphase hdeclared hdue hrefused
        | inr hchosen =>
          obtain ⟨earlier, event, rest, choice, hqueued, hearlier, hevent⟩ := hchosen
          rw [poll_of_chosen hstate hdue (hpending.trans hqueued) (by rwa [hcurrent, hhistory])
            (by rwa [hcurrent, hhistory])]
          exact .chosen hphase hdeclared hdue hqueued hearlier hevent rfl

end Machine

end SceneFlow
