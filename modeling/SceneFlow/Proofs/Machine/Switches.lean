import SceneFlow.Machine.Wording
import SceneFlow.Proofs.Machine.Lockstep
import SceneFlow.Proofs.Machine.Timer

namespace SceneFlow

variable {graph : Graph} {state : State} {machine : Machine} {name : String} {flags : LogFlags}
  {notices : List Notice}

/-- The category of INFO lines that a notice is told in. Other lines are in none. -/
def Notice.category? : Notice → Option LogFlag
  | entering _ => some .stateEntry
  | exiting _ => some .stateExit
  | loaded _ => some .sceneLoaded
  | timed _ _ _ => some .timedTransitions
  | named _ _ _ => some .namedTransitions
  | back _ _ _ => some .backTransitions
  | unloaded _ | notAccepted _ _ | noWayBack _ _ | noTransition _ _ | discarded _ => none

namespace LogFlags

def kept (flags : LogFlags) (notices : List Notice) : List Notice :=
  notices.filter fun notice => notice.category?.all flags.get

theorem kept_append (flags : LogFlags) (notices others : List Notice) :
    flags.kept (notices ++ others) = flags.kept notices ++ flags.kept others :=
  List.filter_append notices others

theorem kept_of_no_category (h : ∀ notice ∈ notices, notice.category? = Option.none) :
    flags.kept notices = notices :=
  List.filter_eq_self.2 fun notice hnotice => by rw [h notice hnotice, Option.all_none]

theorem kept_guarded {notice : Notice} (flag : LogFlag) (h : notice.category? = some flag) :
    (if flags.get flag then [notice] else []) =
      flags.kept (if all.get flag then [notice] else []) := by
  rw [get_all, if_pos rfl, kept, List.filter_cons, h, Option.all_some, List.filter_nil]

end LogFlags

theorem State.category?_of_mem_drain {current : Name} {history pending : List Name}
    {entry : Name × Notice} (h : entry ∈ (state.drain current history pending).dropped) :
    entry.2.category? = none := by
  induction pending with
  | nil => cases h
  | cons event rest ih =>
    rw [drain] at h
    split at h
    · cases h
    · cases List.mem_cons.1 h with
      | inl hhead =>
        rw [hhead]
        dsimp only
        split <;> rfl
      | inr hrest => exact ih hrest

theorem State.category?_of_mem_examine (state : State) (now since : Nat) (machine : Machine)
    {entry : Name × Notice} (h : entry ∈ (Machine.examine state now since machine).dropped) :
    entry.2.category? = none := by
  rw [Machine.examine] at h
  split at h
  · split at h
    · cases h
    · exact category?_of_mem_drain h
  · exact category?_of_mem_drain h

namespace Machine

def Step.kept (flags : LogFlags) (step : Step) : Step :=
  { step with notices := flags.kept step.notices }

theorem make_flags (graph : Graph) (flags : LogFlags) (checksum : String) :
    make { graph with flags, checksum } =
      (make { graph with flags := .all }).map fun making =>
        { making with notices := flags.kept making.notices } := by
  have hstart : Diagram.startState? { graph.toDiagram with flags } =
      Diagram.startState? { graph.toDiagram with flags := .all } := rfl
  have hvalid : Graph.isValid { graph with flags, checksum } =
      Graph.isValid { graph with flags := .all } := rfl
  simp only [make, hstart, hvalid]
  split
  · split
    · exact congrArg (fun notices => Except.ok (Making.mk _ notices))
        (LogFlags.kept_guarded .stateEntry rfl)
    · rfl
  · rfl

theorem create_flags (graph : Graph) (flags : LogFlags) (checksum : String) :
    create { graph with flags, checksum } = create { graph with flags := .all } := by
  rw [create, create, make_flags]
  cases make { graph with flags := .all } <;> rfl

theorem settle_flags (graph : Graph) (flags : LogFlags) (checksum : String) (now : Nat)
    (ready : Bool) (machine : Machine) :
    settle { graph with flags, checksum } now ready machine =
      let (settled, notices) := settle { graph with flags := .all } now ready machine
      (settled, flags.kept notices) := by
  simp only [settle]
  split
  · next resource unloading _ =>
    cases ready with
    | false => rfl
    | true =>
      cases unloading with
      | true => rfl
      | false => exact congrArg (Prod.mk _) (LogFlags.kept_guarded .sceneLoaded rfl)
  · rfl

theorem fire_flags (graph : Graph) (flags : LogFlags) (checksum : String) (state : State)
    (choice : Choice) (left : List Name) (machine : Machine) :
    machine.fire { graph with flags, checksum } state choice left =
      let fired := machine.fire { graph with flags := .all } state choice left
      { fired with notices := flags.kept fired.notices } := by
  have hraces : flags.kept (left.map .discarded) = left.map .discarded :=
    LogFlags.kept_of_no_category (List.forall_mem_map.2 fun _ _ => rfl)
  simp only [fire, LogFlags.kept_append, hraces]
  congr 1
  congr 1
  · congr 1
    · exact congrArg _ (LogFlags.kept_guarded .stateExit rfl)
    · cases choice.trigger with
      | timed seconds => exact LogFlags.kept_guarded .timedTransitions rfl
      | named event => exact LogFlags.kept_guarded .namedTransitions rfl
      | back event => exact LogFlags.kept_guarded .backTransitions rfl
  · exact LogFlags.kept_guarded .stateEntry rfl

theorem poll_flags (graph : Graph) (flags : LogFlags) (checksum : String) (now since : Nat)
    (machine : Machine) :
    poll { graph with flags, checksum } now since machine =
      (poll { graph with flags := .all } now since machine).kept flags := by
  have hstate : machine.currentState? { graph with flags, checksum } =
      machine.currentState? { graph with flags := .all } := rfl
  simp only [poll, hstate]
  cases machine.currentState? { graph with flags := .all } with
  | none => rfl
  | some state =>
    have hdropped : flags.kept ((examine state now since machine).dropped.map Prod.snd) =
        (examine state now since machine).dropped.map Prod.snd :=
      LogFlags.kept_of_no_category
        (List.forall_mem_map.2 fun _ => state.category?_of_mem_examine now since machine)
    dsimp only
    cases (examine state now since machine).choice with
    | none => simp only [Step.kept, hdropped]
    | some choice => simp only [Step.kept, LogFlags.kept_append, fire_flags graph flags checksum,
        hdropped]

theorem advance_flags (graph : Graph) (flags : LogFlags) (checksum : String) (now : Nat)
    (ready : Bool) (machine : Machine) :
    advance { graph with flags, checksum } now ready machine =
      (advance { graph with flags := .all } now ready machine).kept flags := by
  simp only [advance, settle_flags graph flags checksum, poll_flags graph flags checksum]
  split
  · rw [Step.kept, Step.kept, LogFlags.kept_append]
  · rfl

theorem tick_flags (graph : Graph) (flags : LogFlags) (checksum : String) (now : Nat)
    (ready : Bool) (machine : Machine) :
    machine.tick { graph with flags, checksum } now ready =
      let (call, step) := machine.tick { graph with flags := .all } now ready
      (call, step.kept flags) :=
  congrArg (Prod.mk _) (advance_flags graph flags checksum now ready _)

theorem submit_flags (graph : Graph) (flags : LogFlags) (checksum name : String)
    (machine : Machine) :
    machine.submit { graph with flags, checksum } name =
      machine.submit { graph with flags := .all } name := rfl

theorem kept_of_submit {receipt : Receipt} (h : machine.submit graph name = .ok receipt)
    (flags : LogFlags) : flags.kept receipt.notices = receipt.notices := by
  cases hevent : graph.event? (.of name) with
  | none =>
    rw [submit_of_unknown hevent] at h
    cases h
  | some event =>
    by_cases haccepted : .of name ∈ machine.mailbox.accepted
    · rw [submit_of_accepted hevent haccepted] at h
      cases h
      rfl
    · rw [submit_of_dropped hevent haccepted] at h
      cases h
      rfl

end Machine

def Moment.kept (flags : LogFlags) (moment : Moment) : Moment :=
  { moment with notices := flags.kept moment.notices }

def Moment.silent (moment : Moment) : Moment := { moment with notices := [] }

structure Remark where
  category : Option LogFlag
  line : LogLine
  deriving DecidableEq

namespace Remark

def ofNotice (diagram : Diagram) (notice : Notice) : Remark :=
  ⟨notice.category?, notice.line diagram⟩

theorem isSome_category_ofNotice (diagram : Diagram) (notice : Notice) :
    (ofNotice diagram notice).category.isSome ↔ (ofNotice diagram notice).line.level = .info := by
  cases notice <;> simp [ofNotice, Notice.category?, Notice.line, Notice.level]

def isKept (flags : LogFlags) (remark : Remark) : Bool := remark.category.all flags.get

theorem map_ofNotice_kept (flags : LogFlags) (diagram : Diagram) (notices : List Notice) :
    (flags.kept notices).map (ofNotice diagram) =
      (notices.map (ofNotice diagram)).filter (isKept flags) := by
  rw [List.filter_map]
  rfl

end Remark

def Moment.remarks (activator : Activator) (diagram : Diagram) (moment : Moment) : List Remark :=
  (moment.call?.toList.flatMap activator.lines).map (Remark.mk none)
    ++ moment.notices.map (Remark.ofNotice diagram)

theorem Moment.remarks_kept (activator : Activator) (diagram : Diagram) (moment : Moment) :
    (moment.kept flags).remarks activator diagram =
      (moment.remarks activator diagram).filter (Remark.isKept flags) := by
  have hlines : ∀ lines : List LogLine, (lines.map (Remark.mk none)).filter (Remark.isKept flags) =
      lines.map (Remark.mk none) := by
    intro lines
    exact List.filter_eq_self.2 (List.forall_mem_map.2 fun _ _ => rfl)
  rw [remarks, remarks, List.filter_append, hlines, ← Remark.map_ofNotice_kept]
  rfl

namespace Course

theorem react_flags (graph : Graph) (flags : LogFlags) (checksum : String) (course : Course)
    (action : Action) :
    course.react { graph with flags, checksum } action =
      (course.react { graph with flags := .all } action).kept flags := by
  cases action with
  | tick now ready =>
    rw [react_tick, react_tick, Machine.tick_flags]
    rfl
  | submit name =>
    have hsubmit := Machine.submit_flags graph flags checksum name course.machine
    cases h : course.machine.submit { graph with flags := .all } name with
    | error failure =>
      rw [react_of_error (hsubmit.trans h), react_of_error h]
      rfl
    | ok receipt =>
      rw [react_of_ok (hsubmit.trans h), react_of_ok h, Moment.kept, Machine.kept_of_submit h]

theorem play_flags (graph : Graph) (flags : LogFlags) (checksum : String) (activator : Activator)
    (turn : Nat) (moves : List Move) (course : Course) :
    course.play { graph with flags, checksum } activator turn moves =
      (course.play { graph with flags := .all } activator turn moves).map (·.kept flags) := by
  induction moves generalizing turn course with
  | nil => rfl
  | cons move moves ih =>
    rw [play, react_flags, ih]
    rfl

theorem map_silent_play_flags (graph : Graph) (flags : LogFlags) (checksum : String)
    (activator : Activator) (turn : Nat) (moves : List Move) (course : Course) :
    (course.play { graph with flags, checksum } activator turn moves).map Moment.silent =
      (course.play { graph with flags := .all } activator turn moves).map Moment.silent := by
  rw [play_flags, List.map_map]
  rfl

def log (graph : Graph) (activator : Activator) (moves : List Move) :
    Except Failure (List Remark) :=
  (Machine.make graph).map fun making =>
    making.notices.map (Remark.ofNotice graph.toDiagram)
      ++ ((start making.machine).play graph activator 0 moves).flatMap
        (Moment.remarks activator graph.toDiagram)

theorem log_flags (graph : Graph) (flags : LogFlags) (checksum : String) (activator : Activator)
    (moves : List Move) :
    log { graph with flags, checksum } activator moves =
      (log { graph with flags := .all } activator moves).map
        (List.filter (Remark.isKept flags)) := by
  rw [log, log, Machine.make_flags]
  cases Machine.make { graph with flags := .all } with
  | error failure => rfl
  | ok making =>
    simp only [Except.map, List.filter_append, ← Remark.map_ofNotice_kept]
    rw [play_flags, List.flatMap_map, List.filter_flatMap]
    congr 3
    exact funext (Moment.remarks_kept activator _)

/-- Two graphs that differ in their log switches make the same machine, which goes through the same
moments. What is logged is what is logged with all switches on, without the lines in categories that
are switched off, and the lines that a machine tells in some category are those of level INFO. -/
theorem switches_filter_log (graph : Graph) (flags : LogFlags) (checksum : String)
    (activator : Activator) (moves : List Move) :
    let other : Graph := { graph with flags, checksum }
    Machine.create other = Machine.create graph ∧
      (∀ machine, ((start machine).play other activator 0 moves).map Moment.silent =
        ((start machine).play graph activator 0 moves).map Moment.silent) ∧
      log other activator moves =
        (log { graph with flags := .all } activator moves).map
          (List.filter fun remark => remark.category.all flags.get) ∧
      ∀ notice, (Remark.ofNotice graph.toDiagram notice).category.isSome ↔
        (Remark.ofNotice graph.toDiagram notice).line.level = .info := by
  intro other
  refine ⟨?_, fun machine => ?_, log_flags graph flags checksum activator moves,
    Remark.isSome_category_ofNotice graph.toDiagram⟩
  · rw [Machine.create_flags]
    exact (Machine.create_flags graph graph.flags graph.checksum).symm
  · rw [map_silent_play_flags]
    exact (map_silent_play_flags graph graph.flags graph.checksum activator 0 moves _).symm

end Course

end SceneFlow
