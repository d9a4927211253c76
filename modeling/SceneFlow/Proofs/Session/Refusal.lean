import SceneFlow.Proofs.Binding.References
import SceneFlow.Proofs.Machine.Table
import SceneFlow.Proofs.Session.Clockwork
import SceneFlow.Proofs.Token.Word

/-!
Refusals. A line that cannot be obeyed is answered with a failure or with a text that says so, and
leaves all of the session as it is: the program, the machine with its resources, and the clock. So
the rest of a conversation goes on as if the line had not been typed.
-/

namespace SceneFlow

variable {diagram : Diagram} {graph : Graph} {transition : Transition} {session : Session}
  {path line event : String} {world : World} {request : Request} {answer : Answer}

inductive Request.Refused : Request → Answer → Prop
  | failure (request : Request) (failure : Failure) : Refused request (.failure failure)
  | notNumber (request : Request) : Refused request .notNumber
  | usage (request : Request) : Refused request (.text "Usage: tick [non-negative seconds]")
  | unknown (request : Request) (word : String) :
      Refused request (.text ("Unknown command: " ++ word ++ ". Type 'help' for help."))
  | dropped (event state : String) :
      Refused (.submit event) (.text ("Dropped " ++ event ++ ": not accepted in " ++ state))

theorem eq_of_names_append {name other rest more : List Char} {c d : Char}
    (hname : ∀ x ∈ name, Text.continuesName x) (hother : ∀ x ∈ other, Text.continuesName x)
    (hc : Text.continuesName c = false) (hd : Text.continuesName d = false)
    (h : name ++ c :: rest = other ++ d :: more) : c = d ∧ rest = more := by
  have hafter := congrArg (List.dropWhile Text.continuesName) h
  rw [List.dropWhile_append_of_pos hname, List.dropWhile_append_of_pos hother,
    List.dropWhile_cons_of_neg (by simp [hc]), List.dropWhile_cons_of_neg (by simp [hd])] at hafter
  exact List.cons_eq_cons.1 hafter

namespace Request

theorem Refused.ne_farewell (h : request.Refused answer) : answer ≠ .farewell := by
  rintro rfl
  cases h

theorem Refused.head? {text : String} (h : request.Refused (.text text))
    (hrequest : ∀ event, request ≠ .submit event) : text.toList.head? = some 'U' := by
  cases h with
  | usage => rfl
  | unknown _ word => simp
  | dropped event state => exact absurd rfl (hrequest event)

theorem not_refused_transitionText (hname : isIdentifier (diagram.stateName transition.source))
    (hrequest : ∀ event, request ≠ .submit event) :
    ¬ request.Refused (.text (Session.transitionText diagram transition)) := by
  intro h
  have hletters := continuesName_of_isIdentifier hname
  have htext : ∃ rest, (Session.transitionText diagram transition).toList =
      (diagram.stateName transition.source).toList ++ ' ' :: '→' :: rest := by
    simp [Session.transitionText]
  obtain ⟨rest, htext⟩ := htext
  generalize Session.transitionText diagram transition = text at h htext
  cases h with
  | usage =>
    have husage : ∃ more, "Usage: tick [non-negative seconds]".toList =
        ['U', 's', 'a', 'g', 'e'] ++ ':' :: more := by
      simp
    have hword : ['U', 's', 'a', 'g', 'e'].all Text.continuesName := by decide +kernel
    obtain ⟨more, husage⟩ := husage
    rw [husage] at htext
    obtain ⟨hcolon, _⟩ :=
      eq_of_names_append (List.all_eq_true.1 hword) hletters (by decide +kernel)
        (by decide +kernel) htext
    exact absurd hcolon (by decide)
  | unknown _ word =>
    have hunknown : ∃ more, ("Unknown command: " ++ word ++ ". Type 'help' for help.").toList =
        ['U', 'n', 'k', 'n', 'o', 'w', 'n'] ++ ' ' :: 'c' :: more := by
      simp
    have hword : ['U', 'n', 'k', 'n', 'o', 'w', 'n'].all Text.continuesName := by decide +kernel
    obtain ⟨more, hunknown⟩ := hunknown
    rw [hunknown] at htext
    obtain ⟨_, harrow⟩ :=
      eq_of_names_append (List.all_eq_true.1 hword) hletters (by decide +kernel)
        (by decide +kernel) htext
    cases harrow
  | dropped event state => exact hrequest event rfl

theorem not_refused_accepted (request : Request) (event : String) :
    ¬ request.Refused (.text ("Accepted " ++ event ++ " (tick to apply)")) := by
  generalize htext : "Accepted " ++ event ++ " (tick to apply)" = text
  intro h
  have hfirst : text.toList.head? = some 'A' := by simp [← htext]
  cases h with
  | usage => simp at hfirst
  | unknown _ word => simp at hfirst
  | dropped other state => simp at hfirst

end Request

theorem Machine.machine_of_dropped {machine : Machine} {receipt : Machine.Receipt}
    (h : machine.submit graph event = .ok receipt) (hdropped : receipt.submission = .dropped) :
    receipt.machine = machine := by
  cases hevent : graph.event? (.of event) with
  | none =>
    rw [submit_of_unknown hevent] at h
    cases h
  | some _ =>
    by_cases haccepted : .of event ∈ machine.mailbox.accepted
    · rw [submit_of_accepted hevent haccepted] at h
      cases h
      cases hdropped
    · rw [submit_of_dropped hevent haccepted] at h
      cases h
      rfl

namespace Session

/-- The sessions that can be come to, whatever the program's file holds when it is loaded. -/
inductive Reachable [Checksum] : Session → Prop
  | opened {path : String} {world : World} {session : Session} :
      (load path world).session = .ok session → Reachable session
  | next {session : Session} (input : Input) : Reachable session → Reachable (session.next input)

structure Sound [Checksum] (session : Session) : Prop where
  bound : ∃ commands earlier, session.graph = (bindCommands commands earlier).1
  course : ∃ course : Course, course.Reachable session.graph ∧
    course.machine = session.stage.machine

theorem sound_of_load [Checksum] (h : (load path world).session = .ok session) : session.Sound := by
  obtain ⟨_, _, hprogram, _, hstage⟩ := load_eq_ok h
  constructor
  case bound =>
    rw [Program.load] at hprogram
    split at hprogram
    · next source _ =>
      have hcompile := Except.ok.inj hprogram
      exact ⟨_, _, congrArg Program.graph hcompile.symm⟩
    · cases hprogram
  case course => exact ⟨.start _, .start (Stage.create_eq_ok hstage).1, rfl⟩

namespace Sound

variable [Checksum] (h : session.Sound)
include h

theorem tickAt (clock : Clock) : (session.tickAt clock).session.Sound := by
  obtain ⟨course, hcourse, hmachine⟩ := h.course
  refine ⟨h.bound, _, hcourse.next (.tick clock.reading true), ?_⟩
  rw [Course.react_tick, hmachine]
  rfl

theorem submit (event : String) : (session.submit event).session.Sound := by
  obtain ⟨course, hcourse, hmachine⟩ := h.course
  cases hresult : session.stage.machine.submit session.graph event with
  | error failure =>
    simp only [Session.submit, hresult]
    exact h
  | ok receipt =>
    simp only [Session.submit, hresult]
    refine ⟨h.bound, _, hcourse.next (.submit event), ?_⟩
    rw [← hmachine] at hresult
    rw [Course.react_of_ok hresult]

theorem respond (world : World) (request : Request) :
    (session.respond world request).session.Sound := by
  cases request with
  | tick argument =>
    rw [Session.respond, tick_session]
    cases step? session.clock argument with
    | none => exact h
    | some step => exact h.tickAt _
  | submit event => exact h.submit event
  | reload =>
    simp only [Session.respond, reload]
    cases hload : (load session.path world).session with
    | error failure => exact h
    | ok fresh => exact sound_of_load hload
  | _ => exact h

end Sound

theorem Reachable.sound [Checksum] (h : session.Reachable) : session.Sound := by
  induction h with
  | opened hload => exact sound_of_load hload
  | next input _ ih => exact ih.respond input.world (.ofLine input.line)

namespace Sound

variable [Checksum] (h : session.Sound)
include h

theorem isIdentifier_current :
    isIdentifier (session.graph.stateName session.stage.machine.current) := by
  obtain ⟨commands, earlier, hgraph⟩ := h.bound
  obtain ⟨course, hcourse, hmachine⟩ := h.course
  have hresolved : session.graph.Resolved := hgraph ▸ resolved_bindCommands commands earlier
  have hcurrent : session.graph.HasState session.stage.machine.current :=
    hmachine ▸ (hcourse.declared hresolved).current
  obtain ⟨state, hstate⟩ := Option.isSome_iff_exists.1 hcurrent
  have hmem : state ∈ session.graph.states := List.mem_of_find?_eq_some hstate
  rw [hgraph] at hmem
  rw [Diagram.stateName, hstate, Option.elim_some]
  exact isIdentifier_of_mem_states hmem

theorem not_refused_tickAt (clock : Clock) (argument : Option String) :
    ¬ (Request.tick argument).Refused (session.tickAt clock).answer := by
  intro hrefused
  have hrequest : ∀ event, Request.tick argument ≠ .submit event := by simp
  simp only [Session.tickAt, Stage.tick] at hrefused
  cases houtcome : (session.stage.machine.tick session.graph clock.reading true).2.outcome with
  | transitioned transition =>
    rw [houtcome] at hrefused
    have hsource := (Machine.tick_transition houtcome).1
    exact Request.not_refused_transitionText (hsource ▸ h.isIdentifier_current) hrequest hrefused
  | activating =>
    rw [houtcome] at hrefused
    simpa using hrefused.head? hrequest
  | idle =>
    rw [houtcome] at hrefused
    simpa using hrefused.head? hrequest

end Sound

theorem submit_of_refused (h : (Request.submit event).Refused (session.submit event).answer) :
    (session.submit event).session = session := by
  cases hresult : session.stage.machine.submit session.graph event with
  | error failure => simp only [submit, hresult, Session.answer]
  | ok receipt =>
    simp only [submit, hresult] at h ⊢
    cases hsubmission : receipt.submission with
    | accepted =>
      rw [hsubmission] at h
      exact absurd h (Request.not_refused_accepted _ event)
    | dropped => rw [Machine.machine_of_dropped hresult hsubmission]

theorem reload_of_refused [Checksum] (h : Request.reload.Refused (session.reload world).answer) :
    (session.reload world).session = session := by
  cases hload : (load session.path world).session with
  | error failure => simp only [reload, hload]
  | ok fresh =>
    simp only [reload, hload] at h
    have hrequest : ∀ event, Request.reload ≠ .submit event := by simp
    simpa using h.head? hrequest

theorem Sound.tick_of_refused [Checksum] (h : session.Sound) {argument : Option String}
    (hrefused : (Request.tick argument).Refused (session.tick argument).answer) :
    (session.tick argument).session = session := by
  unfold tick at hrefused ⊢
  split at hrefused
  · rfl
  · split at hrefused
    · rfl
    · exact absurd hrefused (h.not_refused_tickAt _ argument)

theorem Sound.respond_of_refused [Checksum] (h : session.Sound)
    (hrefused : request.Refused (session.respond world request).answer) :
    (session.respond world request).session = session := by
  cases request with
  | tick argument => exact h.tick_of_refused hrefused
  | submit event => exact submit_of_refused hrefused
  | reload => exact reload_of_refused hrefused
  | _ => rfl

theorem reload_fresh [Checksum] (session : Session) (world : World) :
    (∃ failure, (load session.path world).session = .error failure ∧
        (session.reload world).answer = .failure failure) ∨
      (load session.path world).session = .ok (session.reload world).session := by
  cases hload : (load session.path world).session with
  | error failure => exact .inl ⟨failure, rfl, by simp only [reload, hload]⟩
  | ok fresh => exact .inr (by simp only [reload, hload])

theorem request?_of_refused [Checksum]
    (h : (Request.ofLine line).Refused (session.respond world (.ofLine line)).answer) :
    request? line = some (.ofLine line) := by
  cases request?_eq line with
  | inl hnone =>
    rw [hnone.2] at h
    simpa [respond, answer] using h.head?
  | inr hsome => exact hsome

/-- A line that is refused leaves the session as it is, whatever the program's file holds, and the
rest of a conversation goes on as without it. A reload that does not fail opens the file afresh. -/
theorem refused_line_changes_nothing [Checksum] (h : session.Reachable) (input : Input) :
    let request := Request.ofLine input.line
    let response := session.respond input.world request
    (request.Refused response.answer →
      response.session = session ∧
      ∀ more,
        let rest := session.converse more
        session.converse (input :: more) =
          ⟨response.answer.shown ++ rest.output, response.faults ++ rest.faults,
            response.log ++ rest.log, rest.failure⟩) ∧
      (request = .reload →
        (∃ failure, (load session.path input.world).session = .error failure ∧
            response.answer = .failure failure) ∨
          (load session.path input.world).session = .ok response.session) := by
  intro request response
  constructor
  · intro hrefused
    have hsame : response.session = session := h.sound.respond_of_refused hrefused
    refine ⟨hsame, fun more => ?_⟩
    have hconverse :=
      converse_of_request (request?_of_refused hrefused) hrefused.ne_farewell more
    dsimp only at hconverse
    rwa [hsame] at hconverse
  · intro hreload
    have hresponse : response = session.reload input.world := by
      rw [← respond, ← hreload]
    rw [hresponse]
    exact reload_fresh session input.world

theorem refused_line_changes_nothing_lamp :
    let input : Input := ⟨{ lampWorld with file := none }, "reload"⟩
    let more := ["tick", "tick 2"].map (Input.mk lampWorld)
    let response := lamp.respond input.world (.ofLine input.line)
    lamp.Reachable ∧ response.answer = .failure (.unreadable .missing) ∧
      response.session = lamp ∧
      (lamp.converse (input :: more)).output =
        "Error: I/O error: No such file or directory (os error 2)\n\n"
          ++ (lamp.converse more).output := by
  intro input more response
  have hreachable : lamp.Reachable := .opened load_lamp
  have hanswer : response.answer = .failure (.unreadable .missing) := by decide +kernel
  obtain ⟨hrefused, _⟩ := refused_line_changes_nothing hreachable input
  obtain ⟨hsame, hconverse⟩ := hrefused (hanswer ▸ .failure _ _)
  refine ⟨hreachable, hanswer, hsame, ?_⟩
  rw [hconverse more]
  exact congrArg (·.shown ++ (lamp.converse more).output) hanswer

end Session

end SceneFlow
