import SceneFlow.Proofs.Machine.Overlay
import SceneFlow.Simulation

namespace SceneFlow

variable {graph : Graph} {machine : Machine} {course there back : Course} {actions : List Action}
  {out home transition : Transition} {entries : List Entry} {current : Name} {resource : String}
  {calls : List Call} {simulation : Simulation}

inductive Simulation.Performed : List Call → Simulation → Prop
  | create (latency : Nat) : Performed [] (.create latency)
  | perform {calls : List Call} {simulation : Simulation} (now : Nat) (call : Call) :
      Performed calls simulation → Performed (calls ++ [call]) (simulation.perform now call)

theorem Simulation.Performed.loaded (h : simulation.Performed calls) :
    simulation.loaded = calls.foldl Call.perform [] := by
  induction h with
  | create latency => rfl
  | perform now call _ ih => rw [List.foldl_concat, ← ih, Simulation.perform]

theorem Transition.unload?_of_not_back (h : ∀ event, transition.trigger ≠ .back event) :
    transition.unload? graph = none := by
  obtain ⟨source, target, trigger, discarded⟩ := transition
  cases trigger with
  | timed _ => rfl
  | named _ => rfl
  | back event => exact absurd rfl (h event)

theorem Entry.call?_via_of_unload (h : transition.unload? graph = some resource) :
    (Entry.via transition).call? graph = some (.unload resource) := by
  have hasked : (Entry.via transition).transition.bind (·.unload? graph) = some resource := h
  rw [call?, hasked]

theorem Entry.call?_via_of_load {state : State} (h : transition.unload? graph = none)
    (hstate : graph.state? transition.target = some state)
    (hresource : state.resource = some resource) :
    (Entry.via transition).call? graph = some (.load resource state.additive) := by
  have hasked : (Entry.via transition).transition.bind (·.unload? graph) = none := h
  have htarget : graph.state? (Entry.via transition).state = some state := hstate
  rw [call?, hasked, htarget]
  simp [hresource]

namespace Journey.Tells

variable {journey : Journey}

theorem isBegun (h : journey.Tells graph course) {since : Nat}
    (hphase : course.machine.phase = .waiting since) : journey.present.isBegun := by
  by_contra hnot
  rw [h.stands.phase.2 hnot] at hphase
  cases hphase

theorem calls_of_tick (h : journey.Tells graph course) (now : Nat) (ready : Bool) :
    (course.react graph (.tick now ready)).after.calls =
      journey.entries.filterMap (·.call? graph) := by
  rw [Course.react_tick]
  dsimp only
  have hcall : (course.machine.tick graph now ready).1 = _ := (h.stands.begin now).1
  rw [hcall]
  by_cases hbegun : journey.present.isBegun
  · rw [if_pos hbegun, h.calls_of_begun hbegun, Option.toList_none, List.append_nil]
  · have hpast := List.filter_eq_self.2 h.begun
    rw [if_neg hbegun, h.calls, Journey.calls, Journey.entries, Journey.visits, List.filter_append,
      hpast, List.filter_cons_of_neg hbegun, List.filter_nil, List.append_nil, List.filterMap_map,
      List.filterMap_append]
    cases hpresent : journey.present.call? graph <;> simp [hpresent]

end Journey.Tells

theorem Leads.of_concat (h : Leads (entries ++ [.via transition]) current) :
    Leads entries transition.source ∧ current = transition.target ∧
      ∀ event, transition.trigger = .back event →
        LatestOther (entries.map Entry.state) transition.source transition.target := by
  generalize hall : entries ++ [.via transition] = all at h
  cases h with
  | start state =>
    obtain ⟨_, hlast⟩ := List.append_inj' (hall.trans (List.nil_append _).symm) rfl
    cases hlast
  | next hleads hback =>
    obtain ⟨rfl, hlast⟩ := List.append_inj' hall rfl
    have hsame := congrArg Entry.transition (List.singleton_inj.1 hlast)
    obtain rfl := Option.some.inj hsame
    exact ⟨hleads, rfl, hback⟩

namespace Course

theorem entries_journey_append (graph : Graph) (machine : Machine) (past actions : List Action) :
    (journey graph machine (past ++ actions)).entries =
      (journey graph machine past).entries ++
        ((((start machine).finish graph past).run graph actions).filterMap
          Moment.transition?).map .via := by
  simp only [journey, Journey.entries_ofMoments, run_append, List.filterMap_append,
    List.map_append, List.cons_append]

theorem Reachable.exists_finish (h : course.Reachable graph) :
    ∃ machine past, Machine.create graph = .ok machine ∧
      course = (Course.start machine).finish graph past := by
  induction h with
  | @start machine hcreate => exact ⟨machine, [], hcreate, rfl⟩
  | next action _ ih =>
    obtain ⟨machine, past, hcreate, rfl⟩ := ih
    exact ⟨machine, past ++ [action], hcreate, (finish_concat graph past action _).symm⟩

/-- From a state that waits, the first transition leads to an overlay and the second one back. -/
structure Excursion (graph : Graph) (there : Course) (actions : List Action)
    (out home : Transition) (resource : String) : Prop where
  waits : ∃ since, there.machine.phase = .waiting since
  transitions : (there.run graph actions).filterMap Moment.transition? = [out, home]
  forth : ∀ event, out.trigger ≠ .back event
  away : out.target ≠ there.machine.current
  overlay : ∃ state, graph.state? out.target = some state ∧ state.additive ∧
    state.resource = some resource
  back : ∃ event, home.trigger = .back event

structure Restores (resource : String) (there back : Course) : Prop where
  calls : back.calls = there.calls ++ [.load resource true, .unload resource]
  stage : back.stage.loaded = there.stage.loaded
  simulation : ∀ before after : Simulation, before.Performed there.calls →
    after.Performed back.calls → after.loaded = before.loaded

theorem restores_of_calls
    (h : back.calls = there.calls ++ [.load resource true, .unload resource]) :
    Restores resource there back := by
  have hloaded : back.calls.foldl Call.perform [] = there.calls.foldl Call.perform [] := by
    rw [h, List.foldl_append]
    exact eraseLast_append_self _ resource
  refine ⟨h, hloaded, fun before after hbefore hafter => ?_⟩
  rw [hbefore.loaded, hafter.loaded, hloaded]

namespace Excursion

variable (h : Excursion graph there actions out home resource)
include h

theorem call?_out : (Entry.via out).call? graph = some (.load resource true) := by
  obtain ⟨state, hstate, hadditive, hresource⟩ := h.overlay
  rw [Entry.call?_via_of_load (Transition.unload?_of_not_back h.forth) hstate hresource, hadditive]

theorem call?_home (hsource : home.source = out.target) :
    (Entry.via home).call? graph = some (.unload resource) := by
  obtain ⟨state, hstate, hadditive, hresource⟩ := h.overlay
  obtain ⟨event, hback⟩ := h.back
  have hunload : home.unload? graph = some resource := by
    simp [Transition.unload?, hback, hsource, hstate, hadditive, hresource]
  exact Entry.call?_via_of_unload hunload

theorem returns (hlast : (entries.map Entry.state).getLast? = some there.machine.current)
    (hleads : Leads (entries ++ [.via out] ++ [.via home]) current) :
    out.source = there.machine.current ∧ home.source = out.target ∧
      home.target = there.machine.current ∧ current = there.machine.current := by
  obtain ⟨event, hback⟩ := h.back
  obtain ⟨hforth, rfl, hlatest⟩ := hleads.of_concat
  obtain ⟨hbefore, hsource, _⟩ := hforth.of_concat
  have hout : out.source = there.machine.current :=
    Option.some.inj (hbefore.getLast?.symm.trans hlast)
  have hlatest := hlatest event hback
  -- The overlay is the last visit, so the latest other one is the last before it.
  rw [List.map_append, hsource] at hlatest
  have hhome : home.target = there.machine.current :=
    (latestOther_concat.1 hlatest).eq_of_ne hlast h.away.symm
  exact ⟨hout, hsource, hhome, hhome⟩

theorem entries_journey {past : List Action} (hthere : there = (start machine).finish graph past) :
    (journey graph machine (past ++ actions)).entries =
      (journey graph machine past).entries ++ [.via out] ++ [.via home] := by
  rw [entries_journey_append, ← hthere, h.transitions]
  simp

end Excursion

/-- From a state that waits a machine may go to an overlay and come back at the next transition,
whatever else happens meanwhile. It comes back to the same state, for which nothing is called but
the unload of the overlay. When that state waits again, and so at the end of any tick, the loaded
resources are those that were loaded before, be they loaded at once or simulated. -/
theorem excursion_restores (hreachable : there.Reachable graph)
    (h : Excursion graph there actions out home resource) :
    let back := there.finish graph actions
    out.source = there.machine.current ∧ home.source = out.target ∧
      home.target = there.machine.current ∧ back.machine.current = there.machine.current ∧
      (∀ since, back.machine.phase = .waiting since → Restores resource there back) ∧
      ∀ now ready, Restores resource there (back.react graph (.tick now ready)).after := by
  intro back
  obtain ⟨machine, past, hcreate, hthere⟩ := hreachable.exists_finish
  obtain ⟨since, hwaits⟩ := h.waits
  have hbefore := tells_journey hcreate past
  have hafter := tells_journey hcreate (past ++ actions)
  have hleads := leads_journey hcreate (past ++ actions)
  have hentries := h.entries_journey hthere
  rw [finish_append] at hafter
  rw [← hthere] at hbefore hafter
  have hlast : ((journey graph machine past).entries.map Entry.state).getLast? =
      some there.machine.current := by
    rw [hbefore.stands.current]
    exact (leads_journey hcreate past).getLast?
  dsimp only at hleads
  rw [hentries] at hleads
  obtain ⟨hout, hsource, hhome, hcurrent⟩ := h.returns hlast hleads
  have hcalls : (journey graph machine (past ++ actions)).entries.filterMap (·.call? graph) =
      there.calls ++ [.load resource true, .unload resource] := by
    rw [hentries, hbefore.calls_of_begun (hbefore.isBegun hwaits), List.append_assoc,
      List.filterMap_append]
    simp [h.call?_out, h.call?_home hsource]
  refine ⟨hout, hsource, hhome, hafter.stands.current.trans hcurrent, ?_, ?_⟩
  · intro again hagain
    exact restores_of_calls ((hafter.calls_of_begun (hafter.isBegun hagain)).trans hcalls)
  · intro now ready
    exact restores_of_calls ((hafter.calls_of_tick now ready).trans hcalls)

theorem excursion_restores_panels :
    let there := (start .inMenu).finish .panels [.tick 0 true]
    let actions : List Action := [.submit "open", .tick 1 true, .submit "open", .tick 2 false,
      .submit "close", .tick 3 true, .tick 4 true]
    there.stage.loaded = ["MenuScene"] ∧
      (there.finish .panels actions).machine.phase = .waiting 4 ∧
      (there.finish .panels actions).machine.current = there.machine.current ∧
      Restores "HelpScene" there (there.finish .panels actions) := by
  intro there actions
  have hcreate : Machine.create .panels = .ok .inMenu := rfl
  have hreachable : there.Reachable .panels := Reachable.finish (.start hcreate) _
  have hexcursion : Excursion .panels there actions
      ⟨⟨"menu"⟩, ⟨"help"⟩, .named ⟨"open"⟩, []⟩ ⟨⟨"help"⟩, ⟨"menu"⟩, .back ⟨"close"⟩, []⟩
      "HelpScene" :=
    { waits := ⟨0, by decide +kernel⟩
      transitions := by decide +kernel
      forth := nofun
      away := by decide +kernel
      overlay := ⟨_, rfl, rfl, rfl⟩
      back := ⟨⟨"close"⟩, rfl⟩ }
  have hloaded : there.stage.loaded = ["MenuScene"] := by decide +kernel
  have hwaits : (there.finish .panels actions).machine.phase = .waiting 4 := by decide +kernel
  obtain ⟨_, _, _, hcurrent, hrestores, _⟩ := excursion_restores hreachable hexcursion
  exact ⟨hloaded, hwaits, hcurrent, hrestores 4 hwaits⟩

end Course

end SceneFlow
