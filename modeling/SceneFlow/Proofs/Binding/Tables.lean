import Mathlib.Data.List.Nodup
import SceneFlow.Proofs.Binding.Directive

/-!
The tables of the binder. Every entry is filed under the name of its own, and the order of names
lists each of them once, whatever commands are bound. So the tables show the diagram that is drafted
from the same commands.
-/

namespace SceneFlow

variable {α : Type} {key : α → Name} {entries : List (Name × α)} {order : List Name}
  {name : Name} {item : α} {tables : Tables} {diagram : Diagram} {binder : Binder} {draft : Draft}

namespace Name

theorem perm_insertEntry (h : name ∉ entries.map Prod.fst) (value : α) :
    (insertEntry name value entries).Perm ((name, value) :: entries) := by
  induction entries with
  | nil => exact .refl _
  | cons first rest ih =>
    rw [List.map_cons, List.mem_cons, not_or] at h
    rw [insertEntry]
    split
    · exact .refl _
    · rw [if_neg h.1]
      exact ((ih h.2).cons first).trans (.swap (name, value) first rest)

theorem lookup_modifyEntry (name other : Name) (change : α → α) (entries : List (Name × α)) :
    (modifyEntry name change entries).lookup other =
      (entries.lookup other).map fun item => if other = name then change item else item := by
  induction entries with
  | nil => rfl
  | cons first rest ih =>
    obtain ⟨first, item⟩ := first
    have hfirst : (if first = name then (first, change item) else (first, item)) =
        (first, if first = name then change item else item) := by
      split <;> rfl
    rw [modifyEntry, List.map_cons, ← modifyEntry, hfirst, List.lookup_cons, List.lookup_cons, ih]
    split
    · next hsame => rw [Option.map_some, eq_of_beq hsame]
    · rfl

theorem map_fst_modifyEntry (name : Name) (change : α → α) (entries : List (Name × α)) :
    (modifyEntry name change entries).map Prod.fst = entries.map Prod.fst := by
  rw [modifyEntry, List.map_map]
  apply List.map_congr_left
  intro entry _
  exact (apply_ite Prod.fst _ _ _).trans (ite_self _)

theorem lookup_eq_some_iff (h : (entries.map Prod.fst).Nodup) :
    entries.lookup name = some item ↔ (name, item) ∈ entries := by
  induction entries with
  | nil => simp
  | cons first rest ih =>
    obtain ⟨first, value⟩ := first
    obtain ⟨hfirst, hrest⟩ := List.nodup_cons.1 h
    rw [List.lookup_cons, List.mem_cons, Prod.mk.injEq]
    split
    · next hsame =>
      obtain rfl : name = first := eq_of_beq hsame
      have hnot : (name, item) ∉ rest := fun hmem => hfirst (List.mem_map.2 ⟨_, hmem, rfl⟩)
      rw [or_iff_left hnot, and_iff_right rfl, Option.some_inj, eq_comm]
    · next hother =>
      rw [or_iff_right fun hboth => ne_of_beq_false hother hboth.1, ih hrest]

end Name

theorem find?_of_nodup {items : List α} (h : (items.map key).Nodup) (hitem : item ∈ items) :
    (items.find? fun other => key other = key item) = some item := by
  have hsome : (items.find? fun other => key other = key item).isSome :=
    List.find?_isSome.2 ⟨item, hitem, decide_eq_true rfl⟩
  obtain ⟨other, hother⟩ := Option.isSome_iff_exists.1 hsome
  have hsame := List.find?_some hother
  have hkey : key other = key item := of_decide_eq_true hsame
  rw [hother, List.inj_on_of_nodup_map h (List.mem_of_find?_eq_some hother) hitem hkey]

/-- Entries and an order of names that go together: each entry is filed under the name of its own,
and the order lists each of the names once. -/
structure Filed (key : α → Name) (entries : List (Name × α)) (order : List Name) : Prop where
  keyed : ∀ entry ∈ entries, key entry.2 = entry.1
  once : order.Nodup
  perm : order.Perm (entries.map Prod.fst)

namespace Filed

theorem nil : Filed key [] [] where
  keyed := nofun
  once := List.nodup_nil
  perm := .refl _

theorem distinct (h : Filed key entries order) : (entries.map Prod.fst).Nodup :=
  h.perm.nodup_iff.1 h.once

theorem mem_order_iff (h : Filed key entries order) (name : Name) :
    name ∈ order ↔ (entries.lookup name).isSome := by
  rw [h.perm.mem_iff]
  simp [List.lookup_isSome_iff]

theorem keyed_of_lookup (h : Filed key entries order) (hitem : entries.lookup name = some item) :
    key item = name :=
  h.keyed (name, item) ((Name.lookup_eq_some_iff h.distinct).1 hitem)

theorem insert (h : Filed key entries order) (hnew : ¬ (entries.lookup (key item)).isSome) :
    Filed key (Name.insertEntry (key item) item entries) (order ++ [key item]) := by
  rw [← h.mem_order_iff] at hnew
  have hperm := Name.perm_insertEntry (hnew ∘ h.perm.mem_iff.2) item
  refine ⟨?_, ?_, ?_⟩
  · intro entry hentry
    cases List.mem_cons.1 (hperm.mem_iff.1 hentry) with
    | inl hsame => rw [hsame]
    | inr hold => exact h.keyed entry hold
  · rw [← List.concat_eq_append]
    exact List.Nodup.concat hnew h.once
  · exact (List.perm_append_singleton _ _).trans ((h.perm.cons _).trans (hperm.map Prod.fst).symm)

theorem filterMap_insert (h : Filed key entries order)
    (hnew : ¬ (entries.lookup (key item)).isSome) :
    ((order ++ [key item]).filterMap fun name =>
        (Name.insertEntry (key item) item entries).lookup name) =
      (order.filterMap fun name => entries.lookup name) ++ [item] := by
  rw [← h.mem_order_iff] at hnew
  have hold : ∀ name ∈ order,
      (Name.insertEntry (key item) item entries).lookup name = entries.lookup name := by
    intro name hname
    rw [Name.lookup_insertEntry, if_neg (ne_of_mem_of_not_mem hname hnew)]
  rw [List.filterMap_append, List.filterMap_congr hold, List.filterMap_cons_some,
    List.filterMap_nil]
  rw [Name.lookup_insertEntry, if_pos rfl]

theorem modify (h : Filed key entries order) {change : α → α}
    (hchange : ∀ item, key (change item) = key item) :
    Filed key (Name.modifyEntry name change entries) order := by
  refine ⟨?_, h.once, Name.map_fst_modifyEntry name change entries ▸ h.perm⟩
  intro entry hentry
  obtain ⟨old, hold, rfl⟩ := List.mem_map.1 hentry
  split
  · exact (hchange old.2).trans (h.keyed old hold)
  · exact h.keyed old hold

theorem filterMap_modify (h : Filed key entries order) (change : α → α) :
    (order.filterMap fun other => (Name.modifyEntry name change entries).lookup other) =
      (order.filterMap fun other => entries.lookup other).map fun item =>
        if key item = name then change item else item := by
  rw [List.map_filterMap]
  apply List.filterMap_congr
  intro other _
  rw [Name.lookup_modifyEntry]
  apply Option.map_congr
  intro item hitem
  rw [h.keyed_of_lookup hitem]

theorem exists_lookup (h : Filed key entries order) (hname : name ∈ order) :
    ∃ item, entries.lookup name = some item :=
  Option.isSome_iff_exists.1 ((h.mem_order_iff name).1 hname)

theorem map_lookup (h : Filed key entries order) :
    order.map (fun name => entries.lookup name) =
      (order.filterMap fun name => entries.lookup name).map some := by
  rw [List.map_filterMap, eq_comm, List.filterMap_eq_map_iff_forall_eq_some]
  intro name hname
  obtain ⟨item, hitem⟩ := h.exists_lookup hname
  rw [hitem, Option.map_some]

theorem map_key (h : Filed key entries order) :
    (order.filterMap fun name => entries.lookup name).map key = order := by
  rw [List.map_filterMap]
  conv_rhs => rw [← List.filterMap_some (l := order)]
  apply List.filterMap_congr
  intro name hname
  obtain ⟨item, hitem⟩ := h.exists_lookup hname
  rw [hitem, Option.map_some, h.keyed_of_lookup hitem]

theorem find?_filterMap (h : Filed key entries order) (name : Name) :
    ((order.filterMap fun other => entries.lookup other).find? fun item => key item = name) =
      entries.lookup name := by
  cases hfiled : entries.lookup name with
  | some item =>
    have hmem : item ∈ order.filterMap fun other => entries.lookup other :=
      List.mem_filterMap.2 ⟨name, (h.mem_order_iff name).2 (hfiled ▸ rfl), hfiled⟩
    have honce : ((order.filterMap fun other => entries.lookup other).map key).Nodup := by
      rw [h.map_key]
      exact h.once
    rw [← h.keyed_of_lookup hfiled]
    exact find?_of_nodup honce hmem
  | none =>
    rw [List.find?_eq_none]
    intro item hitem hkey
    obtain ⟨other, _, hother⟩ := List.mem_filterMap.1 hitem
    have hsame : other = name := (h.keyed_of_lookup hother).symm.trans (of_decide_eq_true hkey)
    rw [hsame, hfiled] at hother
    cases hother

end Filed

structure Tables.Shows (tables : Tables) (diagram : Diagram) : Prop where
  states : Filed State.key tables.states tables.stateOrder
  events : Filed Event.key tables.events tables.eventOrder
  diagram : tables.diagram = diagram

namespace Tables

theorem shows_empty : empty.Shows .empty where
  states := .nil
  events := .nil
  diagram := rfl

namespace Shows

theorem state? (h : tables.Shows diagram) (key : Name) :
    diagram.state? key = tables.state? key := by
  rw [← h.diagram]
  exact h.states.find?_filterMap key

theorem event? (h : tables.Shows diagram) (key : Name) :
    diagram.event? key = tables.event? key := by
  rw [← h.diagram]
  exact h.events.find?_filterMap key

theorem lookup (h : tables.Shows diagram) : tables.lookup = diagram.lookup := by
  rw [Tables.lookup, Diagram.lookup, funext h.state?, funext h.event?, ← h.diagram]
  rfl

theorem declareState (h : tables.Shows diagram) (name : String) :
    (tables.declareState name).Shows (diagram.perform (.state name)) := by
  have hshown : diagram.state? (.of name) = tables.state? (State.declare name).key := h.state? _
  rw [Tables.declareState, Diagram.perform_state, hshown]
  by_cases hfound : (tables.state? (State.declare name).key).isSome
  · rw [if_pos hfound, if_pos hfound]
    exact h
  · rw [if_neg hfound, if_neg hfound, ← h.diagram]
    refine ⟨h.states.insert hfound, h.events, ?_⟩
    exact congrArg (fun states => { tables.diagram with states })
      (h.states.filterMap_insert hfound)

theorem declareEvent (h : tables.Shows diagram) (name : String) :
    (tables.declareEvent name).Shows (diagram.perform (.event name)) := by
  have hshown : diagram.event? (.of name) = tables.event? (Event.declare name).key := h.event? _
  rw [Tables.declareEvent, Diagram.perform_event, hshown]
  by_cases hfound : (tables.event? (Event.declare name).key).isSome
  · rw [if_pos hfound, if_pos hfound]
    exact h
  · rw [if_neg hfound, if_neg hfound, ← h.diagram]
    refine ⟨h.states, h.events.insert hfound, ?_⟩
    exact congrArg (fun events => { tables.diagram with events })
      (h.events.filterMap_insert hfound)

theorem modifyState (h : tables.Shows diagram) {change : State → State}
    (hchange : ∀ state, (change state).key = state.key) (key : Name) :
    (tables.modifyState key change).Shows (diagram.modifyState key change) := by
  refine ⟨h.states.modify hchange, h.events, ?_⟩
  rw [← h.diagram]
  exact congrArg (fun states => { tables.diagram with states }) (h.states.filterMap_modify change)

theorem setFlags (h : tables.Shows diagram) (keyword : Keyword) :
    { tables with flags := keyword.flags.foldl LogFlags.set tables.flags }.Shows
      (diagram.perform (.switches keyword.switches)) := by
  rw [← h.diagram, ← keyword.flags_eq_switches]
  exact ⟨h.states, h.events, rfl⟩

theorem assign (h : tables.Shows diagram) (command : Command) :
    (tables.assign command).Shows (diagram.assign command) := by
  obtain ⟨word, arguments, keyword, line⟩ := command
  -- Nothing is looked for past the third argument.
  rcases arguments with _ | ⟨first, _ | ⟨second, _ | ⟨third, _ | _⟩⟩⟩
  case cons.nil =>
    cases keyword
    case state => exact h.declareState first
    case event => exact h.declareEvent first
    case defineStart => exact ⟨h.states, h.events, h.diagram ▸ rfl⟩
    case defineError => exact ⟨h.states, h.events, h.diagram ▸ rfl⟩
    all_goals exact h.setFlags _
  case cons.cons.nil =>
    cases keyword
    case loadScene => exact h.modifyState (by intro; rfl) (.of first)
    case loadSceneAdditive => exact h.modifyState (by intro; rfl) (.of first)
    case backTransition => exact h.modifyState (by intro; rfl) (.of first)
    all_goals exact h.setFlags _
  case cons.cons.cons.nil =>
    cases keyword
    case timedTransition =>
      simp only [Tables.assign, Diagram.assign, Command.directive?]
      cases Number.Binary64.ofLiteral? third with
      | some seconds => exact h.modifyState (by intro; rfl) (.of first)
      | none => exact h
    case namedTransition => exact h.modifyState (by intro; rfl) (.of first)
    all_goals exact h.setFlags _
  all_goals cases keyword <;> exact h.setFlags _

end Shows

end Tables

structure Binder.Shows (binder : Binder) (draft : Draft) : Prop where
  tables : binder.tables.Shows draft.diagram
  faults : binder.faults = draft.faults

theorem Binder.Shows.bindNext (h : binder.Shows draft) (command : Command) :
    (binder.bindNext command).Shows (draft.bindNext command) := by
  rw [Binder.bindNext, Draft.bindNext, Diagram.misfit?, h.tables.lookup]
  cases draft.diagram.lookup.misfit? command with
  | some reason => exact ⟨h.tables, congrArg (· ++ _) h.faults⟩
  | none => exact ⟨h.tables.assign command, congrArg (· ++ _) h.faults⟩

theorem Binder.Shows.bindAll (h : binder.Shows draft) (commands : List Command) :
    (commands.foldl Binder.bindNext binder).Shows (commands.foldl Draft.bindNext draft) := by
  induction commands generalizing binder draft with
  | nil => exact h
  | cons command commands ih => exact ih (h.bindNext command)

def draftAll (commands : List Command) (earlier : List Fault) : Draft :=
  (schedule commands).foldl Draft.bindNext ⟨.empty, earlier⟩

theorem shows_bindAll (commands : List Command) (earlier : List Fault) :
    (bindAll commands earlier).Shows (draftAll commands earlier) :=
  .bindAll ⟨Tables.shows_empty, rfl⟩ (schedule commands)

theorem bindCommands_eq [Checksum] (commands : List Command) (earlier : List Fault) :
    bindCommands commands earlier =
      (⟨(draftAll commands earlier).diagram, Checksum.ofText (listing commands),
        (draftAll commands earlier).faults.length⟩, (draftAll commands earlier).faults) := by
  have h := shows_bindAll commands earlier
  rw [bindCommands, h.tables.diagram, h.faults]

end SceneFlow
