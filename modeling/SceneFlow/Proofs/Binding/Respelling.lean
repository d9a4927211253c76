import SceneFlow.Proofs.Binding.Faults

/-!
Respelling. What commands are bound to depends on their keywords and arguments alone: the case in
which a keyword is spelled, and the lines, show up in nothing but the faults that tell of them.
-/

namespace SceneFlow

variable {commands others : List Command} {fault : Fault}

/-- A command without what its program text tells besides the keyword and the arguments. -/
def Command.plain (command : Command) : Command := .make command.keyword command.arguments

def Fault.plain : Fault → Fault
  | misfit command reason => .misfit command.plain reason
  | refilled command slot => .refilled command.plain slot
  | fault => fault

@[simp] theorem Fault.kind_plain (fault : Fault) : fault.plain.kind = fault.kind := by
  cases fault <;> rfl

theorem listing_map_plain (commands : List Command) :
    listing (commands.map Command.plain) = listing commands := by
  rw [listing, List.map_map]
  rfl

theorem schedule_map_plain (commands : List Command) :
    schedule (commands.map Command.plain) = (schedule commands).map Command.plain := by
  simp only [schedule, List.filter_map, List.map_flatMap]
  rfl

namespace Diagram

theorem misfit?_plain (diagram : Diagram) (command : Command) :
    diagram.misfit? command.plain = diagram.misfit? command := rfl

theorem told_plain (diagram : Diagram) (command : Command) :
    diagram.told command.plain = (diagram.told command).map Fault.plain := by
  rw [told, told, misfit?_plain]
  cases diagram.misfit? command with
  | some reason => rfl
  | none =>
    rw [List.map_map]
    rfl

end Diagram

namespace Draft

def plain (draft : Draft) : Draft := ⟨draft.diagram, draft.faults.map Fault.plain⟩

def after (earlier : List Fault) (draft : Draft) : Draft :=
  ⟨draft.diagram, earlier ++ draft.faults⟩

theorem bindNext_eq (draft : Draft) (command : Command) :
    draft.bindNext command =
      ⟨if (draft.diagram.misfit? command).isSome then draft.diagram
        else draft.diagram.assign command,
        draft.faults ++ draft.diagram.told command⟩ := by
  rw [bindNext, Diagram.told]
  cases draft.diagram.misfit? command <;> rfl

theorem bindNext_plain (draft : Draft) (command : Command) :
    draft.plain.bindNext command.plain = (draft.bindNext command).plain := by
  rw [bindNext_eq, bindNext_eq, plain, plain, List.map_append, ← Diagram.told_plain]
  rfl

theorem bindNext_after (earlier : List Fault) (draft : Draft) (command : Command) :
    (draft.after earlier).bindNext command = (draft.bindNext command).after earlier := by
  rw [bindNext_eq, bindNext_eq, after, after]
  simp only [List.append_assoc]

theorem foldl_bindNext_plain (several : List Command) (draft : Draft) :
    (several.map Command.plain).foldl bindNext draft.plain =
      (several.foldl bindNext draft).plain := by
  rw [List.foldl_map]
  exact List.foldl_hom plain bindNext_plain

theorem foldl_bindNext_after (several : List Command) (earlier : List Fault) (draft : Draft) :
    several.foldl bindNext (draft.after earlier) = (several.foldl bindNext draft).after earlier :=
  List.foldl_hom (after earlier) (bindNext_after earlier)

end Draft

theorem bindCommands_map_plain [Checksum] (commands : List Command) :
    bindCommands (commands.map Command.plain) [] =
      ((bindCommands commands []).1, (bindCommands commands []).2.map Fault.plain) := by
  have hdraft := Draft.foldl_bindNext_plain (schedule commands) ⟨.empty, []⟩
  have hstart : (Draft.mk .empty []).plain = ⟨.empty, []⟩ := rfl
  rw [hstart] at hdraft
  simp only [bindCommands_eq, draftAll, schedule_map_plain, listing_map_plain, hdraft, Draft.plain,
    List.length_map]

theorem bindCommands_earlier [Checksum] (commands : List Command) (earlier : List Fault) :
    bindCommands commands earlier =
      let bound := bindCommands commands []
      ({ bound.1 with errors := earlier.length + bound.2.length }, earlier ++ bound.2) := by
  have hdraft := Draft.foldl_bindNext_after (schedule commands) earlier ⟨.empty, []⟩
  have hstart : (Draft.mk .empty []).after earlier = ⟨.empty, earlier⟩ := by
    simp [Draft.after]
  rw [hstart] at hdraft
  simp only [bindCommands_eq, draftAll, hdraft, Draft.after, List.length_append]

theorem bindCommands_of_map_plain_eq [Checksum]
    (h : commands.map Command.plain = others.map Command.plain) :
    (bindCommands commands []).1 = (bindCommands others []).1 ∧
      (bindCommands commands []).2.map Fault.plain =
        (bindCommands others []).2.map Fault.plain := by
  have hbound := bindCommands_map_plain commands
  rw [h, bindCommands_map_plain, Prod.mk.injEq] at hbound
  exact ⟨hbound.1.symm, hbound.2.symm⟩

theorem kind_of_mem_bindCommands [Checksum] (h : fault ∈ (bindCommands commands []).2) :
    fault.kind = .signature ∨ fault.kind = .repetition := by
  obtain ⟨told, hfaults, htold⟩ := areFaultsOf_bindCommands commands []
  rw [hfaults, List.nil_append] at h
  obtain ⟨command, _, _, hkind⟩ := htold.told fault h
  rcases hkind with ⟨reason, rfl⟩ | ⟨slot, rfl⟩
  · exact .inl rfl
  · exact .inr rfl

end SceneFlow
