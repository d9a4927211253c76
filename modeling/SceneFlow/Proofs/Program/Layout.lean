import SceneFlow.Proofs.Binding.Respelling
import SceneFlow.Proofs.Statement.Recasing
import SceneFlow.Program

namespace SceneFlow

variable {command other : Command} {fault told : Fault} {draft again : Draft}
  {tokens others : List Token} {earlier found : List Fault} {commands written : List Command}

theorem map_eq_of_forall₂ {α β : Type} {related : α → α → Prop} {f : α → β} {items more : List α}
    (h : List.Forall₂ related items more)
    (hf : ∀ item other, related item other → f other = f item) : more.map f = items.map f := by
  have hmap := List.rel_map (fun item other hrelated => (hf item other hrelated).symm) h
  rw [List.forall₂_eq_eq_eq] at hmap
  exact hmap.symm

namespace Command.Alike

theorem plain (h : command.Alike tokens others other) : other.plain = command.plain := by
  cases h
  rfl

theorem keyword (h : command.Alike tokens others other) : other.keyword = command.keyword := by
  cases h
  rfl

theorem slots (h : command.Alike tokens others other) : other.slots = command.slots := by
  cases h
  rfl

theorem misfit? (h : command.Alike tokens others other) (diagram : Diagram) :
    diagram.misfit? other = diagram.misfit? command := by
  rw [← diagram.misfit?_plain, h.plain, diagram.misfit?_plain]

theorem assign (h : command.Alike tokens others other) (diagram : Diagram) :
    diagram.assign other = diagram.assign command := by
  cases h
  rfl

end Command.Alike

theorem Diagram.alike_told (diagram : Diagram) (h : command.Alike tokens others other) :
    List.Forall₂ (Fault.Alike tokens others) (diagram.told command) (diagram.told other) := by
  rw [told, told, h.misfit?, h.slots]
  cases diagram.misfit? command with
  | some reason => exact .cons (.misfit reason h) .nil
  | none =>
    rw [List.forall₂_map_left_iff, List.forall₂_map_right_iff]
    exact List.forall₂_same.2 fun slot _ => .refilled slot h

structure Draft.Matches (tokens others : List Token) (draft again : Draft) : Prop where
  diagram : again.diagram = draft.diagram
  faults : List.Forall₂ (Fault.Alike tokens others) draft.faults again.faults

namespace Draft.Matches

theorem bindNext (h : draft.Matches tokens others again)
    (hcommand : command.Alike tokens others other) :
    (draft.bindNext command).Matches tokens others (again.bindNext other) := by
  rw [bindNext_eq, bindNext_eq, h.diagram, hcommand.misfit?, hcommand.assign]
  exact ⟨rfl, List.rel_append h.faults (draft.diagram.alike_told hcommand)⟩

theorem bindAll (h : draft.Matches tokens others again)
    (hcommands : List.Forall₂ (Command.Alike tokens others) commands written) :
    (commands.foldl Draft.bindNext draft).Matches tokens others
      (written.foldl Draft.bindNext again) :=
  List.rel_foldl (fun _ _ h _ _ hcommand => h.bindNext hcommand) h hcommands

end Draft.Matches

theorem bindCommands_of_alike [Checksum]
    (h : List.Forall₂ (Command.Alike tokens others) commands written)
    (hearlier : List.Forall₂ (Fault.Alike tokens others) earlier found) :
    (bindCommands written found).1 = (bindCommands commands earlier).1 ∧
      List.Forall₂ (Fault.Alike tokens others) (bindCommands commands earlier).2
        (bindCommands written found).2 := by
  have hstart : (Draft.mk .empty earlier).Matches tokens others ⟨.empty, found⟩ := ⟨rfl, hearlier⟩
  have hdraft := hstart.bindAll (forall₂_schedule (fun _ _ => Command.Alike.keyword) h)
  have hlisting : listing written = listing commands := by
    rw [← listing_map_plain, map_eq_of_forall₂ h fun _ _ => Command.Alike.plain, listing_map_plain]
  rw [bindCommands_eq, bindCommands_eq]
  refine ⟨?_, hdraft.faults⟩
  simp only [draftAll, hdraft.diagram, hlisting, hdraft.faults.length_eq]

def Command.unplaced (command : Command) : Command := { command with line := 0 }

def Excerpt.unplaced (excerpt : Excerpt) : Excerpt := { excerpt with line := none }

def Fault.unplaced : Fault → Fault
  | unexpected place expected => .unexpected place.unplaced expected
  | unknownKeyword place name => .unknownKeyword place.unplaced name
  | misfit command reason => .misfit command.unplaced reason
  | refilled command slot => .refilled command.unplaced slot

theorem Excerpt.unplaced_around (tokens : List Token) (index : Nat) :
    (around tokens index).unplaced =
      let texts := tokens.map Token.text
      ⟨index, (texts.take index).drop (index - width), texts[index]?,
        (texts.drop (index + 1)).take width, none⟩ := by
  simp [around, unplaced, List.map_take, List.map_drop]

section

variable (htexts : others.map Token.text = tokens.map Token.text)
include htexts

theorem Excerpt.unplaced_of_texts (index : Nat) :
    (around others index).unplaced = (around tokens index).unplaced := by
  rw [unplaced_around, unplaced_around, htexts]

theorem text_of_getElem? {index : Nat} {token again : Token} (h : tokens[index]? = some token)
    (hagain : others[index]? = some again) : again.text = token.text := by
  have hplace := congrArg (·[index]?) htexts
  simpa [h, hagain] using hplace

theorem Command.Alike.unplaced (h : command.Alike tokens others other) :
    other.unplaced = command.unplaced := by
  cases h with
  | intro htoken hother =>
    rw [Command.unplaced, Command.unplaced, text_of_getElem? htexts htoken hother]

theorem Fault.Alike.unplaced (h : fault.Alike tokens others told) :
    told.unplaced = fault.unplaced := by
  cases h with
  | unexpected index expected =>
    rw [Fault.unplaced, Fault.unplaced, Excerpt.unplaced_of_texts htexts]
  | unknownKeyword htoken hother =>
    rw [Fault.unplaced, Fault.unplaced, Excerpt.unplaced_of_texts htexts,
      text_of_getElem? htexts htoken hother]
  | misfit reason hcommand => rw [Fault.unplaced, Fault.unplaced, hcommand.unplaced htexts]
  | refilled slot hcommand => rw [Fault.unplaced, Fault.unplaced, hcommand.unplaced htexts]

end

theorem Fault.Alike.kind (h : fault.Alike tokens others told) : told.kind = fault.kind := by
  cases h <;> rfl

namespace Program

/-- Sources whose tokens differ in the case of keywords at most make the same graph and the same
listing, of commands that have the same keywords and arguments, and the same faults are found at the
same places. If the tokens have the same texts, the programs differ in lines alone. -/
theorem layout_never_matters [Checksum] {source other : String}
    (h : Recased true (SceneFlow.tokens source) (SceneFlow.tokens other)) :
    let program := compile source
    let again := compile other
    again.graph = program.graph ∧
      again.commands.map Command.plain = program.commands.map Command.plain ∧
      again.listing = program.listing ∧
      again.faults.map Fault.kind = program.faults.map Fault.kind ∧
      List.Forall₂ (Fault.Alike (SceneFlow.tokens source) (SceneFlow.tokens other))
        program.faults again.faults ∧
      ((SceneFlow.tokens other).map Token.text = (SceneFlow.tokens source).map Token.text →
        again.commands.map Command.unplaced = program.commands.map Command.unplaced ∧
          again.faults.map Fault.unplaced = program.faults.map Fault.unplaced) := by
  intro program again
  obtain ⟨hcommands, hfaults⟩ := h.readTokens
  obtain ⟨hgraph, htold⟩ := bindCommands_of_alike hcommands hfaults
  have hplain := map_eq_of_forall₂ hcommands fun _ _ => Command.Alike.plain
  refine ⟨hgraph, hplain, ?_, map_eq_of_forall₂ htold fun _ _ => Fault.Alike.kind, htold, ?_⟩
  · rw [listing, listing, ← listing_map_plain, ← listing_map_plain program.commands]
    exact congrArg SceneFlow.listing hplain
  · intro htexts
    exact ⟨map_eq_of_forall₂ hcommands fun _ _ => Command.Alike.unplaced htexts,
      map_eq_of_forall₂ htold fun _ _ => Fault.Alike.unplaced htexts⟩

theorem layout_never_matters_hall :
    let source := "State(Hall) Room(Hall); Room(Hall); State(Hall);"
    let other := "STATE(Hall)\n Room(Hall); # a room\n room ( Hall ) ;state(Hall);"
    let program := compile source
    let again := compile other
    Recased true (SceneFlow.tokens source) (SceneFlow.tokens other) ∧
      program.faults.map Fault.line = [some 1, some 1] ∧
      again.faults.map Fault.line = [some 2, some 3] ∧
      again.faults.map Fault.kind = program.faults.map Fault.kind ∧
      again.graph = program.graph ∧ again.listing = program.listing := by
  intro source other program again
  have hrecased : Recased true (SceneFlow.tokens source) (SceneFlow.tokens other) := by
    decide +kernel
  obtain ⟨hgraph, _, hlisting, hkinds, _⟩ := layout_never_matters hrecased
  exact ⟨hrecased, by decide +kernel, by decide +kernel, hkinds, hgraph, hlisting⟩

end Program

end SceneFlow
