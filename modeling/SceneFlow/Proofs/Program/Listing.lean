import SceneFlow.Proofs.Binding.Respelling
import SceneFlow.Proofs.Statement.Printing
import SceneFlow.Program

namespace SceneFlow

variable {command : Command} {commands : List Command} {source : String}

def relisted (commands : List Command) : List Command :=
  commands.mapIdx fun i command =>
    ⟨command.keyword.spelling, command.arguments, command.keyword, i + 1⟩

theorem map_plain_relisted (commands : List Command) :
    (relisted commands).map Command.plain = commands.map Command.plain := by
  apply List.ext_getElem?
  intro i
  simp only [relisted, List.getElem?_map, List.getElem?_mapIdx, Option.map_map]
  rfl

theorem Command.readable_plain (h : ∀ argument ∈ command.arguments, isArgument argument) :
    command.plain.Readable := ⟨beq_self_eq_true _, h⟩

theorem readTokens_listing
    (h : ∀ command ∈ commands, ∀ argument ∈ command.arguments, isArgument argument) :
    readTokens (tokens (listing commands)) = ⟨relisted commands, []⟩ := by
  have hplain : ∀ command ∈ commands.map Command.plain, command.Readable :=
    List.forall_mem_map.2 fun command hcommand => Command.readable_plain (h command hcommand)
  have hread := readTokens_lines hplain
  have hlines : ((commands.map Command.plain).mapIdx fun i command =>
      { command with line := i + 1 }) = relisted commands := by
    apply List.ext_getElem?
    intro i
    simp only [relisted, List.getElem?_map, List.getElem?_mapIdx, Option.map_map]
    rfl
  rw [List.map_map, hlines] at hread
  exact hread

namespace Program

theorem isArgument_of_mem_compile [Checksum] (source : String) :
    ∀ command ∈ (compile source).commands, ∀ argument ∈ command.arguments, isArgument argument :=
  fun _ hcommand => (readable_of_mem_readTokens hcommand).arguments

theorem compile_listing [Checksum] (source : String) :
    compile (compile source).listing =
      let commands := relisted (compile source).commands
      ⟨commands, (bindCommands commands []).2, (bindCommands commands []).1⟩ := by
  have hread := readTokens_listing (isArgument_of_mem_compile source)
  rw [compile, listing, hread]

theorem listing_compile_listing [Checksum] (source : String) :
    (compile (compile source).listing).listing = (compile source).listing := by
  rw [compile_listing, listing, ← listing_map_plain, map_plain_relisted, listing_map_plain, listing]

theorem graph_compile_listing [Checksum] (source : String) :
    (compile (compile source).listing).graph =
      { (compile source).graph with
        errors := (compile (compile source).listing).faults.length } := by
  have hbound := (bindCommands_of_map_plain_eq (map_plain_relisted (compile source).commands)).1
  have hgraph : (compile source).graph = _ :=
    congrArg Prod.fst (bindCommands_earlier (compile source).commands
      (readTokens (tokens source)).faults)
  rw [compile_listing, hgraph]
  dsimp only
  rw [← errors_bindCommands, hbound]

theorem faults_compile_listing [Checksum] (source : String) :
    (compile (compile source).listing).faults.map Fault.plain =
      ((compile source).faults.filter fun fault =>
        fault.kind = .signature ∨ fault.kind = .repetition).map Fault.plain := by
  have hbound := (bindCommands_of_map_plain_eq (map_plain_relisted (compile source).commands)).2
  have hfaults : (compile source).faults =
      (readTokens (tokens source)).faults ++ (bindCommands (compile source).commands []).2 :=
    congrArg Prod.snd (bindCommands_earlier (compile source).commands
      (readTokens (tokens source)).faults)
  have hreading : (readTokens (tokens source)).faults.filter (fun fault =>
      fault.kind = .signature ∨ fault.kind = .repetition) = [] := by
    apply List.filter_eq_nil_iff.2
    intro fault hfault
    cases kind_of_mem_readTokens hfault with
    | inl hkind => simp [hkind]
    | inr hkind => simp [hkind]
  have hbinding : (bindCommands (compile source).commands []).2.filter (fun fault =>
      fault.kind = .signature ∨ fault.kind = .repetition) =
        (bindCommands (compile source).commands []).2 :=
    List.filter_eq_self.2 fun _ hfault => decide_eq_true (kind_of_mem_bindCommands hfault)
  rw [compile_listing, hfaults, List.filter_append, hreading, hbinding, List.nil_append]
  exact hbound

/-- Commands that are printed, by their keywords or as they are spelled, are read back from their
lines. So the listing of a compiled program is compiled to the same listing and, but for the number
of faults, the same graph, with the faults of binding as they were and no others. Lines are counted
without end here; those of fewer than `2 ^ 32` commands fit 32 bits. -/
theorem listing_round_trip [Checksum] :
    (∀ commands : List Command,
      (∀ command ∈ commands, ∀ argument ∈ command.arguments, isArgument argument) →
        readTokens (tokens (SceneFlow.listing commands)) =
          ⟨commands.mapIdx fun i command =>
            ⟨command.keyword.spelling, command.arguments, command.keyword, i + 1⟩, []⟩) ∧
      (∀ commands : List Command, (∀ command ∈ commands, command.Readable) →
        readTokens (tokens ("\n".intercalate (commands.map Command.text))) =
          ⟨commands.mapIdx fun i command => { command with line := i + 1 }, []⟩) ∧
      ∀ source,
        let program := compile source
        let again := compile program.listing
        again.listing = program.listing ∧
          again.graph = { program.graph with errors := again.faults.length } ∧
          again.faults.map Fault.kind = (program.faults.map Fault.kind).filter fun kind =>
            kind = .signature ∨ kind = .repetition := by
  refine ⟨fun _ => readTokens_listing, fun _ => readTokens_lines, ?_⟩
  intro source program again
  refine ⟨listing_compile_listing source, graph_compile_listing source, ?_⟩
  have hkinds := congrArg (List.map Fault.kind) (faults_compile_listing source)
  have hplain : Fault.kind ∘ Fault.plain = Fault.kind := funext Fault.kind_plain
  rw [List.map_map, List.map_map, hplain] at hkinds
  rw [List.filter_map]
  exact hkinds

theorem listing_round_trip_hall :
    readTokens (tokens "State(Hall);\nLogAll(-1.5e3, inf);") =
        ⟨[⟨"State", ["Hall"], .state, 1⟩, ⟨"LogAll", ["-1.5e3", "inf"], .logAll, 2⟩], []⟩ ∧
      readTokens (tokens "sTATE(Hall);\nlogall(-1.5e3, inf);") =
        ⟨[⟨"sTATE", ["Hall"], .state, 1⟩, ⟨"logall", ["-1.5e3", "inf"], .logAll, 2⟩], []⟩ := by
  let commands : List Command :=
    [⟨"sTATE", ["Hall"], .state, 7⟩, ⟨"logall", ["-1.5e3", "inf"], .logAll, 7⟩]
  have harguments : ∀ command ∈ commands, ∀ argument ∈ command.arguments, isArgument argument := by
    decide
  have hnames : ∀ command ∈ commands,
      Text.equalIgnoringCase command.keyword.spelling command.name := by
    decide
  obtain ⟨hlisting, htexts, _⟩ := listing_round_trip
  exact ⟨hlisting commands harguments,
    htexts commands fun command hcommand => ⟨hnames command hcommand, harguments command hcommand⟩⟩

end Program

end SceneFlow
