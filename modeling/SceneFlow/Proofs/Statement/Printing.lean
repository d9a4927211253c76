import SceneFlow.Proofs.Statement.Pieces
import SceneFlow.Proofs.Token.Word

/-!
Printed commands. A command is printed as a statement, and of several printed on lines of their own
each is read back from its line. Whatever is read can be printed in this way.
-/

namespace SceneFlow

variable {mark : Char} {name : Token} {arguments : List String} {piece tokens rest : List Token}
  {keyword : Keyword} {command : Command} {commands : List Command} {word : String}

theorem Token.isMark_singleton (mark : Char) (line : Nat) :
    Token.isMark ⟨String.singleton mark, line⟩ mark := by
  simp [isMark]

theorem scan_argument {argument : String} (h : isArgument argument) (hmark : isPunctuation mark)
    (line : Nat) (rest : List Char) :
    scan line (argument.toList ++ mark :: rest) = ⟨argument, line⟩ :: scan line (mark :: rest) := by
  rw [scan_word (isWord_of_isArgument h) hmark, String.ofList_toList]

theorem scan_arguments (h : ∀ argument ∈ arguments, isArgument argument) (hsome : arguments ≠ [])
    (hmark : isPunctuation mark) (line : Nat) (rest : List Char) :
    ∃ tokens, IsArguments tokens arguments ∧
      scan line ((", ".intercalate arguments).toList ++ mark :: rest) =
        tokens ++ scan line (mark :: rest) := by
  induction arguments with
  | nil => contradiction
  | cons argument others ih =>
    obtain ⟨hargument, hothers⟩ := List.forall_mem_cons.1 h
    cases others with
    | nil =>
      refine ⟨[⟨argument, line⟩], .last hargument, ?_⟩
      rw [String.intercalate_singleton, scan_argument hargument hmark, List.singleton_append]
    | cons next others =>
      obtain ⟨tokens, htokens, hscan⟩ := ih hothers (List.cons_ne_nil _ _)
      refine ⟨⟨argument, line⟩ :: ⟨String.singleton ',', line⟩ :: tokens,
        .more hargument (Token.isMark_singleton ',' line) htokens, ?_⟩
      have htext : (", ".intercalate (argument :: next :: others)).toList ++ mark :: rest =
          argument.toList ++ ',' :: ' ' ::
            ((", ".intercalate (next :: others)).toList ++ mark :: rest) := by
        simp [String.intercalate_cons_cons]
      rw [htext, scan_argument hargument rfl, scan_punctuation rfl, scan_space, hscan]
      rfl

theorem scan_inside (h : ∀ argument ∈ arguments, isArgument argument) (hmark : isPunctuation mark)
    (line : Nat) (rest : List Char) :
    ∃ tokens, IsInside tokens arguments ∧
      scan line ((", ".intercalate arguments).toList ++ mark :: rest) =
        tokens ++ scan line (mark :: rest) := by
  by_cases hnone : arguments = []
  · subst hnone
    exact ⟨[], .nothing, rfl⟩
  · obtain ⟨tokens, htokens, hscan⟩ := scan_arguments h hnone hmark line rest
    exact ⟨tokens, .arguments htokens, hscan⟩

theorem scan_statement (hname : isIdentifier word)
    (h : ∀ argument ∈ arguments, isArgument argument) (line : Nat) (rest : List Char) :
    ∃ piece, IsStatement piece ⟨word, line⟩ arguments ∧
      scan line ((Command.statement word arguments).toList ++ rest) = piece ++ scan line rest := by
  have hclosing : isPunctuation ')' := rfl
  obtain ⟨inside, hinside, hscan⟩ := scan_inside h hclosing line (';' :: rest)
  have hcall : IsCall _ ⟨word, line⟩ arguments :=
    .call hname (Token.isMark_singleton '(' line) hinside (Token.isMark_singleton ')' line)
  refine ⟨_, .statement hcall (Token.isMark_singleton ';' line), ?_⟩
  have htext : (Command.statement word arguments).toList ++ rest =
      word.toList ++ '(' :: ((", ".intercalate arguments).toList ++ ')' :: ';' :: rest) := by
    simp [Command.statement]
  rw [htext, scan_word (isWord_of_isIdentifier hname) rfl, String.ofList_toList,
    scan_punctuation rfl, hscan, scan_punctuation rfl, scan_punctuation rfl]
  simp

theorem readStatement_append (h : IsStatement piece name arguments)
    (hkeyword : keyword.Spells name.text) (all rest : List Token) :
    readStatement all (piece ++ rest) =
      (⟨[⟨name.text, arguments, keyword, name.line⟩], []⟩, rest) := by
  cases h with
  | @statement call name terminator arguments hcall hterminator =>
    have htake : takeCall (call ++ terminator :: rest) =
        .ok ((name, arguments), terminator :: rest) :=
      takeCall_eq_ok_iff.2 ⟨call, hcall, rfl⟩
    have hend : takeToken .terminator (terminator :: rest) = .ok (terminator, rest) :=
      takeToken_cons_of_admits hterminator
    rw [List.append_assoc, List.singleton_append]
    simp [readStatement, htake, hend, Keyword.ofWord?_eq_some_iff.2 hkeyword]

theorem readStatements_append (h : IsStatement piece name arguments)
    (hkeyword : keyword.Spells name.text) (all rest : List Token) :
    readStatements all (piece ++ rest) =
      let others := readStatements all rest
      ⟨⟨name.text, arguments, keyword, name.line⟩ :: others.commands, others.faults⟩ := by
  have hread := readStatement_append h hkeyword all rest
  obtain ⟨first, others, hpiece⟩ : ∃ first others, piece ++ rest = first :: others := by
    cases h with
    | statement hcall _ => cases hcall with
      | call _ _ _ _ => exact ⟨_, _, rfl⟩
  rw [hpiece] at hread ⊢
  rw [readStatements, hread]
  rfl

theorem inTable_alphabeticTable {code : Nat}
    (h : (0x41 ≤ code ∧ code ≤ 0x5A) ∨ (0x61 ≤ code ∧ code ≤ 0x7A)) :
    Text.inTable code Text.alphabeticTable := by
  rw [Text.alphabeticTable]
  cases h with
  | inl h =>
    rw [Text.inTable_cons_of_le _ h.2, decide_eq_true_iff]
    exact h.1
  | inr h =>
    rw [Text.inTable_cons_of_lt _ (by omega), Text.inTable_cons_of_le _ h.2, decide_eq_true_iff]
    exact h.1

theorem isAlphabetic_of_toLower {c : Char} (h : c.toLower.isLower) : Text.isAlphabetic c := by
  apply inTable_alphabeticTable
  by_cases hupper : c.val ≥ 'A'.val ∧ c.val ≤ 'Z'.val
  · exact .inl hupper
  · right
    have hsame : c.toLower = c := dif_neg hupper
    have hlower : (decide (c.val ≥ 'a'.val) && decide (c.val ≤ 'z'.val)) = true := hsame ▸ h
    simpa [UInt32.le_iff_toNat_le] using hlower

namespace Keyword

theorem isLower_spelling (keyword : Keyword) :
    (keyword.spelling.toList.map Char.toLower).all Char.isLower := by
  cases keyword <;> decide

theorem isIdentifier_of_spells (h : keyword.Spells word) : isIdentifier word := by
  have hsame := eq_of_beq h
  have hletters : ∀ c ∈ word.toList, Text.startsName c := by
    intro c hc
    have hlower := List.all_eq_true.1 keyword.isLower_spelling c.toLower
    rw [hsame] at hlower
    simp [Text.startsName, isAlphabetic_of_toLower (hlower (List.mem_map_of_mem hc))]
  rw [isIdentifier]
  split
  · next hempty =>
    rw [hempty] at hsame
    revert hsame
    cases keyword <;> decide
  · next first others hword =>
    rw [hword] at hletters
    obtain ⟨hfirst, hothers⟩ := List.forall_mem_cons.1 hletters
    rw [Bool.and_eq_true, List.all_eq_true]
    exact ⟨hfirst, fun c hc => Text.continuesName_of_startsName (hothers c hc)⟩

end Keyword

/-- A command as it may stand in a program: the name spells the keyword, and the arguments are
identifiers and numbers. -/
structure Command.Readable (command : Command) : Prop where
  name : command.keyword.Spells command.name
  arguments : ∀ argument ∈ command.arguments, isArgument argument

theorem readStatements_lines (h : ∀ command ∈ commands, command.Readable) (all : List Token)
    (line : Nat) :
    readStatements all (scan line ("\n".intercalate (commands.map Command.text)).toList) =
      ⟨commands.mapIdx fun i command => { command with line := i + line }, []⟩ := by
  induction commands generalizing line with
  | nil =>
    have hempty : scan line ("\n".intercalate (([] : List Command).map Command.text)).toList = [] :=
      scan_nil line
    rw [hempty, readStatements]
    rfl
  | cons command others ih =>
    obtain ⟨⟨hname, harguments⟩, hothers⟩ := List.forall_mem_cons.1 h
    have hidentifier := Keyword.isIdentifier_of_spells hname
    cases others with
    | nil =>
      obtain ⟨piece, hpiece, hscan⟩ := scan_statement hidentifier harguments line []
      rw [List.append_nil, scan_nil] at hscan
      rw [List.map_singleton, String.intercalate_singleton, Command.text, hscan,
        readStatements_append hpiece hname, readStatements]
      simp
    | cons next others =>
      obtain ⟨piece, hpiece, hscan⟩ := scan_statement hidentifier harguments line
        ('\n' :: ("\n".intercalate ((next :: others).map Command.text)).toList)
      have htext : ("\n".intercalate ((command :: next :: others).map Command.text)).toList =
          (Command.statement command.name command.arguments).toList ++
            '\n' :: ("\n".intercalate ((next :: others).map Command.text)).toList := by
        simp [String.intercalate_cons_cons, Command.text]
      rw [htext, hscan, readStatements_append hpiece hname, scan_newline, ih hothers]
      simp [List.mapIdx_cons, Nat.add_assoc, Nat.add_comm 1 line]

/-- The line of a command is its place, which fits 32 bits below `2 ^ 32` commands. -/
theorem readTokens_lines (h : ∀ command ∈ commands, command.Readable) :
    readTokens (SceneFlow.tokens ("\n".intercalate (commands.map Command.text))) =
      ⟨commands.mapIdx fun i command => { command with line := i + 1 }, []⟩ := by
  rw [readTokens, tokens_eq_scan]
  exact readStatements_lines h _ 1

theorem IsArguments.isArgument_of_mem {argument : String} (h : IsArguments tokens arguments)
    (hargument : argument ∈ arguments) : isArgument argument := by
  induction h with
  | last htoken => exact List.mem_singleton.1 hargument ▸ htoken
  | more htoken _ _ ih =>
    cases List.mem_cons.1 hargument with
    | inl hsame => exact hsame ▸ htoken
    | inr hlater => exact ih hlater

theorem IsStatement.isArgument_of_mem {argument : String} (h : IsStatement tokens name arguments)
    (hargument : argument ∈ arguments) : isArgument argument := by
  cases h with
  | statement hcall _ => cases hcall with
    | call _ _ hinside _ => cases hinside with
      | nothing => cases hargument
      | arguments hinside => exact hinside.isArgument_of_mem hargument

theorem exists_readings (tokens : List Token) :
    ∃ readings : List Reading, (∀ reading ∈ readings, ∃ piece, ReadsAs piece reading) ∧
      readTokens tokens =
        ⟨readings.flatMap Reading.commands, readings.flatMap Reading.faults⟩ := by
  obtain ⟨readings, hreads, htokens⟩ := readStatements_eq tokens tokens
  refine ⟨readings, ?_, htokens⟩
  clear htokens
  generalize pieces tokens = several at hreads
  induction hreads with
  | nil => exact List.forall_mem_nil _
  | cons hreading _ ih => exact List.forall_mem_cons.2 ⟨⟨_, hreading⟩, ih⟩

theorem readable_of_mem_readTokens (h : command ∈ (readTokens tokens).commands) :
    command.Readable := by
  obtain ⟨readings, hreadings, htokens⟩ := exists_readings tokens
  rw [htokens] at h
  obtain ⟨reading, hreading, hcommand⟩ := List.mem_flatMap.1 h
  obtain ⟨piece, hpiece⟩ := hreadings reading hreading
  cases hpiece with
  | command hstatement hkeyword =>
    rw [List.mem_singleton.1 hcommand]
    exact ⟨hkeyword, fun _ => hstatement.isArgument_of_mem⟩
  | unknown _ _ => cases hcommand
  | broken _ _ => cases hcommand
  | unknownBroken _ _ => cases hcommand

theorem kind_of_mem_readTokens {fault : Fault} (h : fault ∈ (readTokens tokens).faults) :
    fault.kind = .grammar ∨ fault.kind = .vocabulary := by
  obtain ⟨readings, hreadings, htokens⟩ := exists_readings tokens
  rw [htokens] at h
  obtain ⟨reading, hreading, hfault⟩ := List.mem_flatMap.1 h
  obtain ⟨piece, hpiece⟩ := hreadings reading hreading
  cases hpiece with
  | command _ _ => cases hfault
  | unknown _ _ =>
    rw [List.mem_singleton.1 hfault]
    exact .inr rfl
  | broken _ _ =>
    rw [List.mem_singleton.1 hfault]
    exact .inl rfl
  | unknownBroken _ _ =>
    rcases List.mem_cons.1 hfault with rfl | hfault
    · exact .inr rfl
    · rw [List.mem_singleton.1 hfault]
      exact .inl rfl

end SceneFlow
