import Mathlib.Data.List.Forall2
import SceneFlow.Proofs.Statement.Grammar

/-!
Reading by pieces. A token list falls into pieces, each of which ends with its first `;`, and what
is read of a piece depends on this piece alone. Wherever a reader stops, reading goes on with the
next piece, so no fault swallows a statement that follows it, and none splits one.
-/

namespace SceneFlow

variable {token name : Token} {tokens rest taken piece call : List Token}
  {arguments : List String} {word : String} {all : List Token} {reading : Reading}

namespace Keyword

/-- Only the case of the letters `A` to `Z` is free in a keyword. -/
def Spells (keyword : Keyword) (word : String) : Prop :=
  Text.equalIgnoringCase keyword.spelling word

theorem eq_of_spells_spelling {keyword other : Keyword} (h : keyword.Spells other.spelling) :
    keyword = other := by
  have hall : ∀ keyword ∈ all, ∀ other ∈ all, Text.equalIgnoringCase keyword.spelling
      other.spelling → keyword = other := by decide +kernel
  exact hall keyword (mem_all keyword) other (mem_all other) h

theorem eq_of_spells {keyword other : Keyword} (h : keyword.Spells word)
    (hother : other.Spells word) : keyword = other := by
  have h := eq_of_beq h
  have hother := eq_of_beq hother
  exact eq_of_spells_spelling (beq_iff_eq.2 (h.trans hother.symm))

theorem spells_of_ofWord? {keyword : Keyword} (h : ofWord? word = some keyword) :
    keyword.Spells word :=
  List.find?_some (p := fun keyword : Keyword => Text.equalIgnoringCase keyword.spelling word) h

theorem ofWord?_eq_some_iff {keyword : Keyword} :
    ofWord? word = some keyword ↔ keyword.Spells word := by
  constructor
  · exact spells_of_ofWord?
  · intro h
    cases hword : ofWord? word with
    | none => exact absurd h (List.find?_eq_none.1 hword keyword (mem_all keyword))
    | some other => rw [eq_of_spells h (spells_of_ofWord? hword)]

theorem ofWord?_eq_none_iff : ofWord? word = none ↔ ∀ keyword : Keyword, ¬ keyword.Spells word := by
  simp [Option.eq_none_iff_forall_ne_some, ofWord?_eq_some_iff]

end Keyword

def firstPiece : List Token → List Token
  | [] => []
  | token :: rest => if token.isMark ';' then [token] else token :: firstPiece rest

def pieces : List Token → List (List Token)
  | [] => []
  | token :: rest =>
    if token.isMark ';' then [token] :: pieces rest
    else
      match pieces rest with
      | [] => [[token]]
      | piece :: others => (token :: piece) :: others

/-- A piece begins with a call that has no keyword. -/
def OpensUnknown (piece : List Token) (name : Token) : Prop :=
  ∃ call rest arguments, IsCall call name arguments ∧ piece = call ++ rest ∧
    ∀ keyword : Keyword, ¬ keyword.Spells name.text

inductive ReadsAs (piece : List Token) : Reading → Prop
  | command {name : Token} {arguments : List String} {keyword : Keyword} :
      IsStatement piece name arguments → keyword.Spells name.text →
      ReadsAs piece ⟨[⟨name.text, arguments, keyword, name.line⟩], []⟩
  | unknown {name : Token} {arguments : List String} {place : Excerpt} :
      IsStatement piece name arguments → (∀ keyword : Keyword, ¬ keyword.Spells name.text) →
      ReadsAs piece ⟨[], [.unknownKeyword place name.text]⟩
  | broken {place : Excerpt} {expected : String} :
      (∀ name arguments, ¬ IsStatement piece name arguments) →
      (∀ name, ¬ OpensUnknown piece name) →
      ReadsAs piece ⟨[], [.unexpected place expected]⟩
  | unknownBroken {name : Token} {place further : Excerpt} {expected : String} :
      (∀ name arguments, ¬ IsStatement piece name arguments) →
      OpensUnknown piece name →
      ReadsAs piece ⟨[], [.unknownKeyword place name.text, .unexpected further expected]⟩

theorem firstPiece_append_afterTerminator (tokens : List Token) :
    firstPiece tokens ++ afterTerminator tokens = tokens := by
  induction tokens with
  | nil => rfl
  | cons token rest ih =>
    unfold firstPiece afterTerminator
    split
    · rfl
    · rw [List.cons_append, ih]

theorem pieces_cons (token : Token) (rest : List Token) :
    pieces (token :: rest) =
      firstPiece (token :: rest) :: pieces (afterTerminator (token :: rest)) := by
  induction rest generalizing token with
  | nil => by_cases h : token.isMark ';' <;> simp [pieces, firstPiece, afterTerminator, h]
  | cons next others ih =>
    rw [pieces, firstPiece, afterTerminator]
    split
    · rfl
    · rw [ih next]

theorem flatten_pieces (tokens : List Token) : (pieces tokens).flatten = tokens := by
  induction tokens with
  | nil => rfl
  | cons token rest ih =>
    rw [pieces]
    split
    · rw [List.flatten_cons, ih, List.singleton_append]
    · split
      · next h => rw [← ih, h, List.flatten_singleton, List.flatten_nil]
      · next h => rw [← ih, h, List.flatten_cons, List.flatten_cons, List.cons_append]

theorem afterTerminator_append (h : Unterminated taken) :
    afterTerminator (taken ++ rest) = afterTerminator rest := by
  induction taken with
  | nil => rfl
  | cons token taken ih =>
    obtain ⟨htoken, htaken⟩ := unterminated_cons.1 h
    simp [afterTerminator, htoken, ih htaken]

theorem firstPiece_append (h : Unterminated taken) :
    firstPiece (taken ++ rest) = taken ++ firstPiece rest := by
  induction taken with
  | nil => rfl
  | cons token taken ih =>
    obtain ⟨htoken, htaken⟩ := unterminated_cons.1 h
    simp [firstPiece, htoken, ih htaken]

theorem readStatement_snd (all tokens : List Token) :
    (readStatement all tokens).2 = afterTerminator tokens := by
  unfold readStatement
  split
  · next stop hcall =>
    obtain ⟨taken, htaken, htokens⟩ := within_of_takeCall hcall
    rw [htokens, afterTerminator_append htaken]
  · next name arguments rest hread =>
    obtain ⟨call, hcall, rfl⟩ := takeCall_eq_ok_iff.1 hread
    rw [afterTerminator_append hcall.unterminated]
    dsimp only
    split
    · next hend =>
      obtain rfl := takeToken_eq_error hend
      rfl
    · next hend =>
      obtain ⟨rfl, hterminator⟩ := takeToken_eq_ok hend
      exact (if_pos hterminator).symm

theorem isCall_unique {other rest' : List Token} {name' : Token} {arguments' : List String}
    (h : IsCall call name arguments) (hother : IsCall other name' arguments')
    (hsame : call ++ rest = other ++ rest') :
    name = name' ∧ arguments = arguments' ∧ rest = rest' := by
  have hread : takeCall (call ++ rest) = .ok ((name, arguments), rest) :=
    takeCall_eq_ok_iff.2 ⟨call, h, rfl⟩
  rw [takeCall_eq_ok_iff.2 ⟨other, hother, hsame⟩] at hread
  cases hread
  exact ⟨rfl, rfl, rfl⟩

theorem rest_of_isStatement {name' : Token} {arguments' : List String}
    (hcall : IsCall call name arguments) (h : IsStatement (call ++ rest) name' arguments') :
    name = name' ∧ ∃ terminator, terminator.isMark ';' ∧ rest = [terminator] := by
  generalize hpiece : call ++ rest = piece at h
  cases h with
  | statement hother hterminator =>
    obtain ⟨hname, _, hrest⟩ := isCall_unique hcall hother hpiece
    exact ⟨hname, _, hterminator, hrest⟩

theorem not_isStatement_of_takeToken {stop : Stop} (hcall : IsCall call name arguments)
    (hend : takeToken .terminator rest = .error stop) (name' : Token) (arguments' : List String) :
    ¬ IsStatement (call ++ firstPiece rest) name' arguments' := by
  intro h
  obtain ⟨_, terminator, hterminator, hrest⟩ := rest_of_isStatement hcall h
  cases rest with
  | nil => simp [firstPiece] at hrest
  | cons token rest =>
    have htoken : token.isMark ';' = false := by
      cases hmark : token.isMark ';' with
      | false => rfl
      | true =>
        have hadmits : Expected.terminator.admits token := hmark
        rw [takeToken_cons_of_admits hadmits] at hend
        cases hend
    simp only [firstPiece, htoken, Bool.false_eq_true, if_false, List.cons.injEq] at hrest
    rw [hrest.1, hterminator] at htoken
    cases htoken

theorem readsAs_readStatement (all tokens : List Token) :
    ReadsAs (firstPiece tokens) (readStatement all tokens).1 := by
  have hsplit := firstPiece_append_afterTerminator tokens
  unfold readStatement
  split
  · next stop hcall =>
    have hnone : ∀ call rest name arguments, IsCall call name arguments →
        firstPiece tokens ≠ call ++ rest := by
      intro call rest name arguments h hpiece
      rw [hpiece, List.append_assoc] at hsplit
      exact not_isCall_append_of_takeCall hcall h hsplit.symm
    apply ReadsAs.broken
    · generalize hpiece : firstPiece tokens = piece
      rintro name arguments ⟨h, _⟩
      exact hnone _ _ _ _ h hpiece
    · rintro name ⟨call, rest, arguments, h, hpiece, _⟩
      exact hnone _ _ _ _ h hpiece
  · next name arguments rest hread =>
    obtain ⟨call, hcall, rfl⟩ := takeCall_eq_ok_iff.1 hread
    rw [firstPiece_append hcall.unterminated]
    dsimp only
    split
    · next stop hend =>
      have hnone := not_isStatement_of_takeToken hcall hend
      cases hword : Keyword.ofWord? name.text with
      | none =>
        exact .unknownBroken hnone
          ⟨call, _, arguments, hcall, rfl, Keyword.ofWord?_eq_none_iff.1 hword⟩
      | some keyword =>
        apply ReadsAs.broken hnone
        rintro name' ⟨other, rest', arguments', hother, hpiece, hunknown⟩
        obtain ⟨rfl, _, _⟩ := isCall_unique hcall hother hpiece
        exact hunknown keyword (Keyword.ofWord?_eq_some_iff.1 hword)
    · next hend =>
      obtain ⟨rfl, hterminator⟩ := takeToken_eq_ok hend
      have hterminator : Token.isMark _ ';' = true := hterminator
      have hstatement := IsStatement.statement hcall hterminator
      rw [firstPiece, if_pos hterminator]
      cases hword : Keyword.ofWord? name.text with
      | none => exact .unknown hstatement (Keyword.ofWord?_eq_none_iff.1 hword)
      | some keyword => exact .command hstatement (Keyword.ofWord?_eq_some_iff.1 hword)

theorem faults_of_readsAs (h : ReadsAs piece reading) :
    reading.faults = [] ↔ ∃ name arguments, ∃ keyword : Keyword,
      IsStatement piece name arguments ∧ keyword.Spells name.text := by
  cases h with
  | command hstatement hspells => exact iff_of_true rfl ⟨_, _, _, hstatement, hspells⟩
  | @unknown name arguments _ hstatement hunknown =>
    refine iff_of_false (List.cons_ne_nil _ _) ?_
    rintro ⟨name', arguments', keyword, hother, hspells⟩
    cases hstatement with
    | statement hcall _ =>
      obtain ⟨rfl, _⟩ := rest_of_isStatement hcall hother
      exact hunknown keyword hspells
  | broken hnone _ =>
    refine iff_of_false (List.cons_ne_nil _ _) ?_
    rintro ⟨name, arguments, _, hstatement, _⟩
    exact hnone name arguments hstatement
  | unknownBroken hnone _ =>
    refine iff_of_false (List.cons_ne_nil _ _) ?_
    rintro ⟨name, arguments, _, hstatement, _⟩
    exact hnone name arguments hstatement

theorem faults_of_forall₂ {several : List (List Token)} {readings : List Reading}
    (h : List.Forall₂ ReadsAs several readings) :
    readings.flatMap Reading.faults = [] ↔
      ∀ piece ∈ several, ∃ name arguments, ∃ keyword : Keyword,
        IsStatement piece name arguments ∧ keyword.Spells name.text := by
  induction h with
  | nil => simp
  | cons hreading _ ih =>
    rw [List.forall_mem_cons, ← ih, ← faults_of_readsAs hreading, List.flatMap_cons,
      List.append_eq_nil_iff]

theorem readStatements_eq (all tokens : List Token) :
    ∃ readings, List.Forall₂ ReadsAs (pieces tokens) readings ∧
      readStatements all tokens =
        ⟨readings.flatMap Reading.commands, readings.flatMap Reading.faults⟩ := by
  -- Each statement takes the first piece, whole, and leaves the other ones.
  fun_induction readStatements all tokens with
  | case1 => exact ⟨[], .nil, rfl⟩
  | case2 token rest here there ih =>
    obtain ⟨readings, hreads, hthere⟩ := ih
    rw [readStatement_snd] at hreads
    refine ⟨here.1 :: readings, ?_, ?_⟩
    · rw [pieces_cons]
      exact .cons (readsAs_readStatement all _) hreads
    · simp only [there, hthere, List.flatMap_cons]

/-- A token list is read piece by piece, from the first piece to the last, each by the grammar. No
fault is found exactly if every piece is a statement with a keyword. -/
theorem readTokens_by_pieces (tokens : List Token) :
    (pieces tokens).flatten = tokens ∧
      (∃ readings, List.Forall₂ ReadsAs (pieces tokens) readings ∧
        readTokens tokens =
          ⟨readings.flatMap Reading.commands, readings.flatMap Reading.faults⟩) ∧
      ((readTokens tokens).faults = [] ↔
        ∀ piece ∈ pieces tokens, ∃ name arguments, ∃ keyword : Keyword,
          IsStatement piece name arguments ∧ keyword.Spells name.text) := by
  obtain ⟨readings, hreads, htokens⟩ := readStatements_eq tokens tokens
  refine ⟨flatten_pieces tokens, ⟨readings, hreads, htokens⟩, ?_⟩
  rw [readTokens, htokens]
  exact faults_of_forall₂ hreads

example :
    let reading := readTokens (SceneFlow.tokens "Room(Hall) State(Attic); state(Hall);")
    reading.faults.map Fault.kind = [.vocabulary, .grammar] ∧
      reading.commands = [⟨"state", ["Hall"], .state, 1⟩] := by
  decide +kernel

end SceneFlow
