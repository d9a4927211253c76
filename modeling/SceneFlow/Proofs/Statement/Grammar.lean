import SceneFlow.Statement

/-!
The grammar of statements, told apart from the readers. A call is read exactly if the tokens begin
with one, and wherever a reader stops, it has taken no `;` before.
-/

namespace SceneFlow

variable {expected : Expected} {token name : Token} {tokens rest inside taken : List Token}
  {arguments : List String} {mark : Char} {stop : Stop}

inductive IsArguments : List Token → List String → Prop
  | last {token : Token} : isArgument token.text → IsArguments [token] [token.text]
  | more {token comma : Token} {tokens : List Token} {arguments : List String} :
      isArgument token.text → comma.isMark ',' → IsArguments tokens arguments →
      IsArguments (token :: comma :: tokens) (token.text :: arguments)

inductive IsInside : List Token → List String → Prop
  | nothing : IsInside [] []
  | arguments {tokens : List Token} {arguments : List String} :
      IsArguments tokens arguments → IsInside tokens arguments

inductive IsCall : List Token → Token → List String → Prop
  | call {name opening closing : Token} {inside : List Token} {arguments : List String} :
      isIdentifier name.text → opening.isMark '(' → IsInside inside arguments →
      closing.isMark ')' → IsCall (name :: opening :: (inside ++ [closing])) name arguments

inductive IsStatement : List Token → Token → List String → Prop
  | statement {call : List Token} {name terminator : Token} {arguments : List String} :
      IsCall call name arguments → terminator.isMark ';' →
      IsStatement (call ++ [terminator]) name arguments

def Unterminated (tokens : List Token) : Prop := ∀ token ∈ tokens, token.isMark ';' = false

namespace Token

theorem text_of_isMark (h : token.isMark mark) : token.text = String.singleton mark := by
  have hlist : token.text.toList = [mark] := eq_of_beq h
  exact String.toList_injective (by rw [hlist, String.toList_singleton])

theorem isMark_eq_false {other : Char} (h : token.isMark mark) (hother : other ≠ mark) :
    token.isMark other = false := by
  have hlist : token.text.toList = [mark] := eq_of_beq h
  simpa [isMark, hlist] using hother.symm

theorem isArgument_singleton (h : isPunctuation mark) :
    isArgument (String.singleton mark) = false := by
  simp only [isPunctuation, Bool.or_eq_true, beq_iff_eq] at h
  rcases h with ((rfl | rfl) | rfl) | rfl <;> decide

theorem isMark_of_isArgument (h : isArgument token.text) (hmark : isPunctuation mark) :
    token.isMark mark = false := by
  cases hnot : token.isMark mark with
  | false => rfl
  | true =>
    rw [text_of_isMark hnot, isArgument_singleton hmark] at h
    cases h

theorem isArgument_of_isIdentifier (h : isIdentifier token.text) : isArgument token.text := by
  simp [isArgument, h]

end Token

theorem unterminated_append {others : List Token} :
    Unterminated (tokens ++ others) ↔ Unterminated tokens ∧ Unterminated others :=
  List.forall_mem_append

theorem unterminated_cons :
    Unterminated (token :: tokens) ↔ token.isMark ';' = false ∧ Unterminated tokens :=
  List.forall_mem_cons

theorem IsArguments.unterminated (h : IsArguments tokens arguments) : Unterminated tokens := by
  induction h with
  | last htoken =>
    exact List.forall_mem_singleton.2 (Token.isMark_of_isArgument htoken (by decide))
  | more htoken hcomma _ ih =>
    rw [unterminated_cons, unterminated_cons]
    exact ⟨Token.isMark_of_isArgument htoken (by decide),
      Token.isMark_eq_false hcomma (by decide), ih⟩

theorem IsInside.unterminated (h : IsInside tokens arguments) : Unterminated tokens := by
  cases h with
  | nothing => exact List.forall_mem_nil _
  | arguments h => exact h.unterminated

theorem IsCall.unterminated (h : IsCall tokens name arguments) : Unterminated tokens := by
  cases h with
  | call hname hopening hinside hclosing =>
    rw [unterminated_cons, unterminated_cons, unterminated_append]
    exact ⟨Token.isMark_of_isArgument (Token.isArgument_of_isIdentifier hname) (by decide),
      Token.isMark_eq_false hopening (by decide), hinside.unterminated,
      List.forall_mem_singleton.2 (Token.isMark_eq_false hclosing (by decide))⟩

theorem takeToken_cons_of_admits (h : expected.admits token) :
    takeToken expected (token :: rest) = .ok (token, rest) := if_pos h

theorem takeToken_cons_of_not_admits (h : expected.admits token = false) :
    takeToken expected (token :: rest) = .error ⟨expected, token :: rest⟩ := by
  simp [takeToken, h]

theorem takeArguments_append (h : IsArguments inside arguments)
    (hrest : ∀ token ∈ rest.head?, token.isMark ',' = false) :
    takeArguments (inside ++ rest) = .ok (arguments, rest) := by
  induction h with
  | last htoken =>
    cases rest with
    | nil => simp [takeArguments, htoken]
    | cons next others => simp [takeArguments, htoken, hrest next rfl]
  | more htoken hcomma _ ih => simp [takeArguments, htoken, hcomma, ih]

theorem isArguments_of_takeArguments (h : takeArguments tokens = .ok (arguments, rest)) :
    ∃ inside, IsArguments inside arguments ∧ tokens = inside ++ rest := by
  fun_induction takeArguments tokens generalizing arguments rest with
  | case1 => cases h
  | case2 token htoken comma more hcomma others left hmore ih =>
    obtain ⟨inside, hinside, rfl⟩ := ih hmore
    cases h
    exact ⟨_, .more htoken hcomma hinside, rfl⟩
  | case3 => cases h
  | case4 token htoken comma more hcomma =>
    cases h
    exact ⟨_, .last htoken, rfl⟩
  | case5 token htoken =>
    cases h
    exact ⟨_, .last htoken, rfl⟩
  | case6 => cases h

theorem takeInParentheses_append {closing : Token} (h : IsInside inside arguments)
    (hclosing : closing.isMark ')') :
    takeInParentheses (inside ++ closing :: rest) = .ok (arguments, rest) := by
  have hlast : takeToken .closing (closing :: rest) = .ok (closing, rest) :=
    takeToken_cons_of_admits hclosing
  cases h with
  | nothing => simp [takeInParentheses, hlast]
  | arguments h =>
    have hrest : ∀ token ∈ (closing :: rest).head?, token.isMark ',' = false := by
      simpa using Token.isMark_eq_false hclosing (by decide)
    have hfirst : ∃ stop, takeToken .closing (inside ++ closing :: rest) = .error stop := by
      cases h with
      | last htoken =>
        exact ⟨_, takeToken_cons_of_not_admits (Token.isMark_of_isArgument htoken (by decide))⟩
      | more htoken _ _ =>
        exact ⟨_, takeToken_cons_of_not_admits (Token.isMark_of_isArgument htoken (by decide))⟩
    obtain ⟨stop, hstop⟩ := hfirst
    simp [takeInParentheses, hstop, takeArguments_append h hrest, hlast]

theorem isInside_of_takeInParentheses (h : takeInParentheses tokens = .ok (arguments, rest)) :
    ∃ inside closing, IsInside inside arguments ∧ closing.isMark ')' ∧
      tokens = inside ++ closing :: rest := by
  unfold takeInParentheses at h
  split at h
  · next closing left hclosing =>
    cases h
    obtain ⟨rfl, hmark⟩ := takeToken_eq_ok hclosing
    exact ⟨[], closing, .nothing, hmark, rfl⟩
  · split at h
    · cases h
    · next found left harguments =>
      obtain ⟨inside, hinside, rfl⟩ := isArguments_of_takeArguments harguments
      split at h
      · cases h
      · next closing more hclosing =>
        cases h
        obtain ⟨rfl, hmark⟩ := takeToken_eq_ok hclosing
        exact ⟨inside, closing, .arguments hinside, hmark, rfl⟩

theorem takeCall_eq_ok_iff :
    takeCall tokens = .ok ((name, arguments), rest) ↔
      ∃ call, IsCall call name arguments ∧ tokens = call ++ rest := by
  constructor
  · intro h
    unfold takeCall at h
    split at h
    · cases h
    · next hname =>
      obtain ⟨rfl, hidentifier⟩ := takeToken_eq_ok hname
      split at h
      · cases h
      · next hopen =>
        obtain ⟨rfl, hopening⟩ := takeToken_eq_ok hopen
        split at h
        · cases h
        · next hin =>
          obtain ⟨inside, closing, hinside, hclosing, rfl⟩ := isInside_of_takeInParentheses hin
          cases h
          exact ⟨_, .call hidentifier hopening hinside hclosing, by simp⟩
  · rintro ⟨call, hcall, rfl⟩
    cases hcall with
    | @call name opening closing inside arguments hidentifier hopening hinside hclosing =>
      have hname : takeToken .identifier (name :: opening :: (inside ++ closing :: rest)) =
          .ok (name, opening :: (inside ++ closing :: rest)) :=
        takeToken_cons_of_admits hidentifier
      have hopen : takeToken .opening (opening :: (inside ++ closing :: rest)) =
          .ok (opening, inside ++ closing :: rest) :=
        takeToken_cons_of_admits hopening
      simp [takeCall, hname, hopen, takeInParentheses_append hinside hclosing]

theorem not_isCall_append_of_takeCall (h : takeCall tokens = .error stop) {call : List Token} :
    IsCall call name arguments → tokens ≠ call ++ rest := by
  intro hcall htokens
  rw [takeCall_eq_ok_iff.2 ⟨call, hcall, htokens⟩] at h
  cases h

def Stop.Within (stop : Stop) (tokens : List Token) : Prop :=
  ∃ taken, Unterminated taken ∧ tokens = taken ++ stop.rest

theorem Stop.Within.append (h : stop.Within rest) (htaken : Unterminated taken) :
    stop.Within (taken ++ rest) := by
  obtain ⟨more, hmore, rfl⟩ := h
  exact ⟨taken ++ more, unterminated_append.2 ⟨htaken, hmore⟩, (List.append_assoc _ _ _).symm⟩

theorem Stop.Within.cons (h : stop.Within rest) (htoken : token.isMark ';' = false) :
    stop.Within (token :: rest) := by
  show stop.Within ([token] ++ rest)
  exact h.append (List.forall_mem_singleton.2 htoken)

theorem within_of_takeToken (h : takeToken expected tokens = .error stop) :
    stop.Within tokens := by
  obtain rfl := takeToken_eq_error h
  exact ⟨[], List.forall_mem_nil _, rfl⟩

theorem within_of_takeArguments (h : takeArguments tokens = .error stop) :
    stop.Within tokens := by
  fun_induction takeArguments tokens generalizing stop with
  | case1 =>
    cases h
    exact ⟨[], List.forall_mem_nil _, rfl⟩
  | case2 => cases h
  | case3 token htoken comma more hcomma found hmore ih =>
    cases h
    exact ((ih hmore).cons (Token.isMark_eq_false hcomma (by decide))).cons
      (Token.isMark_of_isArgument htoken (by decide))
  | case4 => cases h
  | case5 => cases h
  | case6 =>
    cases h
    exact ⟨[], List.forall_mem_nil _, rfl⟩

theorem within_of_takeInParentheses (h : takeInParentheses tokens = .error stop) :
    stop.Within tokens := by
  unfold takeInParentheses at h
  split at h
  · cases h
  · split at h
    · next harguments =>
      cases h
      exact within_of_takeArguments harguments
    · next harguments =>
      obtain ⟨inside, hinside, rfl⟩ := isArguments_of_takeArguments harguments
      split at h
      · next hclosing =>
        cases h
        exact (within_of_takeToken hclosing).append hinside.unterminated
      · cases h

theorem within_of_takeCall (h : takeCall tokens = .error stop) : stop.Within tokens := by
  unfold takeCall at h
  split at h
  · next hname =>
    cases h
    exact within_of_takeToken hname
  · next name others hname =>
    obtain ⟨rfl, hidentifier⟩ := takeToken_eq_ok hname
    have hidentifier : name.isMark ';' = false :=
      Token.isMark_of_isArgument (Token.isArgument_of_isIdentifier hidentifier) (by decide)
    split at h
    · next hopen =>
      cases h
      exact (within_of_takeToken hopen).cons hidentifier
    · next opening more hopen =>
      obtain ⟨rfl, hopening⟩ := takeToken_eq_ok hopen
      have hopening : opening.isMark ';' = false := Token.isMark_eq_false hopening (by decide)
      split at h
      · next hin =>
        cases h
        exact ((within_of_takeInParentheses hin).cons hopening).cons hidentifier
      · cases h

end SceneFlow
