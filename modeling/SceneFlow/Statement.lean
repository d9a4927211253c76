import SceneFlow.Fault

/-!
Statements. A program is read statement by statement, by the grammar

    statement := IDENTIFIER '(' [ argument { ',' argument } ] ')' ';'
    argument  := IDENTIFIER | NUMBER

Where a token has no place in it, that is told as a fault, and reading goes on after the next `;`.
A statement with a keyword outside the vocabulary is told as a fault and makes no command.
-/

namespace SceneFlow

inductive Expected
  | identifier
  | argument
  | opening
  | closing
  | terminator
  deriving DecidableEq

def Expected.text : Expected → String
  | identifier => "<identifier>"
  | argument => "<identifier or number>"
  | opening => "("
  | closing => ")"
  | terminator => ";"

def Expected.admits (token : Token) : Expected → Bool
  | identifier => isIdentifier token.text
  | argument => isArgument token.text
  | opening => token.isMark '('
  | closing => token.isMark ')'
  | terminator => token.isMark ';'

/-- Where reading stopped: what was expected, and the tokens from the unexpected one on. -/
structure Stop where
  expected : Expected
  rest : List Token

def takeToken (expected : Expected) : List Token → Except Stop (Token × List Token)
  | [] => .error ⟨expected, []⟩
  | token :: rest =>
    if expected.admits token then .ok (token, rest) else .error ⟨expected, token :: rest⟩

def takeArguments : List Token → Except Stop (List String × List Token)
  | [] => .error ⟨.argument, []⟩
  | token :: rest =>
    if isArgument token.text then
      match rest with
      | comma :: more =>
        if comma.isMark ',' then
          match takeArguments more with
          | .ok (others, left) => .ok (token.text :: others, left)
          | .error stop => .error stop
        else .ok ([token.text], comma :: more)
      | [] => .ok ([token.text], [])
    else .error ⟨.argument, token :: rest⟩

def takeInParentheses (tokens : List Token) : Except Stop (List String × List Token) :=
  match takeToken .closing tokens with
  | .ok (_, rest) => .ok ([], rest)
  | .error _ =>
    match takeArguments tokens with
    | .error stop => .error stop
    | .ok (arguments, rest) =>
      match takeToken .closing rest with
      | .error stop => .error stop
      | .ok (_, rest) => .ok (arguments, rest)

def takeCall (tokens : List Token) : Except Stop ((Token × List String) × List Token) :=
  match takeToken .identifier tokens with
  | .error stop => .error stop
  | .ok (name, rest) =>
    match takeToken .opening rest with
    | .error stop => .error stop
    | .ok (_, rest) =>
      match takeInParentheses rest with
      | .error stop => .error stop
      | .ok (arguments, rest) => .ok ((name, arguments), rest)

structure Reading where
  commands : List Command
  faults : List Fault
  deriving DecidableEq

def Stop.fault (all : List Token) (stop : Stop) : Fault :=
  .unexpected (.around all (all.length - stop.rest.length)) stop.expected.text

def afterTerminator : List Token → List Token
  | [] => []
  | token :: rest => if token.isMark ';' then rest else afterTerminator rest

def readStatement (all tokens : List Token) : Reading × List Token :=
  match takeCall tokens with
  | .error stop => (⟨[], [stop.fault all]⟩, afterTerminator stop.rest)
  | .ok ((name, arguments), rest) =>
    let keyword := Keyword.ofWord? name.text
    let unknown : List Fault :=
      if keyword.isNone then
        [.unknownKeyword (.around all (all.length - tokens.length)) name.text]
      else []
    match takeToken .terminator rest with
    | .error stop => (⟨[], unknown ++ [stop.fault all]⟩, afterTerminator stop.rest)
    | .ok (_, rest) =>
      (⟨keyword.toList.map fun keyword => ⟨name.text, arguments, keyword, name.line⟩, unknown⟩,
        rest)

def leftOver {α : Type} : Except Stop (α × List Token) → List Token
  | .ok (_, rest) => rest
  | .error stop => stop.rest

theorem suffix_of_eq_ok {α : Type} {result : Except Stop (α × List Token)} {a : α}
    {tokens rest : List Token} (hs : leftOver result <:+ tokens) (h : result = .ok (a, rest)) :
    rest <:+ tokens := by
  subst h
  exact hs

theorem suffix_of_eq_error {α : Type} {result : Except Stop (α × List Token)} {stop : Stop}
    {tokens : List Token} (hs : leftOver result <:+ tokens) (h : result = .error stop) :
    stop.rest <:+ tokens := by
  subst h
  exact hs

theorem takeToken_eq_ok {expected : Expected} {tokens rest : List Token} {token : Token}
    (h : takeToken expected tokens = .ok (token, rest)) :
    tokens = token :: rest ∧ expected.admits token = true := by
  cases tokens with
  | nil => simp [takeToken] at h
  | cons first others =>
    by_cases ha : expected.admits first
    · simp only [takeToken, ha, if_true, Except.ok.injEq, Prod.mk.injEq] at h
      obtain ⟨rfl, rfl⟩ := h
      exact ⟨rfl, ha⟩
    · simp [takeToken, ha] at h

theorem takeToken_eq_error {expected : Expected} {tokens : List Token} {stop : Stop}
    (h : takeToken expected tokens = .error stop) : stop = ⟨expected, tokens⟩ := by
  cases tokens with
  | nil => exact (Except.error.inj h).symm
  | cons first others =>
    by_cases ha : expected.admits first
    · simp [takeToken, ha] at h
    · simp only [takeToken, ha] at h
      exact (Except.error.inj h).symm

theorem leftOver_takeToken (expected : Expected) (tokens : List Token) :
    leftOver (takeToken expected tokens) <:+ tokens := by
  cases h : takeToken expected tokens with
  | ok found =>
    obtain ⟨rfl, _⟩ := takeToken_eq_ok h
    exact List.suffix_cons _ _
  | error stop =>
    obtain rfl := takeToken_eq_error h
    exact List.suffix_refl _

theorem leftOver_takeArguments (tokens : List Token) :
    leftOver (takeArguments tokens) <:+ tokens := by
  fun_induction takeArguments tokens with
  | case1 => exact List.suffix_refl _
  | case2 token ha comma more hc others left hrec ih =>
    rw [hrec] at ih
    exact ih.trans ((List.suffix_cons _ _).trans (List.suffix_cons _ _))
  | case3 token ha comma more hc stop hrec ih =>
    rw [hrec] at ih
    exact ih.trans ((List.suffix_cons _ _).trans (List.suffix_cons _ _))
  | case4 => exact List.suffix_cons _ _
  | case5 => exact List.suffix_cons _ _
  | case6 => exact List.suffix_refl _

theorem leftOver_takeInParentheses (tokens : List Token) :
    leftOver (takeInParentheses tokens) <:+ tokens := by
  unfold takeInParentheses
  split
  · next h => exact suffix_of_eq_ok (leftOver_takeToken .closing tokens) h
  · have harguments := leftOver_takeArguments tokens
    split
    · next h => exact suffix_of_eq_error harguments h
    · next rest h =>
      have hrest := suffix_of_eq_ok harguments h
      split
      · next h => exact (suffix_of_eq_error (leftOver_takeToken .closing rest) h).trans hrest
      · next h => exact (suffix_of_eq_ok (leftOver_takeToken .closing rest) h).trans hrest

theorem leftOver_takeCall (tokens : List Token) : leftOver (takeCall tokens) <:+ tokens := by
  unfold takeCall
  have hname := leftOver_takeToken .identifier tokens
  split
  · next h => exact suffix_of_eq_error hname h
  · next rest h =>
    have hname := suffix_of_eq_ok hname h
    have hopen := leftOver_takeToken .opening rest
    split
    · next h => exact (suffix_of_eq_error hopen h).trans hname
    · next rest h =>
      have hopen := (suffix_of_eq_ok hopen h).trans hname
      have hinside := leftOver_takeInParentheses rest
      split
      · next h => exact (suffix_of_eq_error hinside h).trans hopen
      · next h => exact (suffix_of_eq_ok hinside h).trans hopen

theorem length_lt_of_takeCall {tokens rest : List Token} {call : Token × List String}
    (h : takeCall tokens = .ok (call, rest)) : rest.length < tokens.length := by
  unfold takeCall at h
  split at h
  · cases h
  · next others hname =>
    obtain ⟨rfl, _⟩ := takeToken_eq_ok hname
    split at h
    · cases h
    · next more hopen =>
      obtain ⟨rfl, _⟩ := takeToken_eq_ok hopen
      have hinside := leftOver_takeInParentheses more
      split at h
      · cases h
      · next left hleft =>
        obtain ⟨_, rfl⟩ := Prod.mk.inj (Except.ok.inj h)
        have := (suffix_of_eq_ok hinside hleft).length_le
        simp only [List.length_cons]
        omega

theorem length_afterTerminator (tokens : List Token) :
    (afterTerminator tokens).length ≤ tokens.length - 1 := by
  induction tokens with
  | nil => exact Nat.le_refl _
  | cons token rest ih =>
    unfold afterTerminator
    split
    · simp
    · simp only [List.length_cons]
      omega

theorem length_readStatement (all : List Token) {tokens : List Token} (h : tokens ≠ []) :
    (readStatement all tokens).2.length < tokens.length := by
  have hpos := List.length_pos_iff.2 h
  unfold readStatement
  split
  · next stop hcall =>
    have hleft := (suffix_of_eq_error (leftOver_takeCall tokens) hcall).length_le
    have hafter := length_afterTerminator stop.rest
    simp only
    omega
  · next name arguments rest hcall =>
    have hlt := length_lt_of_takeCall hcall
    simp only
    split
    · next stop hend =>
      obtain rfl := takeToken_eq_error hend
      have hafter := length_afterTerminator rest
      simp only
      omega
    · next hend =>
      obtain ⟨rfl, _⟩ := takeToken_eq_ok hend
      simp only [List.length_cons] at hlt
      simp only
      omega

def readStatements (all : List Token) : List Token → Reading
  | [] => ⟨[], []⟩
  | token :: rest =>
    let here := readStatement all (token :: rest)
    let there := readStatements all here.2
    ⟨here.1.commands ++ there.commands, here.1.faults ++ there.faults⟩
termination_by tokens => tokens.length
decreasing_by exact length_readStatement all (List.cons_ne_nil _ _)

def readTokens (tokens : List Token) : Reading := readStatements tokens tokens

end SceneFlow
