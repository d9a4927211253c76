import Mathlib.Data.List.Induction
import SceneFlow.Proofs.Statement.Pieces

/-!
Places in a statement. As tokens come in, a statement goes from place to place, and each place tells
what may come next. Some statement begins with the tokens exactly if there is a place that they lead
to. The readers stop where no place comes next, so what was taken before a fault begins a statement,
and does no longer once the token at the fault is added.
-/

namespace SceneFlow

variable {expected : Expected} {token name : Token} {tokens rest taken front all : List Token}
  {arguments : List String} {stop : Stop} {fault : Fault}

def BeginsStatement (tokens : List Token) : Prop :=
  ∃ rest name arguments, IsStatement (tokens ++ rest) name arguments

inductive Place
  | start
  | opening
  /-- Behind the opening parenthesis. -/
  | inside
  /-- Behind a comma. -/
  | argument
  /-- Behind an argument. -/
  | further
  | terminator
  | done
  deriving DecidableEq

namespace Place

variable {place reached middle : Place}

def next? (token : Token) : Place → Option Place
  | start => if isIdentifier token.text then some opening else none
  | opening => if token.isMark '(' then some inside else none
  | inside =>
    if token.isMark ')' then some terminator
    else if isArgument token.text then some further else none
  | argument => if isArgument token.text then some further else none
  | further =>
    if token.isMark ')' then some terminator
    else if token.isMark ',' then some argument else none
  | terminator => if token.isMark ';' then some done else none
  | done => none

def after? (place : Place) : List Token → Option Place
  | [] => some place
  | token :: tokens => (place.next? token).bind fun next => next.after? tokens

/-- What is told to be expected at a place, though other tokens may be possible as well. -/
def expected? : Place → Option Expected
  | start => some .identifier
  | opening => some .opening
  | inside | argument => some .argument
  | further => some .closing
  | terminator => some .terminator
  | done => none

theorem after?_append (place : Place) (tokens others : List Token) :
    place.after? (tokens ++ others) =
      (place.after? tokens).bind fun reached => reached.after? others := by
  induction tokens generalizing place with
  | nil => rfl
  | cons token tokens ih => simp only [List.cons_append, after?, ih, Option.bind_assoc]

theorem after?_singleton (place : Place) (token : Token) :
    place.after? [token] = place.next? token := by
  simp [after?]

theorem isSome_next?_of_admits (h : place.expected? = some expected)
    (hadmits : expected.admits token) : (place.next? token).isSome := by
  cases place with
  | inside =>
    cases h
    have hargument : isArgument token.text := hadmits
    rw [next?, if_pos hargument]
    split <;> rfl
  | start | opening | argument | further | terminator =>
    cases h
    exact Option.isSome_of_eq_some (if_pos hadmits)
  | done => cases h

theorem next?_inside (h : token.isMark ')' = false) :
    inside.next? token = argument.next? token := by
  rw [next?, h]
  rfl

theorem next?_inside_of_isArgument (h : isArgument token.text) :
    inside.next? token = argument.next? token :=
  next?_inside (Token.isMark_of_isArgument h (by decide))

theorem after?_of_isArguments (h : IsArguments tokens arguments) :
    argument.after? tokens = some further := by
  induction h with
  | last htoken => simp [after?, next?, htoken]
  | @more token comma _ _ htoken hcomma _ ih =>
    have hnot : comma.isMark ')' = false := Token.isMark_eq_false hcomma (by decide)
    simp [after?, next?, htoken, hcomma, hnot, ih]

theorem after?_inside_of_isArguments (h : IsArguments tokens arguments) :
    inside.after? tokens = some further := by
  have hargument := after?_of_isArguments h
  cases h with
  | last htoken => rwa [after?, next?_inside_of_isArgument htoken]
  | more htoken _ _ => rwa [after?, next?_inside_of_isArgument htoken]

theorem after?_of_isCall (h : IsCall tokens name arguments) :
    start.after? tokens = some terminator := by
  cases h with
  | call hname hopening hinside hclosing =>
    cases hinside with
    | nothing => simp [after?, next?, hname, hopening, hclosing]
    | arguments hinside =>
      simp [after?, next?, hname, hopening, hclosing, after?_append,
        after?_inside_of_isArguments hinside]

theorem after?_of_isStatement (h : IsStatement tokens name arguments) :
    start.after? tokens = some done := by
  cases h with
  | statement hcall hterminator =>
    simp [after?_append, after?_of_isCall hcall, after?, next?, hterminator]

theorem next?_eq_some (h : place.next? token = some reached) :
    match place with
    | start => isIdentifier token.text ∧ reached = opening
    | opening => token.isMark '(' ∧ reached = inside
    | inside => token.isMark ')' ∧ reached = terminator ∨ isArgument token.text ∧ reached = further
    | argument => isArgument token.text ∧ reached = further
    | further => token.isMark ')' ∧ reached = terminator ∨ token.isMark ',' ∧ reached = argument
    | terminator => token.isMark ';' ∧ reached = done
    | done => False := by
  cases place <;> grind [next?]

theorem after?_cons_eq_some (h : place.after? (token :: tokens) = some reached) :
    ∃ next, place.next? token = some next ∧ next.after? tokens = some reached :=
  Option.bind_eq_some_iff.1 h

def IsEnd (tokens : List Token) : Prop :=
  ∃ closing terminator : Token, tokens = [closing, terminator] ∧
    closing.isMark ')' ∧ terminator.isMark ';'

theorem eq_singleton_of_terminator (h : terminator.after? tokens = some done) :
    ∃ token : Token, tokens = [token] ∧ token.isMark ';' := by
  cases tokens with
  | nil => cases h
  | cons token tokens =>
    obtain ⟨next, hnext, hrest⟩ := after?_cons_eq_some h
    obtain ⟨hmark, rfl⟩ := next?_eq_some hnext
    cases tokens with
    | nil => exact ⟨token, rfl, hmark⟩
    | cons _ _ => cases hrest

theorem isEnd_cons (hclosing : token.isMark ')') (h : terminator.after? tokens = some done) :
    IsEnd (token :: tokens) := by
  obtain ⟨last, rfl, hlast⟩ := eq_singleton_of_terminator h
  exact ⟨token, last, rfl, hclosing, hlast⟩

theorem exists_isArguments (h : argument.after? tokens = some done) :
    ∃ front ending arguments, tokens = front ++ ending ∧ IsArguments front arguments ∧
      IsEnd ending := by
  -- Behind each argument there is another token: it ends the arguments, or one more follows.
  induction tokens using List.twoStepInduction with
  | nil => cases h
  | singleton token =>
    obtain ⟨next, hnext, hrest⟩ := after?_cons_eq_some h
    obtain ⟨_, rfl⟩ := next?_eq_some hnext
    cases hrest
  | cons_cons token other rest ih _ =>
    obtain ⟨next, hnext, hothers⟩ := after?_cons_eq_some h
    obtain ⟨htoken, rfl⟩ := next?_eq_some hnext
    obtain ⟨next, hother, hrest⟩ := after?_cons_eq_some hothers
    rcases next?_eq_some hother with ⟨hclosing, rfl⟩ | ⟨hcomma, rfl⟩
    · exact ⟨[token], other :: rest, _, rfl, .last htoken, isEnd_cons hclosing hrest⟩
    · obtain ⟨front, ending, arguments, rfl, hfront, hending⟩ := ih hrest
      exact ⟨token :: other :: front, ending, _, rfl, .more htoken hcomma hfront, hending⟩

theorem exists_isInside (h : inside.after? tokens = some done) :
    ∃ front ending arguments, tokens = front ++ ending ∧ IsInside front arguments ∧
      IsEnd ending := by
  cases tokens with
  | nil => cases h
  | cons token tokens =>
    obtain ⟨next, hnext, hrest⟩ := after?_cons_eq_some h
    rcases next?_eq_some hnext with ⟨hclosing, rfl⟩ | ⟨htoken, rfl⟩
    · exact ⟨[], token :: tokens, [], rfl, .nothing, isEnd_cons hclosing hrest⟩
    · have hargument : argument.after? (token :: tokens) = some done := by
        rwa [after?, next?_inside_of_isArgument htoken] at h
      obtain ⟨front, ending, arguments, htokens, hfront, hending⟩ := exists_isArguments hargument
      exact ⟨front, ending, arguments, htokens, .arguments hfront, hending⟩

theorem isStatement_of_done (h : start.after? tokens = some done) :
    ∃ name arguments, IsStatement tokens name arguments := by
  cases tokens with
  | nil => cases h
  | cons name tokens =>
    obtain ⟨next, hnext, hrest⟩ := after?_cons_eq_some h
    obtain ⟨hname, rfl⟩ := next?_eq_some hnext
    cases tokens with
    | nil => cases hrest
    | cons opening tokens =>
      obtain ⟨next, hnext, hrest⟩ := after?_cons_eq_some hrest
      obtain ⟨hopening, rfl⟩ := next?_eq_some hnext
      obtain ⟨front, _, arguments, rfl, hfront, closing, terminator, rfl, hclosing, hterminator⟩ :=
        exists_isInside hrest
      refine ⟨name, arguments, ?_⟩
      simpa using IsStatement.statement (.call hname hopening hfront hclosing) hterminator

theorem exists_after?_eq_done (place : Place) : ∃ tokens, place.after? tokens = some done := by
  let word : Token := ⟨"word", 1⟩
  let ending : List Token := [⟨")", 1⟩, ⟨";", 1⟩]
  cases place with
  | start => exact ⟨word :: ⟨"(", 1⟩ :: ending, by decide⟩
  | opening => exact ⟨⟨"(", 1⟩ :: ending, by decide⟩
  | inside | further => exact ⟨ending, by decide⟩
  | argument => exact ⟨word :: ending, by decide⟩
  | terminator => exact ⟨[⟨";", 1⟩], by decide⟩
  | done => exact ⟨[], rfl⟩

theorem beginsStatement_iff : BeginsStatement tokens ↔ (start.after? tokens).isSome := by
  constructor
  · rintro ⟨rest, name, arguments, h⟩
    have hdone := after?_of_isStatement h
    rw [after?_append, Option.bind_eq_some_iff] at hdone
    obtain ⟨reached, hreached, _⟩ := hdone
    exact Option.isSome_of_eq_some hreached
  · intro h
    obtain ⟨reached, hreached⟩ := Option.isSome_iff_exists.1 h
    obtain ⟨rest, hrest⟩ := exists_after?_eq_done reached
    have hdone : start.after? (tokens ++ rest) = some done := by
      rw [after?_append, hreached, Option.bind_some, hrest]
    exact ⟨rest, isStatement_of_done hdone⟩

end Place

instance (tokens : List Token) : Decidable (BeginsStatement tokens) :=
  decidable_of_iff _ Place.beginsStatement_iff.symm

/-- A stop at a token that no place comes next for, or behind all tokens before the end. -/
def Stop.StuckFrom (place : Place) (stop : Stop) (tokens : List Token) : Prop :=
  ∃ taken reached, tokens = taken ++ stop.rest ∧ place.after? taken = some reached ∧
    reached.expected? = some stop.expected ∧
    ∀ token ∈ stop.rest.head?, reached.next? token = none

namespace Stop.StuckFrom

variable {place middle : Place}

theorem append (h : stop.StuckFrom middle rest) (hfront : place.after? front = some middle) :
    stop.StuckFrom place (front ++ rest) := by
  obtain ⟨taken, reached, rfl, htaken, hstop⟩ := h
  refine ⟨front ++ taken, reached, (List.append_assoc _ _ _).symm, ?_, hstop⟩
  rw [Place.after?_append, hfront, Option.bind_some, htaken]

theorem here (hexpected : place.expected? = some expected)
    (htokens : ∀ token ∈ tokens.head?, place.next? token = none) :
    StuckFrom place ⟨expected, tokens⟩ tokens :=
  ⟨[], place, rfl, rfl, hexpected, htokens⟩

theorem inside (h : stop.StuckFrom .argument tokens)
    (hclosing : ∀ token ∈ tokens.head?, token.isMark ')' = false) :
    stop.StuckFrom .inside tokens := by
  obtain ⟨taken, reached, rfl, htaken, hexpected, hrest⟩ := h
  cases taken with
  | nil =>
    cases htaken
    refine ⟨[], .inside, rfl, rfl, hexpected, fun token htoken => ?_⟩
    rw [Place.next?_inside (hclosing token htoken), hrest token htoken]
  | cons first taken =>
    have hfirst := hclosing first (by simp)
    rw [Place.after?, ← Place.next?_inside hfirst] at htaken
    exact ⟨first :: taken, reached, rfl, htaken, hexpected, hrest⟩

end Stop.StuckFrom

theorem not_admits_of_takeToken (h : takeToken expected tokens = .error stop) :
    ∀ token ∈ tokens.head?, expected.admits token = false := by
  intro token htoken
  obtain ⟨rest, rfl⟩ := List.head?_eq_some_iff.1 htoken
  by_contra hadmits
  rw [takeToken_cons_of_admits (by simpa using hadmits)] at h
  cases h

theorem stuckFrom_of_takeToken {place : Place} (hexpected : place.expected? = some expected)
    (honly : ∀ token, expected.admits token = false → place.next? token = none)
    (h : takeToken expected tokens = .error stop) : stop.StuckFrom place tokens := by
  have hnot := not_admits_of_takeToken h
  obtain rfl := takeToken_eq_error h
  exact .here hexpected fun token htoken => honly token (hnot token htoken)

theorem not_comma_of_takeArguments (h : takeArguments tokens = .ok (arguments, rest)) :
    ∀ token ∈ rest.head?, token.isMark ',' = false := by
  fun_induction takeArguments tokens generalizing arguments rest with
  | case1 => cases h
  | case2 token htoken comma more hcomma others left hmore ih =>
    cases h
    exact ih hmore
  | case3 => cases h
  | case4 token htoken comma more hcomma =>
    cases h
    simpa using hcomma
  | case5 =>
    cases h
    simp
  | case6 => cases h

theorem stuckFrom_of_takeArguments (h : takeArguments tokens = .error stop) :
    stop.StuckFrom .argument tokens := by
  fun_induction takeArguments tokens generalizing stop with
  | case1 =>
    cases h
    exact .here rfl (by simp)
  | case2 => cases h
  | case3 token htoken comma more hcomma found hmore ih =>
    cases h
    have hnot : comma.isMark ')' = false := Token.isMark_eq_false hcomma (by decide)
    have hfront : Place.argument.after? [token, comma] = some .argument := by
      simp [Place.after?, Place.next?, htoken, hcomma, hnot]
    exact (ih hmore).append hfront
  | case4 => cases h
  | case5 => cases h
  | case6 token rest hnot =>
    cases h
    refine .here rfl fun other hother => ?_
    cases hother
    exact if_neg hnot

theorem stuckFrom_of_takeInParentheses (h : takeInParentheses tokens = .error stop) :
    stop.StuckFrom .inside tokens := by
  unfold takeInParentheses at h
  split at h
  · cases h
  · next first hfirst =>
    split at h
    · next harguments =>
      cases h
      exact (stuckFrom_of_takeArguments harguments).inside (not_admits_of_takeToken hfirst)
    · next arguments rest harguments =>
      have hcomma := not_comma_of_takeArguments harguments
      obtain ⟨front, hfront, rfl⟩ := isArguments_of_takeArguments harguments
      split at h
      · next hclosing =>
        cases h
        have hnot := not_admits_of_takeToken hclosing
        obtain rfl := takeToken_eq_error hclosing
        refine .append (.here rfl fun token htoken => ?_)
          (Place.after?_inside_of_isArguments hfront)
        have hmark : token.isMark ')' = false := hnot token htoken
        simp [Place.next?, hmark, hcomma token htoken]
      · cases h

theorem stuckFrom_of_takeCall (h : takeCall tokens = .error stop) :
    stop.StuckFrom .start tokens := by
  unfold takeCall at h
  split at h
  · next hname =>
    cases h
    exact stuckFrom_of_takeToken rfl (fun _ hnot => if_neg (Bool.eq_false_iff.1 hnot)) hname
  · next name others hname =>
    obtain ⟨rfl, hidentifier⟩ := takeToken_eq_ok hname
    have hfirst : Place.start.after? [name] = some .opening := by
      rw [Place.after?_singleton]
      exact if_pos hidentifier
    split at h
    · next hopen =>
      cases h
      have hstuck : stop.StuckFrom .opening others :=
        stuckFrom_of_takeToken rfl (fun _ hnot => if_neg (Bool.eq_false_iff.1 hnot)) hopen
      exact hstuck.append hfirst
    · next opening more hopen =>
      obtain ⟨rfl, hopening⟩ := takeToken_eq_ok hopen
      have hopening : Place.opening.after? [opening] = some .inside := by
        rw [Place.after?_singleton]
        exact if_pos hopening
      split at h
      · next hin =>
        cases h
        exact ((stuckFrom_of_takeInParentheses hin).append hopening).append hfirst
      · cases h

theorem exists_stop_of_mem_faults (h : fault ∈ (readStatement all tokens).1.faults)
    (hkind : fault.kind = .grammar) :
    ∃ stop : Stop, fault = stop.fault all ∧ stop.StuckFrom .start tokens ∧ stop.Within tokens := by
  unfold readStatement at h
  split at h
  · next stop hcall =>
    exact ⟨stop, List.mem_singleton.1 h, stuckFrom_of_takeCall hcall, within_of_takeCall hcall⟩
  · next name arguments rest hread =>
    obtain ⟨call, hcall, rfl⟩ := takeCall_eq_ok_iff.1 hread
    have hunknown : ∀ place word, fault ≠ .unknownKeyword place word := by
      rintro place word rfl
      cases hkind
    dsimp only at h
    split at h
    · next stop hend =>
      have hstop : fault = stop.fault all := by
        cases hword : Keyword.ofWord? name.text <;> simpa [hword, hunknown] using h
      have hstuck : stop.StuckFrom .terminator rest :=
        stuckFrom_of_takeToken rfl (fun _ hnot => if_neg (Bool.eq_false_iff.1 hnot)) hend
      exact ⟨stop, hstop, hstuck.append (Place.after?_of_isCall hcall),
        (within_of_takeToken hend).append hcall.unterminated⟩
    · cases hword : Keyword.ofWord? name.text <;> simp [hword, hunknown] at h

theorem exists_piece_of_mem_faults (h : fault ∈ (readStatements all tokens).faults) :
    ∃ earlier left, left ≠ [] ∧ pieces tokens = earlier ++ pieces left ∧
      fault ∈ (readStatement all left).1.faults := by
  fun_induction readStatements all tokens with
  | case1 => cases h
  | case2 token rest here there ih =>
    rcases List.mem_append.1 h with hhere | hthere
    · exact ⟨[], token :: rest, List.cons_ne_nil _ _, rfl, hhere⟩
    · obtain ⟨earlier, left, hleft, hpieces, hfault⟩ := ih hthere
      rw [readStatement_snd] at hpieces
      exact ⟨firstPiece (token :: rest) :: earlier, left, hleft,
        by rw [pieces_cons, hpieces, List.cons_append], hfault⟩

theorem pieces_of_ne_nil (h : tokens ≠ []) :
    pieces tokens = firstPiece tokens :: pieces (afterTerminator tokens) := by
  obtain ⟨token, rest, rfl⟩ := List.exists_cons_of_ne_nil h
  exact pieces_cons token rest

theorem exists_admits (expected : Expected) : ∃ token, expected.admits token := by
  cases expected with
  | identifier | argument => exact ⟨⟨"word", 1⟩, by decide⟩
  | opening => exact ⟨⟨"(", 1⟩, by decide⟩
  | closing => exact ⟨⟨")", 1⟩, by decide⟩
  | terminator => exact ⟨⟨";", 1⟩, by decide⟩

theorem Stop.StuckFrom.begins (h : stop.StuckFrom .start (taken ++ stop.rest)) :
    BeginsStatement taken ∧
      (∀ token, stop.expected.admits token → BeginsStatement (taken ++ [token])) ∧
      (∀ token ∈ stop.rest.head?, ¬ BeginsStatement (taken ++ [token])) ∧
      ∀ name arguments, ¬ IsStatement taken name arguments := by
  obtain ⟨front, reached, hsame, hfront, hexpected, hrest⟩ := h
  obtain rfl := List.append_cancel_right hsame
  have hnext (token : Token) :
      BeginsStatement (taken ++ [token]) ↔ (reached.next? token).isSome := by
    rw [Place.beginsStatement_iff, Place.after?_append, hfront, Option.bind_some,
      Place.after?_singleton]
  refine ⟨Place.beginsStatement_iff.2 (Option.isSome_of_eq_some hfront), ?_, ?_, ?_⟩
  · exact fun token hadmits => (hnext token).2 (Place.isSome_next?_of_admits hexpected hadmits)
  · intro token htoken
    simp [hnext, hrest token htoken]
  · intro name arguments hstatement
    rw [Place.after?_of_isStatement hstatement] at hfront
    cases hfront
    cases hexpected

theorem head?_firstPiece (tokens : List Token) : (firstPiece tokens).head? = tokens.head? := by
  cases tokens with
  | nil => rfl
  | cons token rest =>
    rw [firstPiece]
    split <;> rfl

namespace Stop

theorem fault_append (stop : Stop) (front : List Token) :
    stop.fault (front ++ stop.rest) =
      .unexpected (.around (front ++ stop.rest) front.length) stop.expected.text := by
  rw [fault, List.length_append, Nat.add_sub_cancel]

theorem line_fault_append (stop : Stop) (front : List Token) :
    (stop.fault (front ++ stop.rest)).line =
      (stop.rest.head?.or (front ++ stop.rest).getLast?).map Token.line := by
  have hplace : (front ++ stop.rest)[front.length]? = stop.rest.head? := by
    rw [List.getElem?_append_right (Nat.le_refl _), Nat.sub_self, List.head?_eq_getElem?]
  rw [fault_append, ← hplace]
  rfl

end Stop

/-- A fault of the grammar is told at the first token that no statement goes on with, or at the end
of all tokens if the last statement breaks off there. What stands before it in its piece begins a
statement, and goes on beginning one with any token of the kind that is told to be expected. The
line is that of the token, or of the last token. -/
theorem fault_at_first_impossible_token (h : fault ∈ (readTokens tokens).faults)
    (hkind : fault.kind = .grammar) :
    ∃ earlier piece later taken left, ∃ expected : Expected,
      pieces tokens = earlier ++ piece :: later ∧ piece = taken ++ left ∧
      tokens = (earlier.flatten ++ taken) ++ (left ++ later.flatten) ∧
      fault ∈ (readStatement tokens (piece ++ later.flatten)).1.faults ∧
      fault = .unexpected (.around tokens (earlier.flatten ++ taken).length) expected.text ∧
      BeginsStatement taken ∧
      (∃ token, expected.admits token) ∧
      (∀ token, expected.admits token → BeginsStatement (taken ++ [token])) ∧
      ((∃ token rest, left = token :: rest ∧ ¬ BeginsStatement (taken ++ [token]) ∧
          fault.line = some token.line) ∨
        left = [] ∧ later = [] ∧ (∀ name arguments, ¬ IsStatement piece name arguments) ∧
          ∃ last, tokens.getLast? = some last ∧ fault.line = some last.line) := by
  obtain ⟨earlier, left, hleft, hpieces, hfault⟩ := exists_piece_of_mem_faults h
  obtain ⟨stop, rfl, hstuck, taken, htaken, rfl⟩ := exists_stop_of_mem_faults hfault hkind
  obtain ⟨hbegins, hadmits, hhead, hnone⟩ := hstuck.begins
  have htokens : tokens = (earlier.flatten ++ taken) ++ stop.rest := by
    rw [← flatten_pieces tokens, hpieces, List.flatten_append, flatten_pieces, List.append_assoc]
  have hrest :
      firstPiece stop.rest ++ (pieces (afterTerminator stop.rest)).flatten = stop.rest := by
    rw [flatten_pieces, firstPiece_append_afterTerminator]
  rw [pieces_of_ne_nil hleft, firstPiece_append htaken, afterTerminator_append htaken] at hpieces
  refine ⟨earlier, _, _, taken, firstPiece stop.rest, stop.expected, hpieces, rfl, ?_, ?_, ?_,
    hbegins, exists_admits _, hadmits, ?_⟩
  · rw [hrest, htokens]
  · rwa [List.append_assoc, hrest]
  · rw [htokens, stop.fault_append]
  · have hline := stop.line_fault_append (earlier.flatten ++ taken)
    rw [← htokens, ← head?_firstPiece] at hline
    rw [← head?_firstPiece] at hhead
    cases hfirst : firstPiece stop.rest with
    | nil =>
      have hnil : stop.rest = [] := by
        rw [← List.head?_eq_none_iff, ← head?_firstPiece, hfirst, List.head?_nil]
      have hsome : tokens ≠ [] := by
        rw [htokens, List.append_assoc]
        exact List.append_ne_nil_of_right_ne_nil _ hleft
      obtain ⟨last, hlast⟩ := Option.isSome_iff_exists.1 (List.getLast?_isSome.2 hsome)
      rw [hfirst, hlast] at hline
      exact .inr ⟨rfl, by rw [hnil]; rfl, by simpa using hnone, last, hlast, hline⟩
    | cons token rest =>
      rw [hfirst] at hline hhead
      exact .inl ⟨token, rest, rfl, hhead token rfl, hline⟩

theorem fault_at_first_impossible_token_attic :
    let tokens := SceneFlow.tokens "State(Hall); State(Attic,\n);"
    let fault := Fault.unexpected (.around tokens 9) "<identifier or number>"
    (readTokens tokens).faults = [fault] ∧ fault.line = some 2 ∧
      ∃ taken left, taken ++ left ∈ pieces tokens ∧ BeginsStatement taken ∧
        ∀ token ∈ left.head?, ¬ BeginsStatement (taken ++ [token]) := by
  intro tokens fault
  have hfaults : (readTokens tokens).faults = [fault] := by decide +kernel
  have hmem : fault ∈ (readTokens tokens).faults := hfaults ▸ List.mem_singleton_self fault
  obtain ⟨_, _, _, taken, left, _, hpieces, rfl, _, _, _, hbegins, _, _, hleft⟩ :=
    fault_at_first_impossible_token hmem rfl
  refine ⟨hfaults, by decide +kernel, taken, left, by simp [hpieces], hbegins, ?_⟩
  rcases hleft with ⟨token, rest, rfl, hnot, _⟩ | ⟨rfl, _⟩
  · rintro _ ⟨rfl⟩
    exact hnot
  · exact nofun

end SceneFlow
