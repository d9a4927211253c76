import Mathlib.Data.List.Induction
import SceneFlow.Proofs.Statement.Pieces

/-!
Recasing. A reader looks at the texts of tokens alone, and at the one that begins a piece without
regard to the case of its ASCII letters. So token lists that differ in nothing else are read in
step: each command and each fault of one list has its like in the other one, at the same place.
-/

namespace SceneFlow

variable {expected : Expected} {token other : Token} {word spelling : String}
  {tokens others rest left all again : List Token} {first : Bool}

namespace Text

theorem apply_toLower {p : Char → Bool}
    (h : ∀ i < 26, p (Char.ofNat ('A'.toNat + i)).toLower = p (Char.ofNat ('A'.toNat + i)))
    (c : Char) : p c.toLower = p c := by
  by_cases hupper : c.val ≥ 'A'.val ∧ c.val ≤ 'Z'.val
  · obtain ⟨hfirst, hlast⟩ := hupper
    have hfirst : 'A'.toNat ≤ c.toNat := hfirst
    have hlast : c.toNat < 'A'.toNat + 26 := Nat.lt_succ_of_le hlast
    have hletter := h (c.toNat - 'A'.toNat) (by omega)
    rwa [Nat.add_sub_cancel' hfirst, Char.ofNat_toNat] at hletter
  · have hsame : c.toLower = c := dif_neg hupper
    rw [hsame]

theorem startsName_toLower (c : Char) : startsName c.toLower = startsName c :=
  apply_toLower (by decide +kernel) c

theorem continuesName_toLower (c : Char) : continuesName c.toLower = continuesName c :=
  apply_toLower (by decide +kernel) c

theorem map_toLower_of_equalIgnoringCase (h : equalIgnoringCase word spelling) :
    word.toList.map Char.toLower = spelling.toList.map Char.toLower := eq_of_beq h

theorem equalIgnoringCase_refl (word : String) : equalIgnoringCase word word := beq_self_eq_true _

end Text

theorem isIdentifier_eq_toLower (word : String) :
    isIdentifier word =
      isIdentifier (String.ofList (word.toList.map Char.toLower)) := by
  rw [isIdentifier, isIdentifier, String.toList_ofList]
  cases word.toList with
  | nil => rfl
  | cons c rest =>
    simp [Text.startsName_toLower, Text.continuesName_toLower, List.all_map, Function.comp_def]

theorem isIdentifier_of_equalIgnoringCase (h : Text.equalIgnoringCase word spelling) :
    isIdentifier spelling = isIdentifier word := by
  rw [isIdentifier_eq_toLower, isIdentifier_eq_toLower word,
    Text.map_toLower_of_equalIgnoringCase h]

theorem Keyword.ofWord?_of_equalIgnoringCase (h : Text.equalIgnoringCase word spelling) :
    ofWord? spelling = ofWord? word := by
  have h := Text.map_toLower_of_equalIgnoringCase h
  simp only [ofWord?, Text.equalIgnoringCase, h]

theorem Token.isMark_eq_toLower (token : Token) :
    token.isMark ';' = (token.text.toList.map Char.toLower == [';']) := by
  have hmark (c : Char) : (c.toLower == ';') = (c == ';') :=
    Text.apply_toLower (p := fun c => c == ';') (by decide) c
  rw [isMark]
  rcases token.text.toList with _ | ⟨c, _ | _⟩
  · rfl
  · simp [hmark c]
  · simp

theorem Token.isMark_of_equalIgnoringCase (h : Text.equalIgnoringCase token.text other.text) :
    other.isMark ';' = token.isMark ';' := by
  rw [isMark_eq_toLower, isMark_eq_toLower token, Text.map_toLower_of_equalIgnoringCase h]

/-- Token lists with the same texts, but for the case of ASCII letters in the tokens that begin a
piece. Whether the first ones do is told by the flag. -/
inductive Recased : Bool → List Token → List Token → Prop
  | nil {first : Bool} : Recased first [] []
  | keyword {token other : Token} {rest left : List Token} :
      Text.equalIgnoringCase token.text other.text → Recased (token.isMark ';') rest left →
      Recased true (token :: rest) (other :: left)
  | same {token other : Token} {rest left : List Token} :
      other.text = token.text → Recased (token.isMark ';') rest left →
      Recased false (token :: rest) (other :: left)

namespace Recased

theorem keyword_iff :
    Recased true (token :: rest) (other :: left) ↔
      Text.equalIgnoringCase token.text other.text ∧ Recased (token.isMark ';') rest left := by
  constructor
  · intro h
    cases h with
    | keyword hcase hrest => exact ⟨hcase, hrest⟩
  · exact fun h => .keyword h.1 h.2

theorem same_iff :
    Recased false (token :: rest) (other :: left) ↔
      other.text = token.text ∧ Recased (token.isMark ';') rest left := by
  constructor
  · intro h
    cases h with
    | same htext hrest => exact ⟨htext, hrest⟩
  · exact fun h => .same h.1 h.2

instance decidable : (first : Bool) → (tokens others : List Token) →
    Decidable (Recased first tokens others)
  | _, [], [] => isTrue .nil
  | _, [], _ :: _ => isFalse nofun
  | _, _ :: _, [] => isFalse nofun
  | true, token :: rest, _ :: left =>
    have := decidable (token.isMark ';') rest left
    decidable_of_iff _ keyword_iff.symm
  | false, token :: rest, _ :: left =>
    have := decidable (token.isMark ';') rest left
    decidable_of_iff _ same_iff.symm

end Recased

/-- Readers that both succeed, with results that are alike, or both stop at one place. -/
inductive Agree {α : Type} (alike : α → α → Prop) (first : Bool) :
    Except Stop (α × List Token) → Except Stop (α × List Token) → Prop
  | ok {result again : α} {rest left : List Token} :
      alike result again → Recased first rest left →
      Agree alike first (.ok (result, rest)) (.ok (again, left))
  | error {expected : Expected} {rest left : List Token} :
      left.length = rest.length →
      Agree alike first (.error ⟨expected, rest⟩) (.error ⟨expected, left⟩)

theorem Expected.isMark_of_admits (h : expected.admits token) :
    token.isMark ';' = decide (expected = .terminator) := by
  cases expected with
  | identifier =>
    exact Token.isMark_of_isArgument (Token.isArgument_of_isIdentifier h) (by decide)
  | argument => exact Token.isMark_of_isArgument h (by decide)
  | opening => exact Token.isMark_eq_false h (by decide)
  | closing => exact Token.isMark_eq_false h (by decide)
  | terminator => exact h

theorem Token.isMark_of_text_eq {mark : Char} (h : other.text = token.text) :
    other.isMark mark = token.isMark mark := by
  rw [isMark, isMark, h]

theorem Expected.admits_of_text_eq (h : other.text = token.text) :
    expected.admits other = expected.admits token := by
  cases expected <;> simp [admits, Token.isMark, h]

theorem takeArguments_of_not (h : ¬ isArgument token.text) :
    takeArguments (token :: rest) = .error ⟨.argument, token :: rest⟩ := by
  cases rest <;> rw [takeArguments, if_neg h]

namespace Recased

theorem length (h : Recased first tokens others) : others.length = tokens.length := by
  induction h with
  | nil => rfl
  | keyword _ _ ih => exact congrArg (· + 1) ih
  | same _ _ ih => exact congrArg (· + 1) ih

theorem eq_nil (h : Recased first [] others) : others = [] :=
  List.length_eq_zero_iff.1 h.length

theorem takeToken_cons (hadmits : expected.admits other = expected.admits token)
    (hcase : Text.equalIgnoringCase token.text other.text)
    (hrest : Recased (token.isMark ';') rest left) :
    Agree (fun token other : Token => Text.equalIgnoringCase token.text other.text)
      (decide (expected = .terminator)) (takeToken expected (token :: rest))
      (takeToken expected (other :: left)) := by
  cases htoken : expected.admits token with
  | false =>
    rw [takeToken_cons_of_not_admits htoken,
      takeToken_cons_of_not_admits (hadmits.trans htoken)]
    exact .error (congrArg (· + 1) hrest.length)
  | true =>
    rw [takeToken_cons_of_admits htoken, takeToken_cons_of_admits (hadmits.trans htoken)]
    exact .ok hcase (Expected.isMark_of_admits htoken ▸ hrest)

theorem takeToken (h : Recased first tokens others) (expected : Expected)
    (hfirst : first → expected = .identifier) :
    Agree (fun token other : Token => Text.equalIgnoringCase token.text other.text)
      (decide (expected = .terminator)) (SceneFlow.takeToken expected tokens)
      (SceneFlow.takeToken expected others) := by
  cases h with
  | nil => exact .error rfl
  | keyword hcase hrest =>
    obtain rfl := hfirst rfl
    exact takeToken_cons (isIdentifier_of_equalIgnoringCase hcase) hcase hrest
  | same htext hrest =>
    refine takeToken_cons (Expected.admits_of_text_eq htext) ?_ hrest
    rw [htext]
    exact Text.equalIgnoringCase_refl _

theorem takeArguments (h : Recased false tokens others) :
    Agree Eq false (SceneFlow.takeArguments tokens) (SceneFlow.takeArguments others) := by
  -- An argument is taken together with the comma that follows it.
  induction tokens using List.twoStepInduction generalizing others with
  | nil =>
    rw [h.eq_nil]
    exact .error rfl
  | singleton token =>
    cases h with
    | same htext hrest =>
      rw [hrest.eq_nil, SceneFlow.takeArguments, SceneFlow.takeArguments, htext]
      split
      · exact .ok rfl .nil
      · exact .error rfl
  | cons_cons token comma more ih _ =>
    cases h with
    | same htext htail =>
      by_cases htoken : isArgument token.text
      · rw [Token.isMark_of_isArgument htoken (by decide)] at htail
        cases htail with
        | @same _ _ _ others hmark hothers =>
          rw [SceneFlow.takeArguments, SceneFlow.takeArguments, htext, if_pos htoken, if_pos htoken,
            Token.isMark_of_text_eq hmark]
          split
          · next hcomma =>
            rw [Token.isMark_eq_false hcomma (by decide)] at hothers
            have hagree := ih hothers
            generalize SceneFlow.takeArguments more = result,
              SceneFlow.takeArguments others = again at hagree ⊢
            cases hagree with
            | ok hsame hrest => exact .ok (congrArg (token.text :: ·) hsame) hrest
            | error hlength => exact .error hlength
          · exact .ok rfl (.same hmark hothers)
      · have hlength := congrArg (· + 1) htail.length
        rw [takeArguments_of_not htoken, takeArguments_of_not (htext ▸ htoken)]
        exact .error hlength

theorem takeInParentheses (h : Recased false tokens others) :
    Agree Eq false (SceneFlow.takeInParentheses tokens) (SceneFlow.takeInParentheses others) := by
  unfold SceneFlow.takeInParentheses
  have hnothing := h.takeToken .closing nofun
  generalize SceneFlow.takeToken .closing tokens = result,
    SceneFlow.takeToken .closing others = again at hnothing
  cases hnothing with
  | ok _ hrest => exact .ok rfl hrest
  | error _ =>
    have harguments := h.takeArguments
    generalize SceneFlow.takeArguments tokens = result,
      SceneFlow.takeArguments others = again at harguments
    cases harguments with
    | error hlength => exact .error hlength
    | @ok arguments _ rest left hsame hrest =>
      have hclosing := hrest.takeToken .closing nofun
      dsimp only
      generalize SceneFlow.takeToken .closing rest = result,
        SceneFlow.takeToken .closing left = again at hclosing
      cases hclosing with
      | error hlength => exact .error hlength
      | ok _ hrest => exact .ok hsame hrest

theorem takeCall (h : Recased true tokens others) :
    Agree (fun call other : Token × List String =>
        Text.equalIgnoringCase call.1.text other.1.text ∧ other.2 = call.2) false
      (SceneFlow.takeCall tokens) (SceneFlow.takeCall others) := by
  unfold SceneFlow.takeCall
  have hname := h.takeToken .identifier fun _ => rfl
  generalize SceneFlow.takeToken .identifier tokens = result,
    SceneFlow.takeToken .identifier others = again at hname
  cases hname with
  | error hlength => exact .error hlength
  | @ok name _ rest left hcase hrest =>
    have hopening := hrest.takeToken .opening nofun
    dsimp only
    generalize SceneFlow.takeToken .opening rest = result,
      SceneFlow.takeToken .opening left = again at hopening
    cases hopening with
    | error hlength => exact .error hlength
    | @ok _ _ rest left _ hrest =>
      have hinside := hrest.takeInParentheses
      dsimp only
      generalize SceneFlow.takeInParentheses rest = result,
        SceneFlow.takeInParentheses left = again at hinside
      cases hinside with
      | error hlength => exact .error hlength
      | ok hsame hrest => exact .ok ⟨hcase, hsame.symm⟩ hrest

theorem afterTerminator_cons (hmark : other.isMark ';' = token.isMark ';')
    (hrest : Recased (token.isMark ';') rest left)
    (hafter : Recased true (SceneFlow.afterTerminator rest) (SceneFlow.afterTerminator left)) :
    Recased true (SceneFlow.afterTerminator (token :: rest))
      (SceneFlow.afterTerminator (other :: left)) := by
  rw [SceneFlow.afterTerminator, SceneFlow.afterTerminator, hmark]
  generalize token.isMark ';' = ends at hrest
  cases ends with
  | false => exact hafter
  | true => exact hrest

theorem afterTerminator (h : Recased first tokens others) :
    Recased true (SceneFlow.afterTerminator tokens) (SceneFlow.afterTerminator others) := by
  induction h with
  | nil => exact .nil
  | keyword hcase hrest ih =>
    exact afterTerminator_cons (Token.isMark_of_equalIgnoringCase hcase) hrest ih
  | same htext hrest ih => exact afterTerminator_cons (Token.isMark_of_text_eq htext) hrest ih

end Recased

inductive Command.Alike (tokens others : List Token) : Command → Command → Prop
  | intro {index : Nat} {token other : Token} {arguments : List String} {keyword : Keyword} :
      tokens[index]? = some token → others[index]? = some other →
      Alike tokens others ⟨token.text, arguments, keyword, token.line⟩
        ⟨other.text, arguments, keyword, other.line⟩

inductive Fault.Alike (tokens others : List Token) : Fault → Fault → Prop
  | unexpected (index : Nat) (expected : String) :
      Alike tokens others (.unexpected (.around tokens index) expected)
        (.unexpected (.around others index) expected)
  | unknownKeyword {index : Nat} {token other : Token} :
      tokens[index]? = some token → others[index]? = some other →
      Alike tokens others (.unknownKeyword (.around tokens index) token.text)
        (.unknownKeyword (.around others index) other.text)
  | misfit {command other : Command} (reason : Misfit) :
      Command.Alike tokens others command other →
      Alike tokens others (.misfit command reason) (.misfit other reason)
  | refilled {command other : Command} (slot : Slot) :
      Command.Alike tokens others command other →
      Alike tokens others (.refilled command slot) (.refilled other slot)

structure Reading.Alike (tokens others : List Token) (reading again : Reading) : Prop where
  commands : List.Forall₂ (Command.Alike tokens others) reading.commands again.commands
  faults : List.Forall₂ (Fault.Alike tokens others) reading.faults again.faults

theorem alike_fault (hlength : again.length = all.length) (hrest : left.length = rest.length)
    (expected : Expected) :
    Fault.Alike all again (Stop.fault all ⟨expected, rest⟩)
      (Stop.fault again ⟨expected, left⟩) := by
  rw [Stop.fault, Stop.fault, hlength, hrest]
  exact .unexpected _ _

theorem getElem?_of_takeCall {call : Token × List String} (htokens : tokens <:+ all)
    (h : takeCall tokens = .ok (call, rest)) :
    all[all.length - tokens.length]? = some call.1 := by
  obtain ⟨taken, hcall, rfl⟩ := takeCall_eq_ok_iff.1 h
  obtain ⟨front, rfl⟩ := htokens
  cases hcall
  simp

theorem suffix_readStatement (all tokens : List Token) :
    (readStatement all tokens).2 <:+ tokens := by
  rw [readStatement_snd]
  exact ⟨firstPiece tokens, firstPiece_append_afterTerminator tokens⟩

namespace Recased

theorem readStatement (h : Recased true tokens others) (htokens : tokens <:+ all)
    (hothers : others <:+ again) (hlength : again.length = all.length) :
    Reading.Alike all again (SceneFlow.readStatement all tokens).1
      (SceneFlow.readStatement again others).1 := by
  have hplace : again.length - others.length = all.length - tokens.length := by
    rw [hlength, h.length]
  have hagree := h.takeCall
  unfold SceneFlow.readStatement
  generalize hcall : SceneFlow.takeCall tokens = result,
    hother : SceneFlow.takeCall others = result' at hagree
  cases hagree with
  | error hrest => exact ⟨.nil, .cons (alike_fault hlength hrest _) .nil⟩
  | @ok call other rest left hsame hrest =>
    obtain ⟨hcase, harguments⟩ := hsame
    have hname := getElem?_of_takeCall htokens hcall
    have hagain := getElem?_of_takeCall hothers hother
    obtain ⟨name, arguments⟩ := call
    obtain ⟨name', _⟩ := other
    obtain rfl : _ = arguments := harguments
    rw [hplace] at hagain
    simp only [Keyword.ofWord?_of_equalIgnoringCase hcase, hplace]
    have hunknown : List.Forall₂ (Fault.Alike all again)
        (if (Keyword.ofWord? name.text).isNone then
          [.unknownKeyword (.around all (all.length - tokens.length)) name.text] else [])
        (if (Keyword.ofWord? name.text).isNone then
          [.unknownKeyword (.around again (all.length - tokens.length)) name'.text] else []) := by
      split
      · exact .cons (.unknownKeyword hname hagain) .nil
      · exact .nil
    have hend := hrest.takeToken .terminator nofun
    generalize SceneFlow.takeToken .terminator rest = result,
      SceneFlow.takeToken .terminator left = result' at hend
    cases hend with
    | error hrest =>
      exact ⟨.nil, List.rel_append hunknown (.cons (alike_fault hlength hrest _) .nil)⟩
    | ok _ _ =>
      refine ⟨?_, hunknown⟩
      cases Keyword.ofWord? name.text with
      | none => exact .nil
      | some keyword => exact .cons (.intro hname hagain) .nil

theorem readStatements (h : Recased true tokens others) (htokens : tokens <:+ all)
    (hothers : others <:+ again) (hlength : again.length = all.length) :
    Reading.Alike all again (SceneFlow.readStatements all tokens)
      (SceneFlow.readStatements again others) := by
  -- Both lists are read statement by statement, and are recased again after each of them.
  induction tokens using SceneFlow.readStatements.induct all generalizing others with
  | case1 =>
    rw [h.eq_nil, SceneFlow.readStatements, SceneFlow.readStatements]
    exact ⟨.nil, .nil⟩
  | case2 token rest here =>
    rename_i ih
    have hhere := h.readStatement htokens hothers hlength
    have hafter := h.afterTerminator
    cases h with
    | @keyword _ other _ left _ _ =>
      rw [SceneFlow.readStatements, SceneFlow.readStatements]
      rw [← readStatement_snd all, ← readStatement_snd again] at hafter
      have hthere := ih hafter ((suffix_readStatement _ _).trans htokens)
        ((suffix_readStatement _ _).trans hothers)
      exact ⟨List.rel_append hhere.commands hthere.commands,
        List.rel_append hhere.faults hthere.faults⟩

theorem readTokens (h : Recased true tokens others) :
    Reading.Alike tokens others (SceneFlow.readTokens tokens) (SceneFlow.readTokens others) :=
  h.readStatements (List.suffix_refl _) (List.suffix_refl _) h.length

end Recased

end SceneFlow
