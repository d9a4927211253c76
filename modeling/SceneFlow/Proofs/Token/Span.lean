import Mathlib.Algebra.Group.Nat.Defs
import Mathlib.Logic.ExistsUnique
import SceneFlow.Proofs.Token.Word

/-!
Spans. Tokens stand where their characters stand in the text: a punctuation mark outside comments is
a token, and so is each maximal run of word characters outside comments. No other place holds one,
and each token is told with the line that its first character is on.
-/

namespace SceneFlow

variable {cs before word rest : List Char} {c : Char} {i j : Nat} {kind : Char → Bool}
  {scanned : List Token}

/-- A comment runs from a `#` up to the next line end, which is not part of it, or to the end of the
text. -/
def InComment (cs : List Char) (i : Nat) : Prop :=
  ∃ start ≤ i, cs[start]? = some '#' ∧
    ∀ k c, start ≤ k → k ≤ i → cs[k]? = some c → isLineEnd c = false

def StandsAt (cs : List Char) (kind : Char → Bool) (i : Nat) : Prop :=
  ∃ c, cs[i]? = some c ∧ kind c ∧ ¬ InComment cs i

structure Span where
  start : Nat
  stop : Nat

namespace Span

def text (cs : List Char) (span : Span) : List Char := (cs.take span.stop).drop span.start

def line (cs : List Char) (span : Span) : Nat := 1 + (cs.take span.start).count '\n'

def token (cs : List Char) (span : Span) : Token := ⟨String.ofList (span.text cs), span.line cs⟩

def Covers (span : Span) (i : Nat) : Prop := span.start ≤ i ∧ i < span.stop

/-- Where a token has to be: at a punctuation mark, and at a run of word characters that no other
one comes right before or right after. -/
inductive IsLexeme (cs : List Char) : Span → Prop
  | mark {i : Nat} : StandsAt cs isPunctuation i → IsLexeme cs ⟨i, i + 1⟩
  | word {start stop : Nat} :
      start < stop →
      (∀ i, Covers ⟨start, stop⟩ i → StandsAt cs isWordChar i) →
      (∀ i, i + 1 = start → ¬ StandsAt cs isWordChar i) →
      ¬ StandsAt cs isWordChar stop →
      IsLexeme cs ⟨start, stop⟩

end Span

theorem inComment_of_hash (h : cs[i]? = some '#') : InComment cs i := by
  refine ⟨i, Nat.le_refl i, h, fun k c hstart hstop hk => ?_⟩
  obtain rfl := Nat.le_antisymm hstart hstop
  rw [h] at hk
  cases hk
  rfl

theorem not_inComment_of_isLineEnd (h : cs[i]? = some c) (hend : isLineEnd c) :
    ¬ InComment cs i := by
  rintro ⟨start, hstart, _, hbody⟩
  rw [hbody i c hstart (Nat.le_refl i) h] at hend
  cases hend

theorem InComment.onward (h : InComment cs i) (hij : i ≤ j)
    (hend : ∀ k c, i < k → k ≤ j → cs[k]? = some c → isLineEnd c = false) : InComment cs j := by
  obtain ⟨start, hstart, hhash, hbody⟩ := h
  refine ⟨start, Nat.le_trans hstart hij, hhash, fun k c hk hkj hc => ?_⟩
  cases Nat.lt_or_ge i k with
  | inl hik => exact hend k c hik hkj hc
  | inr hki => exact hbody k c hk hki hc

theorem InComment.back (h : InComment cs j) (hij : i ≤ j)
    (hhash : ∀ k, i < k → k ≤ j → cs[k]? ≠ some '#') : InComment cs i := by
  obtain ⟨start, hstart, hfirst, hbody⟩ := h
  refine ⟨start, ?_, hfirst, fun k c hk hki => hbody k c hk (Nat.le_trans hki hij)⟩
  exact Nat.not_lt.1 fun hlater => hhash start hlater hstart hfirst

theorem StandsAt.mono {other : Char → Bool} (h : StandsAt cs kind i)
    (hkind : ∀ c, kind c → other c) : StandsAt cs other i := by
  obtain ⟨c, hc, hkind', hout⟩ := h
  exact ⟨c, hc, hkind c hkind', hout⟩

theorem StandsAt.lt_length (h : StandsAt cs kind i) : i < cs.length := by
  obtain ⟨c, hc, _⟩ := h
  exact (List.getElem?_eq_some_iff.1 hc).1

theorem StandsAt.ne_hash (h : StandsAt cs kind i) : cs[i]? ≠ some '#' := by
  obtain ⟨_, _, _, hout⟩ := h
  exact fun hhash => hout (inComment_of_hash hhash)

namespace Span

variable {span other : Span}

theorem isSeparator_of_isPunctuation (h : isPunctuation c) : isSeparator c = false := by
  cases hseparator : isSeparator c with
  | false => rfl
  | true =>
    rw [isPunctuation_of_isSeparator hseparator] at h
    cases h

theorem IsLexeme.standsAt (h : span.IsLexeme cs) : StandsAt cs (!isSeparator ·) span.start := by
  cases h with
  | mark hmark =>
    exact hmark.mono fun c hc => by simp [isSeparator_of_isPunctuation hc]
  | word hlt hword _ _ =>
    exact (hword _ ⟨Nat.le_refl _, hlt⟩).mono fun c hc => (Bool.and_eq_true_iff.1 hc).2

theorem IsLexeme.lt (h : span.IsLexeme cs) : span.start < span.stop := by
  cases h with
  | mark _ => exact Nat.lt_succ_self _
  | word hlt _ _ _ => exact hlt

theorem not_standsAt_of_mark (h : StandsAt cs isPunctuation i) : ¬ StandsAt cs isWordChar i := by
  obtain ⟨c, hc, hmark, _⟩ := h
  rintro ⟨other, hother, hword, _⟩
  rw [hc] at hother
  cases hother
  simp [isWordChar, hmark] at hword

theorem reaches_of_run {start stop : Nat} (hi : Covers ⟨start, stop⟩ i) (hiother : other.Covers i)
    (hword : ∀ k, Covers ⟨start, stop⟩ k → StandsAt cs isWordChar k)
    (hleft : ∀ k, k + 1 = other.start → ¬ StandsAt cs isWordChar k)
    (hright : ¬ StandsAt cs isWordChar other.stop) : other.start ≤ start ∧ stop ≤ other.stop := by
  simp only [Covers] at hi hiother hword
  constructor
  · refine Nat.not_lt.1 fun hlt => ?_
    exact hleft (other.start - 1) (by omega) (hword _ (by omega))
  · refine Nat.not_lt.1 fun hlt => ?_
    exact hright (hword _ (by omega))

theorem IsLexeme.eq_of_covers (h : span.IsLexeme cs) (hother : other.IsLexeme cs)
    (hi : span.Covers i) (hiother : other.Covers i) : span = other := by
  cases h with
  | @mark k hmark =>
    obtain rfl : k = i := by simp only [Covers] at hi; omega
    cases hother with
    | @mark l _ =>
      obtain rfl : l = k := by simp only [Covers] at hiother; omega
      rfl
    | word _ hword _ _ => exact absurd (hword k hiother) (not_standsAt_of_mark hmark)
  | @word start stop _ hword hleft hright =>
    cases hother with
    | @mark k hmark =>
      obtain rfl : k = i := by simp only [Covers] at hiother; omega
      exact absurd (hword k hi) (not_standsAt_of_mark hmark)
    | word _ hword' hleft' hright' =>
      obtain ⟨hstart, hstop⟩ := reaches_of_run hi hiother hword hleft' hright'
      obtain ⟨hstart', hstop'⟩ := reaches_of_run hiother hi hword' hleft hright
      obtain rfl := Nat.le_antisymm hstart' hstart
      obtain rfl := Nat.le_antisymm hstop hstop'
      rfl

theorem IsLexeme.of_mem_text (h : span.IsLexeme cs) (hc : c ∈ span.text cs) : c ≠ '#' := by
  obtain ⟨k, hk⟩ := List.mem_iff_getElem?.1 hc
  rw [text, List.getElem?_drop, List.getElem?_take] at hk
  split at hk
  · next hstop =>
    have hstands : cs[span.start + k]? ≠ some '#' := by
      cases h with
      | mark hmark =>
        obtain rfl : k = 0 := by dsimp only at hstop; omega
        exact hmark.ne_hash
      | word _ hword _ _ => exact (hword _ ⟨Nat.le_add_right _ _, hstop⟩).ne_hash
    rintro rfl
    exact hstands hk
  · cases hk

end Span

/-- Neither a comment nor a word goes on past such a position, unless a comment begins there. -/
structure Boundary (cs : List Char) (i : Nat) : Prop where
  outside : ∀ c, cs[i]? = some c → c ≠ '#' → ¬ InComment cs i
  apart : StandsAt cs isWordChar i → ∀ k, k + 1 = i → ¬ StandsAt cs isWordChar k

theorem boundary_zero (cs : List Char) : Boundary cs 0 := by
  constructor
  · rintro c hc hne ⟨start, hstart, hhash, _⟩
    obtain rfl : start = 0 := Nat.le_zero.1 hstart
    rw [hc] at hhash
    exact hne (Option.some.inj hhash)
  · rintro _ k ⟨⟩

theorem boundary_of_isLineEnd (h : ∀ c, cs[i]? = some c → isLineEnd c) : Boundary cs i := by
  constructor
  · exact fun c hc _ => not_inComment_of_isLineEnd hc (h c hc)
  · rintro ⟨c, hc, hword, _⟩
    rw [isWordChar_of_isLineEnd (h c hc)] at hword
    cases hword

theorem Boundary.outside_of_le (h : Boundary cs i) (hij : i ≤ j)
    (hhash : ∀ k, i ≤ k → k ≤ j → cs[k]? ≠ some '#') (hlast : j < cs.length) :
    ¬ InComment cs j := by
  intro hcomment
  have hi : i < cs.length := Nat.lt_of_le_of_lt hij hlast
  have hback := hcomment.back hij fun k hik => hhash k (Nat.le_of_lt hik)
  refine h.outside cs[i] (List.getElem?_eq_getElem hi) ?_ hback
  exact fun heq => hhash i (Nat.le_refl i) hij (heq ▸ List.getElem?_eq_getElem hi)

theorem Boundary.of_isBreak (h : Boundary cs i) (hij : i ≤ j)
    (hhash : ∀ k, i ≤ k → k < j → cs[k]? ≠ some '#') (hbreak : ∀ c, cs[j]? = some c → isBreak c) :
    Boundary cs j := by
  constructor
  · intro c hc hne
    refine h.outside_of_le hij (fun k hik hkj => ?_) (List.getElem?_eq_some_iff.1 hc).1
    cases Nat.lt_or_eq_of_le hkj with
    | inl hlt => exact hhash k hik hlt
    | inr heq =>
      rw [heq, hc]
      exact fun hsome => hne (Option.some.inj hsome)
  · rintro ⟨c, hc, hword, hout⟩
    have hne : c ≠ '#' := by
      rintro rfl
      exact hout (inComment_of_hash hc)
    rw [isWordChar_of_isBreak (hbreak c hc) hne] at hword
    cases hword

theorem Boundary.next (h : Boundary cs i) (hc : cs[i]? = some c) (hne : c ≠ '#')
    (hword : isWordChar c = false) : Boundary cs (i + 1) := by
  constructor
  · intro other hother hneother
    obtain ⟨hlast, _⟩ := List.getElem?_eq_some_iff.1 hother
    refine h.outside_of_le (Nat.le_succ i) (fun k hik hki => ?_) hlast
    have hk : k = i ∨ k = i + 1 := by omega
    rcases hk with rfl | rfl
    · simpa [hc] using hne
    · simpa [hother] using hneother
  · rintro _ k hk ⟨other, hother, hwordother, _⟩
    obtain rfl : k = i := Nat.succ.inj hk
    rw [hc] at hother
    cases hother
    rw [hword] at hwordother
    cases hwordother

theorem exists_of_segment (rest : List Char) (h : before.length ≤ i)
    (hi : i < before.length + word.length) :
    ∃ c ∈ word, (before ++ (word ++ rest))[i]? = some c := by
  have hlt : i - before.length < word.length := by omega
  refine ⟨word[i - before.length], List.getElem_mem hlt, ?_⟩
  rw [List.getElem?_append_right h, List.getElem?_append_left hlt, List.getElem?_eq_getElem hlt]

theorem getElem?_after_segment (before word rest : List Char) :
    (before ++ (word ++ rest))[before.length + word.length]? = rest.head? := by
  rw [← List.append_assoc, ← List.length_append, List.getElem?_append_right (Nat.le_refl _),
    Nat.sub_self, List.head?_eq_getElem?]

theorem token_segment (before word rest : List Char) :
    Span.token (before ++ (word ++ rest)) ⟨before.length, before.length + word.length⟩ =
      ⟨String.ofList word, 1 + before.count '\n'⟩ := by
  rw [Span.token, Span.text, Span.line, ← List.append_assoc, ← List.length_append,
    List.take_left, List.drop_left, List.append_assoc, List.take_left]

inductive Cut : List Char → Prop
  | nil : Cut []
  | separator {c : Char} {rest : List Char} : isSeparator c → Cut rest → Cut (c :: rest)
  | mark {c : Char} {rest : List Char} : isPunctuation c → Cut rest → Cut (c :: rest)
  | comment {body rest : List Char} :
      (∀ c ∈ body, isLineEnd c = false) → (∀ c ∈ rest.head?, isLineEnd c) → Cut rest →
        Cut ('#' :: body ++ rest)
  | word {word rest : List Char} :
      IsWord word → (∀ c ∈ rest.head?, isBreak c) → Cut rest → Cut (word ++ rest)

theorem cut (cs : List Char) : Cut cs := by
  induction hlength : cs.length using Nat.strongRecOn generalizing cs with
  | ind n ih =>
    cases cs with
    | nil => exact .nil
    | cons c rest =>
      have hrest : rest.length < n := by simp [← hlength]
      cases hseparator : isSeparator c with
      | true => exact .separator hseparator (ih _ hrest rest rfl)
      | false =>
        cases hmark : isPunctuation c with
        | true => exact .mark hmark (ih _ hrest rest rfl)
        | false =>
          by_cases hhash : c = '#'
          · obtain ⟨body, back, rfl, hbody, hback⟩ := exists_front (!isLineEnd ·) rest
            have hshorter : back.length < n := by simp at hrest; omega
            rw [hhash]
            exact .comment (by simpa using hbody) (by simpa using hback)
              (ih _ hshorter back rfl)
          · obtain ⟨others, back, rfl, hothers, hback⟩ := exists_front (!isBreak ·) rest
            have hshorter : back.length < n := by simp at hrest; omega
            have hword : IsWord (c :: others) := by
              have hc : isBreak c = false := by simp [isBreak, hmark, hseparator, hhash]
              exact ⟨List.cons_ne_nil c others,
                List.forall_mem_cons.2 ⟨hc, by simpa using hothers⟩⟩
            exact .word hword (by simpa using hback) (ih _ hshorter back rfl)

structure Located (cs : List Char) (first : Nat) (scanned : List Token) (spans : List Span) :
    Prop where
  scanned : scanned = spans.map (Span.token cs)
  lexemes : ∀ span, span ∈ spans ↔ span.IsLexeme cs ∧ first ≤ span.start
  apart : spans.Pairwise fun span later => span.stop ≤ later.start
  covered : ∀ i, first ≤ i → StandsAt cs (!isSeparator ·) i → ∃ span ∈ spans, span.Covers i

namespace Located

variable {first next : Nat} {span : Span} {spans : List Span}

theorem done (h : cs.length ≤ first) : Located cs first [] [] := by
  have hnone : ∀ i, first ≤ i → ¬ StandsAt cs (!isSeparator ·) i := fun i hi hstands =>
    absurd hstands.lt_length (Nat.not_lt.2 (Nat.le_trans h hi))
  constructor
  · rfl
  · intro span
    simpa using fun hlexeme => Nat.not_le.1 fun hle => hnone _ hle hlexeme.standsAt
  · exact .nil
  · exact fun i hi hstands => absurd hstands (hnone i hi)

theorem skip (h : Located cs next scanned spans) (hle : first ≤ next)
    (hnone : ∀ i, first ≤ i → i < next → ¬ StandsAt cs (!isSeparator ·) i) :
    Located cs first scanned spans := by
  constructor
  · exact h.scanned
  · intro span
    rw [h.lexemes]
    refine and_congr_right fun hlexeme => ⟨Nat.le_trans hle, fun hfirst => ?_⟩
    exact Nat.not_lt.1 fun hlt => hnone _ hfirst hlt hlexeme.standsAt
  · exact h.apart
  · intro i hi hstands
    exact h.covered i (Nat.not_lt.1 fun hlt => hnone i hi hlt hstands) hstands

theorem cons (h : Located cs span.stop scanned spans) (hlexeme : span.IsLexeme cs) :
    Located cs span.start (span.token cs :: scanned) (span :: spans) := by
  constructor
  · rw [h.scanned]
    rfl
  · intro other
    rw [List.mem_cons, h.lexemes]
    constructor
    · rintro (rfl | ⟨hother, hstop⟩)
      · exact ⟨hlexeme, Nat.le_refl _⟩
      · exact ⟨hother, Nat.le_trans (Nat.le_of_lt hlexeme.lt) hstop⟩
    · rintro ⟨hother, hstart⟩
      cases Nat.lt_or_ge other.start span.stop with
      | inl hlt => exact .inl (hother.eq_of_covers hlexeme ⟨Nat.le_refl _, hother.lt⟩ ⟨hstart, hlt⟩)
      | inr hge => exact .inr ⟨hother, hge⟩
  · exact List.pairwise_cons.2 ⟨fun later hlater => ((h.lexemes later).1 hlater).2, h.apart⟩
  · intro i hi hstands
    cases Nat.lt_or_ge i span.stop with
    | inl hlt => exact ⟨span, List.mem_cons_self, hi, hlt⟩
    | inr hge =>
      obtain ⟨later, hlater, hcovers⟩ := h.covered i hge hstands
      exact ⟨later, List.mem_cons_of_mem _ hlater, hcovers⟩

end Located

theorem ne_hash_of_segment (hword : IsWord word) (h : before.length ≤ i)
    (hi : i < before.length + word.length) : (before ++ (word ++ rest))[i]? ≠ some '#' := by
  obtain ⟨c, hmem, hc⟩ := exists_of_segment rest h hi
  rw [hc]
  rintro ⟨⟩
  exact absurd (hword.whole _ hmem) (by decide)

section

variable (hboundary : Boundary (before ++ (word ++ rest)) before.length) (hword : IsWord word)
include hboundary hword

theorem standsAt_of_segment (h : before.length ≤ i) (hi : i < before.length + word.length) :
    StandsAt (before ++ (word ++ rest)) isWordChar i := by
  obtain ⟨c, hmem, hc⟩ := exists_of_segment rest h hi
  refine ⟨c, hc, isWordChar_of_not_isBreak (hword.whole c hmem), ?_⟩
  refine hboundary.outside_of_le h (fun k hk hki => ?_) (List.getElem?_eq_some_iff.1 hc).1
  exact ne_hash_of_segment hword hk (Nat.lt_of_le_of_lt hki hi)

theorem boundary_after_word (hend : ∀ c ∈ rest.head?, isBreak c) :
    Boundary (before ++ (word ++ rest)) (before.length + word.length) := by
  refine hboundary.of_isBreak (Nat.le_add_right _ _) ?_ ?_
  · exact fun k hk hki => ne_hash_of_segment hword hk hki
  · rw [getElem?_after_segment]
    exact hend

theorem isLexeme_of_word (hend : ∀ c ∈ rest.head?, isBreak c) :
    Span.IsLexeme (before ++ (word ++ rest)) ⟨before.length, before.length + word.length⟩ := by
  have hlength : 0 < word.length := List.length_pos_iff.2 hword.nonempty
  have hstands := fun i => standsAt_of_segment (i := i) hboundary hword
  refine .word (by omega) (fun i hi => hstands i hi.1 hi.2) ?_ ?_
  · exact fun k hk => hboundary.apart (hstands _ (Nat.le_refl _) (by omega)) k hk
  · rintro ⟨c, hc, hkind, hout⟩
    have hbreak : isBreak c := hend c (by rwa [getElem?_after_segment] at hc)
    have hne : c ≠ '#' := by
      rintro rfl
      exact hout (inComment_of_hash hc)
    rw [isWordChar_of_isBreak hbreak hne] at hkind
    cases hkind

end

theorem Located.after (word : List Char)
    (ih : ∀ before, Boundary (before ++ rest) before.length →
      ∃ spans, Located (before ++ rest) before.length (scan (1 + before.count '\n') rest) spans)
    (hnext : Boundary (before ++ (word ++ rest)) (before.length + word.length)) :
    ∃ spans, Located (before ++ (word ++ rest)) (before.length + word.length)
      (scan (1 + before.count '\n' + word.count '\n') rest) spans := by
  simpa [Nat.add_assoc] using ih (before ++ word) (by simpa using hnext)

theorem inComment_of_segment {body : List Char} (h : ∀ c ∈ body, isLineEnd c = false)
    (hi : before.length ≤ i) (hlt : i < before.length + ('#' :: body).length) :
    InComment (before ++ ('#' :: body ++ rest)) i := by
  have hhash : InComment (before ++ ('#' :: body ++ rest)) before.length :=
    inComment_of_hash (by simp)
  refine hhash.onward hi fun k c hk hki hc => ?_
  obtain ⟨other, hother, hsame⟩ := exists_of_segment rest (Nat.le_of_lt hk)
    (Nat.lt_of_le_of_lt hki hlt)
  rw [hc] at hsame
  cases hsame
  cases List.mem_cons.1 hother with
  | inl hfirst => rw [hfirst]; rfl
  | inr hbody => exact h c hbody

theorem exists_located (hcut : Cut rest) (before : List Char)
    (hboundary : Boundary (before ++ rest) before.length) :
    ∃ spans, Located (before ++ rest) before.length (scan (1 + before.count '\n') rest) spans := by
  induction hcut generalizing before with
  | nil =>
    rw [scan_nil]
    exact ⟨[], .done (by simp)⟩
  | @separator c rest hseparator _ ih =>
    have hc : (before ++ c :: rest)[before.length]? = some c := by simp
    have hnext := hboundary.next hc (ne_of_kind hseparator rfl) (by simp [isWordChar, hseparator])
    obtain ⟨spans, hspans⟩ := Located.after [c] ih hnext
    have hnone : ∀ i, before.length ≤ i → i < before.length + 1 →
        ¬ StandsAt (before ++ c :: rest) (!isSeparator ·) i := by
      rintro i hi hlt ⟨other, hother, hkind, _⟩
      obtain rfl : i = before.length := Nat.le_antisymm (Nat.le_of_lt_succ hlt) hi
      rw [hc] at hother
      cases hother
      simp [hseparator] at hkind
    refine ⟨spans, .skip ?_ (Nat.le_succ before.length) hnone⟩
    rw [scan_separator hseparator]
    by_cases hnewline : c = '\n' <;> simpa [hnewline] using hspans
  | @mark c rest hmark _ ih =>
    have hc : (before ++ c :: rest)[before.length]? = some c := by simp
    have hhash : c ≠ '#' := ne_of_kind hmark rfl
    have hnewline : c ≠ '\n' := ne_of_kind hmark rfl
    have hnext := hboundary.next hc hhash (by simp [isWordChar, hmark])
    obtain ⟨spans, hspans⟩ := Located.after [c] ih hnext
    have hstands : StandsAt (before ++ c :: rest) isPunctuation before.length :=
      ⟨c, hc, hmark, hboundary.outside c hc hhash⟩
    have htoken : Span.token (before ++ c :: rest) ⟨before.length, before.length + 1⟩ =
        ⟨String.singleton c, 1 + before.count '\n'⟩ := token_segment before [c] rest
    have hline : [c].count '\n' = 0 := by simp [hnewline]
    rw [hline] at hspans
    rw [scan_punctuation hmark, ← htoken]
    exact ⟨_, .cons hspans (.mark hstands)⟩
  | @comment body rest hbody hend _ ih =>
    have hnext : Boundary (before ++ ('#' :: body ++ rest))
        (before.length + ('#' :: body).length) := by
      refine boundary_of_isLineEnd ?_
      rw [getElem?_after_segment]
      exact hend
    obtain ⟨spans, hspans⟩ := Located.after _ ih hnext
    have hline : ('#' :: body).count '\n' = 0 := by
      refine List.count_eq_zero.2 fun hmem => ?_
      have hnewline := hbody '\n' (by simpa using hmem)
      cases hnewline
    rw [hline] at hspans
    rw [scan_comment hbody hend]
    refine ⟨spans, hspans.skip (Nat.le_add_right _ _) fun i hi hlt => ?_⟩
    rintro ⟨_, _, _, hout⟩
    exact hout (inComment_of_segment hbody hi hlt)
  | @word word rest hword hend _ ih =>
    obtain ⟨spans, hspans⟩ := Located.after _ ih (boundary_after_word hboundary hword hend)
    have hline : word.count '\n' = 0 := by
      refine List.count_eq_zero.2 fun hmem => ?_
      have hnewline := hword.whole '\n' hmem
      cases hnewline
    rw [hline] at hspans
    rw [scan_append hword hend, ← token_segment before word rest]
    exact ⟨_, .cons hspans (isLexeme_of_word hboundary hword hend)⟩

/-- The tokens of a text stand, in this order, exactly where its lexemes are: at the punctuation
marks outside comments and at the maximal runs of word characters outside comments. Each is a piece
of the text, told with the line it begins on, and each character outside comments that is no
separator belongs to one of them and to no other. Below `2 ^ 32 - 1` line feeds no line number
exceeds 32 bits. -/
theorem tokens_at_spans (source : String) :
    ∃ spans : List Span,
      tokens source = spans.map (Span.token source.toList) ∧
      (∀ span, span ∈ spans ↔ span.IsLexeme source.toList) ∧
      spans.Pairwise (fun span later => span.stop ≤ later.start) ∧
      (∀ i, StandsAt source.toList (!isSeparator ·) i → ∃! span, span ∈ spans ∧ span.Covers i) ∧
      (∀ token ∈ tokens source, token.text.toList <:+: source.toList ∧ '#' ∉ token.text.toList) ∧
      (source.toList.count '\n' < 2 ^ 32 - 1 → ∀ token ∈ tokens source, token.line < 2 ^ 32) := by
  obtain ⟨spans, htokens, hlexemes, hapart, hcovered⟩ :=
    exists_located (cut source.toList) [] (boundary_zero _)
  have htokens : tokens source = spans.map (Span.token source.toList) := htokens
  have hlexemes : ∀ span, span ∈ spans ↔ span.IsLexeme source.toList := by simpa using hlexemes
  have htoken : ∀ token ∈ tokens source,
      ∃ span : Span, span.IsLexeme source.toList ∧ token = span.token source.toList := by
    intro token hmem
    rw [htokens] at hmem
    obtain ⟨span, hspan, rfl⟩ := List.mem_map.1 hmem
    exact ⟨span, (hlexemes span).1 hspan, rfl⟩
  refine ⟨spans, htokens, hlexemes, hapart, ?covered, ?texts, ?lines⟩
  case covered =>
    intro i hstands
    obtain ⟨span, hspan, hcovers⟩ := hcovered i (Nat.zero_le i) hstands
    refine ⟨span, ⟨hspan, hcovers⟩, ?_⟩
    rintro other ⟨hother, hothercovers⟩
    exact ((hlexemes other).1 hother).eq_of_covers ((hlexemes span).1 hspan) hothercovers hcovers
  case texts =>
    intro token hmem
    obtain ⟨span, hlexeme, rfl⟩ := htoken token hmem
    rw [Span.token, String.toList_ofList]
    constructor
    · exact (List.drop_suffix _ _).isInfix.trans (List.take_prefix _ _).isInfix
    · exact fun hhash => hlexeme.of_mem_text hhash rfl
  case lines =>
    intro hcount token hmem
    obtain ⟨span, _, rfl⟩ := htoken token hmem
    have hle : (source.toList.take span.start).count '\n' ≤ source.toList.count '\n' :=
      (List.take_sublist _ _).count_le _
    simp only [Span.token, Span.line]
    omega

example : tokens "go#(a)\r\n;b" = [⟨"go", 1⟩, ⟨";", 2⟩, ⟨"b", 2⟩] := by decide +kernel

end SceneFlow
