import SceneFlow.Token

/-!
Words of program text. Identifiers and number literals hold no character that would end them or
begin a comment, so in front of a punctuation mark each of them is a token of its own.
-/

namespace SceneFlow

variable {c mark : Char} {cs word rest : List Char} {text : String} {line : Nat}

/-- The characters that do not belong to words: those between words, and the one that begins a
comment. -/
def isBreak (c : Char) : Bool := isPunctuation c || isSeparator c || c == '#'

theorem mem_of_isBreak (h : isBreak c) :
    c ∈ ['(', ')', ',', ';', ' ', '\t', '\r', '\n', '#'] := by
  simpa [isBreak, isPunctuation, isSeparator, or_assoc] using h

theorem false_of_isBreak (p : Char → Bool) (h : isBreak c)
    (hall : ['(', ')', ',', ';', ' ', '\t', '\r', '\n', '#'].all (!p ·)) : p c = false := by
  simpa using List.all_eq_true.1 hall c (mem_of_isBreak h)

theorem ne_of_kind {kind : Char → Bool} {other : Char} (h : kind c) (hother : kind other = false) :
    c ≠ other := by
  rintro rfl
  rw [h] at hother
  cases hother

structure IsWord (word : List Char) : Prop where
  nonempty : word ≠ []
  whole : ∀ c ∈ word, isBreak c = false

theorem isWord_of_not_mem (h : word ≠ []) (hbreak : ∀ c, isBreak c → c ∉ word) : IsWord word := by
  refine ⟨h, fun c hc => ?_⟩
  cases hb : isBreak c with
  | false => rfl
  | true => exact absurd hc (hbreak c hb)

theorem continuesName_of_isIdentifier (h : isIdentifier text) :
    ∀ c ∈ text.toList, Text.continuesName c := by
  rw [isIdentifier] at h
  split at h
  · cases h
  · next first others htext =>
    obtain ⟨hfirst, hothers⟩ := Bool.and_eq_true_iff.1 h
    rw [htext]
    exact List.forall_mem_cons.2
      ⟨Text.continuesName_of_startsName hfirst, List.all_eq_true.1 hothers⟩

theorem isWord_of_isIdentifier (h : isIdentifier text) : IsWord text.toList := by
  have hnonempty : text.toList ≠ [] := by
    intro hempty
    simp [isIdentifier, hempty] at h
  refine isWord_of_not_mem hnonempty fun c hc hmem => ?_
  have hcontinues := continuesName_of_isIdentifier h c hmem
  rw [false_of_isBreak Text.continuesName hc (by decide +kernel)] at hcontinues
  cases hcontinues

namespace Number

theorem mem_splitSign (h : isBreak c) : c ∈ (splitSign cs).2 ↔ c ∈ cs := by
  have hminus : c ≠ '-' := ne_of_kind h rfl
  have hplus : c ≠ '+' := ne_of_kind h rfl
  unfold splitSign
  split
  · simp [hminus]
  · simp [hplus]
  · rfl

theorem not_mem_of_digits (h : isBreak c) (hdigits : cs.all Char.isDigit) : c ∉ cs := by
  intro hmem
  have hdigit := List.all_eq_true.1 hdigits c hmem
  rw [false_of_isBreak Char.isDigit h (by decide)] at hdigit
  cases hdigit

theorem not_mem_of_exponent? (h : isBreak c) (hsome : (exponent? cs).isSome) : c ∉ cs := by
  cases cs with
  | nil => exact List.not_mem_nil
  | cons mark rest =>
    rw [exponent?] at hsome
    split at hsome
    · next hmark =>
      dsimp only at hsome
      split at hsome
      · next hdigits =>
        have hrest := not_mem_of_digits h hdigits.2
        rw [mem_splitSign h] at hrest
        intro hmem
        cases List.mem_cons.1 hmem with
        | inl hsame =>
          rw [← hsame] at hmark
          exact hmark.elim (ne_of_kind h rfl) (ne_of_kind h rfl)
        | inr hlater => exact hrest hlater
      · cases hsome
    · cases hsome

theorem mem_splitFraction (h : isBreak c) (hmem : c ∈ cs) :
    c ∈ (splitFraction cs).1 ∨ c ∈ (splitFraction cs).2 := by
  unfold splitFraction
  split
  · next rest =>
    have hpoint : c ≠ '.' := ne_of_kind h rfl
    rw [← List.mem_append, List.takeWhile_append_dropWhile]
    simpa [hpoint] using hmem
  · exact .inr hmem

theorem all_splitFraction (cs : List Char) : (splitFraction cs).1.all Char.isDigit := by
  unfold splitFraction
  split
  · exact List.all_takeWhile
  · rfl

theorem not_mem_of_decimal? (h : isBreak c) (hsome : (decimal? cs).isSome) : c ∉ cs := by
  simp only [decimal?] at hsome
  split at hsome
  · cases hsome
  · rw [Option.isSome_map] at hsome
    intro hmem
    rw [← List.takeWhile_append_dropWhile (p := Char.isDigit) (l := cs), List.mem_append] at hmem
    rcases hmem with hwhole | hmem
    · exact not_mem_of_digits h List.all_takeWhile hwhole
    · cases mem_splitFraction h hmem with
      | inl hfraction => exact not_mem_of_digits h (all_splitFraction _) hfraction
      | inr hrest => exact not_mem_of_exponent? h hsome hrest

theorem not_mem_of_map_toLower {letters : String} (h : isBreak c)
    (hletters : letters.toList.all (!isBreak ·))
    (hmap : String.ofList (cs.map Char.toLower) = letters) : c ∉ cs := by
  intro hmem
  have hlower : c.toLower = c := by
    simpa using false_of_isBreak (fun c => c.toLower != c) h (by decide)
  have hletter : c ∈ letters.toList := by
    rw [← hmap, String.toList_ofList, ← hlower]
    exact List.mem_map_of_mem hmem
  have hnot := List.all_eq_true.1 hletters c hletter
  simp [h] at hnot

theorem not_mem_of_ofLiteralChars? (h : isBreak c)
    (hsome : (Binary64.ofLiteralChars? cs).isSome) : c ∉ cs := by
  rw [← mem_splitSign h]
  simp only [Binary64.ofLiteralChars?] at hsome
  split at hsome
  · next hdecimal => exact not_mem_of_decimal? h (Option.isSome_of_eq_some hdecimal)
  · split at hsome
    · next hinf => exact not_mem_of_map_toLower h (by decide) hinf
    · next hinfinity => exact not_mem_of_map_toLower h (by decide) hinfinity
    · next hnan => exact not_mem_of_map_toLower h (by decide) hnan
    · cases hsome

end Number

theorem isWord_of_isNumber (h : isNumber text) : IsWord text.toList := by
  refine isWord_of_not_mem ?_ fun c hc => Number.not_mem_of_ofLiteralChars? hc h
  intro hempty
  rw [isNumber, Number.Binary64.ofLiteral?, hempty] at h
  revert h
  decide

theorem isWord_of_isArgument (h : isArgument text) : IsWord text.toList := by
  cases Bool.or_eq_true_iff.1 h with
  | inl hidentifier => exact isWord_of_isIdentifier hidentifier
  | inr hnumber => exact isWord_of_isNumber hnumber

def scan (line : Nat) (cs : List Char) : List Token := scanFrom line (dropComments false cs)

theorem tokens_eq_scan (source : String) : tokens source = scan 1 source.toList := rfl

theorem scan_nil (line : Nat) : scan line [] = [] := by
  rw [scan, dropComments, scanFrom]

theorem dropComments_cons (h : c ≠ '#') :
    dropComments false (c :: rest) = c :: dropComments false rest := by
  cases hend : isLineEnd c <;> simp [dropComments, h, hend]

theorem dropComments_append (h : '#' ∉ word) :
    dropComments false (word ++ rest) = word ++ dropComments false rest := by
  induction word with
  | nil => rfl
  | cons c word ih =>
    obtain ⟨hc, hword⟩ := not_or.1 (mt List.mem_cons.2 h)
    rw [List.cons_append, dropComments_cons (Ne.symm hc), ih hword, List.cons_append]

theorem scan_punctuation (h : isPunctuation c) (line : Nat) (rest : List Char) :
    scan line (c :: rest) = ⟨String.singleton c, line⟩ :: scan line rest := by
  rw [scan, dropComments_cons (ne_of_kind h rfl), scanFrom, if_pos h, scan]

theorem isPunctuation_of_isSeparator (h : isSeparator c) : isPunctuation c = false := by
  have hc : c = ' ' ∨ c = '\t' ∨ c = '\r' ∨ c = '\n' := by simpa [isSeparator, or_assoc] using h
  rcases hc with rfl | rfl | rfl | rfl <;> rfl

theorem scan_separator (h : isSeparator c) (line : Nat) (rest : List Char) :
    scan line (c :: rest) = scan (if c = '\n' then line + 1 else line) rest := by
  have hpunctuation := isPunctuation_of_isSeparator h
  rw [scan, dropComments_cons (ne_of_kind h rfl), scanFrom, if_neg (by simp [hpunctuation]),
    if_pos h, scan]

theorem scan_space (line : Nat) (rest : List Char) : scan line (' ' :: rest) = scan line rest :=
  scan_separator rfl line rest

theorem scan_newline (line : Nat) (rest : List Char) :
    scan line ('\n' :: rest) = scan (line + 1) rest := scan_separator rfl line rest

theorem isWordChar_of_not_isBreak (h : isBreak c = false) : isWordChar c := by
  simp_all [isBreak, isWordChar]

theorem isWordChar_of_isBreak (h : isBreak c) (hc : c ≠ '#') : isWordChar c = false := by
  rw [isBreak, beq_false_of_ne hc, Bool.or_false] at h
  rw [isWordChar, ← Bool.not_or, h]
  rfl

theorem isWordChar_of_isLineEnd (h : isLineEnd c) : isWordChar c = false := by
  refine isWordChar_of_isBreak ?_ (ne_of_kind h rfl)
  rcases Bool.or_eq_true_iff.1 h with hc | hc <;> simp [isBreak, isSeparator, hc]

theorem exists_front (p : Char → Bool) (cs : List Char) :
    ∃ front back, cs = front ++ back ∧ (∀ c ∈ front, p c) ∧ ∀ c ∈ back.head?, p c = false := by
  refine ⟨cs.takeWhile p, cs.dropWhile p, List.takeWhile_append_dropWhile.symm,
    List.all_eq_true.1 List.all_takeWhile, fun c hc => ?_⟩
  have hstop := List.head?_dropWhile_not p cs
  rw [Option.mem_def.1 hc] at hstop
  exact hstop

theorem dropComments_comment (h : ∀ c ∈ word, isLineEnd c = false)
    (hrest : ∀ c ∈ rest.head?, isLineEnd c) :
    dropComments true (word ++ rest) = dropComments false rest := by
  induction word with
  | nil =>
    cases rest with
    | nil => rfl
    | cons c rest =>
      have hend : isLineEnd c := hrest c rfl
      have hhash : c ≠ '#' := ne_of_kind hend rfl
      simp [dropComments, hend, hhash]
  | cons c word ih =>
    obtain ⟨hc, hword⟩ := List.forall_mem_cons.1 h
    simp [dropComments, hc, ih hword]

theorem scan_comment (h : ∀ c ∈ word, isLineEnd c = false)
    (hrest : ∀ c ∈ rest.head?, isLineEnd c) (line : Nat) :
    scan line ('#' :: word ++ rest) = scan line rest := by
  rw [scan, scan, ← dropComments_comment h hrest]
  rfl

theorem head?_dropComments (hrest : ∀ c ∈ rest.head?, isBreak c) :
    ∀ c ∈ (dropComments false rest).head?, isWordChar c = false := by
  cases rest with
  | nil => simp [dropComments]
  | cons mark rest =>
    by_cases hmark : mark = '#'
    · obtain ⟨body, back, rfl, hbody, hback⟩ := exists_front (!isLineEnd ·) rest
      have hcomment : dropComments true (body ++ back) = dropComments false back :=
        dropComments_comment (by simpa using hbody) (by simpa using hback)
      have hdrop : dropComments false (mark :: (body ++ back)) = dropComments false back := by
        rw [← hcomment, hmark]
        rfl
      rw [hdrop]
      cases back with
      | nil => simp [dropComments]
      | cons c back =>
        have hend : isLineEnd c := by simpa using hback c rfl
        simpa [dropComments_cons (ne_of_kind hend rfl)] using isWordChar_of_isLineEnd hend
    · have hbreak : isBreak mark := hrest mark rfl
      simpa [dropComments_cons hmark] using isWordChar_of_isBreak hbreak hmark

theorem scan_append (h : IsWord word) (hrest : ∀ c ∈ rest.head?, isBreak c) (line : Nat) :
    scan line (word ++ rest) = ⟨String.ofList word, line⟩ :: scan line rest := by
  have hcomment : '#' ∉ word := fun hmem => absurd (h.whole _ hmem) (by decide)
  have hchars : ∀ c ∈ word, isWordChar c := fun c hc => isWordChar_of_not_isBreak (h.whole c hc)
  have hstop := head?_dropComments hrest
  rw [scan, dropComments_append hcomment, scan]
  obtain ⟨first, others, rfl⟩ := List.exists_cons_of_ne_nil h.nonempty
  obtain ⟨hfirst, hothers⟩ := List.forall_mem_cons.1 hchars
  obtain ⟨hpunctuation, hseparator⟩ : isPunctuation first = false ∧ isSeparator first = false := by
    simpa [isWordChar] using hfirst
  rw [List.cons_append, scanFrom, if_neg (by simp [hpunctuation]), if_neg (by simp [hseparator]),
    List.takeWhile_append_of_pos hothers, List.dropWhile_append_of_pos hothers]
  cases hrest : dropComments false rest with
  | nil => simp
  | cons c back =>
    rw [hrest] at hstop
    have hc : ¬ isWordChar c = true := by simp [hstop c rfl]
    rw [List.takeWhile_cons_of_neg hc, List.dropWhile_cons_of_neg hc, List.append_nil]

theorem scan_word (h : IsWord word) (hmark : isPunctuation mark) (line : Nat) (rest : List Char) :
    scan line (word ++ mark :: rest) =
      ⟨String.ofList word, line⟩ :: scan line (mark :: rest) :=
  scan_append h (by simp [isBreak, hmark]) line

end SceneFlow
