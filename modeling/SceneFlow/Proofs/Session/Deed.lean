import Mathlib.Data.List.TakeWhile
import SceneFlow.Session.Transcript

/-!
Lines and deeds. A line of a session moves the clock, brings an event, starts all over, or does
nothing but show something. Which of these, its words tell, and with them how far the clock can go.
-/

namespace SceneFlow

namespace Text

theorem wordsAfter_trimLeft (cs : List Char) : wordsAfter [] (trimLeft cs) = wordsAfter [] cs := by
  induction cs with
  | nil => rfl
  | cons c cs ih =>
    rw [trimLeft, List.dropWhile_cons]
    split
    · next hblank =>
      rw [wordsAfter, if_pos hblank]
      exact ih
    · rfl

theorem wordsAfter_append_of_blank (word cs : List Char) {blanks : List Char}
    (h : ∀ c ∈ blanks, isBlank c) : wordsAfter word (cs ++ blanks) = wordsAfter word cs := by
  induction cs generalizing word with
  | nil =>
    induction blanks generalizing word with
    | nil => rfl
    | cons c blanks ih =>
      obtain ⟨hc, hblanks⟩ := List.forall_mem_cons.1 h
      have hrest : wordsAfter [] blanks = [] := ih hblanks []
      simp only [List.nil_append, wordsAfter, if_pos hc, hrest]
  | cons c cs ih => simp only [List.cons_append, wordsAfter, ih]

theorem wordsAfter_trimRight (cs : List Char) :
    wordsAfter [] (trimRight cs) = wordsAfter [] cs := by
  have hsplit : trimRight cs ++ (cs.reverse.takeWhile isBlank).reverse = cs := by
    rw [trimRight, trimLeft, ← List.reverse_append, List.takeWhile_append_dropWhile,
      List.reverse_reverse]
  have hblank : ∀ c ∈ (cs.reverse.takeWhile isBlank).reverse, isBlank c := fun c hc =>
    List.mem_takeWhile_imp (List.mem_reverse.1 hc)
  calc
    wordsAfter [] (trimRight cs) =
        wordsAfter [] (trimRight cs ++ (cs.reverse.takeWhile isBlank).reverse) :=
      (wordsAfter_append_of_blank [] _ hblank).symm
    _ = wordsAfter [] cs := by rw [hsplit]

theorem words_trim (text : String) : words (trim text) = words text := by
  simp only [words, trim, String.toList_ofList, wordsAfter_trimRight, wordsAfter_trimLeft]

end Text

namespace Session

def builtIns : List String :=
  ["help", "?", "quit", "exit", "q", "tick", "t", "state", "s", "events", "e", "history", "h",
    "table", "reload"]

/-- The step that a tick is asked to make: the seconds of its argument, or nothing. The argument
has to be a number that is a delay, and the clock has to stay in its range. -/
def step? (clock : Clock) (argument : Option String) : Option Nat :=
  (argument.elim (some 0) fun text => (Number.Binary64.ofLiteral? text).bind (·.delay?)).filter
    (clock.reading + · < clock.range)

end Session

inductive Deed
  | advance (step : Nat)
  | submit (event : String)
  | restart
  | nothing
  deriving DecidableEq

namespace Deed

def steps : Deed → List Nat
  | advance step => [step]
  | _ => []

def ofWords (clock : Clock) : List String → Deed
  | [] => .nothing
  | first :: arguments =>
    let word := Text.lowerCase first
    if word = "tick" ∨ word = "t" then
      (Session.step? clock arguments.head?).elim .nothing .advance
    else if word = "reload" then .restart
    else if arguments = [] ∧ word ∉ Session.builtIns then .submit first
    else .nothing

def ofLine (clock : Clock) (line : String) : Deed := ofWords clock (Text.words line)

end Deed

namespace Request

def deed (clock : Clock) : Request → Deed
  | .tick argument => (Session.step? clock argument).elim .nothing .advance
  | .reload => .restart
  | .submit event => .submit event
  | _ => .nothing

theorem deed_ofLine (clock : Clock) (line : String) :
    (ofLine line).deed clock = .ofLine clock line := by
  rw [ofLine, Deed.ofLine]
  cases Text.words line with
  | nil => rfl
  | cons first arguments =>
    simp only [Deed.ofWords, Session.builtIns, List.mem_cons, List.not_mem_nil, or_false, not_or]
    -- The built-in words one by one, and last all the others.
    split
    case h_16 => cases arguments <;> simp_all [deed]
    all_goals simp [deed, *]

theorem ofLine_eq_quit_iff {text : String} :
    ofLine text = .quit ↔ ∃ first arguments, Text.words text = first :: arguments ∧
      (Text.lowerCase first = "quit" ∨ Text.lowerCase first = "exit"
        ∨ Text.lowerCase first = "q") := by
  rw [ofLine]
  cases Text.words text with
  | nil => simp
  | cons first arguments =>
    have hwords : (∃ word others, first :: arguments = word :: others ∧
        (Text.lowerCase word = "quit" ∨ Text.lowerCase word = "exit"
          ∨ Text.lowerCase word = "q")) ↔
        Text.lowerCase first = "quit" ∨ Text.lowerCase first = "exit"
          ∨ Text.lowerCase first = "q" := by
      simp [and_assoc]
    rw [hwords]
    dsimp only
    split
    case h_16 => split <;> simp_all
    all_goals simp [*]

end Request

namespace Session

def Quits (line : String) : Prop :=
  ∃ first arguments, Text.words line = first :: arguments ∧
    (Text.lowerCase first = "quit" ∨ Text.lowerCase first = "exit" ∨ Text.lowerCase first = "q")

def Restarts (line : String) : Prop :=
  ∃ first arguments, Text.words line = first :: arguments ∧
    Text.lowerCase first = "reload"

theorem ofLine_eq_restart_iff {clock : Clock} {line : String} :
    Deed.ofLine clock line = .restart ↔ Restarts line := by
  rw [Deed.ofLine, Restarts]
  cases Text.words line with
  | nil => simp [Deed.ofWords]
  | cons first arguments =>
    simp only [Deed.ofWords, List.cons.injEq]
    cases step? clock arguments.head? <;> grind

theorem ofLine_trim (line : String) : Request.ofLine (Text.trim line) = .ofLine line := by
  simp only [Request.ofLine, Text.words_trim]

theorem request?_eq (line : String) :
    request? line = none ∧ Request.ofLine line = .nothing ∨
      request? line = some (.ofLine line) := by
  simp only [request?, ← ofLine_trim line]
  split
  · next hempty =>
    rw [hempty]
    exact .inl ⟨rfl, rfl⟩
  · exact .inr rfl

theorem quits_iff {line : String} : Quits line ↔ request? line = some .quit := by
  rw [Quits, ← Request.ofLine_eq_quit_iff]
  cases request?_eq line with
  | inl hnone => simp [hnone]
  | inr hsome => simp [hsome]

end Session

end SceneFlow
