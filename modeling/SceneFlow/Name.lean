import SceneFlow.Text.Case

/-!
Names of states and events. Two spellings mean the same thing if their lower-case forms agree, so
the lower-case form is what a thing is known by.
-/

namespace SceneFlow

structure Name where
  key : String
  deriving DecidableEq

namespace Name

def of (spelling : String) : Name := ⟨Text.lowerCase spelling⟩

def before (a b : Name) : Bool := decide (a.key < b.key)

def insert (name : Name) : List Name → List Name
  | [] => [name]
  | other :: rest =>
    if name.before other then name :: other :: rest
    else if name = other then other :: rest
    else other :: insert name rest

/-- Puts an entry into its place of a list with ascending names, instead of one of the same name. -/
def insertEntry {α : Type} (name : Name) (value : α) : List (Name × α) → List (Name × α)
  | [] => [(name, value)]
  | other :: rest =>
    if name.before other.1 then (name, value) :: other :: rest
    else if name = other.1 then (name, value) :: rest
    else other :: insertEntry name value rest

def modifyEntry {α : Type} (name : Name) (change : α → α) (entries : List (Name × α)) :
    List (Name × α) :=
  entries.map fun entry => if entry.1 = name then (entry.1, change entry.2) else entry

theorem mem_insert {name other : Name} {names : List Name} :
    other ∈ insert name names ↔ other = name ∨ other ∈ names := by
  induction names with
  | nil => simp [insert]
  | cons first rest ih =>
    unfold insert
    split
    · simp
    · split
      · next h => simp [h]
      · simp only [List.mem_cons, ih]
        exact or_left_comm

theorem lookup_insertEntry {α : Type} (name other : Name) (value : α)
    (entries : List (Name × α)) :
    (insertEntry name value entries).lookup other
      = if other = name then some value else entries.lookup other := by
  induction entries with
  | nil =>
    simp only [insertEntry, List.lookup_cons, List.lookup_nil]
    split <;> simp_all
  | cons first rest ih =>
    obtain ⟨key, old⟩ := first
    unfold insertEntry
    split
    · simp only [List.lookup_cons]
      split <;> simp_all
    · split
      · next h =>
        obtain rfl : name = key := h
        simp only [List.lookup_cons]
        split <;> simp_all
      · next h =>
        have h : ¬name = key := h
        simp only [List.lookup_cons, ih]
        split
        · next heq =>
          obtain rfl := eq_of_beq heq
          simp [Ne.symm h]
        · rfl

end Name

end SceneFlow
