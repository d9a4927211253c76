import Mathlib.Data.List.Forall2
import SceneFlow.Proofs.Binding.Directive

/-!
The schedule. Every command comes up in exactly one pass, so nothing is lost, and commands of one
pass come up in the order in which they stand.
-/

namespace SceneFlow

variable {commands : List Command} {takes : Keyword → Bool} {wanted : Command → Bool}

namespace Keyword

theorem passes_disjoint (keyword : Keyword) :
    passes.Pairwise fun takes others => ¬ (takes keyword ∧ others keyword) := by
  cases keyword <;> decide

theorem countP_passes (keyword : Keyword) : passes.countP (· keyword) = 1 := by
  cases keyword <;> decide

end Keyword

def Slot.pass : Slot → Keyword → Bool
  | .state _ => (· = .state)
  | .event _ => (· = .event)
  | .start => (· = .defineStart)
  | .error => (· = .defineError)
  | .resource _ => fun keyword => keyword = .loadScene ∨ keyword = .loadSceneAdditive
  | .timed _ => (· = .timedTransition)
  | .named _ _ => (· = .namedTransition)
  | .back _ _ => (· = .backTransition)
  | .flag _ => (!·.flags.isEmpty)

theorem Slot.pass_mem (slot : Slot) : slot.pass ∈ Keyword.passes := by
  cases slot <;> simp [pass, Keyword.passes]

theorem Directive.SaidBy.pass {directive : Directive} {keyword : Keyword} {slot : Slot}
    (h : directive.SaidBy keyword) (hslot : slot ∈ directive.slots) : slot.pass keyword := by
  cases directive with
  | switches flags =>
    obtain ⟨flag, hflag, rfl⟩ := List.mem_map.1 hslot
    have hflags : flags = keyword.switches := h
    rw [hflags, ← keyword.flags_eq_switches] at hflag
    simpa [Slot.pass] using List.ne_nil_of_mem hflag
  | _ =>
    obtain rfl := List.mem_singleton.1 hslot
    exact decide_eq_true h

def takenIn (passes : List (Keyword → Bool)) (commands : List Command) : List Command :=
  passes.flatMap fun takes => commands.filter fun command => takes command.keyword

theorem schedule_eq_takenIn (commands : List Command) :
    schedule commands = takenIn Keyword.passes commands := rfl

theorem takenIn_cons (takes : Keyword → Bool) (passes : List (Keyword → Bool))
    (commands : List Command) :
    takenIn (takes :: passes) commands =
      (commands.filter fun command => takes command.keyword) ++ takenIn passes commands :=
  List.flatMap_cons

theorem count_takenIn (passes : List (Keyword → Bool)) (commands : List Command)
    (command : Command) :
    (takenIn passes commands).count command =
      passes.countP (· command.keyword) * commands.count command := by
  induction passes with
  | nil => simp [takenIn]
  | cons takes passes ih =>
    rw [takenIn_cons, List.count_append, ih, List.countP_cons]
    by_cases htakes : takes command.keyword
    · have hcount : (commands.filter fun command => takes command.keyword).count command =
          commands.count command :=
        List.count_filter (p := fun command : Command => takes command.keyword) htakes
      rw [hcount, if_pos htakes, Nat.add_mul, Nat.one_mul, Nat.add_comm]
    · have hnot : command ∉ commands.filter fun command => takes command.keyword := by
        simp [htakes]
      rw [List.count_eq_zero.2 hnot, if_neg htakes, Nat.zero_add, Nat.add_zero]

theorem schedule_perm (commands : List Command) : (schedule commands).Perm commands := by
  rw [List.perm_iff_count]
  intro command
  rw [schedule_eq_takenIn, count_takenIn, Keyword.countP_passes, Nat.one_mul]

theorem mem_schedule {command : Command} : command ∈ schedule commands ↔ command ∈ commands :=
  (schedule_perm commands).mem_iff

theorem filter_takenIn_eq_nil {passes : List (Keyword → Bool)}
    (h : ∀ others ∈ passes, ∀ command ∈ commands, wanted command → others command.keyword = false) :
    (takenIn passes commands).filter wanted = [] := by
  rw [List.filter_eq_nil_iff]
  intro command hcommand hwanted
  obtain ⟨others, hothers, hmem⟩ := List.mem_flatMap.1 hcommand
  obtain ⟨hcommands, htakes⟩ := List.mem_filter.1 hmem
  rw [h others hothers command hcommands hwanted] at htakes
  cases htakes

theorem filter_takenIn {passes : List (Keyword → Bool)}
    (hdisjoint : ∀ keyword,
      passes.Pairwise fun takes others => ¬ (takes keyword ∧ others keyword))
    (htakes : takes ∈ passes)
    (hwanted : ∀ command ∈ commands, wanted command → takes command.keyword) :
    (takenIn passes commands).filter wanted = commands.filter wanted := by
  induction passes with
  | nil => cases htakes
  | cons first passes ih =>
    have hfirst := fun keyword => (List.pairwise_cons.1 (hdisjoint keyword)).1
    rw [takenIn_cons, List.filter_append, List.filter_filter]
    cases List.mem_cons.1 htakes with
    | inl hsame =>
      -- What is wanted comes up here, and in no later pass.
      subst hsame
      rw [filter_takenIn_eq_nil, List.append_nil]
      · apply List.filter_congr
        intro command hcommand
        cases hvalue : wanted command with
        | false => rfl
        | true => simp [hwanted command hcommand hvalue]
      · intro others hothers command hcommand hvalue
        have hnot := hfirst command.keyword others hothers
        simpa [hwanted command hcommand hvalue] using hnot
    | inr hlater =>
      rw [ih (fun keyword => (List.pairwise_cons.1 (hdisjoint keyword)).2) hlater]
      have hnone : (commands.filter fun command =>
          wanted command && first command.keyword) = [] := by
        rw [List.filter_eq_nil_iff]
        intro command hcommand hboth
        obtain ⟨hvalue, hkeyword⟩ := Bool.and_eq_true_iff.1 hboth
        exact hfirst command.keyword takes hlater
          ⟨hkeyword, hwanted command hcommand hvalue⟩
      rw [hnone, List.nil_append]

theorem filterMap_takenIn {α : Type} {read? : Command → Option α}
    {passes : List (Keyword → Bool)}
    (hdisjoint : ∀ keyword,
      passes.Pairwise fun takes others => ¬ (takes keyword ∧ others keyword))
    (htakes : takes ∈ passes)
    (hread : ∀ command ∈ commands, (read? command).isSome → takes command.keyword) :
    (takenIn passes commands).filterMap read? = commands.filterMap read? := by
  have hsome : ∀ several : List Command, several.filterMap read? =
      (several.filter fun command => (read? command).isSome).filterMap read? := by
    intro several
    rw [List.filterMap_filter]
    congr 1
    funext command
    cases read? command <;> simp
  rw [hsome, filter_takenIn hdisjoint htakes hread, ← hsome]

theorem filter_schedule (htakes : takes ∈ Keyword.passes)
    (hwanted : ∀ command ∈ commands, wanted command → takes command.keyword) :
    (schedule commands).filter wanted = commands.filter wanted :=
  filter_takenIn Keyword.passes_disjoint htakes hwanted

theorem forall₂_schedule {related : Command → Command → Prop} {others : List Command}
    (hkeyword : ∀ command other, related command other → other.keyword = command.keyword)
    (h : List.Forall₂ related commands others) :
    List.Forall₂ related (schedule commands) (schedule others) := by
  have hpasses : List.Forall₂ Eq Keyword.passes Keyword.passes := List.forall₂_refl _
  refine List.rel_flatMap hpasses ?_
  rintro takes _ rfl
  refine List.rel_filter ?_ h
  intro command other hrelated
  simp only [hkeyword command other hrelated]

end SceneFlow
