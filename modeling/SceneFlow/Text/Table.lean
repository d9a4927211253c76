namespace SceneFlow.Text

/-- Looks no further than the first range that ends at or above the code point. -/
def inTable (code : Nat) : List (Nat × Nat) → Bool
  | [] => false
  | (first, last) :: higher =>
    if code ≤ last then decide (first ≤ code) else inTable code higher

theorem inTable_cons_of_le {code first last : Nat} (higher : List (Nat × Nat)) (h : code ≤ last) :
    inTable code ((first, last) :: higher) = decide (first ≤ code) := by
  simp [inTable, h]

theorem inTable_cons_of_lt {code first last : Nat} (higher : List (Nat × Nat)) (h : last < code) :
    inTable code ((first, last) :: higher) = inTable code higher := by
  simp [inTable, Nat.not_le.2 h]

theorem exists_of_inTable {code : Nat} {table : List (Nat × Nat)} (h : inTable code table = true) :
    ∃ range ∈ table, range.1 ≤ code ∧ code ≤ range.2 := by
  induction table with
  | nil => simp [inTable] at h
  | cons range higher ih =>
    obtain ⟨first, last⟩ := range
    by_cases hle : code ≤ last
    · rw [inTable_cons_of_le _ hle] at h
      exact ⟨(first, last), by simp, of_decide_eq_true h, hle⟩
    · rw [inTable_cons_of_lt _ (Nat.not_le.1 hle)] at h
      obtain ⟨range, hmem, hin⟩ := ih h
      exact ⟨range, List.mem_cons_of_mem _ hmem, hin⟩

end SceneFlow.Text
