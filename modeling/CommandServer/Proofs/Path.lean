/-
Characters of a path. Reading a path drops slashes and parts without a meaning, so that any other
character of a text is one of its path; what is seen from another path has the characters of both,
unless it is absolute.
-/
import CommandServer.Path

namespace CommandServer.Path

/-- The pieces between slashes hold what the text holds but its slashes. -/
theorem exists_mem_splitSlashes_iff {c : Char} {piece cs : List Char} :
    (∃ p ∈ splitSlashes piece cs, c ∈ p) ↔ c ∈ piece ∨ (c ∈ cs ∧ c ≠ '/') := by
  induction cs generalizing piece with
  | nil => simp [splitSlashes]
  | cons d cs ih =>
    by_cases hd : d = '/'
    · subst hd
      rw [splitSlashes]
      simp only [List.mem_cons, exists_eq_or_imp, List.mem_reverse, ih, List.not_mem_nil, false_or]
      constructor
      · rintro (h | ⟨h, hne⟩)
        · exact .inl h
        · exact .inr ⟨.inr h, hne⟩
      · rintro (h | ⟨rfl | h, hne⟩)
        · exact .inl h
        · exact absurd rfl hne
        · exact .inr ⟨h, hne⟩
    · rw [splitSlashes, ih, List.mem_cons, List.mem_cons]
      · constructor
        · rintro ((rfl | h) | ⟨h, hne⟩)
          · exact .inr ⟨.inl rfl, hd⟩
          · exact .inl h
          · exact .inr ⟨.inr h, hne⟩
        · rintro (h | ⟨rfl | h, hne⟩)
          · exact .inl (.inr h)
          · exact .inl (.inl rfl)
          · exact .inr ⟨h, hne⟩
      · exact hd

theorem hasNul_iff {p : Path} : p.hasNul = true ↔ ∃ part ∈ p.parts, '\x00' ∈ part.toList := by
  simp [hasNul]

/-- A path holds the character zero when its text does. -/
theorem hasNul_ofString_iff {s : String} : (ofString s).hasNul = true ↔ '\x00' ∈ s.toList := by
  have hsplit : (∃ p ∈ splitSlashes [] s.toList, '\x00' ∈ p) ↔
      '\x00' ∈ [] ∨ ('\x00' ∈ s.toList ∧ '\x00' ≠ '/') := exists_mem_splitSlashes_iff
  rw [hasNul_iff]
  constructor
  · rintro ⟨part, hpart, hnul⟩
    obtain ⟨p, hp, rfl⟩ := List.mem_map.1 hpart
    rw [String.toList_ofList] at hnul
    rcases hsplit.1 ⟨p, (List.mem_filter.1 hp).1, hnul⟩ with h | h
    · cases h
    · exact h.1
  · intro h
    obtain ⟨p, hp, hnul⟩ := hsplit.2 (.inr ⟨h, by decide⟩)
    -- a part that is dropped is empty or a dot
    have hkept : isPart p = true := by
      unfold isPart
      rw [Bool.and_eq_true, Bool.not_eq_true', List.isEmpty_eq_false_iff, bne_iff_ne]
      constructor
      · rintro rfl
        cases hnul
      · rintro rfl
        revert hnul
        decide
    refine ⟨String.ofList p, List.mem_map.2 ⟨p, List.mem_filter.2 ⟨hp, hkept⟩, rfl⟩, ?_⟩
    rw [String.toList_ofList]
    exact hnul

theorem isAbsolute_ofString_iff {s : String} :
    (ofString s).isAbsolute = true ↔ s.toList.head? = some '/' := by
  show (rootOf s.toList != .relative) = true ↔ _
  rw [List.head?_eq_some_iff]
  unfold rootOf
  split <;> simp_all

/-- What is seen from a path holds the character zero when one of both does, or when it alone does
and is absolute. -/
theorem hasNul_join_ofString_iff {root : Path} {s : String} :
    (root.join (ofString s)).hasNul = true ↔
      '\x00' ∈ s.toList ∨ (s.toList.head? ≠ some '/' ∧ root.hasNul = true) := by
  unfold join
  by_cases h : (ofString s).isAbsolute = true
  · rw [if_pos h, hasNul_ofString_iff]
    simp [isAbsolute_ofString_iff.1 h]
  · rw [if_neg h]
    rw [isAbsolute_ofString_iff] at h
    have hparts : (Path.mk root.root (root.parts ++ (ofString s).parts)).hasNul = true ↔
        root.hasNul = true ∨ (ofString s).hasNul = true := by
      simp only [hasNul, List.any_append, Bool.or_eq_true]
    rw [hparts, hasNul_ofString_iff]
    constructor
    · rintro (hroot | hs)
      · exact .inr ⟨h, hroot⟩
      · exact .inl hs
    · rintro (hs | ⟨-, hroot⟩)
      · exact .inr hs
      · exact .inl hroot

end CommandServer.Path
