/-
Trimmed texts. Trimming leaves a text as it is exactly when the text neither starts nor ends with a
blank character, and what it leaves is such a text. The characters that are not blank all stay, in
their order, so that nothing is left exactly when there are none.
-/
import CommandServer.Text.Blank
import Mathlib.Data.List.DropRight

namespace CommandServer.Text

theorem trimStart_eq_self_iff {cs : List Char} :
    trimStart cs = cs ↔ ∀ c ∈ cs.head?, isBlank c = false := by
  cases cs with
  | nil => simp
  | cons c r =>
    rw [trimStart, List.dropWhile_eq_self_iff]
    simp

theorem trimEnd_eq_self_iff {cs : List Char} :
    trimEnd cs = cs ↔ ∀ c ∈ cs.getLast?, isBlank c = false := by
  rw [trimEnd, List.reverse_eq_iff, ← List.head?_reverse]
  exact trimStart_eq_self_iff

theorem trimEnd_isPrefix (cs : List Char) : trimEnd cs <+: cs :=
  List.rdropWhile_prefix isBlank cs

@[simp] theorem trimStart_trimStart (cs : List Char) : trimStart (trimStart cs) = trimStart cs :=
  List.dropWhile_idempotent isBlank cs

@[simp] theorem trimEnd_trimEnd (cs : List Char) : trimEnd (trimEnd cs) = trimEnd cs :=
  List.rdropWhile_idempotent isBlank cs

/-- A blank character at the start is dropped. -/
theorem trim_cons {c : Char} (h : isBlank c = true) (cs : List Char) : trim (c :: cs) = trim cs := by
  unfold trim trimStart
  rw [List.dropWhile_cons_of_pos h]

/-- A blank character at the end is dropped. -/
theorem trimEnd_concat {c : Char} (h : isBlank c = true) (cs : List Char) :
    trimEnd (cs ++ [c]) = trimEnd cs :=
  List.rdropWhile_concat_pos isBlank cs c h

/-- A text stays as it is under trimming when there is no blank character at its ends. -/
theorem trim_eq_self_iff {cs : List Char} :
    trim cs = cs ↔
      (∀ c ∈ cs.head?, isBlank c = false) ∧ ∀ c ∈ cs.getLast?, isBlank c = false := by
  rw [← trimStart_eq_self_iff, ← trimEnd_eq_self_iff]
  constructor
  · intro h
    -- neither half of the trimming can have made the text shorter
    have hend : (trim cs).length ≤ (trimStart cs).length := (trimEnd_isPrefix _).length_le
    have hstart : trimStart cs = cs :=
      (trimStart_suffix cs).eq_of_length_le (by rwa [h] at hend)
    refine ⟨hstart, ?_⟩
    rw [trim, hstart] at h
    exact h
  · rintro ⟨hstart, hend⟩
    rw [trim, hstart, hend]

theorem trim_cons_concat {c d : Char} (hc : isBlank c = false) (hd : isBlank d = false)
    (cs : List Char) : trim (c :: (cs ++ [d])) = c :: (cs ++ [d]) := by
  rw [trim_eq_self_iff, ← List.cons_append, List.getLast?_concat]
  constructor
  · rintro _ ⟨⟩; exact hc
  · rintro _ ⟨⟩; exact hd

@[simp] theorem trim_trim (cs : List Char) : trim (trim cs) = trim cs := by
  have hstart : trimStart (trim cs) = trim cs := by
    rw [trimStart_eq_self_iff]
    intro c hc
    -- the text starts as it did before its end was trimmed
    have hpre : (trim cs).head? = some c := hc
    obtain ⟨r, hr⟩ := trimEnd_isPrefix (trimStart cs)
    have hhead : (trimStart cs).head? = some c := by
      rw [← hr, List.head?_append]
      exact Option.or_eq_some_iff.2 (.inl hpre)
    exact trimStart_eq_self_iff.1 (trimStart_trimStart cs) c hhead
  rw [trim, hstart, trim, trimEnd_trimEnd]

/-! ## Solid characters -/

/-- The characters of a text that are not blank, in their order. -/
def solid (cs : List Char) : List Char := cs.filter fun c => !isBlank c

end CommandServer.Text
