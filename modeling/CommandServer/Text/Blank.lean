/-
Blank characters and trimming. A character is blank when Unicode gives it the White_Space property
or it is one of the four information separators. Trimming removes blank characters from the ends
of a text and nothing else.
-/
namespace CommandServer.Text

/-- The inclusive code point ranges of the blank characters. -/
def blankRanges : List (Nat × Nat) :=
  [(0x09, 0x0D), (0x1C, 0x20), (0x85, 0x85), (0xA0, 0xA0), (0x1680, 0x1680), (0x2000, 0x200A),
    (0x2028, 0x2029), (0x202F, 0x202F), (0x205F, 0x205F), (0x3000, 0x3000)]

def isBlank (c : Char) : Bool :=
  blankRanges.any fun r => r.1 ≤ c.toNat && c.toNat ≤ r.2

/-- The text without the blank characters at its start. -/
def trimStart (cs : List Char) : List Char :=
  cs.dropWhile isBlank

/-- The text without the blank characters at its end. -/
def trimEnd (cs : List Char) : List Char :=
  (cs.reverse.dropWhile isBlank).reverse

/-- The text without the blank characters at either end. -/
def trim (cs : List Char) : List Char :=
  trimEnd (trimStart cs)

/-- A text of blank characters only; the empty text is one. -/
def allBlank (cs : List Char) : Bool :=
  cs.all isBlank

/-! ## Laws -/

@[simp] theorem trimStart_nil : trimStart [] = [] := rfl

@[simp] theorem trimEnd_nil : trimEnd [] = [] := rfl

@[simp] theorem trim_nil : trim [] = [] := rfl

theorem trimStart_suffix (cs : List Char) : trimStart cs <:+ cs :=
  List.dropWhile_suffix isBlank

theorem exists_append_trimStart (cs : List Char) :
    ∃ a, allBlank a = true ∧ a ++ trimStart cs = cs :=
  ⟨cs.takeWhile isBlank, List.all_takeWhile, List.takeWhile_append_dropWhile⟩

theorem exists_trimEnd_append (cs : List Char) :
    ∃ b, allBlank b = true ∧ trimEnd cs ++ b = cs := by
  refine ⟨(cs.reverse.takeWhile isBlank).reverse, ?_, ?_⟩
  · rw [allBlank, List.all_reverse]
    exact List.all_takeWhile
  · rw [trimEnd, ← List.reverse_append, List.takeWhile_append_dropWhile, List.reverse_reverse]

/-- A text is its trimmed form between blank characters. -/
theorem exists_append_trim_append (cs : List Char) :
    ∃ a b, allBlank a = true ∧ allBlank b = true ∧ a ++ trim cs ++ b = cs := by
  obtain ⟨a, ha, hcs⟩ := exists_append_trimStart cs
  obtain ⟨b, hb, htrim⟩ := exists_trimEnd_append (trimStart cs)
  exact ⟨a, b, ha, hb, by rw [trim, List.append_assoc, htrim, hcs]⟩

end CommandServer.Text
