/-
What the text between two brackets has to look like to describe a field. Only the part before the
first `#` decides whether it does, and that part consists of name characters, dashes, full stops and
blanks: no bracket stands in it.
-/
import CommandServer.Template.Scan
import Mathlib.Data.List.TakeWhile

namespace CommandServer.Template.Field

open CommandServer.Text

/-- The name in front of a `#`, without blanks around it and without an array mark. -/
def stem (content : List Char) : List Char := (splitArrayMark (namePart content)).1

/-- Whether a text describes a field depends on its name alone. -/
theorem isSome_parse?_iff {b : Bracket} {content : List Char} :
    (parse? b content).isSome = true ↔
      if b = .squares ∧ (stem content).head? = some '-' then
        isIdentifier ((stem content).dropWhile (· == '-')) = true
      else isIdentifier (stem content) = true := by
  unfold parse? stem
  dsimp only
  split
  · split <;> simp_all
  · split <;> simp_all

/-- A text goes on describing a field when what follows its name is replaced. -/
theorem isSome_parse?_congr {b : Bracket} {content content' : List Char}
    (h : content.takeWhile (· != '#') = content'.takeWhile (· != '#')) :
    (parse? b content).isSome = (parse? b content').isSome := by
  have hstem : stem content = stem content' := by rw [stem, stem, namePart, namePart, h]
  rw [Bool.eq_iff_iff, isSome_parse?_iff, isSome_parse?_iff, hstem]

/-! ## The characters of a name -/

theorem isSuffixOf?_eq_some_iff {p l r : List Char} :
    p.isSuffixOf? l = some r ↔ l = r ++ p := by
  show (p.reverse.isPrefixOf? l.reverse).map List.reverse = some r ↔ l = r ++ p
  rw [Option.map_eq_some_iff]
  constructor
  · rintro ⟨q, hq, rfl⟩
    rw [isPrefixOf?_eq_some_iff] at hq
    rw [← List.reverse_reverse l, hq, List.reverse_append, List.reverse_reverse]
  · rintro rfl
    exact ⟨r.reverse, isPrefixOf?_eq_some_iff.2 List.reverse_append, List.reverse_reverse r⟩

/-- A character that can stand in front of the `#` of a field. -/
def isNamePartChar (c : Char) : Bool := isBlank c || c == '.' || c == '-' || isNameChar c

theorem isNameChar_of_isNameStart {c : Char} (h : isNameStart c = true) : isNameChar c = true := by
  rw [isNameStart, Bool.or_eq_true] at h
  rcases h with h | h <;> simp [isNameChar, Char.isAlphanum, h]

theorem isNameChar_of_mem_map_underscored {cs : List Char} (h : isIdentifier cs = true) {c : Char}
    (hc : c ∈ cs.map underscored) : isNameChar c = true := by
  unfold isIdentifier at h
  split at h
  · cases h
  · next d r hcons =>
    rw [Bool.and_eq_true, List.all_eq_true] at h
    rw [hcons] at hc
    rcases List.mem_cons.1 hc with rfl | hr
    · exact isNameChar_of_isNameStart h.1
    · exact h.2 c hr

theorem isNamePartChar_of_mem_identifier {cs : List Char} (h : isIdentifier cs = true) {c : Char}
    (hc : c ∈ cs) : isNamePartChar c = true := by
  have hchar := isNameChar_of_mem_map_underscored h (List.mem_map_of_mem hc)
  unfold underscored at hchar
  split at hchar
  · next hdash => simp [isNamePartChar, hdash]
  · simp [isNamePartChar, hchar]

theorem isNamePartChar_of_mem_stem {b : Bracket} {content : List Char}
    (h : (parse? b content).isSome = true) {c : Char} (hc : c ∈ stem content) :
    isNamePartChar c = true := by
  rw [isSome_parse?_iff] at h
  split at h
  · rw [← List.takeWhile_append_dropWhile (p := (· == '-')) (l := stem content), List.mem_append] at hc
    rcases hc with hc | hc
    · have hdash : c = '-' := by simpa using List.mem_takeWhile_imp (p := (· == '-')) hc
      simp [isNamePartChar, hdash]
    · exact isNamePartChar_of_mem_identifier h hc
  · exact isNamePartChar_of_mem_identifier h hc

theorem mem_stem_or {content : List Char} {c : Char} (hc : c ∈ namePart content) :
    c ∈ stem content ∨ isNamePartChar c = true := by
  unfold stem splitArrayMark
  split
  · next name hname =>
    obtain ⟨r, hr, hstem⟩ := exists_trimEnd_append name
    rw [isSuffixOf?_eq_some_iff.1 hname, ← hstem, List.mem_append, List.mem_append] at hc
    rcases hc with (hc | hc) | hc
    · exact .inl hc
    · exact .inr (by simp [isNamePartChar, List.all_eq_true.1 hr c hc])
    · have hdot : c = '.' := by simpa [arrayMark] using hc
      exact .inr (by simp [isNamePartChar, hdot])
  · exact .inl hc

/-- What stands in front of the `#` of a field is made of name characters, dashes, full stops and
blanks. -/
theorem isNamePartChar_of_mem {b : Bracket} {content : List Char}
    (h : (parse? b content).isSome = true) {c : Char} (hc : c ∈ content.takeWhile (· != '#')) :
    isNamePartChar c = true := by
  obtain ⟨l, r, hl, hr, htrim⟩ := exists_append_trim_append (content.takeWhile (· != '#'))
  rw [← htrim, List.mem_append, List.mem_append] at hc
  rcases hc with (hc | hc) | hc
  · simp [isNamePartChar, List.all_eq_true.1 hl c hc]
  · rcases mem_stem_or hc with hc | hc
    · exact isNamePartChar_of_mem_stem h hc
    · exact hc
  · simp [isNamePartChar, List.all_eq_true.1 hr c hc]

theorem takeWhile_append_hash (l r : List Char) :
    (l ++ '#' :: r).takeWhile (· != '#') = l.takeWhile (· != '#') := by
  rw [List.takeWhile_append]
  split
  · next h =>
    rw [List.takeWhile_cons_of_neg (by simp), List.append_nil,
      (List.takeWhile_prefix _).eq_of_length h]
  · rfl

/-- A brace at the end of the text of a field belongs to the description. -/
theorem isSome_parse?_of_concat {b : Bracket} {content : List Char}
    (h : (parse? b (content ++ ['\x7d'])).isSome = true) : (parse? b content).isSome = true := by
  -- without a description the brace would stand in the name
  have hhash : '#' ∈ content := by
    by_contra hno
    have hall : ∀ c ∈ content ++ ['\x7d'], (c != '#') = true := by
      intro c hc
      rcases List.mem_append.1 hc with hc | hc
      · exact bne_iff_ne.2 fun hceq => hno (hceq ▸ hc)
      · rw [List.mem_singleton.1 hc]; rfl
    have hmem : '\x7d' ∈ (content ++ ['\x7d']).takeWhile (· != '#') := by
      rw [List.takeWhile_eq_self_iff.2 hall]; simp
    exact absurd (isNamePartChar_of_mem h hmem) (by decide)
  obtain ⟨l, r, rfl⟩ := List.append_of_mem hhash
  rw [← h]
  apply isSome_parse?_congr
  rw [List.append_assoc, List.cons_append, takeWhile_append_hash, takeWhile_append_hash]

end CommandServer.Template.Field
