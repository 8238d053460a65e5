/-
Texts that spell not a number. Reading a text results in it exactly when the text is the word for it
in letters of either case, after a sign or none, between blanks; every other text that spells a
number spells one that can be compared.
-/
import CommandServer.Number.Reader
import CommandServer.Proofs.Number.Binary64

namespace CommandServer.Binary64

open CommandServer.Text

/-- A sign or none, and the word for not a number. -/
def IsNanWord (cs : List Char) : Prop :=
  ∃ sign word, cs = sign ++ word ∧ (sign = [] ∨ sign = ['+'] ∨ sign = ['-']) ∧
    lowerAscii word = ['n', 'a', 'n']

/-- The word for not a number between blanks. -/
def SpellsNan (cs : List Char) : Prop :=
  ∃ a t b, cs = a ++ t ++ b ∧ IsNanWord t ∧ (∀ c ∈ a, isNumberBlank c = true) ∧
    ∀ c ∈ b, isNumberBlank c = true

/-! ## Letters of the word -/

theorem eq_or_eq_toUpper_of_toLower {c l : Char} (h : c.toLower = l) : c = l ∨ c = l.toUpper := by
  subst h
  unfold Char.toLower
  split
  · next hupper =>
    right
    have hlow : 65 ≤ c.val.toNat := UInt32.le_iff_toNat_le.1 hupper.1
    have hhigh : c.val.toNat ≤ 90 := UInt32.le_iff_toNat_le.1 hupper.2
    have hdown : ('a'.val - 'A'.val).toNat = 32 := by decide
    have hup : ('A'.val - 'a'.val).toNat = 4294967264 := by decide
    have ha : 'a'.val.toNat = 97 := by decide
    have hz : 'z'.val.toNat = 122 := by decide
    unfold Char.toUpper
    dsimp only
    rw [dif_pos]
    · refine Char.ext (UInt32.toNat_inj.1 ?_)
      dsimp only
      rw [UInt32.toNat_add, UInt32.toNat_add, hdown, hup]
      omega
    · rw [UInt32.le_iff_toNat_le, UInt32.le_iff_toNat_le, UInt32.toNat_add, hdown, ha, hz]
      omega
  · exact .inl rfl

/-- The characters that a sign and the word for not a number can have. -/
def nanChars : List Char := ['+', '-', 'n', 'N', 'a', 'A']

namespace IsNanWord

variable {t : List Char}

theorem exists_word (h : IsNanWord t) : ∃ sign c d e, t = sign ++ [c, d, e] ∧
    (sign = [] ∨ sign = ['+'] ∨ sign = ['-']) ∧
      (c = 'n' ∨ c = 'N') ∧ (d = 'a' ∨ d = 'A') ∧ (e = 'n' ∨ e = 'N') := by
  obtain ⟨sign, word, rfl, hsign, hword⟩ := h
  obtain ⟨c, cs, rfl, hc, hword⟩ := List.map_eq_cons_iff.1 hword
  obtain ⟨d, ds, rfl, hd, hword⟩ := List.map_eq_cons_iff.1 hword
  obtain ⟨e, es, rfl, he, hword⟩ := List.map_eq_cons_iff.1 hword
  rw [List.map_eq_nil_iff.1 hword]
  exact ⟨sign, c, d, e, rfl, hsign, eq_or_eq_toUpper_of_toLower hc,
    eq_or_eq_toUpper_of_toLower hd, eq_or_eq_toUpper_of_toLower he⟩

theorem mem_nanChars (h : IsNanWord t) : ∀ c ∈ t, c ∈ nanChars := by
  obtain ⟨sign, c, d, e, rfl, hsign, hc, hd, he⟩ := h.exists_word
  rcases hsign with rfl | rfl | rfl <;> rcases hc with rfl | rfl <;> rcases hd with rfl | rfl <;>
    rcases he with rfl | rfl <;> simp [nanChars]

end IsNanWord

theorem of_mem_nanChars {p : Char → Prop}
    (h : p '+' ∧ p '-' ∧ p 'n' ∧ p 'N' ∧ p 'a' ∧ p 'A') : ∀ c ∈ nanChars, p c := by
  simpa [nanChars] using h

theorem isDigit_of_mem_nanChars : ∀ c ∈ nanChars, c.isDigit = false :=
  of_mem_nanChars (by decide)

theorem digitValue?_of_mem_nanChars : ∀ c ∈ nanChars, digitValue? c = none :=
  of_mem_nanChars (by decide)

theorem isNumberBlank_of_mem_nanChars : ∀ c ∈ nanChars, isNumberBlank c = false :=
  of_mem_nanChars (by decide)

theorem ne_underscore_of_mem_nanChars : ∀ c ∈ nanChars, c ≠ '_' :=
  of_mem_nanChars (by decide)

/-! ## Blanks around a number -/

theorem exists_append_trimNumber_append (cs : List Char) :
    ∃ a b, cs = a ++ trimNumber cs ++ b ∧ (∀ c ∈ a, isNumberBlank c = true) ∧
      ∀ c ∈ b, isNumberBlank c = true := by
  refine ⟨cs.takeWhile isNumberBlank,
    ((cs.dropWhile isNumberBlank).reverse.takeWhile isNumberBlank).reverse, ?_, ?_, ?_⟩
  · rw [trimNumber, List.append_assoc, ← List.reverse_append, List.takeWhile_append_dropWhile,
      List.reverse_reverse, List.takeWhile_append_dropWhile]
  · exact fun c hc => List.all_eq_true.1 List.all_takeWhile c hc
  · exact fun c hc => List.all_eq_true.1 List.all_takeWhile c (List.mem_reverse.1 hc)

theorem dropWhile_append_of_neg {α : Type} {p : α → Bool} {t : List α} (hne : t ≠ [])
    (ht : ∀ c ∈ t, p c = false) (r : List α) : (t ++ r).dropWhile p = t ++ r := by
  obtain ⟨c, t, rfl⟩ := List.exists_cons_of_ne_nil hne
  rw [List.cons_append, List.dropWhile_cons, ht c List.mem_cons_self]
  rfl

/-- What stands between blanks is kept when it holds none itself. -/
theorem trimNumber_append {a t b : List Char} (ha : ∀ c ∈ a, isNumberBlank c = true)
    (hb : ∀ c ∈ b, isNumberBlank c = true) (hne : t ≠ [])
    (ht : ∀ c ∈ t, isNumberBlank c = false) : trimNumber (a ++ t ++ b) = t := by
  have hstart : (a ++ t ++ b).dropWhile isNumberBlank = t ++ b := by
    rw [List.append_assoc, List.dropWhile_append_of_pos ha]
    exact dropWhile_append_of_neg hne ht b
  have hend : (t ++ b).reverse.dropWhile isNumberBlank = t.reverse := by
    rw [List.reverse_append,
      List.dropWhile_append_of_pos fun c hc => hb c (List.mem_reverse.1 hc)]
    have hkept := dropWhile_append_of_neg (mt List.reverse_eq_nil_iff.1 hne)
      (fun c hc => ht c (List.mem_reverse.1 hc)) []
    rwa [List.append_nil] at hkept
  rw [trimNumber, hstart, hend, List.reverse_reverse]

/-! ## Digits and underscores -/

theorem isDigit_asciiDigit (d : Nat) : (asciiDigit d).isDigit = true := by
  have hall : ∀ k < 10, (Char.ofNat (0x30 + k)).isDigit = true := by decide
  exact hall (d % 10) (Nat.mod_lt d (by decide))

theorem unifyDigits_of_none {cs : List Char} (h : ∀ c ∈ cs, digitValue? c = none) :
    unifyDigits cs = cs := by
  unfold unifyDigits
  refine (List.map_congr_left fun c hc => ?_).trans (List.map_id cs)
  rw [h c hc]
  rfl

/-- When no digit comes out, there was none of any script. -/
theorem unifyDigits_eq_self {cs : List Char} (h : ∀ c ∈ unifyDigits cs, c.isDigit = false) :
    unifyDigits cs = cs := by
  refine unifyDigits_of_none fun c hc => ?_
  have hdigit := h _ (List.mem_map_of_mem hc)
  cases hd : digitValue? c with
  | none => rfl
  | some d =>
    rw [hd] at hdigit
    exact absurd (isDigit_asciiDigit d) (by rw [hdigit]; decide)

/-- Underscores stand between digits only, so that a text without digits is left as it is. -/
theorem eq_of_dropUnderscores? {before : Option Char} {cs r : List Char}
    (h : dropUnderscores? before cs = some r) (hbefore : before.any Char.isDigit = false)
    (hr : ∀ c ∈ r, c.isDigit = false) : cs = r := by
  induction cs generalizing before r with
  | nil => exact Option.some.inj h
  | cons c cs ih =>
    by_cases hc : c = '_'
    · subst hc
      rw [dropUnderscores?, hbefore] at h
      cases h
    · rw [dropUnderscores?] at h
      · obtain ⟨r, htail, rfl⟩ := Option.map_eq_some_iff.1 h
        rw [ih htail (hr c List.mem_cons_self) fun d hd => hr d (List.mem_cons_of_mem c hd)]
      · exact fun heq => hc heq

theorem dropUnderscores?_of_ne {cs : List Char} (h : ∀ c ∈ cs, c ≠ '_') (before : Option Char) :
    dropUnderscores? before cs = some cs := by
  induction cs generalizing before with
  | nil => rfl
  | cons c cs ih =>
    rw [dropUnderscores?, ih (fun d hd => h d (List.mem_cons_of_mem c hd))]
    · rfl
    · exact fun heq => h c List.mem_cons_self heq

/-! ## Reading -/

theorem exists_sign_append (cs : List Char) :
    ∃ sign, cs = sign ++ (splitSign cs).2 ∧ (sign = [] ∨ sign = ['+'] ∨ sign = ['-']) := by
  unfold splitSign
  split
  · exact ⟨['-'], rfl, .inr (.inr rfl)⟩
  · exact ⟨['+'], rfl, .inr (.inl rfl)⟩
  · exact ⟨[], rfl, .inl rfl⟩

/-- The word does not start with a sign of its own. -/
theorem lowerAscii_splitSign {t : List Char} (h : IsNanWord t) :
    lowerAscii (splitSign t).2 = ['n', 'a', 'n'] := by
  obtain ⟨sign, c, d, e, rfl, hsign, hc, hd, he⟩ := h.exists_word
  rcases hsign with rfl | rfl | rfl <;> rcases hc with rfl | rfl <;> rcases hd with rfl | rfl <;>
    rcases he with rfl | rfl <;> decide

theorem readUnsigned?_ne_nan (negative : Bool) (cs : List Char) :
    readUnsigned? negative cs ≠ some .nan := by
  intro h
  unfold readUnsigned? at h
  dsimp only at h
  -- whether there is a point or not, the number is one of a decimal
  split at h
  all_goals
    split at h
    · cases h
    · obtain ⟨e, -, hnan⟩ := Option.map_eq_some_iff.1 h
      exact ofDecimal_ne_nan _ _ _ hnan

/-- A text is read as not a number when it is the word for it, and only then. -/
theorem read?_eq_some_nan_iff {cs : List Char} : read? cs = some .nan ↔ SpellsNan cs := by
  constructor
  · intro h
    obtain ⟨r, hr, h⟩ := Option.bind_eq_some_iff.1 h
    have hword : lowerAscii (splitSign r).2 = ['n', 'a', 'n'] := by
      dsimp only at h
      split at h
      · cases h
      · split at h
        · next hnan =>
          rw [← String.toList_inj, String.toList_ofList] at hnan
          exact hnan
        · exact absurd h (readUnsigned?_ne_nan _ _)
    obtain ⟨sign, hsplit, hsign⟩ := exists_sign_append r
    have hnan : IsNanWord r := ⟨sign, (splitSign r).2, hsplit, hsign, hword⟩
    -- the word has no digits, so nothing was dropped or replaced on the way to it
    have hdigit : ∀ c ∈ r, c.isDigit = false := fun c hc =>
      isDigit_of_mem_nanChars c (hnan.mem_nanChars c hc)
    have hdropped := eq_of_dropUnderscores? hr rfl hdigit
    have hunified := unifyDigits_eq_self (hdropped ▸ hdigit)
    obtain ⟨a, b, hcs, ha, hb⟩ := exists_append_trimNumber_append cs
    rw [← hunified, hdropped] at hcs
    exact ⟨a, r, b, hcs, hnan, ha, hb⟩
  · rintro ⟨a, t, b, rfl, hnan, ha, hb⟩
    have hne : t ≠ [] := by
      obtain ⟨sign, c, d, e, rfl, -⟩ := hnan.exists_word
      simp
    have htrim : trimNumber (a ++ t ++ b) = t := trimNumber_append ha hb hne fun c hc =>
      isNumberBlank_of_mem_nanChars c (hnan.mem_nanChars c hc)
    have hunified : unifyDigits t = t := unifyDigits_of_none fun c hc =>
      digitValue?_of_mem_nanChars c (hnan.mem_nanChars c hc)
    have hdropped : dropUnderscores? none t = some t := dropUnderscores?_of_ne (fun c hc =>
      ne_underscore_of_mem_nanChars c (hnan.mem_nanChars c hc)) none
    rw [read?, htrim, hunified, hdropped, Option.bind_some]
    dsimp only
    rw [lowerAscii_splitSign hnan, if_neg (by decide), if_pos (by decide)]

example : read? " +NaN\n".toList = some .nan := by decide +kernel

end CommandServer.Binary64
