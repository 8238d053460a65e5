/-
UTF-8, strictly. The decoder takes bytes for a text exactly when the text is encoded as these bytes.
It works character by character: a lead announces how many bytes follow and which ones the next may
be, and these bounds are such that what completes a lead is the encoding of a character, without
overlong forms, surrogates or numbers beyond the last code point.
-/
import CommandServer.Text.Utf8

namespace CommandServer.Text

/-! ## Characters -/

/-- Bytes complete a lead to the number of a character. -/
inductive Completes : Lead → List UInt8 → Nat → Prop
  | last {l : Lead} {b : UInt8} (hl : l.following ≤ 1) (hb : l.low ≤ b.toNat ∧ b.toNat ≤ l.high) :
    Completes l [b] (l.bits * 64 + (b.toNat - 0x80))
  | more {l : Lead} {b : UInt8} {bs : List UInt8} {n : Nat} (hl : 1 < l.following)
    (hb : l.low ≤ b.toNat ∧ b.toNat ≤ l.high)
    (h : Completes ⟨l.following - 1, 0x80, 0xBF, l.bits * 64 + (b.toNat - 0x80)⟩ bs n) :
    Completes l (b :: bs) n

/-- Bytes spell the number of a character. -/
inductive Spells : List UInt8 → Nat → Prop
  | single {b : UInt8} (h : b.toNat < 0x80) : Spells [b] b.toNat
  | lead {b : UInt8} {l : Lead} {bs : List UInt8} {n : Nat} (hl : Lead.ofByte? b.toNat = some l)
    (h : Completes l bs n) : Spells (b :: bs) n

/-! ## Completing a lead -/

section Completes

variable {low high bits : Nat} {bs : List UInt8} {n : Nat}

theorem completes_iff_one : Completes ⟨1, low, high, bits⟩ bs n ↔ ∃ b : UInt8, bs = [b] ∧
    (low ≤ b.toNat ∧ b.toNat ≤ high) ∧ n = bits * 64 + (b.toNat - 0x80) := by
  constructor
  · intro h
    cases h with
    | @last _ b _ hb => exact ⟨b, rfl, hb, rfl⟩
    | more hmore => exact absurd hmore (Nat.lt_irrefl 1)
  · rintro ⟨b, rfl, hb, hn⟩
    rw [hn]
    exact .last (Nat.le_refl 1) hb

theorem completes_iff_more {k : Nat} : Completes ⟨k + 2, low, high, bits⟩ bs n ↔
    ∃ (b : UInt8) (r : List UInt8), bs = b :: r ∧ (low ≤ b.toNat ∧ b.toNat ≤ high) ∧
      Completes ⟨k + 1, 0x80, 0xBF, bits * 64 + (b.toNat - 0x80)⟩ r n := by
  constructor
  · intro h
    cases h with
    | last hlast => exact absurd hlast (by simp)
    | @more _ b r _ _ hb h => exact ⟨b, r, rfl, hb, h⟩
  · rintro ⟨b, r, rfl, hb, h⟩
    exact .more (Nat.lt_add_left k Nat.one_lt_two) hb h

/-- Two bytes after a lead. -/
theorem completes_iff_two : Completes ⟨2, low, high, bits⟩ bs n ↔ ∃ b c : UInt8, bs = [b, c] ∧
    (low ≤ b.toNat ∧ b.toNat ≤ high) ∧ (0x80 ≤ c.toNat ∧ c.toNat ≤ 0xBF) ∧
      n = (bits * 64 + (b.toNat - 0x80)) * 64 + (c.toNat - 0x80) := by
  rw [completes_iff_more]
  simp only [Nat.zero_add, completes_iff_one]
  constructor
  · rintro ⟨b, r, rfl, hb, c, rfl, hc, hn⟩
    exact ⟨b, c, rfl, hb, hc, hn⟩
  · rintro ⟨b, c, rfl, hb, hc, hn⟩
    exact ⟨b, [c], rfl, hb, c, rfl, hc, hn⟩

theorem completes_iff_three : Completes ⟨3, low, high, bits⟩ bs n ↔
    ∃ b c d : UInt8, bs = [b, c, d] ∧ (low ≤ b.toNat ∧ b.toNat ≤ high) ∧
      (0x80 ≤ c.toNat ∧ c.toNat ≤ 0xBF) ∧ (0x80 ≤ d.toNat ∧ d.toNat ≤ 0xBF) ∧
      n = ((bits * 64 + (b.toNat - 0x80)) * 64 + (c.toNat - 0x80)) * 64 + (d.toNat - 0x80) := by
  rw [completes_iff_more]
  simp only [Nat.reduceAdd, completes_iff_two]
  constructor
  · rintro ⟨b, r, rfl, hb, c, d, rfl, hc, hd, hn⟩
    exact ⟨b, c, d, rfl, hb, hc, hd, hn⟩
  · rintro ⟨b, c, d, rfl, hb, hc, hd, hn⟩
    exact ⟨b, [c, d], rfl, hb, c, d, rfl, hc, hd, hn⟩

end Completes

/-! ## Encoding a character -/

/-- A byte with a value below 256. -/
theorem toNat_byte {n : Nat} (h : n < 256) : (UInt8.ofNat n).toNat = n := by
  rw [UInt8.toNat_ofNat', Nat.mod_eq_of_lt h]

theorem exists_char {n : Nat} (h : n < 0xD800 ∨ (0xDFFF < n ∧ n < 0x110000)) :
    ∃ c : Char, c.val.toNat = n := by
  refine ⟨Char.ofNat n, ?_⟩
  rw [Char.ofNat, dif_pos h]
  rfl

section Encode

variable {x : Char} {a b c d : UInt8}

theorem byte_eq {n : Nat} (h : n = a.toNat) : UInt8.ofNat n = a := by
  rw [h, UInt8.ofNat_toNat]

theorem encode_one (h : x.val.toNat = a.toNat) (ha : a.toNat ≤ 0x7F) :
    String.utf8EncodeChar x = [a] := by
  unfold String.utf8EncodeChar
  dsimp only
  rw [h, if_pos ha, UInt8.ofNat_toNat]

theorem encode_two (h : x.val.toNat = (a.toNat - 0xC0) * 64 + (b.toNat - 0x80))
    (ha : 0xC2 ≤ a.toNat ∧ a.toNat ≤ 0xDF) (hb : 0x80 ≤ b.toNat ∧ b.toNat ≤ 0xBF) :
    String.utf8EncodeChar x = [a, b] := by
  unfold String.utf8EncodeChar
  dsimp only
  rw [if_neg (by omega), if_pos (by omega), byte_eq (a := a) (by omega),
    byte_eq (a := b) (by omega)]

theorem encode_three
    (h : x.val.toNat = ((a.toNat - 0xE0) * 64 + (b.toNat - 0x80)) * 64 + (c.toNat - 0x80))
    (hx : 0x800 ≤ x.val.toNat) (ha : 0xE0 ≤ a.toNat ∧ a.toNat ≤ 0xEF)
    (hb : 0x80 ≤ b.toNat ∧ b.toNat ≤ 0xBF) (hc : 0x80 ≤ c.toNat ∧ c.toNat ≤ 0xBF) :
    String.utf8EncodeChar x = [a, b, c] := by
  unfold String.utf8EncodeChar
  dsimp only
  rw [if_neg (by omega), if_neg (by omega), if_pos (by omega), byte_eq (a := a) (by omega),
    byte_eq (a := b) (by omega), byte_eq (a := c) (by omega)]

theorem encode_four
    (h : x.val.toNat = (((a.toNat - 0xF0) * 64 + (b.toNat - 0x80)) * 64 + (c.toNat - 0x80)) * 64 +
      (d.toNat - 0x80))
    (hx : 0x10000 ≤ x.val.toNat) (ha : 0xF0 ≤ a.toNat ∧ a.toNat ≤ 0xF4)
    (hb : 0x80 ≤ b.toNat ∧ b.toNat ≤ 0xBF) (hc : 0x80 ≤ c.toNat ∧ c.toNat ≤ 0xBF)
    (hd : 0x80 ≤ d.toNat ∧ d.toNat ≤ 0xBF) :
    String.utf8EncodeChar x = [a, b, c, d] := by
  unfold String.utf8EncodeChar
  dsimp only
  rw [if_neg (by omega), if_neg (by omega), if_neg (by omega), byte_eq (a := a) (by omega),
    byte_eq (a := b) (by omega), byte_eq (a := c) (by omega), byte_eq (a := d) (by omega)]

end Encode

/-! ## Leads -/

section Lead

variable {b : Nat}

theorem ofByte?_two (h : 0xC2 ≤ b ∧ b ≤ 0xDF) :
    Lead.ofByte? b = some ⟨1, 0x80, 0xBF, b - 0xC0⟩ := by
  rw [Lead.ofByte?, if_pos h]

/-- The bounds leave out what two bytes are enough for, and surrogates. -/
theorem ofByte?_three (h : 0xE0 ≤ b ∧ b ≤ 0xEF) :
    ∃ low high, Lead.ofByte? b = some ⟨2, low, high, b - 0xE0⟩ ∧
      (b = 0xE0 ∧ low = 0xA0 ∨ b ≠ 0xE0 ∧ low = 0x80) ∧
      (b = 0xED ∧ high = 0x9F ∨ b ≠ 0xED ∧ high = 0xBF) := by
  rw [Lead.ofByte?, if_neg (by omega)]
  by_cases hlow : b = 0xE0
  · rw [if_pos hlow, hlow]
    exact ⟨_, _, rfl, by decide, by decide⟩
  · rw [if_neg hlow]
    by_cases hhigh : b = 0xED
    · rw [if_pos hhigh, hhigh]
      exact ⟨_, _, rfl, by decide, by decide⟩
    · rw [if_neg hhigh, if_pos (by omega)]
      exact ⟨_, _, rfl, .inr ⟨hlow, rfl⟩, .inr ⟨hhigh, rfl⟩⟩

/-- The bounds leave out what three bytes are enough for, and numbers beyond the last code point. -/
theorem ofByte?_four (h : 0xF0 ≤ b ∧ b ≤ 0xF4) :
    ∃ low high, Lead.ofByte? b = some ⟨3, low, high, b - 0xF0⟩ ∧
      (b = 0xF0 ∧ low = 0x90 ∨ b ≠ 0xF0 ∧ low = 0x80) ∧
      (b = 0xF4 ∧ high = 0x8F ∨ b ≠ 0xF4 ∧ high = 0xBF) := by
  rw [Lead.ofByte?, if_neg (by omega), if_neg (by omega), if_neg (by omega), if_neg (by omega)]
  by_cases hlow : b = 0xF0
  · rw [if_pos hlow, hlow]
    exact ⟨_, _, rfl, by decide, by decide⟩
  · rw [if_neg hlow]
    by_cases hhigh : b = 0xF4
    · rw [if_neg (by omega), if_pos hhigh, hhigh]
      exact ⟨_, _, rfl, by decide, by decide⟩
    · rw [if_pos (by omega)]
      exact ⟨_, _, rfl, .inr ⟨hlow, rfl⟩, .inr ⟨hhigh, rfl⟩⟩

theorem ranges_of_ofByte? {l : Lead} (h : Lead.ofByte? b = some l) :
    (0xC2 ≤ b ∧ b ≤ 0xDF) ∨ (0xE0 ≤ b ∧ b ≤ 0xEF) ∨ (0xF0 ≤ b ∧ b ≤ 0xF4) := by
  rcases Nat.lt_or_ge b 0xC2 with hb | hb
  · have hnone : Lead.ofByte? b = none := by
      unfold Lead.ofByte?
      repeat rw [if_neg (by omega)]
    cases hnone.symm.trans h
  · rcases Nat.lt_or_ge 0xF4 b with hb' | hb'
    · have hnone : Lead.ofByte? b = none := by
        unfold Lead.ofByte?
        repeat rw [if_neg (by omega)]
      cases hnone.symm.trans h
    · omega

end Lead

theorem exists_encode_of_lead {b : UInt8} {l : Lead} {bs : List UInt8} {n : Nat}
    (hl : Lead.ofByte? b.toNat = some l) (h : Completes l bs n) :
    ∃ x : Char, x.val.toNat = n ∧ String.utf8EncodeChar x = b :: bs := by
  -- the ranges of the first byte are those of encodings of two, three and four bytes
  rcases ranges_of_ofByte? hl with hb | hb | hb
  · cases hl.symm.trans (ofByte?_two hb)
    obtain ⟨c, rfl, hc, hn⟩ := completes_iff_one.1 h
    obtain ⟨x, hx⟩ := exists_char (n := n) (by omega)
    exact ⟨x, hx, encode_two (hx.trans hn) hb hc⟩
  · obtain ⟨low, high, heq, hlow, hhigh⟩ := ofByte?_three hb
    cases hl.symm.trans heq
    obtain ⟨c, d, rfl, hc, hd, hn⟩ := completes_iff_two.1 h
    obtain ⟨x, hx⟩ := exists_char (n := n) (by omega)
    exact ⟨x, hx, encode_three (hx.trans hn) (by omega) hb (by omega) hd⟩
  · obtain ⟨low, high, heq, hlow, hhigh⟩ := ofByte?_four hb
    cases hl.symm.trans heq
    obtain ⟨c, d, e, rfl, hc, hd, he, hn⟩ := completes_iff_three.1 h
    obtain ⟨x, hx⟩ := exists_char (n := n) (by omega)
    exact ⟨x, hx, encode_four (hx.trans hn) (by omega) hb (by omega) hd he⟩

theorem exists_encode_of_spells {bs : List UInt8} {n : Nat} (h : Spells bs n) :
    ∃ x : Char, x.val.toNat = n ∧ String.utf8EncodeChar x = bs := by
  cases h with
  | @single a ha =>
    obtain ⟨x, hx⟩ := exists_char (n := a.toNat) (by omega)
    exact ⟨x, hx, encode_one hx (by omega)⟩
  | lead hl h => exact exists_encode_of_lead hl h

theorem spells_utf8EncodeChar (x : Char) : Spells (String.utf8EncodeChar x) x.val.toNat := by
  have hx : x.val.toNat < 0xD800 ∨ (0xDFFF < x.val.toNat ∧ x.val.toNat < 0x110000) := x.valid
  -- one case for each length; the values of the bytes make the rest a matter of numbers
  unfold String.utf8EncodeChar
  dsimp only
  generalize x.val.toNat = n at hx
  split
  · next hn =>
    have ha : (UInt8.ofNat n).toNat = n := toNat_byte (by omega)
    have hspells : Spells [UInt8.ofNat n] _ := .single (by omega)
    rwa [ha] at hspells
  split
  · next hn =>
    have ha : (UInt8.ofNat (n / 64 % 32 + 0xC0)).toNat = n / 64 + 0xC0 := by
      rw [toNat_byte (by omega)]; omega
    have hb : (UInt8.ofNat (n % 64 + 0x80)).toNat = n % 64 + 0x80 := toNat_byte (by omega)
    exact .lead (ofByte?_two (by omega)) (completes_iff_one.2 ⟨_, rfl, by omega, by omega⟩)
  split
  · next hn =>
    have ha : (UInt8.ofNat (n / 4096 % 16 + 0xE0)).toNat = n / 4096 + 0xE0 := by
      rw [toNat_byte (by omega)]; omega
    have hb : (UInt8.ofNat (n / 64 % 64 + 0x80)).toNat = n / 64 % 64 + 0x80 :=
      toNat_byte (by omega)
    have hc : (UInt8.ofNat (n % 64 + 0x80)).toNat = n % 64 + 0x80 := toNat_byte (by omega)
    obtain ⟨low, high, heq, hlow, hhigh⟩ := ofByte?_three (b := n / 4096 + 0xE0) (by omega)
    rw [← ha] at heq
    exact .lead heq (completes_iff_two.2 ⟨_, _, rfl, by omega, by omega, by omega⟩)
  · have ha : (UInt8.ofNat (n / 262144 % 8 + 0xF0)).toNat = n / 262144 + 0xF0 := by
      rw [toNat_byte (by omega)]; omega
    have hb : (UInt8.ofNat (n / 4096 % 64 + 0x80)).toNat = n / 4096 % 64 + 0x80 :=
      toNat_byte (by omega)
    have hc : (UInt8.ofNat (n / 64 % 64 + 0x80)).toNat = n / 64 % 64 + 0x80 :=
      toNat_byte (by omega)
    have hd : (UInt8.ofNat (n % 64 + 0x80)).toNat = n % 64 + 0x80 := toNat_byte (by omega)
    obtain ⟨low, high, heq, hlow, hhigh⟩ := ofByte?_four (b := n / 262144 + 0xF0) (by omega)
    rw [← ha] at heq
    exact .lead heq
      (completes_iff_three.2 ⟨_, _, _, rfl, by omega, by omega, by omega, by omega⟩)

/-! ## The decoder -/

theorem decodeParts_lead {l : Lead} {bs : List UInt8} {cs : List Char} :
    decodeParts (some l) bs = cs.map some ↔ ∃ tail rest n cs', bs = tail ++ rest ∧
      Completes l tail n ∧ cs = Char.ofNat n :: cs' ∧ decodeParts none rest = cs'.map some := by
  induction bs generalizing l with
  | nil =>
    constructor
    · intro h
      cases cs <;> simp [decodeParts] at h
    · rintro ⟨tail, rest, n, cs', hbs, h, -⟩
      cases h <;> cases hbs
  | cons b r ih =>
    rw [decodeParts]
    split
    · next hb =>
      dsimp only
      split
      · next hl =>
        constructor
        · intro h
          cases cs with
          | nil => cases h
          | cons c cs =>
            simp only [List.map_cons, List.cons.injEq, Option.some.injEq] at h
            exact ⟨[b], r, _, cs, rfl, .last hl hb, by rw [h.1], h.2⟩
        · rintro ⟨tail, rest, n, cs', hbs, h, rfl, hrest⟩
          cases h with
          | last =>
            cases hbs
            exact congrArg (List.cons _) hrest
          | more hmore => omega
      · next hl =>
        rw [ih]
        constructor
        · rintro ⟨tail, rest, n, cs', rfl, h, rfl, hrest⟩
          exact ⟨b :: tail, rest, n, cs', rfl, .more (by omega) hb h, rfl, hrest⟩
        · rintro ⟨tail, rest, n, cs', hbs, h, rfl, hrest⟩
          cases h with
          | last hlast => omega
          | more _ _ h =>
            cases hbs
            exact ⟨_, rest, n, cs', rfl, h, rfl, hrest⟩
    · next hb =>
      -- a byte out of bounds leaves a part behind that is no character, whatever it starts itself
      refine iff_of_false ?_ ?_
      · intro h
        cases cs with
        | nil => split at h <;> (try split at h) <;> cases h
        | cons c cs => split at h <;> (try split at h) <;> cases h
      · rintro ⟨tail, rest, n, cs', hbs, h, -⟩
        cases h with
        | last _ h =>
          cases hbs
          exact hb h
        | more _ h =>
          cases hbs
          exact hb h

theorem decodeParts_cons {b : UInt8} {r : List UInt8} {cs : List Char} :
    decodeParts none (b :: r) = cs.map some ↔ ∃ bytes rest n cs', b :: r = bytes ++ rest ∧
      Spells bytes n ∧ cs = Char.ofNat n :: cs' ∧ decodeParts none rest = cs'.map some := by
  rw [decodeParts]
  split
  · next hb =>
    constructor
    · intro h
      cases cs with
      | nil => cases h
      | cons c cs =>
        simp only [List.map_cons, List.cons.injEq, Option.some.injEq] at h
        exact ⟨[b], r, _, cs, rfl, .single hb, by rw [h.1], h.2⟩
    · rintro ⟨bytes, rest, n, cs', hbs, h, rfl, hrest⟩
      cases h with
      | single =>
        cases hbs
        exact congrArg (List.cons _) hrest
      | lead hl =>
        cases hbs
        have hranges := ranges_of_ofByte? hl
        omega
  · next hb =>
    split
    · next l hl =>
      rw [decodeParts_lead]
      constructor
      · rintro ⟨tail, rest, n, cs', rfl, h, rfl, hrest⟩
        exact ⟨b :: tail, rest, n, cs', rfl, .lead hl h, rfl, hrest⟩
      · rintro ⟨bytes, rest, n, cs', hbs, h, rfl, hrest⟩
        cases h with
        | single h =>
          cases hbs
          exact absurd h hb
        | lead hl' h =>
          cases hbs
          cases hl.symm.trans hl'
          exact ⟨_, rest, n, cs', rfl, h, rfl, hrest⟩
    · next hl =>
      refine iff_of_false ?_ ?_
      · intro h
        cases cs <;> cases h
      · rintro ⟨bytes, rest, n, cs', hbs, h, -⟩
        cases h with
        | single h =>
          cases hbs
          exact hb h
        | lead hl' =>
          cases hbs
          cases hl.symm.trans hl'

/-! ## Texts -/

/-- Taking a byte array apart from some index on. -/
theorem toList_loop (bs : ByteArray) (i : Nat) (r : List UInt8) :
    ByteArray.toList.loop bs i r = r.reverse ++ bs.data.toList.drop i := by
  fun_induction ByteArray.toList.loop bs i r with
  | case1 i r h ih =>
    have hget : bs.get! i = bs.data.toList[i] := by
      rw [Array.getElem_toList]
      exact getElem!_pos bs.data i h
    rw [ih, hget, List.reverse_cons, List.append_assoc, List.singleton_append,
      ← List.drop_eq_getElem_cons]
  | case2 i r h =>
    rw [List.drop_eq_nil_of_le, List.append_nil]
    simpa using h

theorem encodeUtf8_ofList (cs : List Char) :
    encodeUtf8 (String.ofList cs) = cs.flatMap String.utf8EncodeChar := by
  unfold encodeUtf8
  rw [String.toUTF8_eq_toByteArray, String.toByteArray_ofList, List.utf8Encode, ByteArray.toList,
    toList_loop, List.toList_data_toByteArray]
  rfl

theorem mapM_id_eq_some_iff {ps : List (Option Char)} {cs : List Char} :
    ps.mapM id = some cs ↔ ps = cs.map some := by
  induction ps generalizing cs with
  | nil => cases cs <;> simp
  | cons p ps ih => 
    cases p with
    | none => cases cs <;> simp
    | some c => 
      rw [List.mapM_cons, id, Option.bind_eq_bind, Option.bind_some, Option.bind_eq_bind,
        Option.bind_eq_some_iff]
      simp only [ih]
      constructor
      · rintro ⟨_, rfl, ⟨⟩⟩
        rfl
      · intro h
        cases cs with
        | nil => cases h
        | cons c' cs =>
          cases h
          exact ⟨cs, rfl, rfl⟩
theorem decodeParts_eq_map_some_iff {bs : List UInt8} {cs : List Char} :
    decodeParts none bs = cs.map some ↔ bs = cs.flatMap String.utf8EncodeChar := by
  induction cs generalizing bs with
  | nil =>
    cases bs with
    | nil => simp [decodeParts]
    | cons b r =>
      rw [decodeParts_cons]
      simp
  | cons c cs ih =>
    cases bs with
    | nil => simp [decodeParts]
    | cons b r =>
      rw [decodeParts_cons, List.flatMap_cons]
      constructor
      · rintro ⟨bytes, rest, n, cs', hbs, hspells, hcs, hrest⟩
        cases hcs
        obtain ⟨x, rfl, rfl⟩ := exists_encode_of_spells hspells
        rw [hbs, ih.1 hrest]
        exact congrArg (fun y => String.utf8EncodeChar y ++ _) (Char.ofNat_toNat x).symm
      · intro h
        exact ⟨_, _, _, cs, h, spells_utf8EncodeChar c,
          congrArg (· :: cs) (Char.ofNat_toNat c).symm, ih.2 rfl⟩

/-- The strict decoder takes bytes for a text exactly when the text is encoded as these bytes. -/
theorem decodeUtf8?_eq_some_iff {bs : List UInt8} {cs : List Char} :
    decodeUtf8? bs = some cs ↔ bs = encodeUtf8 (String.ofList cs) := by
  rw [decodeUtf8?, mapM_id_eq_some_iff, decodeParts_eq_map_some_iff, encodeUtf8_ofList]

theorem decodeUtf8?_encodeUtf8 (s : String) : decodeUtf8? (encodeUtf8 s) = some s.toList := by
  rw [decodeUtf8?_eq_some_iff, String.ofList_toList]

/-- What no text is encoded as is not decoded. -/
theorem decodeUtf8?_eq_none_iff {bs : List UInt8} :
    decodeUtf8? bs = none ↔ ∀ s, bs ≠ encodeUtf8 s := by
  rw [Option.eq_none_iff_forall_ne_some]
  simp only [ne_eq, decodeUtf8?_eq_some_iff]
  constructor
  · intro h s hs
    exact h s.toList (by rw [String.ofList_toList]; exact hs)
  · intro h cs
    exact h (String.ofList cs)

end CommandServer.Text
