/-
Signs of numbers, and integers that are too large. A number that is not zero or below is above zero,
unless it is not a number at all, which rounding never results in. An integer has a number near it
exactly when it lies below the point from where the largest finite number is no longer the nearest.
-/
import CommandServer.Number.Binary64

namespace CommandServer

/-! ## Powers of two -/

theorem powTwo_pos (n : Nat) : 0 < powTwo n := Nat.pow_pos Nat.two_pos

theorem powTwo_succ (n : Nat) : powTwo (n + 1) = 2 * powTwo n := by
  rw [powTwo, Nat.pow_eq, Nat.pow_succ, Nat.mul_comm]
  rfl

theorem powTwo_add (m n : Nat) : powTwo (m + n) = powTwo m * powTwo n :=
  Nat.pow_add 2 m n

theorem powTwo_le_powTwo {m n : Nat} (h : m ≤ n) : powTwo m ≤ powTwo n :=
  Nat.pow_le_pow_right Nat.two_pos h

theorem powTwo_log2_le {n : Nat} (h : n ≠ 0) : powTwo n.log2 ≤ n := Nat.log2_self_le h

theorem lt_powTwo_log2_succ (n : Nat) : n < powTwo (n.log2 + 1) := Nat.lt_log2_self

namespace Binary64

/-! ## Signs -/

/-- A number above zero: its exact value is, or it is the positive infinity. -/
def IsPositive (x : Binary64) : Prop :=
  x = .infinite false ∨ ∃ n d, x.toRatio? = some (n, d) ∧ 0 < n

theorem not_isPositive_nan : ¬IsPositive .nan := by
  rintro (h | ⟨n, d, h, -⟩)
  · cases h
  · cases h

theorem magnitude_pos_iff {m : Nat} {e : Int} : 0 < (magnitude m e).1 ↔ m ≠ 0 := by
  unfold magnitude
  split
  · exact Nat.pos_iff_ne_zero
  · rw [Nat.mul_pos_iff_of_pos_right (powTwo_pos _), Nat.pos_iff_ne_zero]

theorem isPositive_finite_iff {negative : Bool} {m : Nat} {e : Int} :
    IsPositive (.finite negative m e) ↔ negative = false ∧ m ≠ 0 := by
  have hvalue : (Binary64.finite negative m e).toRatio? =
      some (if negative then -((magnitude m e).1 : Int) else (magnitude m e).1,
        (magnitude m e).2) := rfl
  rw [← magnitude_pos_iff (e := e)]
  unfold IsPositive
  rw [hvalue]
  constructor
  · rintro (h | ⟨n, d, h, hn⟩)
    · cases h
    · cases h
      cases negative with
      | true =>
        rw [if_pos rfl] at hn
        omega
      | false => exact ⟨rfl, by simpa using hn⟩
  · rintro ⟨rfl, hm⟩
    exact .inr ⟨_, _, rfl, by simpa using hm⟩

/-- What is not zero or below is above, unless it is not a number. -/
theorem isNonPositive_eq_false_iff {x : Binary64} :
    x.isNonPositive = false ↔ x = .nan ∨ x.IsPositive := by
  cases x with
  | nan => simp [isNonPositive]
  | infinite negative =>
    cases negative with
    | true =>
      refine iff_of_false (fun h => nomatch h) ?_
      rintro (h | h | ⟨n, d, h, -⟩) <;> cases h
    | false => exact iff_of_true rfl (.inr (.inl rfl))
  | finite negative m e =>
    rw [isPositive_finite_iff, isNonPositive, Bool.or_eq_false_iff, beq_eq_false_iff_ne]
    exact ⟨.inr, fun h => h.resolve_left fun h => nomatch h⟩

/-! ## Results of rounding -/

theorem ofRatio_ne_nan (negative : Bool) (num den : Nat) : ofRatio negative num den ≠ .nan := by
  unfold ofRatio
  dsimp only
  repeat' split
  all_goals exact fun h => nomatch h

theorem ofDecimal_ne_nan (negative : Bool) (digits : Nat) (exponent : Int) :
    ofDecimal negative digits exponent ≠ .nan := by
  unfold ofDecimal
  dsimp only
  repeat' split
  · exact fun h => nomatch h
  · exact fun h => nomatch h
  · exact ofRatio_ne_nan _ _ _
  · exact ofRatio_ne_nan _ _ _

theorem ofInt?_eq_none_iff_infinite {n : Int} :
    ofInt? n = none ↔ ∃ negative, ofRatio (n < 0) n.natAbs 1 = .infinite negative := by
  unfold ofInt?
  cases ofRatio (n < 0) n.natAbs 1 <;> simp

theorem ofInt?_ne_nan (n : Int) : ofInt? n ≠ some .nan := by
  unfold ofInt?
  split
  · exact fun h => nomatch h
  · intro h
    exact ofRatio_ne_nan _ _ _ (Option.some.inj h)

/-! ## Integers without a number near them -/

/-- A quotient is rounded up to an even number from halfway below it. -/
theorem two_mul_le_roundDiv_iff {num den k : Nat} (hden : 0 < den) :
    2 * k ≤ roundDiv num den ↔ 4 * (den * k) ≤ 2 * num + den := by
  have hnum : den * (num / den) + num % den = num := Nat.div_add_mod num den
  have hrest : num % den < den := Nat.mod_lt num hden
  unfold roundDiv
  dsimp only
  generalize num / den = q at *
  generalize num % den = r at *
  rcases Nat.lt_trichotomy (2 * k) (q + 1) with hlt | heq | hgt
  · -- the quotient is there without its rest
    have hle : den * (2 * k) ≤ den * q := Nat.mul_le_mul_left den (by omega)
    rw [Nat.mul_left_comm] at hle
    refine iff_of_true ?_ (by omega)
    split <;> omega
  · -- the quotient is odd, so that half of the divisor is enough
    have hmul : 2 * (den * k) = den * q + den := by
      rw [Nat.mul_left_comm, heq, Nat.mul_succ]
    split <;> omega
  · have hle : den * (q + 2) ≤ den * (2 * k) := Nat.mul_le_mul_left den (by omega)
    rw [Nat.mul_left_comm den 2 k, Nat.mul_add] at hle
    refine iff_of_false ?_ (by omega)
    split <;> omega

/-- An integer has more than a full mantissa one binary digit below its exponent. -/
theorem powTwo_le_scaleDown {n : Nat} (h : n ≠ 0) :
    powTwo precision ≤ (scaleDown n 1 (n.log2 - precision)).1 /
      (scaleDown n 1 (n.log2 - precision)).2 := by
  have hlog : powTwo n.log2 ≤ n := powTwo_log2_le h
  unfold scaleDown
  by_cases hneg : (n.log2 : Int) - precision < 0
  · rw [if_pos hneg, Nat.div_one]
    have hsum : precision = n.log2 + (-((n.log2 : Int) - precision)).toNat := by omega
    calc powTwo precision
        = powTwo n.log2 * powTwo (-((n.log2 : Int) - precision)).toNat := by
          rw [← powTwo_add, ← hsum]
      _ ≤ n * powTwo (-((n.log2 : Int) - precision)).toNat := Nat.mul_le_mul_right _ hlog
  · rw [if_neg hneg, Nat.one_mul, Nat.le_div_iff_mul_le (powTwo_pos _), ← powTwo_add]
    have hsum : precision + ((n.log2 : Int) - precision).toNat = n.log2 := by omega
    rw [hsum]
    exact hlog

theorem exponentOf_one {n : Nat} (h : n ≠ 0) : exponentOf n 1 = n.log2 - 52 := by
  have hfull := powTwo_le_scaleDown h
  have hone : Nat.log2 1 = 0 := by decide
  unfold exponentOf
  dsimp only
  rw [hone, Int.natCast_zero, Int.sub_zero, if_pos hfull]
  have hprecision : (precision : Int) = 53 := rfl
  have hmin : minExponent = -1074 := rfl
  omega

/-- The exponent of an integer once its mantissa is rounded. -/
theorem exists_ofRatio_eq_infinite_iff {negative : Bool} {n : Nat} (h : n ≠ 0) :
    (∃ s, ofRatio negative n 1 = .infinite s) ↔
      maxExponent < if roundDiv (scaleDown n 1 (n.log2 - 52)).1 (scaleDown n 1 (n.log2 - 52)).2 =
        powTwo precision then (n.log2 : Int) - 52 + 1 else (n.log2 : Int) - 52 := by
  unfold ofRatio
  rw [if_neg h, exponentOf_one h]
  dsimp only
  split
  · dsimp only
    split <;> simp_all
  · dsimp only
    split <;> simp_all

/-- At the greatest exponent the mantissa of an integer is full, or rounded up beyond that. -/
theorem roundDiv_eq_powTwo_iff {n : Nat} (h : n.log2 = 1023) :
    roundDiv n (powTwo 971) = powTwo precision ↔ powTwo 1024 - powTwo 970 ≤ n := by
  have hlt : n < powTwo 1024 := by
    have hn := lt_powTwo_log2_succ n
    rwa [h] at hn
  have hmax : powTwo 1024 = powTwo 53 * powTwo 971 := powTwo_add 53 971
  have hhalf : powTwo 971 = 2 * powTwo 970 := powTwo_succ 970
  have hfull : powTwo 53 = 2 * powTwo 52 := powTwo_succ 52
  -- the quotient itself is below a full mantissa
  have hle : roundDiv n (powTwo 971) ≤ powTwo 53 := by
    have hq : n / powTwo 971 < powTwo 53 := by
      rw [Nat.div_lt_iff_lt_mul (powTwo_pos _), ← hmax]
      exact hlt
    unfold roundDiv
    dsimp only
    split <;> omega
  have hiff : powTwo 53 ≤ roundDiv n (powTwo 971) ↔
      4 * (powTwo 971 * powTwo 52) ≤ 2 * n + powTwo 971 := by
    rw [hfull]
    exact two_mul_le_roundDiv_iff (powTwo_pos 971)
  have hmul : 4 * (powTwo 971 * powTwo 52) = 2 * powTwo 1024 := by
    rw [hmax, hfull, Nat.mul_assoc, Nat.mul_comm (powTwo 52)]
    omega
  show roundDiv n (powTwo 971) = powTwo 53 ↔ _
  generalize roundDiv n (powTwo 971) = m at *
  generalize powTwo 1024 = top at *
  generalize powTwo 53 = full at *
  omega

/-- An integer has no number near it from halfway between the greatest number and the next power
of two. -/
theorem ofInt?_eq_none_iff {n : Int} :
    ofInt? n = none ↔ powTwo 1024 - powTwo 970 ≤ n.natAbs := by
  have hbound : 0 < powTwo 1024 - powTwo 970 := by
    have hsucc : powTwo 971 = 2 * powTwo 970 := powTwo_succ 970
    have hle : powTwo 971 ≤ powTwo 1024 := powTwo_le_powTwo (by omega)
    have hpos := powTwo_pos 970
    omega
  rw [ofInt?_eq_none_iff_infinite]
  by_cases hzero : n.natAbs = 0
  · rw [hzero]
    refine iff_of_false ?_ (by omega)
    rintro ⟨s, hs⟩
    cases hs
  · rw [exists_ofRatio_eq_infinite_iff hzero]
    have hmax : maxExponent = 971 := rfl
    rcases Nat.lt_trichotomy n.natAbs.log2 1023 with hlt | heq | hgt
    · -- a binary digit short of the greatest exponent
      have hn : n.natAbs < powTwo 1023 :=
        Nat.lt_of_lt_of_le (lt_powTwo_log2_succ _) (powTwo_le_powTwo (by omega))
      have hdouble : powTwo 1024 = 2 * powTwo 1023 := powTwo_succ 1023
      have hle : powTwo 970 ≤ powTwo 1023 := powTwo_le_powTwo (by omega)
      refine iff_of_false ?_ (by omega)
      split <;> omega
    · have hexponent : (n.natAbs.log2 : Int) - 52 = 971 := by omega
      have htoNat : (971 : Int).toNat = 971 := by decide
      have hscale : scaleDown n.natAbs 1 971 = (n.natAbs, powTwo 971) := by
        rw [scaleDown, if_neg (by decide), htoNat, Nat.one_mul]
      rw [hexponent, hscale, ← roundDiv_eq_powTwo_iff heq, hmax]
      dsimp only
      split
      · next hfull => exact iff_of_true (by decide) hfull
      · next hless => exact iff_of_false (by decide) hless
    · have hn : powTwo 1024 ≤ n.natAbs :=
        Nat.le_trans (powTwo_le_powTwo hgt) (powTwo_log2_le hzero)
      refine iff_of_true ?_ (by omega)
      split <;> omega

end Binary64

end CommandServer
