/-
Lower case of words that are spelled with ASCII letters. No code point beyond ASCII has such a letter
for its lower case, but for the sign of the kelvin, whose lower case is k. So a text has a word
without a k for its lower case in any script exactly when it has it as lower case of ASCII letters.
-/
import CommandServer.Text.CodePoint
import CommandServer.Text.Digit
import CommandServer.Text.Lower
import Mathlib.Data.List.Basic

namespace CommandServer.Text

/-! ## Code points -/

/-- An ASCII code point other than the letter k. -/
def IsPlain (m : Nat) : Prop := m < 0x80 ∧ m ≠ 0x6B

instance : DecidablePred IsPlain := fun m => inferInstanceAs (Decidable (m < 0x80 ∧ m ≠ 0x6B))

/-- The lower case of the ASCII letters among the code points. -/
def lowerAsciiPoint (n : Nat) : Nat := if 0x41 ≤ n ∧ n ≤ 0x5A then n + 32 else n

theorem toNat_toLower (c : Char) : c.toLower.toNat = lowerAsciiPoint c.toNat := by
  unfold lowerAsciiPoint Char.toLower
  split
  · next h =>
    have hletter : 0x41 ≤ c.toNat ∧ c.toNat ≤ 0x5A := h
    rw [if_pos hletter]
    show (c.val + 32).toNat = c.toNat + 32
    rw [UInt32.toNat_add]
    exact Nat.mod_eq_of_lt (show c.toNat + 32 < 2 ^ 32 by omega)
  · next h =>
    have hletter : ¬(0x41 ≤ c.toNat ∧ c.toNat ≤ 0x5A) := h
    rw [if_neg hletter]

/-- The capital letters of ASCII are one run, and all others have their lower case beyond ASCII. -/
theorem mem_caseRuns {r : CaseRun} (h : r ∈ caseRuns) :
    (r.first = 0x41 ∧ r.last = 0x5A ∧ r.offset = 32) ∨
      0x80 ≤ r.first ∧ (0x80 ≤ r.first + r.offset ∨
        r.first = 0x212A ∧ r.last = 0x212A ∧ r.first + r.offset = 0x6B) := by
  revert r
  decide +kernel

theorem lowerAsciiPoint_of_le {n : Nat} (h : 0x80 ≤ n) : lowerAsciiPoint n = n :=
  if_neg (by omega)

theorem le_of_contains {r : CaseRun} {n : Nat} (h : r.contains n = true) :
    r.first ≤ n ∧ n ≤ r.last := by
  simp only [CaseRun.contains, Bool.and_eq_true, decide_eq_true_eq] at h
  exact h.1

theorem lowerPoint_ne_nil (n : Nat) : lowerPoint n ≠ [] := by
  unfold lowerPoint
  split
  · exact List.cons_ne_nil _ _
  · split <;> exact List.cons_ne_nil _ _

/-- All but one code point have a single one for their lower case. -/
theorem exists_lowerPoint {n : Nat} (h : n ≠ 0x130) :
    ∃ p, lowerPoint n = [p] ∧ ∀ m, IsPlain m → (p = m ↔ lowerAsciiPoint n = m) := by
  unfold lowerPoint
  rw [if_neg h]
  cases hfind : caseRuns.find? (·.contains n) with
  | none =>
    refine ⟨n, rfl, fun m _ => ?_⟩
    have hcapital : ¬(0x41 ≤ n ∧ n ≤ 0x5A) := by
      intro hn
      have hfirst := List.find?_eq_none.1 hfind ⟨0x41, 0x5A, 1, 32⟩ List.mem_cons_self
      simp [CaseRun.contains, hn, Nat.mod_one] at hfirst
    rw [lowerAsciiPoint, if_neg hcapital]
  | some r =>
    have hcontains := List.find?_some hfind
    obtain ⟨hfirst, hlast⟩ := le_of_contains hcontains
    refine ⟨_, rfl, fun m hm => ?_⟩
    obtain ⟨hascii, hk⟩ := hm
    rcases mem_caseRuns (List.mem_of_find?_eq_some hfind) with ⟨h₁, h₂, h₃⟩ | ⟨hbeyond, h₁ | h₁⟩
    · rw [lowerAsciiPoint, if_pos (by omega)]
      omega
    · rw [lowerAsciiPoint_of_le (by omega)]
      omega
    · rw [lowerAsciiPoint_of_le (by omega)]
      omega

/-! ## Words -/

theorem le_lowerSigma (before after : List Nat) : 0x80 ≤ lowerSigma before after := by
  unfold lowerSigma
  split <;> decide

/-- Lower case in any script is lower case of ASCII letters, as far as plain words can tell. -/
theorem lowerFrom_eq_iff {w : List Nat} (hw : ∀ m ∈ w, IsPlain m) (before ps : List Nat) :
    lowerFrom before ps = w ↔ ps.map lowerAsciiPoint = w := by
  induction ps generalizing before w with
  | nil => rfl
  | cons n ps ih =>
    rw [lowerFrom, List.map_cons]
    cases w with
    | nil =>
      refine iff_of_false (fun h => ?_) (fun h => nomatch h)
      have hnil := (List.append_eq_nil_iff.1 h).1
      split at hnil
      · cases hnil
      · exact lowerPoint_ne_nil n hnil
    | cons m w =>
      obtain ⟨hm, hw⟩ := List.forall_mem_cons.1 hw
      have hascii : m < 0x80 := hm.1
      by_cases hsigma : n = capitalSigma
      · subst hsigma
        have hle := le_lowerSigma before ps
        rw [if_pos rfl, List.singleton_append, List.cons.injEq, List.cons.injEq]
        refine iff_of_false (fun h => ?_) (fun h => ?_)
        · omega
        · have : 0x3A3 = m := h.1
          omega
      · rw [if_neg hsigma]
        by_cases hdotted : n = 0x130
        · -- the capital with a dot becomes two code points, and the second one is never plain
          subst hdotted
          show 0x69 :: 0x307 :: lowerFrom (0x130 :: before) ps = m :: w ↔ 0x130 :: _ = m :: w
          refine iff_of_false (fun h => ?_) (fun h => ?_)
          · obtain ⟨-, rfl⟩ := List.cons.inj h
            exact absurd (hw 0x307 List.mem_cons_self).1 (by decide)
          · have := (List.cons.inj h).1
            omega
        · obtain ⟨p, hp, hpoint⟩ := exists_lowerPoint hdotted
          rw [hp, List.singleton_append, List.cons.injEq, List.cons.injEq, hpoint m hm, ih hw]

/-- A word of plain letters is the lower case of a text in any script when it is the lower case of
its ASCII letters. -/
theorem lowerPoints_eq_iff {w : List Char} (hw : ∀ c ∈ w, IsPlain c.toNat) (cs : List Char) :
    lowerPoints (codePoints cs) = codePoints w ↔ lowerAscii cs = w := by
  have hplain : ∀ m ∈ codePoints w, IsPlain m := by
    intro m hm
    obtain ⟨c, hc, rfl⟩ := List.mem_map.1 hm
    exact hw c hc
  have hascii : (codePoints cs).map lowerAsciiPoint = codePoints (lowerAscii cs) := by
    simp only [codePoints, lowerAscii, List.map_map]
    exact List.map_congr_left fun c _ => (toNat_toLower c).symm
  have hinj : Function.Injective Char.toNat := fun c d h => Char.toNat_inj.1 h
  rw [lowerPoints, lowerFrom_eq_iff hplain, hascii]
  exact (List.map_injective_iff.2 hinj).eq_iff

end CommandServer.Text
