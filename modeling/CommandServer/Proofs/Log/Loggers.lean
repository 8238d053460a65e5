/-
Which loggers come to the root, and what they take. A name that does not begin with a dot always
leads there, whatever other loggers there are. One that begins with a single dot never does: its
second dot is looked at first, nothing can have the name before it, and so the dot that stands after
the root is passed over.
-/
import CommandServer.Log.Loggers

namespace CommandServer.Log

/-! ## Names -/

/-- The dots that a name begins with. -/
def leadingDots (name : Option String) : Nat :=
  ((name.getD "").toList.takeWhile (· = '.')).length

/-- A name is that of the root, or stands below it with the name that was asked for. -/
theorem loggerName_cases (name : Option String) :
    loggerName name = rootLogger ∧ leadingDots name = 0 ∨
      ∃ u, u ≠ [] ∧ (loggerName name).toList = rootLogger.toList ++ '.' :: u ∧
        leadingDots name = (u.takeWhile (· = '.')).length := by
  cases name with
  | none => exact .inl ⟨rfl, rfl⟩
  | some n =>
    by_cases h : n = ""
    · subst h
      exact .inl ⟨rfl, rfl⟩
    · have hempty : n.isEmpty = false := by simpa using h
      refine .inr ⟨n.toList, by simpa using h, ?_, rfl⟩
      unfold loggerName
      simp [hempty, String.toList_append]

/-- Nothing can be asked for that stands right behind the dot after the root. -/
theorem toList_loggerName_ne (name : Option String) :
    (loggerName name).toList ≠ rootLogger.toList ++ ['.'] := by
  rcases loggerName_cases name with ⟨hroot, -⟩ | ⟨u, hu, hlist, -⟩
  · rw [hroot]
    decide
  · rw [hlist]
    simpa using hu

namespace Loggers

/-! ## The way up -/

section

variable {names : List String}

theorem climbs_cons_of_ne {c : Char} (h : c ≠ '.') (cs : List Char) :
    climbs names (c :: cs) = climbs names cs := by
  cases cs <;> simp [climbs, h]

/-- The way up from a longer name comes past the name above it, unless a second dot stands behind the
dot between the two. -/
theorem climbs_append {t : List Char} (ht : rootLogger.length < t.length) :
    ∀ r : List Char, r.getLast? ≠ some '.' → climbs names (r ++ t) = climbs names t
  | [], _ => rfl
  | [c], hr => climbs_cons_of_ne (by simpa using hr) t
  | d :: c :: r, hr => by
    have hrest : climbs names (c :: r ++ t) = climbs names t :=
      climbs_append ht (c :: r) (by simpa using hr)
    by_cases hd : d = '.'
    · subst hd
      have habove : String.ofList (c :: (r ++ t)).reverse ≠ rootLogger := by
        intro h
        have hlength := congrArg String.length h
        simp at hlength
        omega
      -- where nothing has the name above a dot, the character before the dot is passed over too
      have hskip : climbs names (r ++ t) = climbs names t := by
        refine climbs_append ht r ?_
        cases r with
        | nil => simp
        | cons x r => simpa using hr
      show climbs names ('.' :: c :: (r ++ t)) = _
      rw [climbs, if_neg habove]
      split
      · exact hrest
      · exact hskip
    · exact (climbs_cons_of_ne hd _).trans hrest

theorem climbs_of_root : climbs names ('.' :: rootLogger.toList.reverse) = true := by
  have hroot : rootLogger.toList.reverse = 'p' :: "studio_mc".toList.reverse := by decide
  rw [hroot, climbs, ← hroot, List.reverse_reverse, String.ofList_toList, if_pos rfl]

theorem climbs_of_dot (h : ∀ n ∈ names, n.toList ≠ rootLogger.toList ++ ['.']) :
    climbs names ('.' :: '.' :: rootLogger.toList.reverse) = false := by
  have habove : String.ofList ('.' :: rootLogger.toList.reverse).reverse ≠ rootLogger := by decide
  have hmem : names.contains (String.ofList ('.' :: rootLogger.toList.reverse).reverse) = false := by
    rw [← Bool.not_eq_true, List.contains_iff_mem]
    intro hmem
    exact h _ hmem (by rw [String.toList_ofList, List.reverse_cons, List.reverse_reverse])
  rw [climbs, if_neg habove, hmem]
  rfl

end

theorem getLast?_reverse_ne {u : List Char} (h : (u.takeWhile (· = '.')).length = 0) :
    u.reverse.getLast? ≠ some '.' := by
  rw [List.getLast?_reverse]
  cases u with
  | nil => simp
  | cons c u =>
    rintro ⟨⟩
    simp at h

theorem reaches_of_leadingDots_eq_zero (g : Loggers) {name : Option String}
    (h : leadingDots name = 0) : g.reaches (loggerName name) = true := by
  unfold reaches
  rcases loggerName_cases name with ⟨hroot, -⟩ | ⟨u, -, hlist, hdots⟩
  · rw [hroot, decide_eq_true rfl, Bool.true_or]
  · have hup : climbs g.names (u.reverse ++ '.' :: rootLogger.toList.reverse) = true :=
      (climbs_append (by decide) _ (getLast?_reverse_ne (hdots.symm.trans h))).trans climbs_of_root
    rw [hlist, List.reverse_append, List.reverse_cons, List.append_assoc, List.singleton_append,
      hup, Bool.or_true]

/-! ## Loggers that have been asked for -/

/-- Every logger has been asked for, and where the way up is certain, what has been decided is what
the threshold says. A threshold is that of warnings or below, so that no logger leaves out a
warning. -/
structure Sound (threshold : Level) (g : Loggers) : Prop where
  asked : ∀ n ∈ g.names, ∃ name, n = loggerName name
  threshold_le : threshold.rank ≤ Level.warning.rank
  decided : ∀ name l decision, leadingDots name = 0 →
    g.decisions.lookup (loggerName name, l) = some decision → decision = l.atLeast threshold
  urgent : ∀ n l decision, g.decisions.lookup (n, l) = some decision →
    l.atLeast .warning = true → decision = true

namespace Sound

variable {g : Loggers} {threshold : Level}

theorem renewed (hasked : ∀ n ∈ g.names, ∃ name, n = loggerName name)
    (hle : threshold.rank ≤ Level.warning.rank) : Sound threshold g.renewed where
  asked := hasked
  threshold_le := hle
  decided := by
    intro _ _ _ _ hlookup
    cases hlookup
  urgent := by
    intro _ _ _ hlookup
    cases hlookup

theorem not_reaches (h : Sound threshold g) {name : Option String} (hdots : leadingDots name = 1) :
    g.reaches (loggerName name) = false := by
  have hfree : ∀ n ∈ g.names, n.toList ≠ rootLogger.toList ++ ['.'] := by
    intro n hn
    obtain ⟨asked, rfl⟩ := h.asked n hn
    exact toList_loggerName_ne asked
  rcases loggerName_cases name with ⟨-, hnone⟩ | ⟨u, -, hlist, hu⟩
  · omega
  · obtain ⟨v, rfl, hv⟩ : ∃ v, u = '.' :: v ∧ (v.takeWhile (· = '.')).length = 0 := by
      rw [hdots] at hu
      cases u with
      | nil => cases hu
      | cons c v =>
        rw [List.takeWhile_cons] at hu
        split at hu
        · next hc => exact ⟨v, by simpa using hc, by simpa using hu⟩
        · cases hu
    have hne : loggerName name ≠ rootLogger := by
      intro heq
      rw [heq] at hlist
      simpa using congrArg List.length hlist
    have hup : climbs g.names (v.reverse ++ '.' :: '.' :: rootLogger.toList.reverse) = false :=
      (climbs_append (by decide) _ (getLast?_reverse_ne hv)).trans (climbs_of_dot hfree)
    unfold reaches
    rw [hlist, List.reverse_append, List.reverse_cons, List.reverse_cons, List.append_assoc,
      List.append_assoc, List.singleton_append, List.singleton_append, hup, decide_eq_false hne]
    rfl

theorem admits (h : Sound threshold g) {name : Option String} (hdots : leadingDots name = 0)
    (l : Level) : g.admits threshold (loggerName name) l = l.atLeast threshold := by
  unfold Loggers.admits
  split
  · next hlookup => exact h.decided _ _ _ hdots hlookup
  · rw [reaches_of_leadingDots_eq_zero g hdots, if_pos rfl]

theorem atLeast_threshold (h : Sound threshold g) {l : Level} (hl : l.atLeast .warning = true) :
    l.atLeast threshold = true := by
  unfold Level.atLeast at hl ⊢
  rw [decide_eq_true_iff] at hl ⊢
  exact Nat.le_trans h.threshold_le hl

theorem not_urgent (h : Sound threshold g) {l : Level} (hl : l.atLeast threshold = false) :
    l.atLeast .warning = false := by
  rw [← Bool.not_eq_true]
  intro hurgent
  rw [h.atLeast_threshold hurgent] at hl
  cases hl

/-- No logger leaves out a warning, wherever its way up leads. -/
theorem admits_of_urgent (h : Sound threshold g) (n : String) {l : Level}
    (hl : l.atLeast .warning = true) : g.admits threshold n l = true := by
  unfold Loggers.admits
  split
  · next hlookup => exact h.urgent _ _ _ hlookup hl
  · split
    · exact h.atLeast_threshold hl
    · exact hl

theorem not_urgent_of_admits (h : Sound threshold g) {n : String} {l : Level}
    (hl : g.admits threshold n l = false) : l.atLeast .warning = false := by
  rw [← Bool.not_eq_true]
  intro hurgent
  rw [h.admits_of_urgent n hurgent] at hl
  cases hl

/-- A logger without a dot in front of its name takes what reaches the threshold. -/
theorem leadingDots_ne_zero (h : Sound threshold g) {name : Option String} {l : Level}
    (hl : l.atLeast threshold = true) (hadmits : g.admits threshold (loggerName name) l = false) :
    leadingDots name ≠ 0 := by
  intro hzero
  rw [h.admits hzero, hl] at hadmits
  cases hadmits

theorem add (h : Sound threshold g) (name : Option String) :
    Sound threshold (g.add (loggerName name)) := by
  unfold Loggers.add
  split
  · exact h
  · refine ⟨fun n hn => ?_, h.threshold_le, h.decided, h.urgent⟩
    rcases List.mem_cons.1 hn with rfl | hn
    · exact ⟨name, rfl⟩
    · exact h.asked n hn

theorem settle (h : Sound threshold g) (name : String) (l : Level) :
    Sound threshold (g.settle threshold name l) where
  asked := h.asked
  threshold_le := h.threshold_le
  decided := by
    intro other l' decision hdots hlookup
    unfold Loggers.settle at hlookup
    rw [List.lookup_cons] at hlookup
    split at hlookup
    · next heq =>
      -- a logger may be asked for in two ways, as the root is
      cases eq_of_beq heq
      cases hlookup
      exact h.admits hdots l
    · exact h.decided _ _ _ hdots hlookup
  urgent := by
    intro n l' decision hlookup hurgent
    unfold Loggers.settle at hlookup
    rw [List.lookup_cons] at hlookup
    split at hlookup
    · next heq =>
      cases eq_of_beq heq
      cases hlookup
      exact h.admits_of_urgent _ hurgent
    · exact h.urgent _ _ _ hlookup hurgent

end Sound

end Loggers

end CommandServer.Log
