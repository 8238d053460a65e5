/-
The time limit of loaded settings. The environment comes before the document, and both are judged
by whether their number is zero or below. What is not a number is neither, so that it passes and
becomes the limit. Where the two differ is a text that spells no number: the environment is refused
for it, and the document counts as one without a limit.
-/
import CommandServer.Proofs.Settings.Source

namespace CommandServer

open CommandServer.Text

/-- A time span above zero. -/
def Seconds.IsPositive : Seconds → Prop
  | .whole n => 0 < n
  | .real x => x.IsPositive

namespace Settings

/-! ## Supplied numbers -/

/-- What a source says of the time limit. -/
def Source.timeout : Source → Datum
  | .document _ d => timeoutOf d
  | _ => .scalar .null

/-- The number that is supplied for the time limit: by the environment, or by the source when the
environment says nothing. -/
inductive Supplies (source : Source) (environ : Environment) (x : Binary64) : Prop
  | environ {t : String} (h : variableLimit? environ = some t)
    (hread : Binary64.read? t.toList = some x) : Supplies source environ x
  | source (h : variableLimit? environ = none) (hx : Denotes source.timeout x) :
    Supplies source environ x

/-- Not a number is supplied: as itself, or as a text that spells it. -/
def SuppliesNan (source : Source) (environ : Environment) : Prop :=
  (∃ t, variableLimit? environ = some t ∧ Binary64.SpellsNan t.toList) ∨
    variableLimit? environ = none ∧ (source.timeout = .scalar (.float .nan) ∨
      ∃ t, source.timeout = .scalar (.text t) ∧ Binary64.SpellsNan t.toList)

variable {resolve : Resolver} {source : Source} {environ : Environment} {s : Settings}

theorem supplies_nan_iff : Supplies source environ .nan ↔ SuppliesNan source environ := by
  unfold SuppliesNan
  rw [← denotes_nan_iff]
  simp only [← Binary64.read?_eq_some_nan_iff]
  constructor
  · intro h
    cases h with
    | environ h hread => exact .inl ⟨_, h, hread⟩
    | source h hx => exact .inr ⟨h, hx⟩
  · rintro (⟨t, h, hread⟩ | ⟨h, hx⟩)
    · exact .environ h hread
    · exact .source h hx

theorem timeout_of_settings {base : Settings} (h : source.settings resolve = .ok base) :
    (∀ x, Denotes source.timeout x → x.isNonPositive = false) ∧
      ∀ t, base.execution.timeout = some t ↔ ∃ x, t = .real x ∧ Denotes source.timeout x := by
  have hnull : ∀ x, ¬Denotes (.scalar .null) x := fun x hx => nomatch hx
  cases source with
  | nothing =>
    cases h
    exact ⟨fun x hx => absurd hx (hnull x), fun t => by simp [Source.timeout, hnull]⟩
  | missing directory =>
    cases h
    exact ⟨fun x hx => absurd hx (hnull x), fun t => by simp [Source.timeout, hnull]⟩
  | document root d =>
    obtain ⟨⟨hstands, htimeout⟩, -⟩ := parts_of_ofDatum h
    refine ⟨fun x hx => ?_, htimeout⟩
    rw [Bool.eq_false_iff]
    exact fun hnon => hstands ⟨x, hx, hnon⟩

/-- The time limit of settled settings is the number supplied for it, which is not zero or below. -/
theorem timeout_of_settle (h : settle resolve source environ = .ok s) :
    (∀ x, Supplies source environ x → x.isNonPositive = false) ∧
      ∀ t, s.execution.timeout = some t ↔ ∃ x, t = .real x ∧ Supplies source environ x := by
  obtain ⟨base, hbase, hover⟩ := settle_eq_ok_iff.1 h
  obtain ⟨hpos, htimeout⟩ := timeout_of_settings hbase
  rcases overrideWith_eq_ok_iff.1 hover with ⟨hnone, rfl⟩ | ⟨t, x, hsome, hread, hx, rfl⟩
  · -- the environment says nothing, and the source decides
    have hiff : ∀ x, Supplies source environ x ↔ Denotes source.timeout x := by
      intro x
      constructor
      · intro hx
        cases hx with
        | environ hsome => simp [hnone] at hsome
        | source _ hx => exact hx
      · exact .source hnone
    simp only [hiff]
    exact ⟨hpos, htimeout⟩
  · -- the environment decides, whatever the source says
    have hiff : ∀ y, Supplies source environ y ↔ y = x := by
      intro y
      constructor
      · intro hy
        cases hy with
        | environ h hy =>
          cases hsome.symm.trans h
          exact Option.some.inj (hy.symm.trans hread)
        | source h => cases hsome.symm.trans h
      · rintro rfl
        exact .environ hsome hread
    simp only [hiff, forall_eq, exists_eq_right]
    exact ⟨hx, fun t => by simp [setTimeout, eq_comm]⟩

/-- Nothing is settled when the environment has a time limit that spells no number. -/
theorem exists_supplies_of_settle {t : String} (h : settle resolve source environ = .ok s)
    (ht : variableLimit? environ = some t) : ∃ x, Supplies source environ x := by
  obtain ⟨base, -, hover⟩ := settle_eq_ok_iff.1 h
  rcases overrideWith_eq_ok_iff.1 hover with ⟨hnone, -⟩ | ⟨t', x, hsome, hread, -⟩
  · cases ht.symm.trans hnone
  · exact ⟨x, .environ hsome hread⟩

/-! ## Numbers that become the limit -/

/-- A limit that is settled is above zero, except when not a number is supplied: that is the limit
then. -/
theorem limit_isPositive_unless_nan (h : settle resolve source environ = .ok s) :
    (¬SuppliesNan source environ → ∀ t, s.execution.timeout = some t → t.IsPositive) ∧
      (SuppliesNan source environ → s.execution.timeout = some (.real .nan)) := by
  obtain ⟨hpos, htimeout⟩ := timeout_of_settle h
  constructor
  · intro hnan t ht
    obtain ⟨x, rfl, hx⟩ := (htimeout t).1 ht
    rcases Binary64.isNonPositive_eq_false_iff.1 (hpos x hx) with rfl | hx
    · exact absurd (supplies_nan_iff.1 hx) hnan
    · exact hx
  · intro hnan
    exact (htimeout _).2 ⟨.nan, rfl, supplies_nan_iff.2 hnan⟩

/-- An environment with a time limit alone. -/
def environOf (t : String) : Environment := .ofPairs [(timeoutVariable, t)]

theorem limit_isPositive_unless_nan_half :
    settle asWritten .nothing (environOf "0.5") =
        .ok (setTimeout (some (.real (.finite false (powTwo 52) (-53)))) {}) ∧
      ¬SuppliesNan .nothing (environOf "0.5") ∧
      (Seconds.real (.finite false (powTwo 52) (-53))).IsPositive := by
  have hsome : variableLimit? (environOf "0.5") = some "0.5" := by decide
  have hread : Binary64.read? "0.5".toList = some (.finite false (powTwo 52) (-53)) := by
    decide +kernel
  have hsettle : settle asWritten .nothing (environOf "0.5") =
      .ok (setTimeout (some (.real (.finite false (powTwo 52) (-53)))) {}) :=
    settle_eq_ok_iff.2 ⟨{}, rfl, overrideWith_eq_ok_iff.2
      (.inr ⟨"0.5", _, hsome, hread, by decide +kernel, rfl⟩)⟩
  have hnan : ¬SuppliesNan .nothing (environOf "0.5") := by
    rw [← supplies_nan_iff]
    intro h
    cases h with
    | environ h hnan =>
      cases hsome.symm.trans h
      cases hread.symm.trans hnan
    | source h => cases hsome.symm.trans h
  exact ⟨hsettle, hnan, (limit_isPositive_unless_nan hsettle).1 hnan _ rfl⟩

/-- A machine without files, whose environment has a time limit that is not a number. -/
def nanMachine : Machine := { files := ⟨[], [], []⟩, environ := environOf "nan", working := [] }

/-- Not a number in the environment alone is loaded as the limit. -/
theorem load_of_nan_variable :
    ∃ s, load bareHost nanMachine nanMachine.environ none = .ok s ∧
      s.execution.timeout = some (.real .nan) ∧ ¬(Seconds.real .nan).IsPositive := by
  have hread : Binary64.read? "nan".toList = some .nan := by decide +kernel
  refine ⟨setTimeout (some (.real .nan)) {}, ?_, rfl, Binary64.not_isPositive_nan⟩
  rw [load_eq]
  show settle asWritten .nothing (environOf "nan") = _
  exact settle_eq_ok_iff.2 ⟨{}, rfl, overrideWith_eq_ok_iff.2
    (.inr ⟨"nan", .nan, by decide, hread, rfl, rfl⟩)⟩

/-! ## Limits that are dropped -/

/-- Settled settings are without a limit when nothing supplies one. -/
theorem timeout_eq_none_iff (h : settle resolve source environ = .ok s) :
    s.execution.timeout = none ↔ variableLimit? environ = none ∧ ∀ x, ¬Denotes source.timeout x := by
  obtain ⟨-, htimeout⟩ := timeout_of_settle h
  rw [Option.eq_none_iff_forall_ne_some]
  constructor
  · intro hnone
    have hsupplies : ¬∃ x, Supplies source environ x := fun ⟨x, hx⟩ =>
      hnone _ ((htimeout _).2 ⟨x, rfl, hx⟩)
    have hvariable : variableLimit? environ = none := by
      cases ht : variableLimit? environ with
      | none => rfl
      | some t => exact absurd (exists_supplies_of_settle h ht) hsupplies
    exact ⟨hvariable, fun x hx => hsupplies ⟨x, .source hvariable hx⟩⟩
  · rintro ⟨hnone, hdenotes⟩ t ht
    obtain ⟨x, -, hx⟩ := (htimeout t).1 ht
    cases hx with
    | environ h => cases hnone.symm.trans h
    | source _ hx => exact hdenotes x hx

section Text

variable {root : Path} {d : Datum} {base : Settings} {t : String}

theorem isRefused_iff_of_text (h : timeoutOf d = .scalar (.text t)) :
    IsRefused d ↔ ∃ x, Binary64.read? t.toList = some x ∧ x.isNonPositive = true := by
  unfold IsRefused
  rw [h]
  refine exists_congr fun x => and_congr_left fun _ => ?_
  constructor
  · intro hx
    cases hx with
    | text hread => exact hread
  · exact .text

/-- A document is refused for a text that spells a number which is not above zero. -/
theorem ofDatum_eq_refused_iff_of_text (h : timeoutOf d = .scalar (.text t))
    (hearly : ∀ f, ¬EarlyFault d f) {e : SettingsError} :
    ofDatum resolve root d = .error (.refused e) ↔ e = .badTimeout .document ∧
      ∃ x, Binary64.read? t.toList = some x ∧ x.isNonPositive = true := by
  rw [ofDatum_eq_refused_iff, isRefused_iff_of_text h]
  exact and_congr_right fun _ => and_iff_right hearly

/-- The environment is refused for such a text, and for one that spells no number. -/
theorem overrideWith_eq_error_iff_of_text (h : environ.get? timeoutVariable = some t)
    (ht : t ≠ "") : overrideWith environ base = .error (.badTimeout .variable) ↔
      ∀ x, Binary64.read? t.toList = some x → x.isNonPositive = true := by
  simp [overrideWith_eq_error_iff, variableLimit?_eq_some_iff.2 ⟨h, ht⟩]

end Text

/-- Settled settings are without a limit when the environment says nothing and the source has no
number. A text is judged alike in the document and in the environment when it spells a number; any
other text is dropped in the document and refused in the environment. -/
theorem limit_dropped_iff (resolve : Resolver) (source : Source) (environ : Environment) :
    (∀ s, settle resolve source environ = .ok s → (s.execution.timeout = none ↔
      variableLimit? environ = none ∧ ∀ x, ¬Denotes source.timeout x)) ∧
    ∀ (root : Path) (d : Datum) (base : Settings) (t : String), t ≠ "" →
      timeoutOf d = .scalar (.text t) → (∀ f, ¬EarlyFault d f) →
        environ.get? timeoutVariable = some t →
          ((Binary64.read? t.toList).isSome →
            (ofDatum resolve root d = .error (.refused (.badTimeout .document)) ↔
              overrideWith environ base = .error (.badTimeout .variable))) ∧
          (Binary64.read? t.toList = none →
            (∀ e, ofDatum resolve root d ≠ .error (.refused e)) ∧
              overrideWith environ base = .error (.badTimeout .variable)) := by
  refine ⟨fun s h => timeout_eq_none_iff h, ?_⟩
  intro root d base t ht hd hearly hvariable
  rw [overrideWith_eq_error_iff_of_text hvariable ht]
  constructor
  · intro hread
    obtain ⟨x, hx⟩ := Option.isSome_iff_exists.1 hread
    rw [ofDatum_eq_refused_iff_of_text hd hearly]
    simp [hx]
  · intro hread
    constructor
    · intro e he
      obtain ⟨-, x, hx, -⟩ := (ofDatum_eq_refused_iff_of_text hd hearly).1 he
      cases hread.symm.trans hx
    · intro x hx
      cases hread.symm.trans hx

/-- A document whose time limit is a text alone. -/
def documentOf (t : String) : Datum :=
  .mapping [(.text "execution", .mapping [(.text "timeout", .scalar (.text t))])]

theorem earlyReading_documentOf (t : String) :
    EarlyReading (documentOf t) none none (Binary64.read? t.toList) := ⟨rfl, rfl, rfl⟩

theorem settle_documentOf {t : String} (h : Binary64.read? t.toList = none) (root : Path) :
    settle resolve (.document root (documentOf t)) .empty = .ok { root := some root } := by
  have hread : EarlyReading (documentOf t) none none none := h ▸ earlyReading_documentOf t
  exact settle_eq_ok_iff.2 ⟨{ root := some root }, hread.ofDatum_eq.trans rfl,
    overrideWith_of_none rfl⟩

theorem limit_dropped_iff_soon :
    settle asWritten (.document topRoot (documentOf "soon")) .empty =
        .ok { root := some topRoot } ∧
      (∀ x, ¬Denotes (timeoutOf (documentOf "soon")) x) ∧
      (∀ e, ofDatum asWritten topRoot (documentOf "soon") ≠ .error (.refused e)) ∧
      overrideWith (environOf "soon") {} = .error (.badTimeout .variable) := by
  have hread : Binary64.read? "soon".toList = none := by decide +kernel
  have hsettle : settle asWritten (.document topRoot (documentOf "soon")) .empty =
      .ok { root := some topRoot } := settle_documentOf hread _
  obtain ⟨habsent, -⟩ := limit_dropped_iff asWritten (.document topRoot (documentOf "soon"))
    .empty
  obtain ⟨-, halike⟩ := limit_dropped_iff asWritten .nothing (environOf "soon")
  have hdropped := (halike topRoot (documentOf "soon") {} "soon" (by decide) rfl
    (earlyReading_documentOf "soon").not_earlyFault (by decide)).2 hread
  exact ⟨hsettle, ((habsent _ hsettle).1 rfl).2, hdropped⟩

/-- A text that spells no number is no limit in a document, and refused in the environment. -/
theorem settle_of_soon :
    (∃ s, settle asWritten (.document topRoot (documentOf "soon")) .empty = .ok s ∧
      s.execution.timeout = none) ∧
    timeoutOf (documentOf "soon") = .scalar (.text "soon") ∧
    settle asWritten .nothing (environOf "soon") = .error (.refused (.badTimeout .variable)) := by
  have hread : Binary64.read? "soon".toList = none := by decide +kernel
  have hrefused : overrideWith (environOf "soon") {} = .error (.badTimeout .variable) :=
    overrideWith_eq_error_iff.2 ⟨rfl, "soon", by decide, fun x hx => by cases hread.symm.trans hx⟩
  refine ⟨⟨_, settle_documentOf hread _, rfl⟩, rfl, ?_⟩
  show (overrideWith (environOf "soon") {}).mapError SettingsFailure.refused = _
  rw [hrefused]
  rfl

end Settings

end CommandServer
