/-
Parts of a document of settings, and what keeps them from being read. An integer can have too many
digits to be written, or no number near it, and a directory may not be found; nothing else fails.
-/
import CommandServer.Proofs.Number.Reader
import CommandServer.Proofs.Path
import CommandServer.Proofs.Value
import CommandServer.Settings

namespace CommandServer

open CommandServer.Text

namespace Settings

/-! ## Parts of a document -/

def logFileOf (d : Datum) : Datum := d.under "log_file"

def directoryOf (d : Datum) : Datum := (d.under "execution").under "cwd"

def timeoutOf (d : Datum) : Datum := (d.under "execution").under "timeout"

def variablesOf (d : Datum) : Datum := (d.under "execution").under "env"

def nameOf (d : Datum) : Datum := (d.under "server").under "name"

/-! ## Texts -/

/-- An integer of too many digits. -/
def IsLong (d : Datum) : Prop :=
  ∃ n : Int, d = .scalar (.int n) ∧ powTen maxDigits ≤ n.natAbs

theorem written_eq_error_iff {s : Scalar} {f : Fault} :
    s.written = .error f ↔ f = .integerUnwritable ∧ IsLong (.scalar s) := by
  unfold IsLong
  cases s with
  | int n =>
    simp only [Scalar.written, Datum.scalar.injEq, Scalar.int.injEq, exists_eq_left',
      writeInteger_eq_error_iff]
  | _ => simp [Scalar.written]

theorem someText?_eq_error_iff {d : Datum} {f : Fault} :
    someText? d = .error f ↔ f = .integerUnwritable ∧ IsLong d := by
  unfold someText?
  rw [map_eq_error_iff]
  cases d with
  | scalar s =>
    rw [text?]
    by_cases h : isTextual s = true
    · rw [if_pos h, map_eq_error_iff, written_eq_error_iff]
    · rw [if_neg h]
      refine iff_of_false (fun h => nomatch h) ?_
      rintro ⟨-, n, ⟨⟩, -⟩
      exact h rfl
  | mapping es => simp [text?, IsLong]
  | collection => simp [text?, IsLong]

/-! ## Numbers -/

/-- An integer without a number near it. -/
def IsLarge (d : Datum) : Prop :=
  ∃ n : Int, d = .scalar (.int n) ∧ powTwo 1024 - powTwo 970 ≤ n.natAbs

/-- The number that a datum stands for: its own, the one near it, or the one that it spells. -/
inductive Denotes : Datum → Binary64 → Prop
  | float (x : Binary64) : Denotes (.scalar (.float x)) x
  | int {n : Int} {x : Binary64} (h : Binary64.ofInt? n = some x) : Denotes (.scalar (.int n)) x
  | text {s : String} {x : Binary64} (h : Binary64.read? s.toList = some x) :
    Denotes (.scalar (.text s)) x

theorem number?_eq_error_iff {d : Datum} {f : Fault} :
    number? d = .error f ↔ f = .integerTooLarge ∧ IsLarge d := by
  unfold IsLarge number?
  split
  · simp
  · simp
  · next n =>
    simp only [Datum.scalar.injEq, Scalar.int.injEq, exists_eq_left', ← Binary64.ofInt?_eq_none_iff]
    cases Binary64.ofInt? n with
    | some x => simp
    | none => simp [eq_comm]
  · next hint =>
    refine iff_of_false (fun h => nomatch h) ?_
    rintro ⟨-, n, rfl, -⟩
    exact hint n rfl

theorem number?_eq_some_iff {d : Datum} {x : Binary64} :
    number? d = .ok (some x) ↔ Denotes d x := by
  constructor
  · intro h
    unfold number? at h
    split at h
    · cases h
      exact .float x
    · cases hread : Binary64.read? _ with
      | none =>
        rw [hread] at h
        cases h
      | some y =>
        rw [hread] at h
        cases h
        exact .text hread
    · split at h
      · next hn =>
        cases h
        exact .int hn
      · cases h
    · cases h
  · intro h
    cases h with
    | float => rfl
    | int h => rw [number?, h]
    | text h => rw [number?, h]

/-- What stands for not a number: itself, or a text that spells it. -/
theorem denotes_nan_iff {d : Datum} :
    Denotes d .nan ↔ d = .scalar (.float .nan) ∨
      ∃ s, d = .scalar (.text s) ∧ Binary64.SpellsNan s.toList := by
  constructor
  · intro h
    cases h with
    | float => exact .inl rfl
    | int h => exact absurd h (Binary64.ofInt?_ne_nan _)
    | text h => exact .inr ⟨_, rfl, Binary64.read?_eq_some_nan_iff.1 h⟩
  · rintro (rfl | ⟨s, rfl, h⟩)
    · exact .float .nan
    · exact .text (Binary64.read?_eq_some_nan_iff.2 h)

/-! ## Variables and directories -/

/-- An entry for a variable whose name or value has too many digits. -/
def HasLongVariable (d : Datum) : Prop :=
  ∃ k v, (k, .scalar v) ∈ d.entries ∧ isTextual v = true ∧
    (IsLong (.scalar k) ∨ IsLong (.scalar v))

theorem textual?_eq_some_iff {e : Scalar × Datum} {k v : Scalar} :
    environmentOf.textual? e = some (k, v) ↔ e = (k, .scalar v) ∧ isTextual v = true := by
  obtain ⟨k', d⟩ := e
  cases d with
  | scalar v' =>
    rw [environmentOf.textual?]
    split
    · next h =>
      simp only [Option.some.injEq, Prod.mk.injEq, Datum.scalar.injEq]
      constructor
      · rintro ⟨rfl, rfl⟩
        exact ⟨⟨rfl, rfl⟩, h⟩
      · exact fun hv => hv.1
    · next h =>
      refine iff_of_false (fun h => nomatch h) ?_
      rintro ⟨⟨⟩, hv⟩
      exact h hv
  | mapping es => simp [environmentOf.textual?]
  | collection => simp [environmentOf.textual?]

/-- Both texts of an entry, the one of its name first. -/
def writePair (e : Scalar × Scalar) : Except Fault (String × String) := do
  return (← e.1.written, ← e.2.written)

theorem writePair_eq_ok_iff {e : Scalar × Scalar} {k v : String} :
    writePair e = .ok (k, v) ↔ e.1.written = .ok k ∧ e.2.written = .ok v := by
  unfold writePair
  simp only [bind_eq_ok_iff]
  constructor
  · rintro ⟨_, hk, _, hv, ⟨⟩⟩
    exact ⟨hk, hv⟩
  · rintro ⟨hk, hv⟩
    exact ⟨k, hk, v, hv, rfl⟩

theorem writePair_eq_error_iff {e : Scalar × Scalar} {f : Fault} :
    writePair e = .error f ↔ f = .integerUnwritable ∧
      (IsLong (.scalar e.1) ∨ IsLong (.scalar e.2)) := by
  unfold writePair
  simp only [bind_eq_error_iff, written_eq_error_iff]
  constructor
  · rintro (⟨rfl, h⟩ | ⟨_, -, ⟨rfl, h⟩ | ⟨_, -, ⟨⟩⟩⟩)
    · exact ⟨rfl, .inl h⟩
    · exact ⟨rfl, .inr h⟩
  · rintro ⟨rfl, h⟩
    cases hw : e.1.written with
    | error f => exact .inl ⟨rfl, (written_eq_error_iff.1 hw).2⟩
    | ok name =>
      refine .inr ⟨name, rfl, .inl ⟨rfl, h.resolve_left fun hlong => ?_⟩⟩
      rw [written_eq_error_iff.2 ⟨rfl, hlong⟩] at hw
      cases hw

theorem environmentOf_eq_error_iff {d : Datum} {f : Fault} :
    environmentOf d = .error f ↔ f = .integerUnwritable ∧ HasLongVariable d := by
  have heq : environmentOf d = (d.entries.filterMap environmentOf.textual?).mapM writePair >>=
      fun pairs => .ok (.ofPairs pairs) := rfl
  -- entries fail in one way only, so that it does not matter which one is the first to
  rw [heq, bind_eq_error_iff, mapM_eq_error_iff fun e f' h => (writePair_eq_error_iff.1 h).1]
  simp only [writePair_eq_error_iff, List.mem_filterMap, true_and]
  constructor
  · rintro (⟨rfl, ⟨k, v⟩, ⟨e, he, hkv⟩, hlong⟩ | ⟨_, -, ⟨⟩⟩)
    obtain ⟨rfl, hv⟩ := textual?_eq_some_iff.1 hkv
    exact ⟨rfl, k, v, he, hv, hlong⟩
  · rintro ⟨rfl, k, v, he, hv, hlong⟩
    exact .inl ⟨rfl, (k, v), ⟨_, he, textual?_eq_some_iff.2 ⟨rfl, hv⟩⟩, hlong⟩

/-- A working directory that cannot be resolved. -/
def IsUnresolved (resolve : Resolver) (root : Path) (d : Datum) (f : Fault) : Prop :=
  ∃ t, someText? d = .ok (some t) ∧ resolve (root.join (.ofString t)) = .error f

theorem mapM_resolve_eq_error_iff {resolve : Resolver} {root : Path} {d : Datum}
    {directory : Option String} (h : someText? d = .ok directory) {f : Fault} :
    (directory.mapM fun s => resolve (root.join (.ofString s))) = .error f ↔
      IsUnresolved resolve root d f := by
  unfold IsUnresolved
  simp only [h, Except.ok.injEq]
  cases directory with
  | none => simp [pure, Except.pure]
  | some t =>
    have hmap : ((some t).mapM fun s => resolve (root.join (.ofString s))) =
        (resolve (root.join (.ofString t))).map some := rfl
    simp only [hmap, map_eq_error_iff, Option.some.injEq, exists_eq_left']

end Settings

end CommandServer
