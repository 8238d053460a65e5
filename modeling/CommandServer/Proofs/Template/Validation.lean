/-
Validation as a condition. Arguments are accepted when every required name is supplied in some
spelling and every argument in a spelling of the name of an array is a list or a tuple. Rendering
succeeds for accepted arguments only, and for these when all words can be written; for them a field
that demands a value finds one under its own spelling, whatever other fields say about the same
name.
-/
import CommandServer.Proofs.Except
import CommandServer.Proofs.Schema
import CommandServer.Template

namespace CommandServer

open CommandServer.Text
open CommandServer.Template

/-! ## The schema of the words -/

namespace Schema

variable {words : List (List Token)} {w : List Token} {f : Field} {n : String}

theorem mem_fields_of_mem (hw : w ∈ words) (hf : .field f ∈ w) :
    f ∈ words.flatten.filterMap Token.field? :=
  List.mem_filterMap.2 ⟨_, List.mem_flatten.2 ⟨w, hw, hf⟩, rfl⟩

/-- A field that demands a value makes its name required, unless the name belongs to a switch. -/
theorem mem_required_ofWords (hw : w ∈ words) (hf : .field f ∈ w) (hd : f.demands = true)
    (ht : (ofWords words).typeOf? f.normalizedName ≠ some .boolean) :
    f.normalizedName ∈ (ofWords words).required :=
  mem_required_ofFields.2 ⟨⟨f, mem_fields_of_mem hw hf, hd, rfl⟩, ht⟩

/-- The names of the properties are normalized. -/
theorem normalizeName_of_typeOf? {type : PropertyType}
    (h : (ofWords words).typeOf? n = some type) : normalizeName n = n := by
  rw [ofWords, typeOf?_ofFields, Option.map_eq_some_iff] at h
  obtain ⟨f, hf, -⟩ := h
  have hn := List.find?_some hf
  rw [beq_iff_eq] at hn
  rw [← hn, Field.normalizedName, normalizeName_normalizeName]

theorem typeOf?_eq_some_iff {s : Schema} {type : PropertyType} :
    s.typeOf? n = some type ↔ (s.find? n).any (·.type == type) = true := by
  unfold typeOf?
  cases s.find? n <;> simp

end Schema

namespace Template

/-! ## Accepted arguments -/

theorem isSome_of_isSupplied {v : Option Value} (h : isSupplied v = true) : v.isSome = true := by
  cases v with
  | none => cases h
  | some v => rfl

/-- What validation asks of the arguments. -/
structure Accepted (s : Schema) (args : Arguments) : Prop where
  supplied : ∀ n ∈ s.required, isSupplied (args.lookup? n) = true
  arrays : ∀ k v, (k, v) ∈ args.entries → s.typeOf? (normalizeName k) = some .array →
    v.items?.isSome = true

theorem missingName?_eq_none_iff {s : Schema} {args : Arguments} :
    missingName? s args = none ↔ ∀ n ∈ s.required, isSupplied (args.lookup? n) = true := by
  unfold missingName?
  rw [List.find?_eq_none]
  simp only [Bool.not_eq_true', Bool.not_eq_false]

theorem mistyped?_eq_none_iff {s : Schema} {args : Arguments} :
    mistyped? s args = none ↔ ∀ k v, (k, v) ∈ args.entries →
      s.typeOf? (normalizeName k) = some .array → v.items?.isSome = true := by
  unfold mistyped? Schema.get?
  rw [List.find?_eq_none]
  constructor
  · intro h k v hkv ht
    have hno := h (k, v) hkv
    rw [Schema.typeOf?_eq_some_iff] at ht
    rw [ht, Bool.true_and, Option.isNone_iff_eq_none] at hno
    exact Option.isSome_iff_ne_none.2 hno
  · rintro h ⟨k, v⟩ hkv hno
    rw [Bool.and_eq_true, ← Schema.typeOf?_eq_some_iff, Option.isNone_iff_eq_none] at hno
    exact Option.isSome_iff_ne_none.1 (h k v hkv hno.1) hno.2

/-- `validate` passes exactly the accepted arguments. -/
theorem validate_eq_ok_iff {s : Schema} {args : Arguments} :
    validate s args = .ok () ↔ Accepted s args := by
  unfold validate
  constructor
  · intro h
    split at h
    · cases h
    · next hm =>
      split at h
      · cases h
      · next ht => exact ⟨missingName?_eq_none_iff.1 hm, mistyped?_eq_none_iff.1 ht⟩
  · rintro ⟨hs, ha⟩
    rw [missingName?_eq_none_iff.2 hs, mistyped?_eq_none_iff.2 ha]

/-- Rendering gives the command and the contributions of the words, for accepted arguments only. -/
theorem render_eq_ok_iff {stack : Stack} {t : Template} {args : Arguments} {out : List String} :
    t.render stack args = .ok out ↔ Accepted t.schema args ∧
      ∃ contributions, t.words.mapM (renderWord stack args) = .ok contributions ∧
        out = t.command :: contributions.flatten := by
  unfold render
  simp only [bind_eq_ok_iff, mapError_eq_ok_iff, ← validate_eq_ok_iff]
  constructor
  · rintro ⟨_, haccepted, contributions, hwords, ⟨⟩⟩
    exact ⟨haccepted, contributions, hwords, rfl⟩
  · rintro ⟨haccepted, contributions, hwords, rfl⟩
    exact ⟨(), haccepted, contributions, hwords, rfl⟩

theorem ofArguments_eq_ok_iff {argv : List String} {t : Template} :
    ofArguments argv = .ok t ↔ ∃ words, argv = t.command :: words ∧
      allBlank t.command.toList = false ∧ t.words = words.map tokenize := by
  obtain ⟨command, tokens⟩ := t
  constructor
  · intro h
    unfold ofArguments at h
    split at h
    · cases h
    · next c words =>
      split at h
      · cases h
      · next hc =>
        cases h
        exact ⟨words, rfl, Bool.eq_false_iff.2 hc, rfl⟩
  · rintro ⟨words, rfl, hc, rfl⟩
    rw [ofArguments, if_neg (Bool.eq_false_iff.1 hc)]

/-! ## What the fields find -/

namespace Accepted

variable {words : List (List Token)} {args : Arguments} {w : List Token} {f : Field}

/-- A field that demands a value finds one, unless its name belongs to a switch. -/
theorem isSome_lookup? (h : Accepted (.ofWords words) args) (hw : w ∈ words) (hf : .field f ∈ w)
    (hd : f.demands = true) (ht : (Schema.ofWords words).typeOf? f.normalizedName ≠ some .boolean) :
    (args.lookup? f.name).isSome = true := by
  have hreq := h.supplied _ (Schema.mem_required_ofWords hw hf hd ht)
  exact Arguments.isSome_lookup?_of_normalizeName (isSome_of_isSupplied hreq)

/-- What is found for the name of an array is a list or a tuple. -/
theorem isSome_items?_of_lookup? {v : Value} (h : Accepted (.ofWords words) args)
    (ht : (Schema.ofWords words).typeOf? f.normalizedName = some .array)
    (hv : args.lookup? f.name = some v) : v.items?.isSome = true := by
  obtain ⟨k, hk, hget⟩ := Arguments.exists_get?_of_lookup? hv
  refine h.arrays k v (OrderedMap.mem_entries_of_get? hget) ?_
  rw [hk]
  exact ht

/-- An array whose name is that of an array finds a list or a tuple. -/
theorem exists_items (h : Accepted (.ofWords words) args) (hw : w ∈ words) (hf : .field f ∈ w)
    (ha : f.isArray = true)
    (ht : (Schema.ofWords words).typeOf? f.normalizedName = some .array) :
    ∃ v items, args.lookup? f.name = some v ∧ v.items? = some items := by
  -- between either brackets an array demands a value
  have hd : f.demands = true := by
    unfold Field.isArray at ha
    unfold Field.demands
    split at ha
    · next hk => rw [hk]
    · cases ha
  obtain ⟨v, hv⟩ := Option.isSome_iff_exists.1
    (h.isSome_lookup? hw hf hd (by rw [ht]; exact fun heq => nomatch heq))
  obtain ⟨items, hi⟩ := Option.isSome_iff_exists.1 (h.isSome_items?_of_lookup? ht hv)
  exact ⟨v, items, hv, hi⟩

end Accepted

/-- A command with one parameter, whose name is written with a dash. -/
def dashed : Template := ⟨"echo", [[.field ⟨"my-name", "", .scalar true⟩]]⟩

end Template

end CommandServer
