/-
The schema of a list of fields. The type of a name is that of the first field with this name, in any
spelling; a name is required when some field with it demands a value, unless its type is a switch.
-/
import CommandServer.Proofs.Arguments
import CommandServer.Schema

namespace CommandServer

open CommandServer.Template

namespace Schema

/-- The type of the property of a normalized name. -/
def typeOf? (s : Schema) (name : String) : Option PropertyType := (s.find? name).map (·.type)

/-! ## One more occurrence -/

@[simp] theorem name_describe (d : String) (p : Property) : (describe d p).name = p.name := by
  unfold describe; split <;> rfl

@[simp] theorem type_describe (d : String) (p : Property) : (describe d p).type = p.type := by
  unfold describe; split <;> rfl

/-- What does not depend on descriptions stays as it is for an old name and is added for a new one. -/
theorem map_mergeProperty {β : Type} {g : Property → β} (hg : ∀ d p, g (describe d p) = g p)
    (q : Property) (ps : List Property) :
    (mergeProperty q ps).map g =
      if q.name ∈ ps.map (·.name) then ps.map g else ps.map g ++ [g q] := by
  induction ps with
  | nil => rfl
  | cons p ps ih =>
    unfold mergeProperty
    by_cases h : p.name = q.name
    · rw [if_pos h, List.map_cons, List.map_cons, hg, if_pos (by rw [h]; exact List.mem_cons_self ..)]
      rfl
    · have hq : q.name ≠ p.name := fun heq => h heq.symm
      rw [if_neg h, List.map_cons, List.map_cons, List.map_cons, ih]
      simp only [List.mem_cons, hq, false_or]
      split <;> rfl

theorem map_properties_finish {β : Type} {g : Property → β} (hg : ∀ d p, g (describe d p) = g p)
    (s : Schema) : s.finish.properties.map g = s.properties.map g := by
  unfold finish
  rw [List.map_map]
  refine List.map_congr_left fun p _ => ?_
  rw [Function.comp_apply]
  split
  · exact hg _ p
  · rfl

theorem find?_mergeProperty (q : Property) (ps : List Property) (n : String) :
    (mergeProperty q ps).find? (·.name == n) =
      if q.name = n then some ((ps.find? (·.name == n)).elim q (describe q.description))
      else ps.find? (·.name == n) := by
  induction ps with
  | nil => by_cases hq : q.name = n <;> simp [mergeProperty, hq]
  | cons p ps ih =>
    unfold mergeProperty
    by_cases hp : p.name = q.name
    · by_cases hq : q.name = n <;> simp [hp, hq]
    · rw [if_neg hp, List.find?_cons, List.find?_cons, ih]
      by_cases hn : p.name = n
      · have hq : q.name ≠ n := fun h => hp (hn.trans h.symm)
        simp [hn, hq]
      · have hb : (p.name == n) = false := beq_eq_false_iff_ne.2 hn
        rw [hb]

theorem typeOf?_add (s : Schema) (f : Field) (n : String) :
    (s.add f).typeOf? n =
      (s.typeOf? n).or (if f.normalizedName = n then some f.propertyType else none) := by
  unfold typeOf? find? add
  rw [find?_mergeProperty]
  by_cases hf : f.normalizedName = n
  · cases s.properties.find? (·.name == n) <;> simp [Field.property, hf]
  · simp [Field.property, hf]

theorem mem_required_add {s : Schema} {f : Field} {n : String} :
    n ∈ (s.add f).required ↔ n ∈ s.required ∨ f.demands = true ∧ f.normalizedName = n := by
  unfold add
  dsimp only
  split
  · next h =>
    rw [Bool.and_eq_true] at h
    simp [h.1, eq_comm]
  · next h =>
    constructor
    · exact .inl
    · rintro (hn | ⟨hd, rfl⟩)
      · exact hn
      · simpa [hd] using h

/-! ## All occurrences -/

theorem typeOf?_foldl_add (fields : List Field) (s : Schema) (n : String) :
    (fields.foldl add s).typeOf? n =
      (s.typeOf? n).or ((fields.find? (·.normalizedName == n)).map Field.propertyType) := by
  induction fields generalizing s with
  | nil => simp
  | cons f fields ih =>
    rw [List.foldl_cons, ih, typeOf?_add, Option.or_assoc, List.find?_cons]
    by_cases hf : f.normalizedName = n
    · simp [hf]
    · rw [beq_eq_false_iff_ne.2 hf, if_neg hf, Option.none_or]

theorem mem_required_foldl_add {fields : List Field} {s : Schema} {n : String} :
    n ∈ (fields.foldl add s).required ↔
      n ∈ s.required ∨ ∃ f ∈ fields, f.demands = true ∧ f.normalizedName = n := by
  induction fields generalizing s with
  | nil => simp
  | cons f fields ih =>
    rw [List.foldl_cons, ih, mem_required_add, or_assoc]
    simp only [List.mem_cons, exists_eq_or_imp]

theorem typeOf?_finish (s : Schema) (n : String) : s.finish.typeOf? n = s.typeOf? n := by
  have hname : ∀ p : Property, ((if p.type = .array then describe defaultArrayDescription p else p).name
      == n) = (p.name == n) := fun p => by split <;> simp
  have htype : ∀ p : Property, (if p.type = .array then describe defaultArrayDescription p
      else p).type = p.type := fun p => by split <;> simp
  unfold typeOf? find? finish
  rw [List.find?_map, Option.map_map]
  simp only [Function.comp_def, hname, htype]

theorem mem_required_finish {s : Schema} {n : String} :
    n ∈ s.finish.required ↔ n ∈ s.required ∧ s.typeOf? n ≠ some .boolean := by
  unfold finish typeOf?
  rw [List.mem_filter]
  cases s.find? n <;> simp

/-- The first field with a name, in any spelling, fixes its type. -/
theorem typeOf?_ofFields (fields : List Field) (n : String) :
    (ofFields fields).typeOf? n =
      (fields.find? (·.normalizedName == n)).map Field.propertyType := by
  rw [ofFields, typeOf?_finish, typeOf?_foldl_add]
  rfl

/-- A name is required when a field with it demands a value and its type is no switch. -/
theorem mem_required_ofFields {fields : List Field} {n : String} :
    n ∈ (ofFields fields).required ↔
      (∃ f ∈ fields, f.demands = true ∧ f.normalizedName = n) ∧
        (ofFields fields).typeOf? n ≠ some .boolean := by
  rw [ofFields, typeOf?_finish, mem_required_finish, mem_required_foldl_add]
  simp [empty]

end Schema

end CommandServer
