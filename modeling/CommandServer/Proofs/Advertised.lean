/-
The schema as clients read it. The types that it declares and the names that it requires can be read
off its data, since no two properties have one name. Arguments conform to an advertised schema when
a client could have made them by it alone.
-/
import CommandServer.Proofs.Schema

namespace CommandServer

open CommandServer.Template

/-! ## Records -/

theorem putEntry_of_notMem {α : Type} {k : String} {es : List (String × α)}
    (h : k ∉ es.map Prod.fst) (v : α) : putEntry k v es = es ++ [(k, v)] := by
  induction es with
  | nil => rfl
  | cons e es ih =>
    rw [List.map_cons, List.mem_cons, not_or] at h
    rw [putEntry, if_neg (fun heq => h.1 heq.symm), ih h.2, List.cons_append]

theorem foldl_putEntry_of_nodup {α : Type} {es pairs : List (String × α)}
    (h : ((es ++ pairs).map Prod.fst).Nodup) :
    pairs.foldl (fun es p => putEntry p.1 p.2 es) es = es ++ pairs := by
  induction pairs generalizing es with
  | nil => rw [List.foldl_nil, List.append_nil]
  | cons p pairs ih =>
    have hp : p.1 ∉ es.map Prod.fst := by
      rw [List.map_append, List.nodup_append] at h
      intro hmem
      exact h.2.2 _ hmem _ (List.mem_map_of_mem (List.mem_cons_self ..)) rfl
    have happ : es ++ [p] ++ pairs = es ++ p :: pairs := by
      rw [List.append_assoc, List.singleton_append]
    rw [List.foldl_cons, putEntry_of_notMem hp, ih (happ ▸ h), happ]

theorem entriesOfPairs_of_nodup {α : Type} {pairs : List (String × α)}
    (h : (pairs.map Prod.fst).Nodup) : entriesOfPairs pairs = pairs :=
  foldl_putEntry_of_nodup h

namespace Value

/-- The value of a record under a name. -/
def get? : Value → String → Option Value
  | .record entries, name => entries.lookup name
  | _, _ => none

def text? : Value → Option String
  | .text s => some s
  | _ => none

theorem get?_ofPairs {pairs : List (String × Value)} (h : (pairs.map Prod.fst).Nodup)
    (name : String) : (ofPairs pairs).get? name = pairs.lookup name := by
  rw [ofPairs, entriesOfPairs_of_nodup h]
  rfl

/-- A value of the type of a property. -/
inductive HasType : Value → PropertyType → Prop
  | text (s : String) : HasType (.text s) .string
  | array {v : Value} (ss : List String) (h : v.items? = some (ss.map .text)) : HasType v .array
  | bool (b : Bool) : HasType (.bool b) .boolean

end Value

/-! ## Names of properties -/

namespace Schema

def names (s : Schema) : List String := s.properties.map (·.name)

theorem names_add (s : Schema) (f : Field) :
    (s.add f).names =
      if f.normalizedName ∈ s.names then s.names else s.names ++ [f.normalizedName] :=
  map_mergeProperty name_describe f.property s.properties

theorem nodup_names_add {s : Schema} (h : s.names.Nodup) (f : Field) : (s.add f).names.Nodup := by
  rw [names_add]
  split
  · exact h
  · next hq =>
    refine List.nodup_append.2 ⟨h, by simp, ?_⟩
    rintro n hn m hm rfl
    exact hq (List.mem_singleton.1 hm ▸ hn)

theorem nodup_names_foldl_add (fields : List Field) {s : Schema} (h : s.names.Nodup) :
    (fields.foldl add s).names.Nodup := by
  induction fields generalizing s with
  | nil => exact h
  | cons f fields ih => exact ih (nodup_names_add h f)

@[simp] theorem names_finish (s : Schema) : s.finish.names = s.names :=
  map_properties_finish name_describe s

/-- No two properties have one name. -/
theorem nodup_names_ofFields (fields : List Field) : (ofFields fields).names.Nodup := by
  rw [ofFields, names_finish]
  exact nodup_names_foldl_add fields List.nodup_nil

end Schema

/-! ## What clients read -/

/-- The type that an advertised schema declares for a name. -/
def declaredType? (schema : Value) (name : String) : Option String :=
  (((schema.get? "properties").bind (·.get? name)).bind (·.get? "type")).bind Value.text?

/-- The names that an advertised schema requires. -/
def requiredNames (schema : Value) : List String :=
  (((schema.get? "required").bind Value.items?).getD []).filterMap Value.text?

/-- Arguments made by an advertised schema: each stands under a declared name, exactly as the schema
spells it, with a value of the declared type, and no required name is left out. -/
structure Conforms (schema : Value) (args : Arguments) : Prop where
  declared : ∀ k v, (k, v) ∈ args.entries →
    ∃ type : PropertyType, declaredType? schema k = some type.name ∧ v.HasType type
  supplied : ∀ n ∈ requiredNames schema, (args.get? n).isSome = true

theorem PropertyType.name_injective {t t' : PropertyType} (h : t.name = t'.name) : t = t' := by
  cases t <;> cases t' <;> first | rfl | exact absurd h (by decide)

namespace Schema

theorem get?_toValue (s : Schema) :
    s.toValue.get? "properties" =
        some (.ofPairs (s.properties.map fun p => (p.name, propertyRecord p))) ∧
      s.toValue.get? "required" =
        if s.required.isEmpty then none else some (.list (s.required.map .text)) := by
  unfold toValue
  split
  · rw [Value.get?_ofPairs (by simp), Value.get?_ofPairs (by simp)]
    exact ⟨rfl, rfl⟩
  · rw [Value.get?_ofPairs (by simp), Value.get?_ofPairs (by simp)]
    exact ⟨rfl, rfl⟩

theorem get?_propertyRecord (p : Property) :
    (propertyRecord p).get? "type" = some (.text p.type.name) := by
  unfold propertyRecord
  rw [Value.get?_ofPairs]
  · rfl
  · split <;> split <;> simp

theorem lookup_propertyRecord (ps : List Property) (n : String) :
    (ps.map fun p => (p.name, propertyRecord p)).lookup n =
      (ps.find? (·.name == n)).map propertyRecord := by
  induction ps with
  | nil => rfl
  | cons p ps ih =>
    rw [List.map_cons, lookup_cons_ite, List.find?_cons, ih]
    by_cases h : n = p.name
    · simp [h]
    · have hb : (p.name == n) = false := beq_eq_false_iff_ne.2 (Ne.symm h)
      rw [if_neg h, hb]

theorem declaredType?_toValue {s : Schema} (h : s.names.Nodup) (n : String) :
    declaredType? s.toValue n = (s.typeOf? n).map PropertyType.name := by
  have hnd : ((s.properties.map fun p => (p.name, propertyRecord p)).map Prod.fst).Nodup := by
    rw [List.map_map]
    exact h
  unfold declaredType?
  rw [(get?_toValue s).1, Option.bind_some, Value.get?_ofPairs hnd, lookup_propertyRecord]
  unfold typeOf? find?
  cases s.properties.find? (·.name == n) with
  | none => rfl
  | some p =>
    rw [Option.map_some, Option.bind_some, get?_propertyRecord]
    rfl

theorem requiredNames_toValue (s : Schema) : requiredNames s.toValue = s.required := by
  unfold requiredNames
  rw [(get?_toValue s).2]
  cases hr : s.required with
  | nil => rfl
  | cons n ns =>
    simp [Value.items?, Value.text?, List.filterMap_map, Function.comp_def]

/-- Conforming to the advertised form of a schema is conforming to the schema. -/
theorem conforms_toValue_iff {s : Schema} (h : s.names.Nodup) {args : Arguments} :
    Conforms s.toValue args ↔
      (∀ k v, (k, v) ∈ args.entries → ∃ type, s.typeOf? k = some type ∧ v.HasType type) ∧
        ∀ n ∈ s.required, (args.get? n).isSome = true := by
  have htype : ∀ k (type : PropertyType), declaredType? s.toValue k = some type.name ↔
      s.typeOf? k = some type := by
    intro k type
    rw [declaredType?_toValue h, Option.map_eq_some_iff]
    constructor
    · rintro ⟨t, ht, hname⟩
      rw [ht, PropertyType.name_injective hname]
    · exact fun ht => ⟨type, ht, rfl⟩
  constructor
  · rintro ⟨hd, hs⟩
    rw [requiredNames_toValue] at hs
    refine ⟨fun k v hkv => ?_, hs⟩
    obtain ⟨type, ht, hv⟩ := hd k v hkv
    exact ⟨type, (htype k type).1 ht, hv⟩
  · rintro ⟨hd, hs⟩
    refine ⟨fun k v hkv => ?_, by rwa [requiredNames_toValue]⟩
    obtain ⟨type, ht, hv⟩ := hd k v hkv
    exact ⟨type, (htype k type).2 ht, hv⟩

end Schema

end CommandServer
