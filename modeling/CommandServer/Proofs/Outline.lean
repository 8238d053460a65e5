/-
The outline of a schema: the names and types of its properties, in their order. Together with the
required names it is all that validation sees, and it does not depend on the descriptions of the
fields that the schema was made of.
-/
import CommandServer.Proofs.Template.Validation

namespace CommandServer

open CommandServer.Template

namespace Schema

/-- The names of the properties and their types. -/
def outline (s : Schema) : List (String × PropertyType) := s.properties.map fun p => (p.name, p.type)

/-- Two schemas with the same outline that require the same names. -/
structure Agrees (s s' : Schema) : Prop where
  outline : s.outline = s'.outline
  required : s.required = s'.required

theorem typeOf?_eq_find?_outline (s : Schema) (n : String) :
    s.typeOf? n = (s.outline.find? (·.1 == n)).map Prod.snd := by
  unfold typeOf? find? outline
  rw [List.find?_map, Option.map_map]
  rfl

theorem outline_add (s : Schema) (f : Field) :
    (s.add f).outline =
      if f.normalizedName ∈ s.outline.map Prod.fst then s.outline
      else s.outline ++ [(f.normalizedName, f.propertyType)] := by
  have hnames : s.outline.map Prod.fst = s.properties.map (·.name) := by
    rw [outline, List.map_map]
    rfl
  rw [hnames]
  exact map_mergeProperty (fun d p => by rw [name_describe, type_describe]) f.property s.properties

@[simp] theorem outline_finish (s : Schema) : s.finish.outline = s.outline :=
  map_properties_finish (fun d p => by rw [name_describe, type_describe]) s

namespace Agrees

variable {s s' : Schema}

theorem typeOf? (h : Agrees s s') (n : String) : s.typeOf? n = s'.typeOf? n := by
  rw [typeOf?_eq_find?_outline, typeOf?_eq_find?_outline, h.outline]

theorem any_find? (h : Agrees s s') (type : PropertyType) (n : String) :
    (s.find? n).any (·.type == type) = (s'.find? n).any (·.type == type) := by
  rw [Bool.eq_iff_iff, ← typeOf?_eq_some_iff, ← typeOf?_eq_some_iff, h.typeOf?]

/-- Fields that differ in their descriptions, their spellings and the brackets around an array change
schemas in the same way. -/
theorem add (h : Agrees s s') {f g : Field} (hname : f.normalizedName = g.normalizedName)
    (htype : f.propertyType = g.propertyType) (hdemands : f.demands = g.demands) :
    Agrees (s.add f) (s'.add g) where
  outline := by rw [outline_add, outline_add, h.outline, hname, htype]
  required := by
    unfold Schema.add
    dsimp only
    rw [h.required, hname, hdemands]

theorem foldl_add {g : Field → Field} (hname : ∀ f, (g f).normalizedName = f.normalizedName)
    (htype : ∀ f, (g f).propertyType = f.propertyType) (hdemands : ∀ f, (g f).demands = f.demands)
    (fields : List Field) (h : Agrees s s') :
    Agrees ((fields.map g).foldl Schema.add s) (fields.foldl Schema.add s') := by
  induction fields generalizing s s' with
  | nil => exact h
  | cons f fields ih => exact ih (h.add (hname f) (htype f) (hdemands f))

theorem finish (h : Agrees s s') : Agrees s.finish s'.finish where
  outline := by rw [outline_finish, outline_finish, h.outline]
  required := by
    unfold Schema.finish
    dsimp only
    rw [h.required]
    exact List.filter_congr fun n _ => by rw [h.any_find?]

/-- Validation sees no more of a schema than its outline and the names that it requires. -/
theorem validate (h : Agrees s s') (args : Arguments) : validate s args = validate s' args := by
  have hmissing : missingName? s args = missingName? s' args := by
    rw [missingName?, missingName?, h.required]
  have hmistyped : mistyped? s args = mistyped? s' args := by
    unfold mistyped? Schema.get?
    simp only [h.any_find?]
  rw [Template.validate, Template.validate, hmissing, hmistyped]

end Agrees

theorem agrees_ofFields {g : Field → Field} (hname : ∀ f, (g f).normalizedName = f.normalizedName)
    (htype : ∀ f, (g f).propertyType = f.propertyType) (hdemands : ∀ f, (g f).demands = f.demands)
    (fields : List Field) : Agrees (ofFields (fields.map g)) (ofFields fields) :=
  (Agrees.foldl_add hname htype hdemands fields ⟨rfl, rfl⟩).finish

end Schema

end CommandServer
