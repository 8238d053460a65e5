/-
What the fields of required names find. Validation looks a required name up in its normalized form;
rendering looks it up as each field writes it. The two differ only for a name that is not normalized:
a value under the name as it is written comes first, and if this value is null, the field is rendered
from it although another spelling of the name is supplied.
-/
import CommandServer.Proofs.Template.Validation

namespace CommandServer

open CommandServer.Template

namespace Arguments

variable {args : Arguments} {n : String}

/-- When the normalized form of a name is supplied, the name is supplied unless there is a null under
the name as it is written. -/
theorem isSupplied_lookup?_iff (h : isSupplied (args.lookup? (normalizeName n)) = true) :
    isSupplied (args.lookup? n) = true ↔ args.get? n ≠ some .null := by
  rw [lookup?_eq_or]
  cases hn : args.get? n with
  | none => simp [h]
  | some v => cases v <;> simp [isSupplied]

end Arguments

namespace Template

theorem Field.propertyType_eq_array_iff {f : Field} : f.propertyType = .array ↔ f.isArray = true := by
  unfold Field.propertyType Field.isArray
  cases f.kind <;> simp

/-- Where no field is an array, validation asks for required names only. -/
theorem accepted_of_isArray_eq_false {words : List (List Token)} {args : Arguments}
    (h : ∀ w ∈ words, ∀ f, .field f ∈ w → f.isArray = false)
    (hs : ∀ n ∈ (Schema.ofWords words).required, isSupplied (args.lookup? n) = true) :
    Accepted (.ofWords words) args where
  supplied := hs
  arrays k v _ ht := by
    rw [Schema.ofWords, Schema.typeOf?_ofFields, Option.map_eq_some_iff] at ht
    obtain ⟨f, hf, htype⟩ := ht
    obtain ⟨t, ht, hfield⟩ := List.mem_filterMap.1 (List.mem_of_find?_eq_some hf)
    obtain ⟨w, hw, ht⟩ := List.mem_flatten.1 ht
    cases t with
    | text s => cases hfield
    | field g =>
      cases hfield
      exact absurd (Field.propertyType_eq_array_iff.1 htype) (Bool.eq_false_iff.1 (h w hw f ht))

/-- Whenever rendering succeeds, a field whose name is required finds a value. The value is not null,
but for one case: the field writes its name with a dash, and there is a null under this spelling. -/
theorem isSupplied_of_render {stack : Stack} {t : Template} {args : Arguments}
    {out : List String} (rendered : t.render stack args = .ok out) :
    ∀ w ∈ t.words, ∀ f, .field f ∈ w → f.normalizedName ∈ t.schema.required →
      (args.lookup? f.name).isSome = true ∧
        (isSupplied (args.lookup? f.name) = true ↔ args.get? f.name ≠ some .null) ∧
        (args.get? f.name = some .null → f.name ≠ f.normalizedName) := by
  intro w _ f _ hreq
  have hsupplied := (render_eq_ok_iff.1 rendered).1.supplied _ hreq
  refine ⟨Arguments.isSome_lookup?_of_normalizeName (isSome_of_isSupplied hsupplied),
    Arguments.isSupplied_lookup?_iff hsupplied, fun hnull heq => ?_⟩
  -- a null under the normalized name would have been found by validation
  rw [← heq, Arguments.lookup?_eq_or, hnull] at hsupplied
  cases hsupplied

/-- A value in the spelling with a dash. -/
def dashedArguments : Arguments := .ofPairs [("my-name", .text "x")]

theorem isSupplied_of_render_dash :
    dashed.render .usual dashedArguments = .ok ["echo", "x"] ∧
      (dashedArguments.lookup? "my-name").isSome = true ∧
      isSupplied (dashedArguments.lookup? "my-name") = true := by
  have rendered : dashed.render .usual dashedArguments = .ok ["echo", "x"] := by
    refine render_eq_ok_iff.2 ⟨accepted_of_isArray_eq_false ?_ (by decide +kernel), [["x"]],
      by decide +kernel, rfl⟩
    simp [dashed, Field.isArray]
  obtain ⟨hsome, hsupplied, -⟩ := isSupplied_of_render rendered
    _ (List.mem_singleton_self _) _ (List.mem_singleton_self _) (by decide +kernel)
  exact ⟨rendered, hsome, hsupplied.2 fun h => nomatch h⟩

/-- The name supplied in its normalized form, and null in the spelling of the field. -/
def nullSpelling : Arguments := .ofPairs [("my_name", .text "x"), ("my-name", .null)]

/-- A field is rendered from the null under its own spelling, when validation has found a value under
another. -/
theorem render_of_null_spelling :
    ofArguments ["echo", "\x7b\x7bmy-name\x7d\x7d"] = .ok dashed ∧
      dashed.render .usual nullSpelling = .ok ["echo", ""] ∧
      "my_name" ∈ dashed.schema.required ∧ nullSpelling.lookup? "my-name" = some .null := by
  refine ⟨?_, ?_, by decide +kernel, rfl⟩
  · exact ofArguments_eq_ok_iff.2 ⟨["\x7b\x7bmy-name\x7d\x7d"], rfl, by decide, by decide +kernel⟩
  · refine render_eq_ok_iff.2 ⟨accepted_of_isArray_eq_false ?_ (by decide +kernel), [[""]],
      by decide +kernel, rfl⟩
    simp [dashed, Field.isArray]

end Template

end CommandServer
