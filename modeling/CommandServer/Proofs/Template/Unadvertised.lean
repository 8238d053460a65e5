/-
Arguments under names that the schema does not advertise. Validation and rendering look at arguments
in a spelling of the name of a property and at no others, so that arguments which agree in these, in
their order, come to the same end: the same argument vector, the same error, or the same fault.
-/
import CommandServer.Proofs.Template.Validation
import CommandServer.Proofs.Template.Words
import Mathlib.Data.List.Find

namespace CommandServer

open CommandServer.Template

/-! ## Advertised names -/

namespace Schema

/-- Whether a name is a spelling of the name of a property. -/
def advertises (s : Schema) (n : String) : Bool := (s.get? n).isSome

/-- The arguments in a spelling of the name of a property, in their order. -/
def advertised (s : Schema) (args : Arguments) : List (String × Value) :=
  args.entries.filter fun e => s.advertises e.1

theorem advertises_ofFields_iff {fields : List Field} {n : String} :
    (ofFields fields).advertises n = true ↔ ∃ f ∈ fields, f.normalizedName = normalizeName n := by
  have htype : ((ofFields fields).find? (normalizeName n)).isSome =
      ((ofFields fields).typeOf? (normalizeName n)).isSome := by rw [typeOf?, Option.isSome_map]
  unfold advertises get?
  rw [htype, typeOf?_ofFields, Option.isSome_map, List.find?_isSome]
  simp

variable {words : List (List Token)} {w : List Token} {f : Field} {n : String}

theorem advertises_field (hw : w ∈ words) (hf : .field f ∈ w) :
    (ofWords words).advertises f.name = true :=
  advertises_ofFields_iff.2 ⟨f, mem_fields_of_mem hw hf, rfl⟩

theorem advertises_required (h : n ∈ (ofWords words).required) :
    (ofWords words).advertises n = true := by
  obtain ⟨⟨f, hf, -, rfl⟩, -⟩ := mem_required_ofFields.1 h
  exact advertises_ofFields_iff.2 ⟨f, hf, (normalizeName_normalizeName f.name).symm⟩

/-- All spellings of a name are advertised together. -/
theorem advertises_of_mem_spellings {s : Schema} {k : String} (h : k ∈ Arguments.spellings n) :
    s.advertises k = s.advertises n := by
  unfold advertises get?
  rw [Arguments.normalizeName_of_mem_spellings h]

end Schema

/-! ## What is looked up -/

theorem lookup_filter {α : Type} {p : String → Bool} {k : String} (hk : p k = true)
    (es : List (String × α)) : (es.filter fun e => p e.1).lookup k = es.lookup k := by
  induction es with
  | nil => rfl
  | cons e es ih =>
    obtain ⟨j, v⟩ := e
    rw [List.filter_cons, lookup_cons_ite]
    by_cases hj : k = j
    · rw [← hj, if_pos hk, lookup_cons_ite]
      simp
    · rw [if_neg hj, ← ih]
      split
      · rw [lookup_cons_ite, if_neg hj]
      · rfl

namespace Template

section Agreeing

variable {s : Schema} {args args' : Arguments} (h : s.advertised args = s.advertised args')
include h

theorem get?_of_advertised {k : String} (hk : s.advertises k = true) :
    args.get? k = args'.get? k :=
  calc args.get? k = (s.advertised args).lookup k := (lookup_filter hk _).symm
    _ = (s.advertised args').lookup k := by rw [h]
    _ = args'.get? k := lookup_filter hk _

/-- An advertised name finds the same value. -/
theorem lookup?_of_advertised {n : String} (hn : s.advertises n = true) :
    args.lookup? n = args'.lookup? n := by
  have hget : ∀ k ∈ Arguments.spellings n, args.get? k = args'.get? k := fun k hk =>
    get?_of_advertised h ((Schema.advertises_of_mem_spellings hk).trans hn)
  unfold Arguments.lookup?
  generalize Arguments.spellings n = ks at hget
  induction ks with
  | nil => rfl
  | cons k ks ih =>
    rw [List.findSome?_cons, List.findSome?_cons, hget k List.mem_cons_self,
      ih fun j hj => hget j (List.mem_cons_of_mem _ hj)]

/-- The first mistyped argument is the same: one that is not advertised has no type to miss. -/
theorem mistyped?_of_advertised : mistyped? s args = mistyped? s args' := by
  have hfilter : ∀ args : Arguments, mistyped? s args =
      (s.advertised args).find? fun e => (s.get? e.1).any (·.type == .array) && e.2.items?.isNone := by
    intro args
    unfold mistyped? Schema.advertised Schema.advertises
    rw [List.find?_filter]
    refine List.find?_congr fun e _ => ?_
    cases s.get? e.1 with
    | none => rfl
    | some p => simp only [Option.isSome_some, true_and, Bool.decide_eq_true]
  rw [hfilter args, hfilter args', h]

end Agreeing

/-! ## What is rendered -/

section Words

variable {stack : Stack} {args args' : Arguments} {tokens : List Token}
  (h : ∀ f, .field f ∈ tokens → args.lookup? f.name = args'.lookup? f.name)
include h

theorem vanishes_congr : vanishes args tokens = vanishes args' tokens := by
  induction tokens with
  | nil => rfl
  | cons t ts ih =>
    have hts := ih fun f hf => h f (List.mem_cons_of_mem _ hf)
    unfold vanishes at hts ⊢
    rw [List.all_cons, List.all_cons, hts]
    cases t with
    | text s => rfl
    | field f =>
      dsimp only
      rw [h f List.mem_cons_self]

theorem joined_congr : joined stack args tokens = joined stack args' tokens := by
  have htext : tokens.mapM (tokenText stack args) = tokens.mapM (tokenText stack args') := by
    refine mapM_congr fun t ht => ?_
    cases t with
    | text s => rfl
    | field f =>
      show fieldText stack args f = fieldText stack args' f
      unfold fieldText
      rw [h f ht]
  unfold joined
  rw [htext]

/-- A word sees of the arguments what its fields find. -/
theorem renderWord_congr : renderWord stack args tokens = renderWord stack args' tokens := by
  unfold renderWord
  rw [vanishes_congr h]
  split
  · rfl
  · split
    · next f _ =>
      rw [joined_congr h, h f List.mem_cons_self]
    · exact joined_congr h

end Words

variable {t : Template} {args args' : Arguments}

theorem validate_of_advertised (h : t.schema.advertised args = t.schema.advertised args') :
    validate t.schema args = validate t.schema args' := by
  have hmissing : missingName? t.schema args = missingName? t.schema args' := by
    refine List.find?_congr fun n hn => ?_
    rw [lookup?_of_advertised h (Schema.advertises_required hn)]
  unfold validate
  rw [hmissing, mistyped?_of_advertised h]

/-- Arguments that agree in all that the schema advertises are rendered in the same way, or fail in
the same way. -/
theorem render_of_advertised (h : t.schema.advertised args = t.schema.advertised args')
    (stack : Stack) : t.render stack args = t.render stack args' := by
  have hwords : t.words.mapM (renderWord stack args) = t.words.mapM (renderWord stack args') := by
    refine mapM_congr fun w hw => renderWord_congr fun f hf => ?_
    exact lookup?_of_advertised h (Schema.advertises_field hw hf)
  unfold render
  rw [validate_of_advertised h, hwords]

/-- The name in its normalized spelling, behind a name that is not advertised and before one. -/
def behindOther : Arguments := .ofPairs [("other", .null), ("my_name", .text "x")]

def beforeOther : Arguments := .ofPairs [("my_name", .text "x"), ("name", .bool true)]

theorem render_of_advertised_dash :
    dashed.schema.advertised behindOther = dashed.schema.advertised beforeOther ∧
      ∀ stack : Stack, dashed.render stack behindOther = dashed.render stack beforeOther := by
  have agree : dashed.schema.advertised behindOther = dashed.schema.advertised beforeOther := by
    have hadvertises : ["other", "my_name", "name"].map dashed.schema.advertises =
        [false, true, false] := by cbv
    simp only [List.map_cons, List.map_nil, List.cons.injEq, and_true] at hadvertises
    obtain ⟨hother, hmy, hname⟩ := hadvertises
    simp [behindOther, beforeOther, Schema.advertised, OrderedMap.ofPairs, OrderedMap.putAll,
      OrderedMap.put, OrderedMap.empty, putEntry, hother, hmy, hname]
  exact ⟨agree, render_of_advertised agree⟩

end Template

end CommandServer
