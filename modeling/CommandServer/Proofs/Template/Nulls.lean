/-
Null against absent. For arguments under the names of properties it makes no difference whether a
value is null or missing: validation counts both as missing, and so does every word, but for one
shape. A scalar between double braces that is a word of its own contributes an empty argument for a
null and nothing for a missing value; this is seen only when its name belongs to a switch, since
validation asks for a value of any other name that stands between double braces.
-/
import CommandServer.Proofs.Merge
import CommandServer.Proofs.Template.Refusal
import CommandServer.Proofs.Template.Words
import Mathlib.Data.List.Basic
import Mathlib.Data.List.Find

namespace CommandServer

open CommandServer.Template

/-! ## Arguments without the nulls -/

def Value.isNull : Value → Bool
  | .null => true
  | _ => false

theorem filter_isNull_cases (v : Option Value) :
    v = some .null ∧ v.filter (!·.isNull) = none ∨
      v ≠ some .null ∧ v.filter (!·.isNull) = v := by
  cases v with
  | none => exact .inr ⟨nofun, rfl⟩
  | some v =>
    cases v with
    | null => exact .inl ⟨rfl, rfl⟩
    | _ => exact .inr ⟨nofun, rfl⟩

namespace Arguments

/-- The arguments that are not null. -/
def withoutNulls (args : Arguments) : Arguments := args.filter fun _ v => !v.isNull

variable {args : Arguments}

theorem get?_withoutNulls (args : Arguments) (k : String) :
    args.withoutNulls.get? k = (args.get? k).filter (!·.isNull) :=
  OrderedMap.get?_filter args (fun _ v => !v.isNull) k

/-- With normalized names only, no other spelling comes to light when a null is left out. -/
theorem lookup?_withoutNulls (h : ∀ k v, args.get? k = some v → normalizeName k = k) (n : String) :
    args.withoutNulls.lookup? n = (args.lookup? n).filter (!·.isNull) := by
  have h' : ∀ k v, args.withoutNulls.get? k = some v → normalizeName k = k := by
    intro k v hv
    rw [get?_withoutNulls] at hv
    exact h k v (Option.filter_eq_some_iff.1 hv).1
  rw [lookup?_of_normalized h, lookup?_of_normalized h', get?_withoutNulls]

end Arguments

/-! ## Names of the schema -/

namespace Schema

variable {words : List (List Token)} {n : String}

theorem normalizeName_of_mem_names (h : n ∈ (ofWords words).names) : normalizeName n = n := by
  obtain ⟨p, hp, rfl⟩ := List.mem_map.1 h
  have hfind : ((ofWords words).find? p.name).isSome = true :=
    List.find?_isSome.2 ⟨p, hp, beq_self_eq_true _⟩
  obtain ⟨q, hq⟩ := Option.isSome_iff_exists.1 hfind
  have htype : (ofWords words).typeOf? p.name = some q.type := by rw [typeOf?, hq, Option.map_some]
  exact normalizeName_of_typeOf? htype

theorem mem_required_of_typeOf? (h : (ofWords words).typeOf? n = some .array) :
    n ∈ (ofWords words).required := by
  obtain ⟨p, hp, htype⟩ := Option.map_eq_some_iff.1 h
  have hname : p.name = n := by simpa using List.find?_some hp
  have hmem : p ∈ (ofWords words).properties := List.mem_of_find?_eq_some hp
  rw [ofWords, ofFields_eq_merged] at hmem ⊢
  rw [← hname]
  exact mem_required_of_array hmem htype

end Schema

namespace Template

/-! ## Words -/

section Words

theorem any_filter_isNull {p : Value → Bool} (hp : p .null = false) (v : Option Value) :
    (v.filter (!·.isNull)).any p = v.any p := by
  rcases filter_isNull_cases v with ⟨rfl, hf⟩ | ⟨-, hf⟩
  · rw [hf, Option.any_some, hp, Option.any_none]
  · rw [hf]

/-- A scalar between double braces that is a word of its own and is given null. -/
def IsNullScalar (args : Arguments) (tokens : List Token) : Prop :=
  ∃ f, tokens = [.field f] ∧ f.kind = .scalar true ∧ args.lookup? f.name = some .null

variable {stack : Stack} {args args' : Arguments}
  (h : ∀ n, args'.lookup? n = (args.lookup? n).filter (!·.isNull))
include h

theorem vanishes_withoutNulls (tokens : List Token) :
    vanishes args' tokens = vanishes args tokens := by
  unfold vanishes
  congr 1
  funext t
  cases t with
  | text s => rfl
  | field f =>
    dsimp only
    rw [h, any_filter_isNull rfl]

theorem fieldText_withoutNulls (f : Field) :
    fieldText stack args' f = fieldText stack args f := by
  have hvalue : (args'.lookup? f.name).getD .null = (args.lookup? f.name).getD .null := by
    rw [h]
    rcases filter_isNull_cases (args.lookup? f.name) with ⟨hv, hf⟩ | ⟨-, hf⟩
    · rw [hf, hv]
      rfl
    · rw [hf]
  unfold fieldText
  cases f.kind with
  | switch dashes => dsimp only; rw [h, any_filter_isNull rfl]
  | array required => dsimp only; rw [hvalue]
  | scalar required => dsimp only; rw [hvalue]

theorem joined_withoutNulls (tokens : List Token) :
    joined stack args' tokens = joined stack args tokens := by
  have htexts : tokens.mapM (tokenText stack args') = tokens.mapM (tokenText stack args) := by
    refine mapM_congr fun t _ => ?_
    cases t with
    | text s => rfl
    | field f => exact fieldText_withoutNulls h f
  unfold joined
  rw [htexts]

theorem renderWord_field_withoutNulls {f : Field} (hne : ¬IsNullScalar args [.field f]) :
    renderWord stack args' [.field f] = renderWord stack args [.field f] := by
  cases hk : f.kind with
  | switch dashes =>
    rw [renderWord_switch hk, renderWord_switch hk, h, any_filter_isNull rfl]
  | array required =>
    have hspread : spread stack (args'.lookup? f.name) = spread stack (args.lookup? f.name) := by
      rw [h]
      rcases filter_isNull_cases (args.lookup? f.name) with ⟨hv, hf⟩ | ⟨-, hf⟩
      · rw [hf, hv]
        rfl
      · rw [hf]
    unfold renderWord
    rw [vanishes_withoutNulls h]
    simp only [hk, hspread]
  | scalar required =>
    rw [renderWord_scalar hk, renderWord_scalar hk, h]
    rcases filter_isNull_cases (args.lookup? f.name) with ⟨hv, hf⟩ | ⟨-, hf⟩
    · cases required with
      | true => exact absurd ⟨f, rfl, hk, hv⟩ hne
      | false =>
        rw [hf, hv]
        rfl
    · rw [hf]

/-- A word that is no scalar between double braces does not tell a null from a missing value. -/
theorem renderWord_withoutNulls {tokens : List Token} (hne : ¬IsNullScalar args tokens) :
    renderWord stack args' tokens = renderWord stack args tokens := by
  by_cases hsingle : ∃ f, tokens = [.field f]
  · obtain ⟨f, rfl⟩ := hsingle
    exact renderWord_field_withoutNulls h hne
  · have hno : ∀ f, tokens ≠ [.field f] := fun f hf => hsingle ⟨f, hf⟩
    exact renderWord_eq_of_not_single hno hno (vanishes_withoutNulls h tokens)
      (joined_withoutNulls h tokens)

/-- A scalar between double braces does: a null gives it an empty argument. -/
theorem renderWord_null {tokens : List Token} (hnull : IsNullScalar args tokens) :
    renderWord stack args tokens = .ok [""] ∧ renderWord stack args' tokens = .ok [] := by
  obtain ⟨f, rfl, hk, hv⟩ := hnull
  rw [renderWord_scalar hk, renderWord_scalar hk, h, hv]
  simp [Value.isNull, Option.filter, bind, Except.bind, pure, Except.pure]

/-- A word that cannot be written is no such scalar, so that the words fail alike. -/
theorem mapM_withoutNulls_of_error {words : List (List Token)} {fault : Fault}
    (hwords : words.mapM (renderWord stack args) = .error fault) :
    words.mapM (renderWord stack args') = .error fault := by
  obtain ⟨before, w, after, rfl, hw, hbefore⟩ := mapM_eq_error_iff_first.1 hwords
  refine mapM_eq_error_iff_first.2 ⟨before, w, after, rfl, ?_, fun v hv => ?_⟩
  · rw [renderWord_withoutNulls h, hw]
    intro hnull
    rw [(renderWord_null h hnull).1] at hw
    cases hw
  · by_cases hnull : IsNullScalar args v
    · exact ⟨[], (renderWord_null h hnull).2⟩
    · rw [renderWord_withoutNulls h hnull]
      exact hbefore v hv

/-- Without the nulls there are never more arguments, and fewer when there is such a scalar. -/
theorem exists_mapM_withoutNulls {words : List (List Token)} {cs : List (List String)}
    (hwords : words.mapM (renderWord stack args) = .ok cs) :
    ∃ cs', words.mapM (renderWord stack args') = .ok cs' ∧
      cs'.flatten.length ≤ cs.flatten.length ∧
      ((∃ w ∈ words, IsNullScalar args w) → cs'.flatten.length < cs.flatten.length) := by
  simp only [mapM_eq_ok_iff] at hwords ⊢
  induction hwords with
  | nil => exact ⟨[], .nil, Nat.le_refl _, by simp⟩
  | @cons w c words cs hc _ ih =>
    obtain ⟨cs', hcs', hle, hlt⟩ := ih
    by_cases hnull : IsNullScalar args w
    · obtain ⟨hone, hnone⟩ := renderWord_null h hnull
      cases hone.symm.trans hc
      refine ⟨[] :: cs', .cons hnone hcs', ?_, fun _ => ?_⟩
      · simp only [List.flatten_cons, List.length_append, List.length_nil]
        omega
      · simp only [List.flatten_cons, List.length_append, List.length_nil, List.length_singleton]
        omega
    · refine ⟨c :: cs', .cons ((renderWord_withoutNulls h hnull).trans hc) hcs', ?_, ?_⟩
      · simp only [List.flatten_cons, List.length_append]
        omega
      · rintro ⟨v, hv, hvnull⟩
        rcases List.mem_cons.1 hv with rfl | hv
        · exact absurd hvnull hnull
        · have := hlt ⟨v, hv, hvnull⟩
          simp only [List.flatten_cons, List.length_append]
          omega

end Words

/-! ## Validation -/

section Declared

variable {t : Template} {args : Arguments}

theorem isSupplied_filter_isNull (v : Option Value) :
    isSupplied (v.filter (!·.isNull)) = isSupplied v := by
  rcases filter_isNull_cases v with ⟨rfl, hf⟩ | ⟨-, hf⟩
  · rw [hf]
    rfl
  · rw [hf]

variable (declared : ∀ k ∈ args.keys, k ∈ t.schema.names)
include declared

theorem normalizeName_of_get? {k : String} {v : Value} (h : args.get? k = some v) :
    normalizeName k = k :=
  Schema.normalizeName_of_mem_names
    (declared k (List.mem_map_of_mem (OrderedMap.mem_entries_of_get? h)))

theorem lookup?_withoutNulls_of_declared (n : String) :
    args.withoutNulls.lookup? n = (args.lookup? n).filter (!·.isNull) :=
  Arguments.lookup?_withoutNulls (fun _ _ h => normalizeName_of_get? declared h) n

theorem lookup?_of_declared (n : String) : args.lookup? n = args.get? (normalizeName n) :=
  Arguments.lookup?_of_normalized (fun _ _ h => normalizeName_of_get? declared h) n

theorem missingName?_withoutNulls :
    missingName? t.schema args.withoutNulls = missingName? t.schema args := by
  unfold missingName?
  refine List.find?_congr fun n _ => ?_
  rw [lookup?_withoutNulls_of_declared declared, isSupplied_filter_isNull]

/-- Once all required names are supplied, no null stands for an array. -/
theorem isNull_eq_false_of_array (hsupplied : missingName? t.schema args = none)
    {e : String × Value} (he : e ∈ args.entries)
    (harray : t.schema.typeOf? (normalizeName e.1) = some .array) : e.2.isNull = false := by
  obtain ⟨k, v⟩ := e
  have hget : args.get? k = some v := OrderedMap.get?_of_mem_entries he
  have hk : normalizeName k = k := normalizeName_of_get? declared hget
  rw [hk] at harray
  have hs := missingName?_eq_none_iff.1 hsupplied k (Schema.mem_required_of_typeOf? harray)
  rw [lookup?_of_declared declared, hk, hget] at hs
  cases v with
  | null => cases hs
  | _ => rfl

theorem validate_withoutNulls : validate t.schema args.withoutNulls = validate t.schema args := by
  unfold validate
  rw [missingName?_withoutNulls declared]
  cases hsupplied : missingName? t.schema args with
  | some n => rfl
  | none =>
    have hmistyped : mistyped? t.schema args.withoutNulls = mistyped? t.schema args := by
      unfold mistyped? Arguments.withoutNulls OrderedMap.filter
      rw [List.find?_filter]
      refine List.find?_congr fun e he => ?_
      cases harray : (t.schema.get? e.1).any (·.type == .array) with
      | false => simp
      | true =>
        rw [Schema.get?, ← Schema.typeOf?_eq_some_iff] at harray
        have hnull := isNull_eq_false_of_array declared hsupplied he harray
        simp only [hnull, Bool.not_false, Bool.true_and, true_and, Bool.decide_eq_true]
    rw [hmistyped]

/-- A null gets as far as a scalar between double braces only under the name of a switch. -/
theorem typeOf?_of_null (accepted : Accepted t.schema args) {f : Field} (hw : [.field f] ∈ t.words)
    (hk : f.kind = .scalar true) (hnull : args.get? f.normalizedName = some .null) :
    t.schema.typeOf? f.normalizedName = some .boolean := by
  by_contra htype
  have hdemands : f.demands = true := by rw [Field.demands, hk]
  have hreq := Schema.mem_required_ofWords hw (List.mem_cons_self ..) hdemands htype
  have hsupplied := accepted.supplied _ hreq
  rw [lookup?_of_declared declared, Schema.normalizeName_of_required hreq, hnull] at hsupplied
  cases hsupplied

end Declared

/-! ## Rendering -/

/-- For arguments under the names of properties, leaving out the nulls changes nothing, but for one
shape of a word: when rendering succeeds, and a scalar between double braces that is a word of its
own, under the name of a switch, is given null. -/
theorem render_withoutNulls_iff {stack : Stack} {t : Template} {args : Arguments}
    (declared : ∀ k ∈ args.keys, k ∈ t.schema.names) :
    t.render stack args.withoutNulls = t.render stack args ↔
      ∀ f, [.field f] ∈ t.words → f.kind = .scalar true →
        t.schema.typeOf? f.normalizedName = some .boolean →
          args.get? f.normalizedName = some .null → ∀ out, t.render stack args ≠ .ok out := by
  have hlookup := lookup?_withoutNulls_of_declared declared
  have hvalidate := validate_withoutNulls declared
  cases hrender : t.render stack args with
  | error e =>
    refine iff_of_true ?_ fun _ _ _ _ _ _ => nofun
    cases e with
    | refused e =>
      rw [render_eq_refused_iff] at hrender ⊢
      rw [hvalidate, hrender]
    | fault fault =>
      rw [render_eq_fault_iff] at hrender ⊢
      exact ⟨validate_eq_ok_iff.1 (hvalidate.trans (validate_eq_ok_iff.2 hrender.1)),
        mapM_withoutNulls_of_error hlookup hrender.2⟩
  | ok out =>
    obtain ⟨accepted, cs, hcs, rfl⟩ := render_eq_ok_iff.1 hrender
    have accepted' : Accepted t.schema args.withoutNulls :=
      validate_eq_ok_iff.1 (hvalidate.trans (validate_eq_ok_iff.2 accepted))
    constructor
    · intro heq f hw hk _ hnull
      obtain ⟨-, cs', hcs', hout⟩ := render_eq_ok_iff.1 heq
      obtain ⟨cs₁, hcs₁, -, hlt⟩ := exists_mapM_withoutNulls hlookup hcs
      cases hcs'.symm.trans hcs₁
      have hfewer := hlt ⟨_, hw, f, rfl, hk, (lookup?_of_declared declared _).trans hnull⟩
      rw [List.tail_eq_of_cons_eq hout] at hfewer
      exact absurd hfewer (Nat.lt_irrefl _)
    · intro hno
      refine render_eq_ok_iff.2 ⟨accepted', cs, ?_, rfl⟩
      rw [← hcs]
      refine mapM_congr fun w hw => renderWord_withoutNulls hlookup ?_
      rintro ⟨f, rfl, hk, hfind⟩
      have hnull : args.get? f.normalizedName = some .null :=
        (lookup?_of_declared declared _).symm.trans hfind
      exact hno f hw hk (typeOf?_of_null declared accepted hw hk hnull) hnull _ rfl

/-- A parameter that may be left out, and one that may not. -/
def optionalName : Template :=
  ⟨"echo", [[.field ⟨"name", "", .scalar false⟩], [.field ⟨"text", "", .scalar true⟩]]⟩

/-- The first given as null. -/
def nullName : Arguments := .ofPairs [("name", .null), ("text", .text "x")]

theorem render_withoutNulls_iff_optional :
    (∀ k ∈ nullName.keys, k ∈ optionalName.schema.names) ∧
      ∀ stack : Stack,
        optionalName.render stack nullName.withoutNulls = optionalName.render stack nullName := by
  have declared : ∀ k ∈ nullName.keys, k ∈ optionalName.schema.names := by decide +kernel
  refine ⟨declared, fun stack => (render_withoutNulls_iff declared).2 ?_⟩
  -- the one scalar that must be supplied shares its name with no switch
  intro f hw hk htype
  have hf : f = ⟨"name", "", .scalar false⟩ ∨ f = ⟨"text", "", .scalar true⟩ := by
    simpa [optionalName] using hw
  rcases hf with rfl | rfl
  · cases hk
  · have htext : optionalName.schema.typeOf? (Field.normalizedName ⟨"text", "", .scalar true⟩) =
        some .string := by decide +kernel
    cases htext.symm.trans htype

/-- A switch and a scalar with one name. -/
def nullSwitch : Template :=
  ⟨"x", [[.field ⟨"v", "Enable -v flag", .switch 1⟩], [.field ⟨"v", "", .scalar true⟩]]⟩

/-- A null for a name that belongs to a switch first becomes an empty argument; nothing comes of a
missing value. -/
theorem render_of_null_switch :
    ofArguments ["x", "[-v]", "\x7b\x7bv\x7d\x7d"] = .ok nullSwitch ∧
      OrderedMap.keys (.ofPairs [("v", Value.null)]) = nullSwitch.schema.names ∧
      nullSwitch.render .usual (.ofPairs [("v", .null)]) = .ok ["x", ""] ∧
      nullSwitch.render .usual (Arguments.withoutNulls (.ofPairs [("v", .null)])) = .ok ["x"] := by
  have hscalar : ∀ w ∈ nullSwitch.words, ∀ f, .field f ∈ w → f.isArray = false := by
    simp [nullSwitch, Field.isArray]
  refine ⟨?_, by decide +kernel, ?_, ?_⟩
  · exact ofArguments_eq_ok_iff.2
      ⟨["[-v]", "\x7b\x7bv\x7d\x7d"], rfl, by decide, by decide +kernel⟩
  · exact render_eq_ok_iff.2 ⟨accepted_of_isArray_eq_false hscalar (by decide +kernel),
      [[], [""]], by decide +kernel, rfl⟩
  · exact render_eq_ok_iff.2 ⟨accepted_of_isArray_eq_false hscalar (by decide +kernel),
      [[], []], by decide +kernel, rfl⟩

end Template

end CommandServer
