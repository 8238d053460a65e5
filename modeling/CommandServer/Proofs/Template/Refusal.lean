/-
When rendering is refused, and what for. A required name lacks a value when, of the name and its
spelling with dashes, the first that is present holds null, or neither is present. The first such
name is reported as missing. If there is none, the first argument that stands for an array without
being a list or a tuple is reported as mistyped, and if there is no such argument either, the
rendered arguments are returned. One thing is left that keeps them from being returned and is no
refusal: a value that cannot be written, because it holds an integer of too many digits or lies too
deep.

Validation knows a required name by these two spellings only. A field looks for the spelling in which
it is written first, so a name with both dashes and underscores can be reported as missing although
the field would find its value.
-/
import CommandServer.Proofs.Template.Supplied
import CommandServer.Proofs.Template.Words

namespace CommandServer

open CommandServer.Template

/-! ## First offenders -/

/-- The first entry of a list with a property. -/
def IsFirst {α : Type} (p : α → Prop) (l : List α) (a : α) : Prop :=
  ∃ before after, l = before ++ a :: after ∧ p a ∧ ∀ b ∈ before, ¬p b

theorem find?_eq_some_iff_isFirst {α : Type} {p : α → Prop} {q : α → Bool} {l : List α}
    (h : ∀ a ∈ l, q a = true ↔ p a) (a : α) : l.find? q = some a ↔ IsFirst p l a := by
  rw [List.find?_eq_some_iff_append]
  constructor
  · rintro ⟨hq, before, after, rfl, hbefore⟩
    refine ⟨before, after, rfl, (h a (by simp)).1 hq, fun b hb hp => ?_⟩
    have hqb : q b = true := (h b (by simp [hb])).2 hp
    have hno := hbefore b hb
    rw [hqb] at hno
    cases hno
  · rintro ⟨before, after, rfl, hp, hbefore⟩
    refine ⟨(h a (by simp)).2 hp, before, after, rfl, fun b hb => ?_⟩
    have hqb : q b ≠ true := fun hqb => hbefore b hb ((h b (by simp [hb])).1 hqb)
    simpa using hqb

/-- A list of steps fails with the first of them that does. -/
theorem mapM_eq_error_iff_isFirst {ε α β : Type} {f : α → Except ε β} {as : List α} {e : ε} :
    as.mapM f = .error e ↔ ∃ a, IsFirst (fun a => ∃ e', f a = .error e') as a ∧ f a = .error e := by
  have hok {a : α} : (∃ b, f a = .ok b) ↔ ¬∃ e', f a = .error e' := by
    cases f a <;> simp
  rw [mapM_eq_error_iff_first]
  constructor
  · rintro ⟨before, a, after, has, ha, hbefore⟩
    exact ⟨a, ⟨before, after, has, ⟨e, ha⟩, fun b hb => hok.1 (hbefore b hb)⟩, ha⟩
  · rintro ⟨a, ⟨before, after, has, -, hbefore⟩, ha⟩
    exact ⟨before, a, after, has, ha, fun b hb => hok.2 (hbefore b hb)⟩

/-! ## Names without a value -/

theorem Template.isSupplied_eq_false_iff {v : Option Value} :
    isSupplied v = false ↔ v = none ∨ v = some .null := by
  cases v with
  | none => simp [isSupplied]
  | some v => cases v <;> simp [isSupplied]

namespace Arguments

/-- A name has no value: of the name and the same name with dashes for underscores, the first that is
present holds null, or neither is present. -/
inductive Lacks (args : Arguments) (n : String) : Prop
  | null (h : args.get? n = some .null)
  | dashedNull (h : args.get? n = none) (h' : args.get? (denormalizeName n) = some .null)
  | absent (h : args.get? n = none) (h' : args.get? (denormalizeName n) = none)

variable {args : Arguments} {n : String}

/-- The lookup of a normalized name has only two spellings to try. -/
theorem lookup?_of_normalizeName_eq (hn : normalizeName n = n) :
    args.lookup? n = (args.get? n).or (args.get? (denormalizeName n)) := by
  unfold lookup? spellings
  simp only [hn, List.findSome?_cons, List.findSome?_nil]
  cases args.get? n with
  | some v => rfl
  | none => cases args.get? (denormalizeName n) <;> rfl

theorem lacks_iff (hn : normalizeName n = n) :
    args.Lacks n ↔ isSupplied (args.lookup? n) = false := by
  rw [lookup?_of_normalizeName_eq hn, isSupplied_eq_false_iff]
  constructor
  · rintro (h | ⟨h, h'⟩ | ⟨h, h'⟩)
    · exact .inr (by rw [h, Option.some_or])
    · exact .inr (by rw [h, h', Option.none_or])
    · exact .inl (by rw [h, h', Option.none_or])
  · intro h
    cases hget : args.get? n with
    | some v =>
      rw [hget, Option.some_or] at h
      rcases h with h | h
      · cases h
      · cases h
        exact .null hget
    | none =>
      rw [hget, Option.none_or] at h
      rcases h with h | h
      · exact .absent hget h
      · exact .dashedNull hget h

/-- A value under some spelling of a name that lacks one does not stand under the name itself, and
under the name with dashes only behind a null. -/
theorem Lacks.ne_of_isSupplied {m : String} (h : args.Lacks n)
    (hm : isSupplied (args.get? m) = true) :
    m ≠ n ∧ (m = denormalizeName n → args.get? n = some .null) := by
  constructor
  · rintro rfl
    rcases h with h | ⟨h, -⟩ | ⟨h, -⟩ <;> rw [h] at hm <;> cases hm
  · rintro rfl
    rcases h with h | ⟨-, h⟩ | ⟨-, h⟩
    · exact h
    · rw [h] at hm
      cases hm
    · rw [h] at hm
      cases hm

end Arguments

theorem Schema.normalizeName_of_required {words : List (List Token)} {n : String}
    (h : n ∈ (Schema.ofWords words).required) : normalizeName n = n := by
  obtain ⟨⟨f, -, -, rfl⟩, -⟩ := Schema.mem_required_ofFields.1 h
  exact normalizeName_normalizeName f.name

namespace Template

/-! ## Arguments of the wrong type -/

/-- An argument for an array that is neither a list nor a tuple. -/
structure Mistyped (s : Schema) (e : String × Value) : Prop where
  array : s.typeOf? (normalizeName e.1) = some .array
  notList : ∀ xs, e.2 ≠ .list xs
  notTuple : ∀ xs, e.2 ≠ .tuple xs

theorem isNone_items?_iff {v : Value} :
    v.items?.isNone = true ↔ (∀ xs, v ≠ .list xs) ∧ ∀ xs, v ≠ .tuple xs := by
  cases v <;> simp [Value.items?]

theorem mistyped_iff {s : Schema} {e : String × Value} :
    ((s.get? e.1).any (·.type == .array) && e.2.items?.isNone) = true ↔ Mistyped s e := by
  rw [Bool.and_eq_true, isNone_items?_iff, Schema.get?, ← Schema.typeOf?_eq_some_iff]
  exact ⟨fun ⟨harray, hlist, htuple⟩ => ⟨harray, hlist, htuple⟩,
    fun ⟨harray, hlist, htuple⟩ => ⟨harray, hlist, htuple⟩⟩

theorem mistyped?_eq_some_iff {s : Schema} {args : Arguments} {e : String × Value} :
    mistyped? s args = some e ↔ IsFirst (Mistyped s) args.entries e :=
  find?_eq_some_iff_isFirst (fun _ _ => mistyped_iff) e

theorem mistyped?_eq_none_iff_forall {s : Schema} {args : Arguments} :
    mistyped? s args = none ↔ ∀ e ∈ args.entries, ¬Mistyped s e := by
  unfold mistyped?
  rw [List.find?_eq_none]
  exact forall₂_congr fun e _ => not_congr mistyped_iff

/-! ## What is reported -/

section Reported

variable {stack : Stack} {t : Template} {args : Arguments} {n : String}

theorem missingName?_eq_some_iff :
    missingName? t.schema args = some n ↔ IsFirst args.Lacks t.schema.required n := by
  refine find?_eq_some_iff_isFirst (fun m hm => ?_) n
  rw [Arguments.lacks_iff (Schema.normalizeName_of_required hm), Bool.not_eq_true']

theorem missingName?_eq_none_iff_forall :
    missingName? t.schema args = none ↔ ∀ m ∈ t.schema.required, ¬args.Lacks m := by
  rw [missingName?_eq_none_iff]
  refine forall₂_congr fun m hm => ?_
  rw [Arguments.lacks_iff (Schema.normalizeName_of_required hm), Bool.not_eq_false]

theorem accepted_iff_forall : Accepted t.schema args ↔
    (∀ m ∈ t.schema.required, ¬args.Lacks m) ∧ ∀ e ∈ args.entries, ¬Mistyped t.schema e := by
  rw [← missingName?_eq_none_iff_forall, ← mistyped?_eq_none_iff_forall, missingName?_eq_none_iff,
    mistyped?_eq_none_iff]
  exact ⟨fun ⟨hsupplied, harrays⟩ => ⟨hsupplied, harrays⟩,
    fun ⟨hsupplied, harrays⟩ => ⟨hsupplied, harrays⟩⟩

theorem render_eq_refused_iff {e : RenderError} :
    t.render stack args = .error (.refused e) ↔ validate t.schema args = .error e := by
  unfold render
  cases validate t.schema args with
  | error e' => simp [Except.mapError, bind, Except.bind]
  | ok u =>
    cases t.words.mapM (renderWord stack args) <;>
      simp [Except.mapError, bind, Except.bind, pure, Except.pure]

theorem render_eq_fault_iff {fault : Fault} :
    t.render stack args = .error (.fault fault) ↔
      Accepted t.schema args ∧ t.words.mapM (renderWord stack args) = .error fault := by
  unfold render
  rw [← validate_eq_ok_iff]
  cases validate t.schema args with
  | error e' => simp [Except.mapError, bind, Except.bind]
  | ok u =>
    cases t.words.mapM (renderWord stack args) <;>
      simp [Except.mapError, bind, Except.bind, pure, Except.pure]

theorem render_eq_missing_iff :
    t.render stack args = .error (.refused (.missing n)) ↔
      IsFirst args.Lacks t.schema.required n := by
  rw [render_eq_refused_iff, ← missingName?_eq_some_iff]
  unfold validate
  cases missingName? t.schema args with
  | some m => simp
  | none => cases mistyped? t.schema args <;> simp

theorem render_eq_mistyped_iff {k actual : String} {expected : PropertyType} :
    t.render stack args = .error (.refused (.mistyped k expected actual)) ↔
      (∀ m ∈ t.schema.required, ¬args.Lacks m) ∧ expected = .array ∧
        ∃ v, IsFirst (Mistyped t.schema) args.entries (k, v) ∧ v.HasTypeName actual := by
  rw [render_eq_refused_iff, ← missingName?_eq_none_iff_forall]
  simp only [← mistyped?_eq_some_iff, ← Value.typeName_eq_iff]
  unfold validate
  cases missingName? t.schema args with
  | some m => simp
  | none =>
    cases mistyped? t.schema args with
    | none => simp
    | some e =>
      obtain ⟨k', v⟩ := e
      constructor
      · rintro ⟨⟩
        exact ⟨rfl, rfl, v, rfl, rfl⟩
      · rintro ⟨-, rfl, _, ⟨⟩, rfl⟩
        rfl

/-- A fault of rendering is that of a supplied value which cannot be written. -/
theorem exists_unwritable_of_render {fault : Fault}
    (h : t.render stack args = .error (.fault fault)) :
    ∃ e ∈ args.entries, e.2.Unwritable 3 stack.free fault := by
  obtain ⟨w, -, hw⟩ := mapM_eq_error_iff_isFirst.1 (render_eq_fault_iff.1 h).2
  obtain ⟨f, -, -, v, hv, hfails⟩ := exists_fails_of_renderWord hw
  obtain ⟨k, -, hget⟩ := Arguments.exists_get?_of_lookup? hv
  exact ⟨(k, v), OrderedMap.mem_entries_of_get? hget, hfails.unwritable⟩

end Reported

/-- What comes of arguments: the name that is reported as missing, the argument that is reported as
mistyped, the arguments of the command, or the fault of the first word that cannot be written. -/
structure Verdict (stack : Stack) (t : Template) (args : Arguments)
    (result : Except RenderFailure (List String)) : Prop where
  missing : ∀ n, result = .error (.refused (.missing n)) ↔ IsFirst args.Lacks t.schema.required n
  mistyped : ∀ k expected actual, result = .error (.refused (.mistyped k expected actual)) ↔
    (∀ n ∈ t.schema.required, ¬args.Lacks n) ∧ expected = .array ∧
      ∃ v, IsFirst (Mistyped t.schema) args.entries (k, v) ∧ v.HasTypeName actual
  rendered : ∀ out, result = .ok out ↔
    (∀ n ∈ t.schema.required, ¬args.Lacks n) ∧ (∀ e ∈ args.entries, ¬Mistyped t.schema e) ∧
      ∃ contributions, List.Forall₂ (fun w c => renderWord stack args w = .ok c) t.words
        contributions ∧ out = t.command :: contributions.flatten
  fault : ∀ f, result = .error (.fault f) ↔
    (∀ n ∈ t.schema.required, ¬args.Lacks n) ∧ (∀ e ∈ args.entries, ¬Mistyped t.schema e) ∧
      ∃ w, IsFirst (fun w => ∃ f', renderWord stack args w = .error f') t.words w ∧
        renderWord stack args w = .error f
  unwritable : ∀ f, result = .error (.fault f) →
    ∃ e ∈ args.entries, e.2.Unwritable 3 stack.free f

/-- Rendering is refused for the first offender, a name that lacks a value before an argument of the
wrong type, and for nothing else; what is not refused is rendered, if all values in it can be
written. No arguments at all count as the empty ones. -/
theorem render_refuses_first (stack : Stack) (t : Template) (supplied : Option Arguments) :
    Verdict stack t (supplied.getD .empty) (t.render stack (supplied.getD .empty)) where
  missing _ := render_eq_missing_iff
  mistyped _ _ _ := render_eq_mistyped_iff
  rendered _ := by
    rw [render_eq_ok_iff, accepted_iff_forall, and_assoc]
    simp only [mapM_eq_ok_iff]
  fault _ := by
    rw [render_eq_fault_iff, accepted_iff_forall, and_assoc, mapM_eq_error_iff_isFirst]
  unwritable _ := exists_unwritable_of_render

/-- A command that repeats its one parameter. -/
def parrot : Template := ⟨"echo", [[.field ⟨"x", "", .scalar true⟩]]⟩

theorem ofArguments_parrot : ofArguments ["echo", "\x7b\x7bx\x7d\x7d"] = .ok parrot :=
  ofArguments_eq_ok_iff.2 ⟨["\x7b\x7bx\x7d\x7d"], rfl, by decide, by decide +kernel⟩

theorem render_parrot_of_error {stack : Stack} {v : Value} {fault : Fault}
    (h : v.argumentText stack.free = .error fault) :
    parrot.render stack (.ofPairs [("x", v)]) = .error (.fault fault) := by
  have hlookup : Arguments.lookup? (.ofPairs [("x", v)]) "x" = some v := rfl
  have hrequired : parrot.schema.required = ["x"] := by decide +kernel
  have hne : v ≠ .null := by
    rintro rfl
    rw [Value.argumentText_null] at h
    cases h
  refine render_eq_fault_iff.2 ⟨accepted_of_isArray_eq_false ?_ fun n hn => ?_, ?_⟩
  · simp [parrot, Field.isArray]
  · cases List.mem_singleton.1 (hrequired ▸ hn : n ∈ ["x"])
    rw [hlookup]
    cases v with
    | null => exact absurd rfl hne
    | _ => rfl
  · have hword : renderWord stack (.ofPairs [("x", v)]) [.field ⟨"x", "", .scalar true⟩] =
        .error fault := by
      rw [renderWord_scalar rfl, hlookup]
      simp [Option.filter, h, bind, Except.bind]
    simp [parrot, hword, bind, Except.bind]

/-- Arguments that nothing is wrong with but that they lie too deep, or hold an integer of too many
digits, are neither refused nor rendered. -/
theorem render_of_unwritable :
    ofArguments ["echo", "\x7b\x7bx\x7d\x7d"] = .ok parrot ∧
      parrot.render .usual (.ofPairs [("x", .nest)]) = .error (.fault .tooDeepToWrite) ∧
      ∀ stack : Stack, parrot.render stack (.ofPairs [("x", .longInteger)]) =
        .error (.fault .integerUnwritable) :=
  ⟨ofArguments_parrot, render_parrot_of_error Value.argumentText_nest,
    fun stack => render_parrot_of_error (Value.argumentText_longInteger stack.free)⟩

/-! ## Fields of a missing name -/

theorem isSupplied_or {a b : Option Value} (h : isSupplied b = false) :
    isSupplied (a.or b) = isSupplied a := by
  cases a with
  | none => exact h
  | some v => rfl

/-- When a name is reported as missing, a field with this name finds no value, but for one case: the
value stands under the spelling in which the field is written, and this spelling mixes dashes and
underscores, or has dashes only while there is a null under the normalized name. -/
theorem isSupplied_field_of_missing {t : Template} {args : Arguments} {n : String}
    {stack : Stack} (refused : t.render stack args = .error (.refused (.missing n))) :
    ∀ w ∈ t.words, ∀ f, .field f ∈ w → f.normalizedName = n →
      (isSupplied (args.lookup? f.name) = true ↔
        isSupplied (args.get? f.name) = true ∧ f.name ≠ n ∧
          (f.name = denormalizeName n → args.get? n = some .null)) := by
  intro w _ f _ hname
  obtain ⟨-, -, -, hlacks, -⟩ := render_eq_missing_iff.1 refused
  have hn : normalizeName n = n := by
    rw [← hname, Field.normalizedName, normalizeName_normalizeName]
  -- validation has tried the normalized name and its spelling with dashes
  have hnone : isSupplied (args.lookup? (normalizeName f.name)) = false := by
    rw [← Field.normalizedName, hname]
    exact (Arguments.lacks_iff hn).1 hlacks
  rw [Arguments.lookup?_eq_or, isSupplied_or hnone]
  constructor
  · intro h
    exact ⟨h, hlacks.ne_of_isSupplied h⟩
  · rintro ⟨h, -⟩
    exact h

/-- A null in the normalized spelling, and a value in the spelling of the field. -/
def nullNormalized : Arguments := .ofPairs [("my_name", .null), ("my-name", .text "x")]

theorem isSupplied_field_of_missing_null :
    dashed.render .usual nullNormalized = .error (.refused (.missing "my_name")) ∧
      isSupplied (nullNormalized.lookup? "my-name") = true ∧
      isSupplied (nullNormalized.get? "my-name") = true := by
  have refused : dashed.render .usual nullNormalized = .error (.refused (.missing "my_name")) :=
    render_eq_missing_iff.2 ⟨[], [], by decide +kernel, .null rfl, by simp⟩
  have hfield := isSupplied_field_of_missing refused
    _ (List.mem_singleton_self _) _ (List.mem_singleton_self _) (by decide +kernel)
  have hsupplied : isSupplied (nullNormalized.lookup? "my-name") = true :=
    hfield.2 ⟨rfl, by decide, fun _ => rfl⟩
  exact ⟨refused, hsupplied, (hfield.1 hsupplied).1⟩

/-- A required parameter whose name mixes dashes and underscores. -/
def mixed : Template := ⟨"echo", [[.field ⟨"a-b_c", "", .scalar true⟩]]⟩

/-- A parameter is reported as missing although it is supplied under the very name that is written in
its field. -/
theorem render_of_mixed_spelling :
    ofArguments ["echo", "\x7b\x7ba-b_c\x7d\x7d"] = .ok mixed ∧
      mixed.render .usual (.ofPairs [("a-b_c", .text "x")]) =
        .error (.refused (.missing "a_b_c")) ∧
      Field.normalizedName ⟨"a-b_c", "", .scalar true⟩ = "a_b_c" ∧
      Arguments.lookup? (.ofPairs [("a-b_c", .text "x")]) "a-b_c" = some (.text "x") := by
  refine ⟨?_, ?_, by decide +kernel, rfl⟩
  · exact ofArguments_eq_ok_iff.2 ⟨["\x7b\x7ba-b_c\x7d\x7d"], rfl, by decide, by decide +kernel⟩
  · have hdashes : denormalizeName "a_b_c" = "a-b-c" := by decide +kernel
    refine render_eq_missing_iff.2 ⟨[], [], by decide +kernel, .absent rfl ?_, by simp⟩
    rw [hdashes]
    rfl

end Template

end CommandServer
