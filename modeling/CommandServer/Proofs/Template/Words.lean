/-
What a word contributes to the argument vector, by the shape of its tokens. A text, or a scalar that
must be supplied next to other tokens, makes it one argument; a word that is one field goes by the
kind of the field; only an array that is a word of its own contributes more than one argument. What
cannot be written keeps a word from contributing anything, and nothing else does.
-/
import CommandServer.Proofs.Value
import CommandServer.Template.Render

namespace CommandServer.Template

/-! ## Kinds of fields -/

theorem Field.kind_eq_scalar_true_iff {f : Field} :
    f.kind = .scalar true ↔ f.isRequired = true ∧ f.isArray = false := by
  unfold Field.isRequired Field.isArray
  cases f.kind <;> simp

theorem Field.isArray_iff {f : Field} : f.isArray = true ↔ ∃ required, f.kind = .array required := by
  unfold Field.isArray
  cases f.kind <;> simp

/-! ## Words that stay -/

section Shapes

variable {stack : Stack} {args : Arguments} {tokens : List Token}

/-- A word that is joined contributes one argument. -/
theorem exists_of_joined {out : List String} (h : joined stack args tokens = .ok out) :
    ∃ s, out = [s] := by
  unfold joined at h
  cases hm : tokens.mapM (tokenText stack args) with
  | error e =>
    rw [hm] at h
    cases h
  | ok texts =>
    rw [hm] at h
    exact ⟨_, (Except.ok.inj h).symm⟩

theorem vanishes_of_text {s : String} (h : .text s ∈ tokens) : vanishes args tokens = false :=
  List.all_eq_false.2 ⟨_, h, by simp⟩

theorem vanishes_of_required {f : Field} (h : .field f ∈ tokens) (hf : f.kind = .scalar true) :
    vanishes args tokens = false := by
  obtain ⟨hreq, harr⟩ := Field.kind_eq_scalar_true_iff.1 hf
  exact List.all_eq_false.2 ⟨_, h, by simp [hreq, harr]⟩

theorem renderWord_of_vanishes (h : vanishes args tokens = true) :
    renderWord stack args tokens = .ok [] := by
  unfold renderWord
  rw [h, if_pos rfl]

/-- A word of any other shape than one field is joined, if it does not vanish. -/
theorem renderWord_of_not_single (hv : vanishes args tokens = false)
    (h : ∀ f, tokens ≠ [.field f]) :
    renderWord stack args tokens = joined stack args tokens := by
  unfold renderWord
  rw [hv, if_neg Bool.false_ne_true]
  split
  · next f => exact absurd rfl (h f)
  · rfl

/-- Two such words come to the same when they vanish together and are joined to the same. -/
theorem renderWord_eq_of_not_single {args' : Arguments} {tokens' : List Token}
    (h : ∀ f, tokens ≠ [.field f]) (h' : ∀ f, tokens' ≠ [.field f])
    (hvanishes : vanishes args tokens = vanishes args' tokens')
    (hjoined : joined stack args tokens = joined stack args' tokens') :
    renderWord stack args tokens = renderWord stack args' tokens' := by
  cases hv : vanishes args tokens with
  | true =>
    rw [renderWord_of_vanishes hv, renderWord_of_vanishes (hvanishes ▸ hv)]
  | false =>
    rw [renderWord_of_not_single hv h, renderWord_of_not_single (hvanishes ▸ hv) h', hjoined]

theorem renderWord_of_text {s : String} (h : .text s ∈ tokens) :
    renderWord stack args tokens = joined stack args tokens := by
  refine renderWord_of_not_single (vanishes_of_text h) ?_
  rintro f rfl
  simp at h

theorem renderWord_of_required {f : Field} (hlen : 2 ≤ tokens.length) (h : .field f ∈ tokens)
    (hf : f.kind = .scalar true) :
    renderWord stack args tokens = joined stack args tokens := by
  refine renderWord_of_not_single (vanishes_of_required h hf) ?_
  rintro f' rfl
  simp at hlen

end Shapes

/-! ## Words that are one field -/

section Single

variable {stack : Stack} {args : Arguments} {f : Field}

theorem vanishes_single : vanishes args [.field f] =
    (!(f.isRequired && !f.isArray) && !(args.lookup? f.name).any Value.isMeaningful) := by
  simp [vanishes]

/-- A switch contributes itself when it is turned on. -/
theorem renderWord_switch {dashes : Nat} (h : f.kind = .switch dashes) :
    renderWord stack args [.field f] =
      .ok (if (args.lookup? f.name).any Value.isTrue then [f.switchText] else []) := by
  unfold renderWord
  simp only [vanishes_single, Field.isRequired, h]
  cases args.lookup? f.name with
  | none => simp
  | some v =>
    cases v with
    | bool b => cases b <;> simp [Value.isTrue, Value.isMeaningful]
    | _ => simp [Value.isTrue]

/-- An array contributes one argument for each item. -/
theorem renderWord_array {required : Bool} (h : f.kind = .array required) {v : Value}
    {items : List Value} (hv : args.lookup? f.name = some v) (hi : v.items? = some items) :
    renderWord stack args [.field f] = items.mapM (Value.argumentText stack.free) := by
  unfold renderWord
  simp only [vanishes_single, Field.isArray, h, hv, spread, hi]
  cases v with
  | list xs => cases hi; cases items <;> simp [Value.isMeaningful, Value.isVacant, pure, Except.pure]
  | tuple xs => cases hi; cases items <;> simp [Value.isMeaningful, Value.isVacant, pure, Except.pure]
  | _ => cases hi

/-- A scalar contributes the text of its value: any value if it must be supplied, and otherwise one
that has something to show. -/
theorem renderWord_scalar {required : Bool} (h : f.kind = .scalar required) :
    renderWord stack args [.field f] =
      ((args.lookup? f.name).filter fun v => required || v.isMeaningful).toList.mapM
        (Value.argumentText stack.free) := by
  unfold renderWord
  simp only [vanishes_single, Field.isRequired, Field.isArray, h]
  cases hv : args.lookup? f.name with
  | none => simp [pure, Except.pure]
  | some v =>
    cases required with
    | true =>
      have htext : tokenText stack args (.field f) = v.argumentText stack.free := by
        simp only [tokenText, fieldText, h, hv, Option.getD_some]
      simp only [joined, List.mapM_cons, List.mapM_nil, htext]
      cases hs : v.argumentText stack.free with
      | error e => simp [hs, Option.filter, bind, Except.bind, Except.map]
      | ok s => simp [hs, Option.filter, bind, Except.bind, pure, Except.pure, Except.map]
    | false => cases hm : v.isMeaningful <;> simp [hm, Option.filter, pure, Except.pure]

end Single

/-- Only a word that is one array contributes more than one argument. -/
theorem length_le_one_of_renderWord {stack : Stack} {args : Arguments} {tokens : List Token}
    {out : List String} (rendered : renderWord stack args tokens = .ok out)
    (h : ∀ f, tokens = [.field f] → f.isArray = false) : out.length ≤ 1 := by
  cases hv : vanishes args tokens with
  | true =>
    rw [renderWord_of_vanishes hv] at rendered
    cases rendered
    exact Nat.zero_le 1
  | false =>
    by_cases hs : ∃ f, tokens = [.field f]
    · obtain ⟨f, rfl⟩ := hs
      cases hk : f.kind with
      | switch dashes =>
        rw [renderWord_switch hk] at rendered
        cases rendered
        split <;> simp
      | array required => simp [Field.isArray, hk] at h
      | scalar required =>
        rw [renderWord_scalar hk, mapM_eq_ok_iff] at rendered
        rw [← rendered.length_eq]
        exact Option.length_toList_le
    · rw [renderWord_of_not_single hv fun f hf => hs ⟨f, hf⟩] at rendered
      obtain ⟨s, rfl⟩ := exists_of_joined rendered
      exact Nat.le_refl 1

/-! ## What cannot be written -/

section Failing

variable {stack : Stack} {args : Arguments} {tokens : List Token} {f : Field} {fault : Fault}

theorem exists_fails_of_fieldText (h : fieldText stack args f = .error fault) :
    f.isSwitch = false ∧ ∃ v, args.lookup? f.name = some v ∧ v.Fails stack fault := by
  have hfails (h : ((args.lookup? f.name).getD .null).argumentText stack.free = .error fault) :
      ∃ v, args.lookup? f.name = some v ∧ v.Fails stack fault := by
    cases hv : args.lookup? f.name with
    | none =>
      rw [hv, Option.getD_none, Value.argumentText_null] at h
      cases h
    | some v =>
      rw [hv, Option.getD_some] at h
      exact ⟨v, rfl, .whole h⟩
  unfold fieldText at h
  unfold Field.isSwitch
  cases hk : f.kind with
  | switch dashes =>
    rw [hk] at h
    cases h
  | array required =>
    rw [hk] at h
    exact ⟨rfl, hfails h⟩
  | scalar required =>
    rw [hk] at h
    exact ⟨rfl, hfails h⟩

theorem exists_fails_of_joined (h : joined stack args tokens = .error fault) :
    ∃ f, .field f ∈ tokens ∧ f.isSwitch = false ∧
      ∃ v, args.lookup? f.name = some v ∧ v.Fails stack fault := by
  rw [joined, map_eq_error_iff, mapM_eq_error_iff_first] at h
  obtain ⟨before, t, after, rfl, ht, -⟩ := h
  cases t with
  | text s => cases ht
  | field f => exact ⟨f, by simp, exists_fails_of_fieldText ht⟩

theorem fails_of_spread {v : Value} (h : spread stack (some v) = .error fault) :
    v.Fails stack fault := by
  rw [spread] at h
  split at h
  · cases h
  · obtain ⟨before, x, after, hitems, hx, -⟩ := mapM_eq_error_iff_first.1 h
    have hmem : x ∈ v.items?.getD [v] := by simp [hitems]
    cases hi : v.items? with
    | none =>
      rw [hi, Option.getD_none, List.mem_singleton] at hmem
      exact .whole (hmem ▸ hx)
    | some xs =>
      rw [hi, Option.getD_some] at hmem
      exact .item hi hmem hx

/-- A word that cannot be written has a field that finds a value which cannot be written. -/
theorem exists_fails_of_renderWord (h : renderWord stack args tokens = .error fault) :
    ∃ f, .field f ∈ tokens ∧ f.isSwitch = false ∧
      ∃ v, args.lookup? f.name = some v ∧ v.Fails stack fault := by
  cases hv : vanishes args tokens with
  | true =>
    rw [renderWord_of_vanishes hv] at h
    cases h
  | false =>
    by_cases hs : ∃ f, tokens = [.field f]
    · obtain ⟨f, rfl⟩ := hs
      refine ⟨f, List.mem_cons_self, ?_⟩
      unfold Field.isSwitch
      cases hk : f.kind with
      | switch dashes =>
        rw [renderWord_switch hk] at h
        cases h
      | scalar required =>
        rw [renderWord_scalar hk, mapM_eq_error_iff_first] at h
        obtain ⟨before, v, after, hfound, hfail, -⟩ := h
        have hmem : v ∈ ((args.lookup? f.name).filter fun v => required || v.isMeaningful).toList :=
          by simp [hfound]
        exact ⟨rfl, v, (Option.filter_eq_some_iff.1 (Option.mem_toList.1 hmem)).1, .whole hfail⟩
      | array required =>
        have hspread : spread stack (args.lookup? f.name) = .error fault := by
          unfold renderWord at h
          simpa only [hv, hk, if_neg Bool.false_ne_true] using h
        cases hfind : args.lookup? f.name with
        | none =>
          rw [hfind] at hspread
          cases hspread
        | some v =>
          rw [hfind] at hspread
          exact ⟨rfl, v, rfl, fails_of_spread hspread⟩
    · rw [renderWord_of_not_single hv fun f hf => hs ⟨f, hf⟩] at h
      exact exists_fails_of_joined h

end Failing

end CommandServer.Template
