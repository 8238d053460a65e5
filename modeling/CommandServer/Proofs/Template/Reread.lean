/-
Templates made from their own display form. A command line whose words are replaced by what is shown
of them makes the same tool: the same format, the same names with the same types, the same names
required, and the same outcome for arguments under names without dashes.
-/
import CommandServer.Proofs.Outline
import CommandServer.Proofs.Template.Display
import CommandServer.Proofs.Template.Words

namespace CommandServer

open CommandServer.Template
open CommandServer.Text

namespace Template

/-! ## The schema of what is shown -/

namespace Field

@[simp] theorem normalizedName_shown (f : Field) : f.shown.normalizedName = f.normalizedName := by
  cases hk : f.kind with
  | switch n => rw [shown_of_switch hk]; rfl
  | array required => rw [shown_of_array hk]; exact normalizeName_normalizeName _
  | scalar required => rw [shown_of_scalar hk]; exact normalizeName_normalizeName _

@[simp] theorem propertyType_shown (f : Field) : f.shown.propertyType = f.propertyType := by
  obtain ⟨name, description, kind⟩ := f
  cases kind <;> rfl

@[simp] theorem demands_shown (f : Field) : f.shown.demands = f.demands := by
  obtain ⟨name, description, kind⟩ := f
  cases kind <;> rfl

/-- What is shown asks for a text in its word as the field does. -/
theorem isRequired_and_not_isArray_shown (f : Field) :
    (f.shown.isRequired && !f.shown.isArray) = (f.isRequired && !f.isArray) := by
  obtain ⟨name, description, kind⟩ := f
  cases kind <;> simp [shown, isRequired, isArray]

end Field

theorem field?_shown (t : Token) : t.shown.field? = t.field?.map Field.shown := by
  cases t <;> rfl

theorem agrees_ofWords_shown (words : List (List Token)) :
    (Schema.ofWords (words.map (·.map Token.shown))).Agrees (.ofWords words) := by
  have hfields : (words.map (·.map Token.shown)).flatten.filterMap Token.field? =
      (words.flatten.filterMap Token.field?).map Field.shown := by
    rw [← List.map_flatten, List.filterMap_map, List.map_filterMap]
    exact List.filterMap_congr fun t _ => field?_shown t
  unfold Schema.ofWords
  rw [hfields]
  exact Schema.agrees_ofFields Field.normalizedName_shown Field.propertyType_shown
    Field.demands_shown _

theorem displayWord_shown (ts : List Token) : displayWord (ts.map Token.shown) = displayWord ts := by
  unfold displayWord
  rw [List.map_map]
  congr 1
  refine List.map_congr_left fun t _ => ?_
  cases t with
  | text s => rfl
  | field f => exact f.display_shown

/-! ## Rendering what is shown -/

section Rendering

variable {stack : Stack} {args : Arguments} (h : ∀ n, args.lookup? (normalizeName n) = args.lookup? n)
include h

theorem lookup?_name_shown (f : Field) : args.lookup? f.shown.name = args.lookup? f.name := by
  cases hk : f.kind with
  | switch n => rw [Field.shown_of_switch hk]
  | array required => rw [Field.shown_of_array hk]; exact h f.name
  | scalar required => rw [Field.shown_of_scalar hk]; exact h f.name

theorem tokenText_shown (t : Token) : tokenText stack args t.shown = tokenText stack args t := by
  cases t with
  | text s => rfl
  | field f =>
    show fieldText stack args f.shown = fieldText stack args f
    unfold fieldText
    rw [lookup?_name_shown h]
    cases hk : f.kind with
    | switch n => rw [f.switchText_shown, Field.shown_of_switch hk]
    | array required => rw [Field.shown_of_array hk]
    | scalar required => rw [Field.shown_of_scalar hk]

theorem vanishes_shown (ts : List Token) : vanishes args (ts.map Token.shown) = vanishes args ts := by
  unfold vanishes
  rw [List.all_map]
  congr 1
  funext t
  cases t with
  | text s => rfl
  | field f =>
    show (!(f.shown.isRequired && !f.shown.isArray) && !(args.lookup? f.shown.name).any _) = _
    rw [lookup?_name_shown h, Field.isRequired_and_not_isArray_shown]

theorem renderWord_field_shown (f : Field) :
    renderWord stack args [.field f.shown] = renderWord stack args [.field f] := by
  have hlookup := lookup?_name_shown h f
  have hvanishes : vanishes args [.field f.shown] = vanishes args [.field f] :=
    vanishes_shown h [.field f]
  cases hk : f.kind with
  | switch n =>
    have hshown : f.shown.kind = .switch n := by rw [Field.shown_of_switch hk]
    rw [renderWord_switch hk, renderWord_switch hshown, hlookup, f.switchText_shown]
  | array required =>
    have hshown : f.shown.kind = .array false := by rw [Field.shown_of_array hk]
    unfold renderWord
    rw [hvanishes]
    simp only [hshown, hk, hlookup]
  | scalar required =>
    have hshown : f.shown.kind = .scalar required := by rw [Field.shown_of_scalar hk]
    rw [renderWord_scalar hk, renderWord_scalar hshown, hlookup]

theorem renderWord_shown (ts : List Token) :
    renderWord stack args (ts.map Token.shown) = renderWord stack args ts := by
  by_cases hsingle : ∃ f, ts = [.field f]
  · obtain ⟨f, rfl⟩ := hsingle
    exact renderWord_field_shown h f
  · have hshown : ∀ f, ts.map Token.shown ≠ [.field f] := by
      intro f hf
      obtain ⟨t, rfl, ht⟩ := List.map_eq_singleton_iff.1 hf
      cases t with
      | text s => cases ht
      | field g => exact hsingle ⟨g, rfl⟩
    have hjoined : joined stack args (ts.map Token.shown) = joined stack args ts := by
      unfold joined
      rw [List.mapM_map]
      exact congrArg _ (mapM_congr fun t _ => tokenText_shown h t)
    exact renderWord_eq_of_not_single hshown (fun f hf => hsingle ⟨f, hf⟩) (vanishes_shown h ts)
      hjoined

end Rendering

/-- The template with every token as its display form shows it. -/
def shown (t : Template) : Template := ⟨t.command, t.words.map (·.map Token.shown)⟩

theorem agrees_schema_shown (t : Template) : t.shown.schema.Agrees t.schema :=
  agrees_ofWords_shown t.words

theorem format_shown (t : Template) : t.shown.format = t.format := by
  have hdisplay : t.shown.words.map displayWord = t.words.map displayWord := by
    rw [shown, List.map_map]
    exact List.map_congr_left fun ts _ => displayWord_shown ts
  rw [format, format, hdisplay, shown]

theorem render_shown (t : Template) (stack : Stack) {args : Arguments}
    (h : ∀ k ∈ args.keys, '-' ∉ k.toList) : t.shown.render stack args = t.render stack args := by
  have hlookup := Arguments.lookup?_normalizeName h
  have hwords : t.shown.words.mapM (renderWord stack args) = t.words.mapM (renderWord stack args) :=
    by
    rw [shown, List.mapM_map]
    exact mapM_congr fun w _ => renderWord_shown hlookup w
  unfold render
  rw [(agrees_schema_shown t).validate, hwords]
  rfl

/-- Reading the display form of the words again makes the same tool. Every word is read as the tokens
that it shows, which are its own but for descriptions, names in their normalized form, and the double
braces of arrays; the format, the properties with their types and the required names are the same,
and so is the outcome of rendering for arguments under names without dashes. -/
theorem ofArguments_displayWord {argv : List String} {t : Template}
    (accepted : ofArguments argv = .ok t) (trimmed : ∀ w ∈ argv.tail, trim w.toList = w.toList)
    (apart : ∀ w ∈ argv.tail, ∀ f, f.kind = .scalar true →
      tokenize w ≠ [.field f, .text "\x7d"]) :
    ofArguments (t.command :: argv.tail.map fun w => displayWord (tokenize w)) = .ok t.shown ∧
      t.shown.format = t.format ∧
      t.shown.schema.outline = t.schema.outline ∧
      t.shown.schema.required = t.schema.required ∧
      ∀ (stack : Stack) (args : Arguments), (∀ k ∈ args.keys, '-' ∉ k.toList) →
        t.shown.render stack args = t.render stack args := by
  obtain ⟨words, rfl, hcommand, hwords⟩ := ofArguments_eq_ok_iff.1 accepted
  rw [List.tail_cons] at trimmed apart ⊢
  have htokens : t.shown.words = (words.map fun w => displayWord (tokenize w)).map tokenize := by
    rw [shown, hwords, List.map_map, List.map_map]
    refine List.map_congr_left fun w hw => ?_
    rw [Function.comp_apply, Function.comp_apply]
    exact (tokenize_displayWord (trimmed w hw) (apart w hw)).symm
  have hagrees := agrees_schema_shown t
  exact ⟨ofArguments_eq_ok_iff.2 ⟨_, rfl, hcommand, htokens⟩, format_shown t, hagrees.outline,
    hagrees.required, fun stack args => render_shown t stack⟩

/-- An option with a text in front of its value, and an array between double braces. -/
def tarWords : List String := ["--to=[dest-dir # where]", "\x7b\x7bfiles...\x7d\x7d"]

theorem ofArguments_displayWord_tar :
    ∃ t : Template,
      (ofArguments ("tar" :: tarWords) = .ok t ∧ (∀ w ∈ tarWords, trim w.toList = w.toList) ∧
        ∀ w ∈ tarWords, ∀ f : Field, f.kind = .scalar true →
          tokenize w ≠ [.field f, .text "\x7d"]) ∧
      ofArguments ["tar", "--to=[dest_dir]", "[files...]"] = .ok t.shown ∧
      t.shown.format = t.format ∧
      t.shown.schema.outline = t.schema.outline ∧
      t.shown.schema.required = t.schema.required ∧
      ∀ (stack : Stack) (args : Arguments), (∀ k ∈ args.keys, '-' ∉ k.toList) →
        t.shown.render stack args = t.render stack args := by
  have htokens : tarWords.map tokenize =
      [[.text "--to=", .field ⟨"dest-dir", "where", .scalar false⟩],
        [.field ⟨"files", "", .array true⟩]] := by decide +kernel
  have hdisplay : tarWords.map (fun w => displayWord (tokenize w)) =
      ["--to=[dest_dir]", "[files...]"] := by decide +kernel
  have accepted : ofArguments ("tar" :: tarWords) =
      .ok ⟨"tar", [[.text "--to=", .field ⟨"dest-dir", "where", .scalar false⟩],
        [.field ⟨"files", "", .array true⟩]]⟩ :=
    ofArguments_eq_ok_iff.2 ⟨_, rfl, by decide, htokens.symm⟩
  have trimmed : ∀ w ∈ tarWords, trim w.toList = w.toList := by decide +kernel
  have apart : ∀ w ∈ tarWords, ∀ f : Field, f.kind = .scalar true →
      tokenize w ≠ [.field f, .text "\x7d"] := by
    intro w hw f _ heq
    have hmem : [.field f, .text "\x7d"] ∈ tarWords.map tokenize := heq ▸ List.mem_map_of_mem hw
    rw [htokens] at hmem
    simp at hmem
  have h := ofArguments_displayWord accepted trimmed apart
  rw [List.tail_cons, hdisplay] at h
  exact ⟨_, ⟨accepted, trimmed, apart⟩, h⟩

end Template

end CommandServer
