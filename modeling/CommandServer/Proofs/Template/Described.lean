/-
What a text between two brackets describes. It describes a field exactly when it spells the name of
the field, marks an array and carries the description, and a text is read as the field it describes.
-/
import CommandServer.Proofs.Template.Field

namespace CommandServer.Template.Field

open CommandServer.Text

/-! ## Names -/

/-- Letters, digits, underscores and dashes, no digit first. -/
def IsName : List Char → Prop
  | [] => False
  | c :: r => (c.isAlpha ∨ c = '_' ∨ c = '-') ∧ ∀ d ∈ r, d.isAlphanum ∨ d = '_' ∨ d = '-'

theorem isNameStart_underscored_iff {c : Char} :
    isNameStart (underscored c) = true ↔ c.isAlpha ∨ c = '_' ∨ c = '-' := by
  unfold underscored isNameStart
  split <;> simp_all

theorem isNameChar_underscored_iff {c : Char} :
    isNameChar (underscored c) = true ↔ c.isAlphanum ∨ c = '_' ∨ c = '-' := by
  unfold underscored isNameChar
  split <;> simp_all

theorem isIdentifier_iff {cs : List Char} : isIdentifier cs = true ↔ IsName cs := by
  cases cs with
  | nil => simp [isIdentifier, IsName]
  | cons c r =>
    simp only [isIdentifier, IsName, List.map_cons, Bool.and_eq_true, List.all_map, List.all_eq_true,
      Function.comp_apply, isNameStart_underscored_iff, isNameChar_underscored_iff]

/-! ## Dashes in front of a name -/

theorem replicate_append_dropWhile_dash (cs : List Char) :
    List.replicate (cs.length - (cs.dropWhile (· == '-')).length) '-' ++ cs.dropWhile (· == '-') = cs := by
  induction cs with
  | nil => rfl
  | cons c cs ih =>
    rw [List.dropWhile_cons]
    split
    · next hc =>
      have hle : (cs.dropWhile (· == '-')).length ≤ cs.length := (List.dropWhile_suffix _).length_le
      rw [List.length_cons, Nat.succ_sub hle, List.replicate_succ, List.cons_append, ih,
        beq_iff_eq.1 hc]
    · simp

theorem dropWhile_dash_replicate_append {cs : List Char} (h : cs.head? ≠ some '-') (n : Nat) :
    (List.replicate n '-' ++ cs).dropWhile (· == '-') = cs := by
  induction n with
  | zero =>
    cases cs with
    | nil => rfl
    | cons c cs =>
      have hc : c ≠ '-' := by simpa using h
      simp [hc]
  | succ n ih => simpa [List.replicate_succ] using ih

theorem head?_dropWhile_dash (cs : List Char) : (cs.dropWhile (· == '-')).head? ≠ some '-' := by
  intro h
  have := List.head?_dropWhile_not (· == '-') cs
  rw [h] at this
  cases this

/-! ## What a text describes -/

/-- The brackets around a field. -/
def bracket (f : Field) : Bracket := if f.isRequired then .braces else .squares

/-- The name of a field as it is written: a switch with its dashes. -/
def spelling (f : Field) : String := if f.isSwitch then f.switchText else f.name

/-- A name that can be written: between square brackets it does not start with a dash, and a switch
has a dash in front of it. -/
structure HasName (f : Field) : Prop where
  name : IsName f.name.toList
  noDash : f.isRequired = false → f.name.toList.head? ≠ some '-'
  dashes : ∀ n, f.kind = .switch n → 0 < n

/-- The description of a field by the text of it: a switch without one gets its own. -/
def descriptionOf (f : Field) (text : List Char) : String :=
  if f.isSwitch ∧ text = [] then switchDescription f.spelling.toList else String.ofList text

/-- The text between two brackets spells the name of a field, marks it if it is an array, and
describes it. -/
structure Describes (b : Bracket) (content : List Char) (f : Field) : Prop extends f.HasName where
  bracket : f.bracket = b
  stem : stem content = f.spelling.toList
  mark : f.isSwitch = false → (splitArrayMark (namePart content)).2 = f.isArray
  description : f.description = f.descriptionOf (descriptionPart content)

theorem bracket_eq_squares_iff {f : Field} : f.bracket = .squares ↔ f.isRequired = false := by
  unfold bracket
  cases f.isRequired <;> simp

theorem bracket_eq_braces_iff {f : Field} : f.bracket = .braces ↔ f.isRequired = true := by
  unfold bracket
  cases f.isRequired <;> simp

theorem isSwitch_iff {f : Field} : f.isSwitch = true ↔ ∃ n, f.kind = .switch n := by
  unfold isSwitch
  cases f.kind <;> simp

theorem isRequired_of_switch {f : Field} {n : Nat} (h : f.kind = .switch n) : f.isRequired = false := by
  rw [isRequired, h]

theorem spelling_of_switch {f : Field} {n : Nat} (h : f.kind = .switch n) :
    f.spelling.toList = List.replicate n '-' ++ f.name.toList := by
  simp [spelling, isSwitch, switchText, h]

theorem spelling_of_isSwitch_eq_false {f : Field} (h : f.isSwitch = false) : f.spelling = f.name := by
  rw [spelling, if_neg (Bool.eq_false_iff.1 h)]

/-! ## Reading a text -/

/-- A name behind a dash between square brackets is that of a switch. -/
theorem parse?_dash {content : List Char} (h : (Field.stem content).head? = some '-') :
    parse? .squares content =
      if isIdentifier ((Field.stem content).dropWhile (· == '-')) then
        some ⟨String.ofList ((Field.stem content).dropWhile (· == '-')),
          if (String.ofList (descriptionPart content)).isEmpty then switchDescription (Field.stem content)
            else String.ofList (descriptionPart content),
          .switch ((Field.stem content).length - ((Field.stem content).dropWhile (· == '-')).length)⟩
      else none :=
  if_pos ⟨rfl, h⟩

/-- Any other name is that of a scalar or an array. -/
theorem parse?_name {b : Bracket} {content : List Char}
    (h : ¬ (b = .squares ∧ (Field.stem content).head? = some '-')) :
    parse? b content =
      if isIdentifier (Field.stem content) then
        some ⟨String.ofList (Field.stem content), String.ofList (descriptionPart content),
          if (splitArrayMark (namePart content)).2 then .array (b = .braces) else .scalar (b = .braces)⟩
      else none :=
  if_neg h

theorem isEmpty_ofList (cs : List Char) : (String.ofList cs).isEmpty = true ↔ cs = [] := by
  rw [String.isEmpty_iff, ← String.toList_eq_nil_iff, String.toList_ofList]

theorem describes_of_dash {content : List Char} {f : Field}
    (hhead : (Field.stem content).head? = some '-') (h : parse? .squares content = some f) :
    Describes .squares content f := by
  rw [parse?_dash hhead] at h
  split at h
  · next hname =>
    have hspell := replicate_append_dropWhile_dash (Field.stem content)
    have hbare := head?_dropWhile_dash (Field.stem content)
    generalize (Field.stem content).dropWhile (· == '-') = bare at h hname hspell hbare
    generalize (Field.stem content).length - bare.length = n at h hspell
    have hf := (Option.some.inj h).symm
    have hkind : f.kind = .switch n := by rw [hf]
    have hlist : f.name.toList = bare := by rw [hf, String.toList_ofList]
    have hspelling : f.spelling.toList = Field.stem content := by
      rw [spelling_of_switch hkind, hlist, hspell]
    refine ⟨⟨?_, ?_, ?_⟩, ?_, hspelling.symm, ?_, ?_⟩
    · rw [hlist]; exact isIdentifier_iff.1 hname
    · intro; rw [hlist]; exact hbare
    · intro m hm
      -- the name starts with a dash, and what is left of it does not
      cases hkind.symm.trans hm
      refine Nat.pos_of_ne_zero ?_
      rintro rfl
      rw [← hspell] at hhead
      exact hbare hhead
    · exact bracket_eq_squares_iff.2 (isRequired_of_switch hkind)
    · exact fun hno => absurd (isSwitch_iff.2 ⟨n, hkind⟩) (Bool.eq_false_iff.1 hno)
    · simp only [descriptionOf, isSwitch_iff.2 ⟨n, hkind⟩, hspelling, true_and, ← isEmpty_ofList]
      rw [hf]
  · cases h

theorem describes_of_name {b : Bracket} {content : List Char} {f : Field}
    (hdash : ¬ (b = .squares ∧ (Field.stem content).head? = some '-'))
    (h : parse? b content = some f) : Describes b content f := by
  rw [parse?_name hdash] at h
  split at h
  · next hname =>
    have hf := (Option.some.inj h).symm
    have hlist : f.name.toList = Field.stem content := by rw [hf, String.toList_ofList]
    have hkind : f.isSwitch = false ∧ f.isArray = (splitArrayMark (namePart content)).2 ∧
        f.isRequired = decide (b = .braces) := by
      rw [hf]
      cases (splitArrayMark (namePart content)).2 <;> simp [isSwitch, isArray, isRequired]
    obtain ⟨hswitch, harray, hrequired⟩ := hkind
    refine ⟨⟨?_, ?_, ?_⟩, ?_, ?_, ?_, ?_⟩
    · rw [hlist]; exact isIdentifier_iff.1 hname
    · intro hr hhead
      rw [hrequired] at hr
      rw [hlist] at hhead
      refine hdash ⟨?_, hhead⟩
      cases b with
      | braces => simp at hr
      | squares => rfl
    · exact fun n hn => absurd (isSwitch_iff.2 ⟨n, hn⟩) (Bool.eq_false_iff.1 hswitch)
    · rw [bracket, hrequired]; cases b <;> rfl
    · rw [spelling_of_isSwitch_eq_false hswitch, hlist]
    · exact fun _ => harray.symm
    · simp only [descriptionOf, hswitch, Bool.false_eq_true, false_and, if_false]
      rw [hf]
  · cases h

theorem parse?_of_describes_switch {b : Bracket} {content : List Char} {f : Field} {n : Nat}
    (h : Describes b content f) (hkind : f.kind = .switch n) : parse? b content = some f := by
  have hrequired := isRequired_of_switch hkind
  have hb : b = .squares := h.bracket ▸ bracket_eq_squares_iff.2 hrequired
  have hstem : Field.stem content = List.replicate n '-' ++ f.name.toList := by
    rw [h.stem, spelling_of_switch hkind]
  have hbare : (Field.stem content).dropWhile (· == '-') = f.name.toList := by
    rw [hstem]
    exact dropWhile_dash_replicate_append (h.noDash hrequired) n
  have hhead : (Field.stem content).head? = some '-' := by
    obtain ⟨m, rfl⟩ := Nat.exists_eq_succ_of_ne_zero (h.dashes n hkind).ne'
    rw [hstem]; rfl
  have hn : (Field.stem content).length - f.name.toList.length = n := by simp [hstem]
  have hdesc : f.description = if (String.ofList (descriptionPart content)).isEmpty then
      switchDescription (Field.stem content) else String.ofList (descriptionPart content) := by
    rw [h.description, descriptionOf, h.stem]
    simp only [isSwitch_iff.2 ⟨n, hkind⟩, true_and, isEmpty_ofList]
  rw [hb, parse?_dash hhead, hbare, if_pos (isIdentifier_iff.2 h.name), hn, ← hdesc, ← hkind,
    String.ofList_toList]

theorem parse?_of_describes_name {b : Bracket} {content : List Char} {f : Field}
    (h : Describes b content f) (hswitch : f.isSwitch = false) : parse? b content = some f := by
  have hstem : Field.stem content = f.name.toList := by
    rw [h.stem, spelling_of_isSwitch_eq_false hswitch]
  have hdash : ¬ (b = .squares ∧ (Field.stem content).head? = some '-') := by
    rintro ⟨hb, hhead⟩
    rw [hstem] at hhead
    exact h.noDash (bracket_eq_squares_iff.1 (h.bracket.trans hb)) hhead
  have hkind : f.kind = if (splitArrayMark (namePart content)).2 then .array (b = .braces)
      else .scalar (b = .braces) := by
    rw [h.mark hswitch, ← h.bracket]
    unfold isSwitch at hswitch
    unfold bracket isArray isRequired
    cases hk : f.kind with
    | switch n => rw [hk] at hswitch; cases hswitch
    | scalar r => cases r <;> rfl
    | array r => cases r <;> rfl
  have hdesc : f.description = String.ofList (descriptionPart content) := by
    rw [h.description, descriptionOf, hswitch]
    exact if_neg fun hno => nomatch hno.1
  rw [parse?_name hdash, hstem, if_pos (isIdentifier_iff.2 h.name), ← hdesc, ← hkind,
    String.ofList_toList]

/-- A text between two brackets is read as the field that it describes, and as no other. -/
theorem parse?_eq_some_iff {b : Bracket} {content : List Char} {f : Field} :
    parse? b content = some f ↔ Describes b content f := by
  constructor
  · intro h
    by_cases hdash : b = .squares ∧ (Field.stem content).head? = some '-'
    · obtain ⟨rfl, hhead⟩ := hdash
      exact describes_of_dash hhead h
    · exact describes_of_name hdash h
  · intro h
    cases hswitch : f.isSwitch with
    | false => exact parse?_of_describes_name h hswitch
    | true =>
      obtain ⟨n, hkind⟩ := isSwitch_iff.1 hswitch
      exact parse?_of_describes_switch h hkind

end CommandServer.Template.Field
