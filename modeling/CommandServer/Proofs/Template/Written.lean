/-
How fields are written. The fields that a text can describe are the well-formed ones. Written in its
own brackets a well-formed field is read back from the word, as long as its description does not hold
these brackets.
-/
import CommandServer.Proofs.Template.Described
import CommandServer.Proofs.Template.Enclosed

namespace CommandServer.Template

open CommandServer.Text

namespace Field

/-- A field that can be written: the description has no blanks around it, and a switch has one. -/
structure IsWellFormed (f : Field) : Prop extends f.HasName where
  trimmed : trim f.description.toList = f.description.toList
  described : f.isSwitch = true → f.description ≠ ""

/-! ## The parts of a written field -/

/-- The name of a field as it stands in its brackets. -/
def label (f : Field) : List Char := f.spelling.toList ++ if f.isArray then arrayMark else []

/-- The description of a field as it stands in its brackets. -/
def remark (f : Field) : List Char :=
  if f.description = "" then [] else ' ' :: '#' :: ' ' :: f.description.toList

/-- A field in its brackets. -/
def written (f : Field) : String :=
  String.ofList (f.bracket.opener ++ (f.label ++ f.remark) ++ f.bracket.closer)

theorem toNat_of_isNameChar {c : Char} (h : isNameChar c = true) : 48 ≤ c.toNat ∧ c.toNat ≤ 122 := by
  rw [isNameChar, Char.isAlphanum, Bool.or_eq_true, Bool.or_eq_true, beq_iff_eq] at h
  -- each of the ASCII classes is a pair of bounds
  rcases h with (h | h) | rfl
  · rcases (Bool.or_eq_true _ _).mp h with h | h
    · have hrange : 'A'.toNat ≤ c.toNat ∧ c.toNat ≤ 'Z'.toNat := of_decide_eq_true h
      exact ⟨Nat.le_trans (by decide) hrange.1, Nat.le_trans hrange.2 (by decide)⟩
    · obtain ⟨hlo, hhi⟩ := Bool.and_eq_true_iff.1 h
      have hrange : 'a'.toNat ≤ c.toNat ∧ c.toNat ≤ 'z'.toNat :=
        ⟨of_decide_eq_true hlo, of_decide_eq_true hhi⟩
      exact ⟨Nat.le_trans (by decide) hrange.1, Nat.le_trans hrange.2 (by decide)⟩
  · obtain ⟨hlo, hhi⟩ := Bool.and_eq_true_iff.1 h
    have hrange : '0'.toNat ≤ c.toNat ∧ c.toNat ≤ '9'.toNat :=
      ⟨of_decide_eq_true hlo, of_decide_eq_true hhi⟩
    exact ⟨hrange.1, Nat.le_trans hrange.2 (by decide)⟩
  · decide

theorem isBlank_eq_false_of_isNameChar {c : Char} (h : isNameChar c = true) : isBlank c = false := by
  have hbounds := toNat_of_isNameChar h
  simp only [isBlank, blankRanges, List.any_cons, List.any_nil, Bool.or_eq_false_iff,
    Bool.and_eq_false_iff, decide_eq_false_iff_not, and_true]
  omega

theorem isNameChar_or_of_isName {cs : List Char} (h : IsName cs) {c : Char} (hc : c ∈ cs) :
    isNameChar c = true ∨ c = '-' := by
  cases cs with
  | nil => cases hc
  | cons d r =>
    rcases List.mem_cons.1 hc with rfl | hr
    · rcases h.1 with h | h | h <;> simp [isNameChar, Char.isAlphanum, h]
    · rcases h.2 c hr with h | h | h <;> simp [isNameChar, h]

theorem isNameChar_or_of_mem_spelling {f : Field} (h : f.HasName) {c : Char}
    (hc : c ∈ f.spelling.toList) : isNameChar c = true ∨ c = '-' := by
  cases hswitch : f.isSwitch with
  | true =>
    obtain ⟨n, hkind⟩ := isSwitch_iff.1 hswitch
    rw [spelling_of_switch hkind, List.mem_append] at hc
    rcases hc with hc | hc
    · exact .inr (List.eq_of_mem_replicate hc)
    · exact isNameChar_or_of_isName h.name hc
  | false =>
    rw [spelling_of_isSwitch_eq_false hswitch] at hc
    exact isNameChar_or_of_isName h.name hc

/-- A character that a label can hold. -/
def isLabelChar (c : Char) : Bool := c == '.' || c == '-' || isNameChar c

theorem isLabelChar_of_mem {f : Field} (h : f.HasName) {c : Char} (hc : c ∈ f.label) :
    isLabelChar c = true := by
  rw [label, List.mem_append] at hc
  rcases hc with hc | hc
  · rcases isNameChar_or_of_mem_spelling h hc with hc | hc <;> simp [isLabelChar, hc]
  · split at hc
    · have hdot : c = '.' := by simpa [arrayMark] using hc
      simp [isLabelChar, hdot]
    · cases hc

theorem isBlank_eq_false_of_isLabelChar {c : Char} (h : isLabelChar c = true) : isBlank c = false := by
  simp only [isLabelChar, Bool.or_eq_true, beq_iff_eq] at h
  rcases h with (rfl | rfl) | h
  · decide
  · decide
  · exact isBlank_eq_false_of_isNameChar h

/-! ## Reading a label -/

section Reading

variable {f : Field} {l : List Char}

theorem trim_of_isLabelChar (hl : ∀ c ∈ l, isLabelChar c = true) : trim l = l := by
  rw [trim_eq_self_iff]
  exact ⟨fun c hc => isBlank_eq_false_of_isLabelChar (hl c (List.mem_of_mem_head? hc)),
    fun c hc => isBlank_eq_false_of_isLabelChar (hl c (List.mem_of_mem_getLast? hc))⟩

theorem trimEnd_of_isLabelChar (hl : ∀ c ∈ l, isLabelChar c = true) : trimEnd l = l :=
  trimEnd_eq_self_iff.2 (trim_eq_self_iff.1 (trim_of_isLabelChar hl)).2

theorem ne_hash_of_isLabelChar (hl : ∀ c ∈ l, isLabelChar c = true) {c : Char} (hc : c ∈ l) :
    (c != '#') = true := by
  rw [bne_iff_ne]
  rintro rfl
  exact absurd (hl _ hc) (by decide)

theorem namePart_of_isLabelChar (hl : ∀ c ∈ l, isLabelChar c = true) : namePart l = l := by
  rw [namePart, List.takeWhile_eq_self_iff.2 fun c hc => ne_hash_of_isLabelChar hl hc,
    trim_of_isLabelChar hl]

theorem descriptionPart_of_isLabelChar (hl : ∀ c ∈ l, isLabelChar c = true) :
    descriptionPart l = [] := by
  rw [descriptionPart, List.dropWhile_eq_nil_iff.2 fun c hc => ne_hash_of_isLabelChar hl hc]
  rfl

theorem trim_concat_of_isLabelChar (hl : ∀ c ∈ l, isLabelChar c = true) : trim (l ++ [' ']) = l := by
  cases l with
  | nil => decide
  | cons c r =>
    have hstart : trimStart (c :: r ++ [' ']) = c :: r ++ [' '] := by
      rw [trimStart_eq_self_iff]
      rintro d ⟨⟩
      exact isBlank_eq_false_of_isLabelChar (hl c (List.mem_cons_self ..))
    rw [trim, hstart, trimEnd_concat (by decide)]
    exact trimEnd_of_isLabelChar hl

theorem namePart_append_remark (hl : ∀ c ∈ l, isLabelChar c = true) (r : List Char) :
    namePart (l ++ ' ' :: '#' :: r) = l := by
  have htake : (l ++ ' ' :: '#' :: r).takeWhile (· != '#') = l ++ [' '] := by
    rw [List.takeWhile_append_of_pos fun c hc => ne_hash_of_isLabelChar hl hc]
    rfl
  rw [namePart, htake, trim_concat_of_isLabelChar hl]

theorem descriptionPart_append_remark (hl : ∀ c ∈ l, isLabelChar c = true) (r : List Char) :
    descriptionPart (l ++ ' ' :: '#' :: r) = trim r := by
  have hdrop : (l ++ ' ' :: '#' :: r).dropWhile (· != '#') = '#' :: r := by
    rw [List.dropWhile_append_of_pos fun c hc => ne_hash_of_isLabelChar hl hc]
    rfl
  rw [descriptionPart, hdrop]
  rfl

theorem splitArrayMark_label (h : f.HasName) : splitArrayMark f.label = (f.spelling.toList, f.isArray) := by
  have hchars : ∀ c ∈ f.spelling.toList, isLabelChar c = true := fun c hc =>
    isLabelChar_of_mem h (List.mem_append_left _ hc)
  unfold splitArrayMark label
  cases f.isArray with
  | true =>
    rw [if_pos rfl, isSuffixOf?_eq_some_iff.2 rfl]
    dsimp only
    rw [trimEnd_of_isLabelChar hchars]
  | false =>
    rw [if_neg Bool.false_ne_true, List.append_nil]
    split
    · next r hr =>
      -- a name has no full stop in it
      have hdot : '.' ∈ f.spelling.toList := by
        rw [isSuffixOf?_eq_some_iff.1 hr]
        simp [arrayMark]
      rcases isNameChar_or_of_mem_spelling h hdot with hc | hc
      · exact absurd hc (by decide)
      · exact absurd hc (by decide)
    · rfl

theorem describes_of_namePart {content : List Char} (h : f.HasName) (hn : namePart content = f.label)
    (hd : f.description = f.descriptionOf (descriptionPart content)) :
    Describes f.bracket content f where
  toHasName := h
  bracket := rfl
  stem := by rw [stem, hn, splitArrayMark_label h]
  mark _ := by rw [hn, splitArrayMark_label h]
  description := hd

/-- A label alone is read as a field without a description. -/
theorem parse?_label (h : f.HasName) (hd : f.description = f.descriptionOf []) :
    parse? f.bracket f.label = some f := by
  have hl : ∀ c ∈ f.label, isLabelChar c = true := fun c hc => isLabelChar_of_mem h hc
  refine parse?_eq_some_iff.2 (describes_of_namePart h (namePart_of_isLabelChar hl) ?_)
  rw [descriptionPart_of_isLabelChar hl]
  exact hd

/-- A label and a description are read as the field that they were written for. -/
theorem parse?_label_append_remark (h : f.IsWellFormed) :
    parse? f.bracket (f.label ++ f.remark) = some f := by
  have hl : ∀ c ∈ f.label, isLabelChar c = true := fun c hc => isLabelChar_of_mem h.toHasName hc
  by_cases hempty : f.description = ""
  · have hswitch : ¬ f.isSwitch = true := fun hs => h.described hs hempty
    rw [remark, if_pos hempty, List.append_nil]
    refine parse?_label h.toHasName ?_
    rw [descriptionOf, if_neg fun hs => hswitch hs.1, hempty]
  · have htext : f.description.toList ≠ [] := fun hnil => hempty (String.toList_eq_nil_iff.1 hnil)
    rw [remark, if_neg hempty]
    refine parse?_eq_some_iff.2 (describes_of_namePart h.toHasName (namePart_append_remark hl _) ?_)
    rw [descriptionPart_append_remark hl, trim_cons (by decide), h.trimmed, descriptionOf,
      if_neg fun hs => htext hs.2, String.ofList_toList]

end Reading

/-! ## What is read is well-formed -/

theorem trim_switchDescription (spelling : List Char) :
    trim (switchDescription spelling).toList = (switchDescription spelling).toList := by
  have hends : (switchDescription spelling).toList =
      'E' :: ("nable ".toList ++ spelling ++ " fla".toList ++ ['g']) := by
    simp [switchDescription]
  rw [hends]
  exact trim_cons_concat (by decide) (by decide) _

theorem isWellFormed_of_parse? {b : Bracket} {content : List Char} {f : Field}
    (h : parse? b content = some f) : f.IsWellFormed := by
  have hd := parse?_eq_some_iff.1 h
  refine ⟨hd.toHasName, ?_, ?_⟩
  · rw [hd.description, descriptionOf]
    split
    · exact trim_switchDescription _
    · rw [String.toList_ofList, descriptionPart, trim_trim]
  · intro hswitch
    rw [hd.description, descriptionOf]
    split
    · simp [switchDescription]
    · next hno =>
      rw [ne_eq, ← String.toList_eq_nil_iff, String.toList_ofList]
      exact fun hnil => hno ⟨hswitch, hnil⟩

end Field

theorem exists_parse?_of_mem_tokenize {word : String} {f : Field} (h : .field f ∈ tokenize word) :
    ∃ b content, Field.parse? b content = some f := by
  rcases tokenize_cases word with ⟨b, content, g, -, hg, hw⟩ | hw | ⟨-, hw⟩
  · rw [hw, List.mem_singleton, Token.field.injEq] at h
    exact ⟨b, content, h ▸ hg⟩
  · rw [hw] at h
    simp at h
  · rw [hw, List.mem_map] at h
    obtain ⟨s, hs, htoken⟩ := h
    cases s with
    | text cs => cases htoken
    | field b content g =>
      cases htoken
      exact ⟨b, content, (isWellFormed_of_mem_segments hs).2⟩

/-! ## Brackets around a content -/

theorem trim_bracket (b : Bracket) (content : List Char) :
    trim (b.opener ++ content ++ b.closer) = b.opener ++ content ++ b.closer := by
  cases b with
  | braces =>
    have h := trim_cons_concat (c := '\x7b') (d := '\x7d') (by decide) (by decide)
      ('\x7b' :: content ++ ['\x7d'])
    simpa [Bracket.opener, Bracket.closer] using h
  | squares => exact trim_cons_concat (by decide) (by decide) content

theorem Bracket.isLabelChar_eq_false (b : Bracket) {c : Char} (hc : c ∈ b.opener ++ b.closer) :
    Field.isLabelChar c = false ∧ c ≠ ' ' ∧ c ≠ '#' := by
  cases b with
  | braces =>
    have hbrace : c = '\x7b' ∨ c = '\x7d' := by simpa [Bracket.opener, Bracket.closer] using hc
    rcases hbrace with rfl | rfl <;> decide
  | squares =>
    have hsquare : c = '[' ∨ c = ']' := by simpa [Bracket.opener, Bracket.closer] using hc
    rcases hsquare with rfl | rfl <;> decide

theorem infix_of_infix_append {p l r : List Char} (hp : p ≠ []) (hl : ∀ c ∈ p, c ∉ l)
    (h : p <:+: l ++ r) : p <:+: r := by
  induction l with
  | nil => exact h
  | cons a l ih =>
    rw [List.cons_append, List.infix_cons_iff] at h
    rcases h with h | h
    · obtain ⟨c, p, rfl⟩ := List.exists_cons_of_ne_nil hp
      rw [List.cons_prefix_cons] at h
      exact absurd (h.1 ▸ List.mem_cons_self ..) (hl c (List.mem_cons_self ..))
    · exact ih (fun c hc hcl => hl c hc (List.mem_cons_of_mem _ hcl)) h

theorem notMem_label {f : Field} (hf : f.HasName) {b : Bracket} {c : Char}
    (hc : c ∈ b.opener ++ b.closer) : c ∉ f.label := by
  intro hmem
  have hno := (b.isLabelChar_eq_false hc).1
  rw [Field.isLabelChar_of_mem hf hmem] at hno
  cases hno

/-- What is made of brackets does not start in a label. -/
theorem not_infix_label_append {f : Field} (hf : f.HasName) {b : Bracket} {p r : List Char}
    (hp : p ≠ []) (hb : ∀ c ∈ p, c ∈ b.opener ++ b.closer) (hr : ¬ p <:+: r) :
    ¬ p <:+: f.label ++ r :=
  fun h => hr (infix_of_infix_append hp (fun c hc => notMem_label hf (hb c hc)) h)

theorem not_infix_remark {f : Field} {b : Bracket} {p : List Char} (hp : p ≠ [])
    (hb : ∀ c ∈ p, c ∈ b.opener ++ b.closer) (hd : ¬ p <:+: f.description.toList) :
    ¬ p <:+: f.remark := by
  have hmark : ∀ c ∈ p, c ∉ [' ', '#', ' '] := by
    intro c hc
    obtain ⟨-, hblank, hhash⟩ := b.isLabelChar_eq_false (hb c hc)
    simp [hblank, hhash]
  unfold Field.remark
  split
  · exact fun h => hp (List.infix_nil.1 h)
  · exact fun h => hd (infix_of_infix_append (l := [' ', '#', ' ']) hp hmark h)

theorem tokenize_written {f : Field} (hf : f.IsWellFormed)
    (ho : ¬ f.bracket.opener <:+: f.description.toList)
    (hc : ¬ f.bracket.closer <:+: f.description.toList) : tokenize f.written = [.field f] := by
  have hopener : ∀ c ∈ f.bracket.opener, c ∈ f.bracket.opener ++ f.bracket.closer :=
    fun _ => List.mem_append_left _
  have hcloser : ∀ c ∈ f.bracket.closer, c ∈ f.bracket.opener ++ f.bracket.closer :=
    fun _ => List.mem_append_right _
  have henc : enclosed? f.bracket f.written.toList = some (f.label ++ f.remark) := by
    refine enclosed?_eq_some_iff.2 ⟨String.toList_ofList, ?_, ?_⟩
    · exact not_infix_label_append hf.toHasName f.bracket.opener_ne_nil hopener
        (not_infix_remark f.bracket.opener_ne_nil hopener ho)
    · exact not_infix_label_append hf.toHasName f.bracket.closer_ne_nil hcloser
        (not_infix_remark f.bracket.closer_ne_nil hcloser hc)
  have htrim : trim f.written.toList = f.written.toList := by
    rw [Field.written, String.toList_ofList]
    exact trim_bracket _ _
  rw [tokenize_of_enclosed htrim henc, Segment.ofContent, Field.parse?_label_append_remark hf]
  rfl

/-- Brackets hold well-formed fields and no others: every field among the tokens of a word is
well-formed, and every well-formed field is the only token of the word that it is written as, if its
description holds neither an opener nor a closer of its own brackets. -/
theorem tokenize_encodes_wellFormed :
    (∀ word f, .field f ∈ tokenize word → f.IsWellFormed) ∧
      ∀ f : Field, f.IsWellFormed → ¬ f.bracket.opener <:+: f.description.toList →
        ¬ f.bracket.closer <:+: f.description.toList → tokenize f.written = [.field f] := by
  constructor
  · intro word f h
    obtain ⟨b, content, hf⟩ := exists_parse?_of_mem_tokenize h
    exact Field.isWellFormed_of_parse? hf
  · exact fun f hf ho hc => tokenize_written hf ho hc

/-- A brace at the end of the description is told apart from the closer behind it. -/
theorem tokenize_encodes_wellFormed_brace :
    (Field.IsWellFormed ⟨"-x", "up to \x7d", .array true⟩ ∧
      ¬ Bracket.braces.opener <:+: "up to \x7d".toList ∧
      ¬ Bracket.braces.closer <:+: "up to \x7d".toList) ∧
    tokenize "\x7b\x7b-x... # up to \x7d\x7d\x7d" = [.field ⟨"-x", "up to \x7d", .array true⟩] := by
  have hf : Field.IsWellFormed ⟨"-x", "up to \x7d", .array true⟩ :=
    ⟨⟨by simp [Field.IsName], nofun, nofun⟩, by decide +kernel, by decide⟩
  have ho : ¬ Bracket.braces.opener <:+: "up to \x7d".toList := by decide +kernel
  have hc : ¬ Bracket.braces.closer <:+: "up to \x7d".toList := by decide +kernel
  have hwritten : Field.written ⟨"-x", "up to \x7d", .array true⟩ =
      "\x7b\x7b-x... # up to \x7d\x7d\x7d" := by decide +kernel
  have h := tokenize_encodes_wellFormed.2 _ hf ho hc
  rw [hwritten] at h
  exact ⟨⟨hf, ho, hc⟩, h⟩

end CommandServer.Template
