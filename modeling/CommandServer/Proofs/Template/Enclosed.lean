/-
Words that are one bracket from end to end. For a word without blanks around it, reading the word as
one bracket gives the tokens that the scan gives, with one exception: a word in double braces that
ends in three braces. There the first closer ends one brace before the word does. The scan goes by
this closer and finds a field and a brace behind it; the bracket as a whole has the brace in its
content.
-/
import CommandServer.Proofs.Template.Tokens
import CommandServer.Proofs.Text.Blank

namespace CommandServer.Template

open CommandServer.Text

variable {b : Bracket} {cs content : List Char} {word : String}

/-! ## One bracket -/

theorem opening?_of_enclosed (h : enclosed? b cs = some content) :
    opening? cs = some (b, content ++ b.closer) := by
  rw [(enclosed?_eq_some_iff.1 h).1, List.append_assoc, opening?_opener_append]

/-- A text is in brackets of one kind at most. -/
theorem eq_of_enclosed {b' : Bracket} {content' : List Char} (h : enclosed? b cs = some content)
    (h' : enclosed? b' cs = some content') : b = b' := by
  have heq := (opening?_of_enclosed h).symm.trans (opening?_of_enclosed h')
  rw [Option.some.injEq, Prod.mk.injEq] at heq
  exact heq.1

/-- The token of a bracket that is the whole word is that of its segment. -/
theorem token_ofContent_of_enclosed (h : enclosed? b cs = some content) :
    (Segment.ofContent b content).token =
      match Field.parse? b content with
      | some f => .field f
      | none => .text (String.ofList cs) := by
  rw [(enclosed?_eq_some_iff.1 h).1]
  unfold Segment.ofContent
  cases Field.parse? b content <;> rfl

theorem wholeToken?_eq_some_iff {t : Token} (h : trim cs = cs) :
    wholeToken? cs = some t ↔
      ∃ b content, enclosed? b cs = some content ∧ (Segment.ofContent b content).token = t := by
  unfold wholeToken?
  rw [h]
  constructor
  · intro ht
    obtain ⟨b, -, ht⟩ := List.exists_of_findSome?_eq_some ht
    obtain ⟨content, hc, ht⟩ := Option.map_eq_some_iff.1 ht
    exact ⟨b, content, hc, (token_ofContent_of_enclosed hc).trans ht⟩
  · rintro ⟨b, content, hc, rfl⟩
    rw [token_ofContent_of_enclosed hc]
    cases b with
    | braces => rw [List.findSome?_cons, hc]; rfl
    | squares =>
      have hno : enclosed? .braces cs = none := by
        cases hb : enclosed? .braces cs with
        | none => rfl
        | some content' => exact nomatch eq_of_enclosed hb hc
      rw [List.findSome?_cons, hno, List.findSome?_cons, hc]
      rfl

theorem tokenize_of_enclosed (h : trim word.toList = word.toList)
    (hc : enclosed? b word.toList = some content) :
    tokenize word = [(Segment.ofContent b content).token] := by
  rw [tokenize, (wholeToken?_eq_some_iff h).2 ⟨b, content, hc, rfl⟩]

/-- What is read as one bracket, or else scanned. -/
theorem tokenize_eq_or_enclosed (h : trim word.toList = word.toList) :
    tokenize word = scanTokens word.toList ∨
      ∃ b content, enclosed? b word.toList = some content := by
  unfold tokenize
  split
  · next t ht =>
    obtain ⟨b, content, hc, -⟩ := (wholeToken?_eq_some_iff h).1 ht
    exact .inr ⟨b, content, hc⟩
  · exact .inl rfl

/-! ## The scan of one bracket -/

/-- A word that the scan cuts into texts only is one text. -/
theorem scanTokens_of_texts (h : ∀ s ∈ cuts cs, s.isText = true) :
    scanTokens cs = [.text (String.ofList cs)] := by
  unfold scanTokens segments
  rw [foldr_joinText_of_texts h, sources_cuts]
  cases cs <;> rfl

theorem scanTokens_of_ofContent (h : cuts cs = [Segment.ofContent b content]) :
    scanTokens cs = [(Segment.ofContent b content).token] := by
  unfold scanTokens segments
  rw [h]
  unfold Segment.ofContent
  cases Field.parse? b content with
  | some f => rfl
  | none => cases b <;> rfl

theorem cuts_of_enclosed (h : enclosed? b cs = some content)
    (hno : ¬ b.closer <:+: content ++ b.closer.dropLast) :
    cuts cs = [Segment.ofContent b content] := by
  have hcut := cutAt?_append b.closer_ne_nil hno []
  rw [List.append_nil] at hcut
  rw [cuts_of_step (.bracket (opening?_of_enclosed h) hcut), cuts_nil]

theorem cuts_of_enclosed_concat (h : enclosed? .braces cs = some (content ++ ['\x7d'])) :
    cuts cs = [Segment.ofContent .braces content, .text ['\x7d']] := by
  have hcut := cutAt?_closer_of_concat (enclosed?_eq_some_iff.1 h).2.2 []
  rw [List.append_nil] at hcut
  rw [cuts_of_step (.bracket (opening?_of_enclosed h) hcut), cuts_of_step (.char rfl), cuts_nil]

/-! ## Where the two readings differ -/

/-- The word is in double braces, has none inside and ends in a third brace; without this brace its
content describes a field. -/
def ClosesEarly (word : String) : Prop :=
  ∃ content, word.toList = Bracket.braces.opener ++ (content ++ ['\x7d']) ++ Bracket.braces.closer ∧
    ¬ Bracket.braces.opener <:+: content ++ ['\x7d'] ∧
    ¬ Bracket.braces.closer <:+: content ++ ['\x7d'] ∧
    (Field.parse? .braces content).isSome = true

theorem closesEarly_iff : ClosesEarly word ↔
    ∃ content, enclosed? .braces word.toList = some (content ++ ['\x7d']) ∧
      (Field.parse? .braces content).isSome = true := by
  simp only [ClosesEarly, enclosed?_eq_some_iff, and_assoc]

/-- The scan finds the field that closes early, and a brace behind it. -/
theorem scanTokens_of_closesEarly (h : ClosesEarly word) :
    ∃ content f, Field.parse? .braces content = some f ∧
      scanTokens word.toList = [.field f, .text "\x7d"] := by
  obtain ⟨content, hc, hf⟩ := closesEarly_iff.1 h
  obtain ⟨f, hf⟩ := Option.isSome_iff_exists.1 hf
  refine ⟨content, f, hf, ?_⟩
  unfold scanTokens segments
  rw [cuts_of_enclosed_concat hc, Segment.ofContent, hf]
  rfl

theorem tokenize_eq_scanTokens (h : trim word.toList = word.toList) (hno : ¬ ClosesEarly word) :
    tokenize word = scanTokens word.toList := by
  rcases tokenize_eq_or_enclosed h with heq | ⟨b, content, hc⟩
  · exact heq
  rw [tokenize_of_enclosed h hc]
  by_cases hfirst : b.closer <:+: content ++ b.closer.dropLast
  · obtain ⟨rfl, content, rfl⟩ := eq_concat_of_closer_infix (enclosed?_eq_some_iff.1 hc).2.2 hfirst
    -- neither content describes a field, so both readings keep the word as a text
    have hearly : Field.parse? .braces content = none := by
      cases hf : Field.parse? .braces content with
      | none => rfl
      | some f => exact absurd (closesEarly_iff.2 ⟨content, hc, Option.isSome_of_eq_some hf⟩) hno
    have hwhole : Field.parse? .braces (content ++ ['\x7d']) = none := by
      cases hf : Field.parse? .braces (content ++ ['\x7d']) with
      | none => rfl
      | some f =>
        have hsome := Field.isSome_parse?_of_concat (Option.isSome_of_eq_some hf)
        rw [hearly] at hsome
        cases hsome
    rw [token_ofContent_of_enclosed hc, hwhole, scanTokens_of_texts]
    rw [cuts_of_enclosed_concat hc, Segment.ofContent, hearly]
    simp [Segment.isText]
  · rw [scanTokens_of_ofContent (cuts_of_enclosed hc hfirst)]

/-- For a word without blanks around it, reading it as one bracket where it is one gives what the scan
alone would give, but for a word that closes early. -/
theorem tokenize_eq_scanTokens_iff (h : trim word.toList = word.toList) :
    tokenize word = scanTokens word.toList ↔ ¬ ClosesEarly word := by
  refine ⟨fun heq hearly => ?_, tokenize_eq_scanTokens h⟩
  obtain ⟨content, hc, -⟩ := closesEarly_iff.1 hearly
  obtain ⟨-, f, -, hscan⟩ := scanTokens_of_closesEarly hearly
  rw [tokenize_of_enclosed h hc, hscan] at heq
  exact absurd (congrArg List.length heq) (by simp)

/-- A field with brackets in its description. -/
def nestedWord : String := "\x7b\x7ba # [b]\x7d\x7d"

theorem tokenize_eq_scanTokens_iff_nested :
    trim nestedWord.toList = nestedWord.toList ∧
      tokenize nestedWord = scanTokens nestedWord.toList ∧ ¬ ClosesEarly nestedWord := by
  have h : trim nestedWord.toList = nestedWord.toList := by decide +kernel
  have heq : tokenize nestedWord = scanTokens nestedWord.toList := by decide +kernel
  exact ⟨h, heq, (tokenize_eq_scanTokens_iff h).1 heq⟩

/-- A field with a third brace behind it. -/
def thirdBrace : String := "\x7b\x7bx\x7d\x7d\x7d"

/-- A third brace at the end takes the field away from a word in double braces. -/
theorem tokenize_ne_scanTokens :
    trim thirdBrace.toList = thirdBrace.toList ∧
      scanTokens thirdBrace.toList = [.field ⟨"x", "", .scalar true⟩, .text "\x7d"] ∧
      tokenize thirdBrace ≠ scanTokens thirdBrace.toList := by
  decide +kernel

end CommandServer.Template
