/-
The tokens of a word. Apart from a word that is one field between blanks, the tokens are those of a
run of segments that put together again are the word; texts and fields alternate, no text is empty
in a word that is not, and a text by itself has no tokens but itself.
-/
import CommandServer.Proofs.Template.Field
import CommandServer.Proofs.Template.Scan

namespace CommandServer.Template

open CommandServer.Text

/-! ## Words that are one bracket -/

theorem enclosed?_eq_some_iff {b : Bracket} {cs content : List Char} :
    enclosed? b cs = some content ↔
      cs = b.opener ++ content ++ b.closer ∧ ¬ b.opener <:+: content ∧ ¬ b.closer <:+: content := by
  unfold enclosed?
  simp only [bind, Option.bind_eq_some_iff, isPrefixOf?_eq_some_iff, Field.isSuffixOf?_eq_some_iff]
  constructor
  · rintro ⟨r, rfl, content', rfl, h⟩
    split at h
    · cases h
    · next hno =>
      cases h
      rw [Bool.or_eq_true, not_or, Option.not_isSome_iff_eq_none, Option.not_isSome_iff_eq_none,
        cutAt?_eq_none_iff b.opener_ne_nil, cutAt?_eq_none_iff b.closer_ne_nil] at hno
      exact ⟨by rw [List.append_assoc], hno⟩
  · rintro ⟨rfl, ho, hc⟩
    refine ⟨_, List.append_assoc .., _, rfl, ?_⟩
    rw [(cutAt?_eq_none_iff b.opener_ne_nil).2 ho, (cutAt?_eq_none_iff b.closer_ne_nil).2 hc]
    rfl

/-- The tokens of a word: one field that the whole word spells, the word itself as a text, or what
the scan finds. -/
theorem tokenize_cases (word : String) :
    (∃ b content f, enclosed? b (trim word.toList) = some content ∧
      Field.parse? b content = some f ∧ tokenize word = [.field f]) ∨
    tokenize word = [.text word] ∨
    word ≠ "" ∧ tokenize word = (segments word.toList).map Segment.token := by
  unfold tokenize
  split
  · next t ht =>
    obtain ⟨b, -, ht⟩ := List.exists_of_findSome?_eq_some ht
    obtain ⟨content, hc, ht⟩ := Option.map_eq_some_iff.1 ht
    split at ht
    · next f hf => subst ht; exact .inl ⟨b, content, f, hc, hf, rfl⟩
    · subst ht; exact .inr (.inl (by rw [String.ofList_toList]))
  · unfold scanTokens
    split
    · exact .inr (.inl (by rw [String.ofList_toList]))
    · next hne =>
      refine .inr (.inr ⟨?_, rfl⟩)
      rintro rfl
      exact hne (by rw [segments, String.toList_empty, cuts_nil]; rfl)

/-- A closer can come before the end of a content without a closer and reach over this end: then it
is a pair of braces, and the first of them ends the content. -/
theorem eq_concat_of_closer_infix {b : Bracket} {content : List Char} (hc : ¬ b.closer <:+: content)
    (h : b.closer <:+: content ++ b.closer.dropLast) :
    b = .braces ∧ ∃ content', content = content' ++ ['\x7d'] := by
  cases b with
  | squares => exact absurd (by simpa [Bracket.closer] using h) hc
  | braces =>
    obtain ⟨content', hcontent⟩ := (List.infix_concat_iff.1 h).resolve_right hc
    have hends : content' ++ ['\x7d'] ++ ['\x7d'] = content ++ ['\x7d'] := by
      rw [List.append_assoc]
      exact hcontent
    exact ⟨rfl, content', (List.append_cancel_right hends).symm⟩

/-- Such a content is cut one brace early. -/
theorem cutAt?_closer_of_concat {content : List Char}
    (hc : ¬ Bracket.braces.closer <:+: content ++ ['\x7d']) (rest : List Char) :
    cutAt? Bracket.braces.closer (content ++ ['\x7d'] ++ Bracket.braces.closer ++ rest) =
      some (content, '\x7d' :: rest) := by
  have hcut := cutAt?_append Bracket.braces.closer_ne_nil hc ('\x7d' :: rest)
  rw [← hcut]
  simp [Bracket.closer]

/-- Behind the content of a field the first closer may come one brace early, and then it closes a
field still. -/
theorem exists_cutAt?_closer {b : Bracket} {content : List Char} (hc : ¬ b.closer <:+: content)
    (hf : (Field.parse? b content).isSome = true) (rest : List Char) :
    ∃ content' rest', cutAt? b.closer (content ++ b.closer ++ rest) = some (content', rest') ∧
      (Field.parse? b content').isSome = true := by
  by_cases hfirst : b.closer <:+: content ++ b.closer.dropLast
  · obtain ⟨rfl, content', rfl⟩ := eq_concat_of_closer_infix hc hfirst
    exact ⟨content', '\x7d' :: rest, cutAt?_closer_of_concat hc rest, Field.isSome_parse?_of_concat hf⟩
  · exact ⟨content, rest, cutAt?_append b.closer_ne_nil hfirst rest, hf⟩

theorem opening?_cons_of_isBlank {c : Char} (h : isBlank c = true) (r : List Char) :
    opening? (c :: r) = none := by
  unfold opening?
  split
  · next heq => cases heq; exact absurd h (by decide)
  · next heq => cases heq; exact absurd h (by decide)
  · rfl

theorem mem_cuts_of_allBlank {a r : List Char} (ha : allBlank a = true) {s : Segment}
    (h : s ∈ cuts r) : s ∈ cuts (a ++ r) := by
  induction a with
  | nil => exact h
  | cons c a ih =>
    rw [allBlank, List.all_cons, Bool.and_eq_true] at ha
    rw [List.cons_append, cuts_of_step (.char (opening?_cons_of_isBlank ha.1 _))]
    exact List.mem_cons_of_mem _ (ih ha.2)

/-- The scan finds a field in a word that is one field between blanks. -/
theorem exists_field_of_enclosed {b : Bracket} {cs content : List Char}
    (h : enclosed? b (trim cs) = some content) (hf : (Field.parse? b content).isSome = true) :
    ∃ s ∈ segments cs, s.isText = false := by
  obtain ⟨l, r, hl, -, hcs⟩ := exists_append_trim_append cs
  obtain ⟨htrim, -, hno⟩ := enclosed?_eq_some_iff.1 h
  obtain ⟨content', rest, hcut, hf'⟩ := exists_cutAt?_closer hno hf r
  obtain ⟨f, hf'⟩ := Option.isSome_iff_exists.1 hf'
  have hstep : ScanStep (trim cs ++ r) (.ofContent b content') rest := by
    refine .bracket (r := content ++ b.closer ++ r) ?_ hcut
    rw [htrim, ← opening?_opener_append]
    simp
  have hseg : Segment.ofContent b content' = .field b content' f := by
    rw [Segment.ofContent, hf']
  refine ⟨.field b content' f, ?_, rfl⟩
  rw [segments, mem_foldr_joinText_of_field rfl, ← hcs, List.append_assoc]
  apply mem_cuts_of_allBlank hl
  rw [cuts_of_step hstep, hseg]
  exact List.mem_cons_self ..

/-! ## The normal form -/

def Token.isText : Token → Bool
  | .text _ => true
  | .field _ => false

@[simp] theorem isText_token (s : Segment) : s.token.isText = s.isText := by cases s <;> rfl

theorem text_eq_token_iff {s : String} {seg : Segment} :
    seg.token = .text s ↔ seg = .text s.toList := by
  cases seg with
  | text cs =>
    simp only [Segment.token, Token.text.injEq, Segment.text.injEq]
    exact ⟨fun h => by rw [← h, String.toList_ofList], fun h => by rw [h, String.ofList_toList]⟩
  | field => simp [Segment.token]

/-- A text among the tokens of a word is the word itself or one of its segments. -/
theorem text_mem_cases {word s : String} (h : .text s ∈ tokenize word) :
    (tokenize word = [.text word] ∧ s = word) ∨
      (tokenize word = (segments word.toList).map Segment.token ∧
        .text s.toList ∈ segments word.toList) := by
  rcases tokenize_cases word with ⟨b, content, f, -, -, hw⟩ | hw | ⟨-, hw⟩
  · rw [hw] at h
    simp at h
  · rw [hw, List.mem_singleton, Token.text.injEq] at h
    exact .inl ⟨hw, h⟩
  · rw [hw, List.mem_map] at h
    obtain ⟨seg, hseg, hs⟩ := h
    exact .inr ⟨hw, text_eq_token_iff.1 hs ▸ hseg⟩

/-- A segment of a word stands behind each of its tokens, in their order, and put together they are
the word. -/
structure Segmentation (word : String) (ss : List Segment) : Prop where
  tokens : ss.map Segment.token = tokenize word
  sources : sources ss = word.toList
  wellFormed : ∀ s ∈ ss, s.IsWellFormed

theorem segmentation_text {word : String} (h : tokenize word = [.text word]) :
    Segmentation word [.text word.toList] where
  tokens := by rw [h, List.map_singleton, text_eq_token_iff.2 rfl]
  sources := List.append_nil _
  wellFormed := by rintro s (_ | ⟨_, ⟨⟩⟩); trivial

theorem segmentation_segments {word : String}
    (h : tokenize word = (segments word.toList).map Segment.token) :
    Segmentation word (segments word.toList) :=
  ⟨h.symm, sources_segments _, fun _ => isWellFormed_of_mem_segments⟩

/-- A text among the tokens of a word has itself for its only token. -/
theorem tokenize_of_text_mem {word s : String} (h : .text s ∈ tokenize word) :
    tokenize s = [.text s] := by
  rcases text_mem_cases h with ⟨hw, rfl⟩ | ⟨-, hseg⟩
  · exact hw
  · have hsegs := segments_of_text_mem hseg
    -- the scan keeps the text in one piece, and a field that is the whole of it would be found by
    -- the scan as well
    rcases tokenize_cases s with ⟨b, content, f, hc, hf, -⟩ | h' | ⟨-, h'⟩
    · obtain ⟨seg', hseg', htext⟩ := exists_field_of_enclosed hc (Option.isSome_of_eq_some hf)
      rw [hsegs, List.mem_singleton] at hseg'
      subst hseg'
      cases htext
    · exact h'
    · rw [h', hsegs, List.map_singleton, text_eq_token_iff.2 rfl]

theorem tokenize_ne_nil (word : String) : tokenize word ≠ [] := by
  rcases tokenize_cases word with ⟨b, content, f, -, -, hw⟩ | hw | ⟨hne, hw⟩
  · simp [hw]
  · simp [hw]
  · rw [hw]
    intro h
    have hsrc := sources_segments word.toList
    rw [List.map_eq_nil_iff.1 h] at hsrc
    exact hne (String.toList_eq_nil_iff.1 hsrc.symm)

theorem isChain_tokenize (word : String) :
    (tokenize word).IsChain fun t t' => ¬ (t.isText = true ∧ t'.isText = true) := by
  rcases tokenize_cases word with ⟨b, content, f, -, -, hw⟩ | hw | ⟨-, hw⟩
  · rw [hw]; exact List.isChain_singleton _
  · rw [hw]; exact List.isChain_singleton _
  · rw [hw, List.isChain_map]
    simp only [isText_token]
    exact joined_segments _

theorem eq_empty_of_text_empty_mem {word : String} (h : .text "" ∈ tokenize word) : word = "" := by
  rcases text_mem_cases h with ⟨-, hword⟩ | ⟨-, hseg⟩
  · exact hword.symm
  · exact absurd hseg (text_nil_not_mem_foldr_joinText _)

/-- Tokenizing loses nothing: the tokens of a word are one field that the whole word spells, with
blanks around it, or each of them has a source in the word, and the sources make up the word. No
two texts follow each other, an empty text comes from the empty word only, and no text holds a field:
tokenizing it again gives it back. -/
theorem tokenize_normalForm (word : String) :
    tokenize word ≠ [] ∧
    ((∃ b content f, tokenize word = [.field f] ∧
        trim word.toList = b.opener ++ content ++ b.closer ∧ Field.parse? b content = some f) ∨
      ∃ ss, Segmentation word ss) ∧
    ((tokenize word).IsChain fun t t' => ¬ (t.isText = true ∧ t'.isText = true)) ∧
    (.text "" ∈ tokenize word → word = "") ∧
    ∀ s, .text s ∈ tokenize word → tokenize s = [.text s] := by
  refine ⟨tokenize_ne_nil word, ?_, isChain_tokenize word, eq_empty_of_text_empty_mem,
    fun s => tokenize_of_text_mem⟩
  rcases tokenize_cases word with ⟨b, content, f, hc, hf, hw⟩ | hw | ⟨-, hw⟩
  · exact .inl ⟨b, content, f, hw, (enclosed?_eq_some_iff.1 hc).1, hf⟩
  · exact .inr ⟨_, segmentation_text hw⟩
  · exact .inr ⟨_, segmentation_segments hw⟩

/-- A brace too many makes a text of a word in brackets, but not of a bracket inside a word. -/
example : tokenize "\x7b\x7bx\x7d\x7d\x7d" = [.text "\x7b\x7bx\x7d\x7d\x7d"] ∧
    tokenize "-\x7b\x7bx\x7d\x7d\x7d" = [.text "-", .field ⟨"x", "", .scalar true⟩, .text "\x7d"] := by
  decide +kernel

end CommandServer.Template
