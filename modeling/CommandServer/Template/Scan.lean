/-
From the text of a word to its tokens. A scan from left to right cuts the word into segments that
keep their source text: a field segment is an opener, the content up to the first closer after it,
and the closer; everything else is text. Brackets whose content is no field are text, and so is all
that follows an opener without a closer.
-/
import CommandServer.Template.Field

namespace CommandServer.Template

open CommandServer.Text

/-! ## Cutting at a text -/

/-- What stands before and after the first occurrence of `pat`. -/
def cutAt? (pat : List Char) : List Char → Option (List Char × List Char)
  | [] => none
  | c :: r =>
    match pat.isPrefixOf? (c :: r) with
    | some rest => some ([], rest)
    | none => (cutAt? pat r).map fun p => (c :: p.1, p.2)

theorem isPrefixOf?_eq_some_iff {p l r : List Char} :
    p.isPrefixOf? l = some r ↔ l = p ++ r := by
  induction p generalizing l with
  | nil =>
    show some l = some r ↔ l = r
    simp
  | cons a p ih =>
    cases l with
    | nil =>
      show none = some r ↔ [] = a :: p ++ r
      simp
    | cons b l =>
      show (if a == b then p.isPrefixOf? l else none) = some r ↔ b :: l = a :: p ++ r
      by_cases h : a = b
      · simp [h, ih]
      · have hba : ¬b = a := fun e => h e.symm
        simp [h, hba]

theorem append_of_cutAt? {pat cs a b : List Char} (h : cutAt? pat cs = some (a, b)) :
    cs = a ++ pat ++ b := by
  induction cs generalizing a with
  | nil => simp [cutAt?] at h
  | cons c r ih =>
    unfold cutAt? at h
    split at h
    · next rest hp =>
      simp only [Option.some.injEq, Prod.mk.injEq] at h
      obtain ⟨rfl, rfl⟩ := h
      simpa using isPrefixOf?_eq_some_iff.1 hp
    · simp only [Option.map_eq_some_iff, Prod.mk.injEq] at h
      obtain ⟨p, hp, rfl, rfl⟩ := h
      simpa using ih hp

theorem length_of_cutAt? {pat cs a b : List Char} (h : cutAt? pat cs = some (a, b)) :
    b.length ≤ cs.length := by
  rw [append_of_cutAt? h]; simp only [List.length_append]; omega

/-! ## Segments -/

inductive Token where
  | text (s : String)
  | field (f : Field)
  deriving DecidableEq, Repr

/-- The token as people see it. -/
def Token.display : Token → String
  | .text s => s
  | .field f => f.display

def Token.field? : Token → Option Field
  | .text _ => none
  | .field f => some f

/-- A part of a word together with its source text. -/
inductive Segment where
  | text (cs : List Char)
  | field (b : Bracket) (content : List Char) (f : Field)
  deriving DecidableEq

def Segment.source : Segment → List Char
  | .text cs => cs
  | .field b content _ => b.opener ++ content ++ b.closer

def Segment.token : Segment → Token
  | .text cs => .text (String.ofList cs)
  | .field _ _ f => .field f

/-- The segment of a bracket and its content: text when the content is no field. -/
def Segment.ofContent (b : Bracket) (content : List Char) : Segment :=
  match Field.parse? b content with
  | some f => .field b content f
  | none => .text (b.opener ++ content ++ b.closer)

/-- The bracket that opens at the start of a text, with what follows the opener. -/
def opening? : List Char → Option (Bracket × List Char)
  | '\x7b' :: '\x7b' :: r => some (.braces, r)
  | '[' :: r => some (.squares, r)
  | _ => none

theorem append_of_opening? {cs r : List Char} {b : Bracket} (h : opening? cs = some (b, r)) :
    cs = b.opener ++ r := by
  unfold opening? at h
  split at h
  · simp only [Option.some.injEq, Prod.mk.injEq] at h
    obtain ⟨rfl, rfl⟩ := h; rfl
  · simp only [Option.some.injEq, Prod.mk.injEq] at h
    obtain ⟨rfl, rfl⟩ := h; rfl
  · simp at h

theorem length_of_opening? {cs r : List Char} {b : Bracket} (h : opening? cs = some (b, r)) :
    r.length < cs.length := by
  rw [append_of_opening? h, List.length_append]
  cases b <;> simp only [Bracket.opener, List.length_cons, List.length_nil] <;> omega

/-- The segments of a word from left to right; neighbouring texts are still apart. -/
def cuts (cs : List Char) : List Segment :=
  match h : opening? cs with
  | some (b, r) =>
    match h' : cutAt? b.closer r with
    | some (content, rest) =>
      have : rest.length < cs.length :=
        Nat.lt_of_le_of_lt (length_of_cutAt? h') (length_of_opening? h)
      Segment.ofContent b content :: cuts rest
    | none => [.text cs]
  | none =>
    match cs with
    | [] => []
    | c :: r => .text [c] :: cuts r
termination_by cs.length

/-- Puts a segment in front, joined with a text that follows a text; an empty text is dropped. -/
def joinText : Segment → List Segment → List Segment
  | .text [], ss => ss
  | .text a, .text b :: ss => .text (a ++ b) :: ss
  | s, ss => s :: ss

/-- The segments of a word, no two texts next to each other and no text empty. -/
def segments (cs : List Char) : List Segment :=
  (cuts cs).foldr joinText []

/-! ## Tokens -/

/-- The tokens of the segments; the empty word is one empty text. -/
def scanTokens (word : List Char) : List Token :=
  match (segments word).map Segment.token with
  | [] => [.text (String.ofList word)]
  | ts => ts

/-- The content of a text that is one bracket from end to end, with no bracket of its kind
inside. -/
def enclosed? (b : Bracket) (cs : List Char) : Option (List Char) := do
  let r ← b.opener.isPrefixOf? cs
  let content ← b.closer.isSuffixOf? r
  if (cutAt? b.opener content).isSome || (cutAt? b.closer content).isSome then none
  else some content

/-- The token of a word that is one bracket apart from blanks around it. Blanks are dropped around
a field and kept in a text. -/
def wholeToken? (word : List Char) : Option Token :=
  [Bracket.braces, Bracket.squares].findSome? fun b =>
    (enclosed? b (trim word)).map fun content =>
      match Field.parse? b content with
      | some f => .field f
      | none => .text (String.ofList word)

/-- The tokens of a word, at least one. -/
def tokenize (word : String) : List Token :=
  match wholeToken? word.toList with
  | some t => [t]
  | none => scanTokens word.toList

end CommandServer.Template
