/-
Patterns of a shell: a star stands for any text, a question mark for one character, and brackets for
one of the characters in them. Quoted characters stand for themselves.
-/
import CommandServer.Files
import CommandServer.Outside.Text.CharacterClass
import CommandServer.Outside.Text.Octet

namespace CommandServer.Job

open CommandServer.Text

/-- Text of which each character is quoted or not. -/
abbrev FieldText := List (Char × Bool)

namespace FieldText

def text (f : FieldText) : String := String.ofList (f.map Prod.fst)

def ofString (quoted : Bool) (s : String) : FieldText := s.toList.map (·, quoted)

/-! ## Characters in brackets -/

/-- The named class at the start of a text behind its bracket, and what follows it. -/
def readNamed? (f : FieldText) : Option ((Char → Bool) × FieldText) :=
  match f with
  | (':', _) :: r =>
    let name := r.takeWhile fun x => x.1.isAlpha
    match r.drop name.length with
    | (':', _) :: (']', _) :: rest => (characterClasses.lookup (text name)).map (·, rest)
    | _ => none
  | _ => none

/-- The members of a class up to its bracket, as conditions, and what follows. A minus sign between
two characters stands for those between them, and a backslash only for what follows it. -/
def readClass? : Nat → Bool → FieldText → Option (List (Char → Bool) × FieldText)
  | 0, _, _ => none
  | _ + 1, _, [] => none
  | n + 1, first, (c, quoted) :: f =>
    if c = ']' ∧ !first ∧ !quoted then some ([], f)
    else
      match if c = '[' && !quoted then readNamed? f else none with
      | some (p, f) => (readClass? n false f).map fun (ps, f) => (p :: ps, f)
      | none =>
        let (a, f) := match c, f with
          | '\\', (d, _) :: r => if quoted then (c, f) else (d, r)
          | c, f => (c, f)
        match f with
        | ('-', false) :: (b, q) :: r =>
          if b = ']' ∧ !q then
            (readClass? n false f).map fun (ps, f) => ((· == a) :: ps, f)
          else (readClass? n false r).map fun (ps, f) => ((fun d => a ≤ d && d ≤ b) :: ps, f)
        | f => (readClass? n false f).map fun (ps, f) => ((· == a) :: ps, f)

/-- The class at the start of a text behind its bracket; it may be of all other characters. -/
def readBracket? (f : FieldText) : Option ((Char → Bool) × FieldText) :=
  match f with
  | (c, false) :: r =>
    if c = '!' ∨ c = '^' then
      (readClass? (r.length + 1) true r).map fun (ps, f) => ((fun d => !ps.any (· d)), f)
    else (readClass? (f.length + 1) true f).map fun (ps, f) => ((fun d => ps.any (· d)), f)
  | f => (readClass? (f.length + 1) true f).map fun (ps, f) => ((fun d => ps.any (· d)), f)

/-! ## Matching -/

/-- A text and everything that is left of it after some of its characters. -/
def suffixes : List Char → List (List Char)
  | [] => [[]]
  | c :: r => (c :: r) :: suffixes r

/-- What a pattern asks for, one item after the other. -/
inductive PatternItem where
  | any
  | one (isMember : Char → Bool)

/-- The items of a pattern. -/
def items : Nat → FieldText → List PatternItem
  | 0, _ => []
  | _ + 1, [] => []
  | n + 1, (c, quoted) :: f =>
    if quoted then .one (· == c) :: items n f
    else if c = '*' then .any :: items n f
    else if c = '?' then .one (fun _ => true) :: items n f
    else if c = '\\' then
      match f with
      | (d, _) :: f => .one (· == d) :: items n f
      | [] => [.one (· == c)]
    else match if c = '[' then readBracket? f else none with
      | some (p, f) => .one p :: items n f
      | none => .one (· == c) :: items n f

def itemsOf (f : FieldText) : List PatternItem := items (f.length + 1) f

def fits : List PatternItem → List Char → Bool
  | [], cs => cs.isEmpty
  | .any :: ps, cs => (suffixes cs).any fun r => fits ps r
  | .one p :: ps, c :: r => p c && fits ps r
  | .one _ :: _, [] => false

def matchesText (f : FieldText) (s : String) : Bool := fits (itemsOf f) s.toList

/-! ## Cutting -/

/-- The text without a start that fits a pattern, as short or as long a one as there is. -/
def cutStart (f : FieldText) (longest : Bool) (s : String) : String :=
  let ps := itemsOf f
  let cs := s.toList
  let sizes := (List.range (cs.length + 1)).filter fun k => fits ps (cs.take k)
  match if longest then sizes.getLast? else sizes.head? with
  | some k => String.ofList (cs.drop k)
  | none => s

/-- The text without an end that fits a pattern. -/
def cutEnd (f : FieldText) (longest : Bool) (s : String) : String :=
  let ps := itemsOf f
  let cs := s.toList
  let starts := (List.range (cs.length + 1)).filter fun k => fits ps (cs.drop k)
  match if longest then starts.head? else starts.getLast? with
  | some k => String.ofList (cs.take k)
  | none => s

/-! ## Names of files -/

/-- Whether a text is more than the name that it spells. -/
def isPattern : FieldText → Bool
  | [] => false
  | (c, quoted) :: f =>
    (!quoted && (c == '*' || c == '?' || (c == '[' && f.any fun x => x == (']', false)))) ||
      isPattern f

/-- The parts of a text between slashes, each slash standing with the part in front of it. -/
def segments (part : FieldText) : FieldText → List FieldText
  | [] => if part.isEmpty then [] else [part.reverse]
  | (c, quoted) :: f =>
    if c = '/' then ((c, quoted) :: part).reverse :: segments [] f
    else segments ((c, quoted) :: part) f

/-- The names that fit parts of a pattern behind a start that has been found. Names in which a dot
comes first fit only a part that starts so too. -/
def expandSegments (fs : Files) (working : Place) (start : String) : List FieldText → List String
  | [] => [start]
  | part :: rest =>
    let isLast := rest.isEmpty && part.getLast?.all fun x => x.1 != '/'
    let name := part.filter fun x => x.1 != '/'
    let slashes := String.ofList (List.replicate (part.length - name.length) '/')
    if !isPattern name then
      let next := start ++ text name ++ slashes
      match fs.find working (ofOctets next) with
      | .ok _ => expandSegments fs working next rest
      | .error _ => []
    else
      match fs.find working (if start.isEmpty then "." else ofOctets start) with
      | .ok (place, .directory) =>
        let names := ([".", ".."] ++ (fs.children place).map octets).filter fun n =>
          matchesText name n && (!n.startsWith "." || name.head?.any fun x => x.1 == '.')
        let fitting := (names.mergeSort (· ≤ ·)).filter fun n =>
          isLast || fs.isDirectory working (ofOctets (start ++ n))
        fitting.flatMap fun n => expandSegments fs working (start ++ n ++ slashes) rest
      | _ => []

/-- The names that a pattern stands for; one that fits nothing stands for itself. -/
def expand (fs : Files) (working : Place) (f : FieldText) : List String :=
  if isPattern f then
    let found := expandSegments fs working "" (segments [] f)
    if found.isEmpty then [text f] else found.mergeSort (· ≤ ·)
  else [text f]

end FieldText

end CommandServer.Job
