/-
Reading scripts: words with the commands inside of them, and commands by the rules of the language.
Every call takes one unit of fuel, of which there is enough for the length of a text.
-/
import CommandServer.Outside.Job.Script.Source

namespace CommandServer.Job

open CommandServer.Text

namespace Script

open Source

/-- What ends a text in which quotation marks do not start a quotation of their own. -/
inductive Ending where
  | mark
  | brace
  | brackets
  | nothing
  deriving DecidableEq

/-- The names of the language. -/
def keywords : List String :=
  ["!", "\x7b", "\x7d", "case", "do", "done", "elif", "else", "esac", "fi", "for", "if", "in",
    "then", "until", "while"]

/-- The words and signs before which a list of commands ends. -/
def closers : List String :=
  ["then", "else", "elif", "fi", "do", "done", "esac", "\x7d", ")", ";;"]

/-- Commands that no function may be named for. -/
def specialCommands : List String :=
  [".", ":", "break", "continue", "eval", "exec", "exit", "export", "local", "readonly", "return",
    "set", "shift", "times", "trap", "unset"]

/-- The name of the language that a token is. -/
def keyword? : ScriptToken → Option String
  | .word w => Word.plain? w
  | .operator s => some s
  | _ => none

def described : ScriptToken → String
  | .finish => "end of file"
  | .operator "\n" => "newline"
  | .operator s => "\"" ++ s ++ "\""
  | .redirect .. => "redirection"
  | .word w => match Word.plain? w with
    | some s => if keywords.contains s then "\"" ++ s ++ "\"" else "word"
    | none => "word"

/-- Fails at a token that may not stand here, where something else may be wanted. -/
def refuse {α : Type} (t : ScriptToken) (wanted : Option String) : Reader α :=
  fail (.unexpected (described t) wanted)

/-- A literal part of one character. -/
def literal (c : Char) (quoted : Bool) : WordPart := .literal (String.ofList [c]) quoted

def giveBack (t : ScriptToken) : Reader Unit := modify fun s => { s with ahead := some t }

/-- The use of a parameter that a sign behind its name asks for, what the sign is made of, and
whether a word follows. -/
def useOf (cs : List Char) : ParameterUse × Nat × Bool :=
  let (orEmpty, colon, rest) := match cs with
    | ':' :: r => (true, 1, r)
    | r => (false, 0, r)
  match rest with
  | '\x7d' :: _ => (.value, colon + 1, false)
  | '-' :: _ => (.fallback orEmpty, colon + 1, true)
  | '=' :: _ => (.assignment orEmpty, colon + 1, true)
  | '+' :: _ => (.alternative orEmpty, colon + 1, true)
  | '?' :: _ => (.demand orEmpty, colon + 1, true)
  | '#' :: '#' :: _ => if orEmpty then (.unknown, colon, true) else (.cutStart true, 2, true)
  | '#' :: _ => if orEmpty then (.unknown, colon, true) else (.cutStart false, 1, true)
  | '%' :: '%' :: _ => if orEmpty then (.unknown, colon, true) else (.cutEnd true, 2, true)
  | '%' :: _ => if orEmpty then (.unknown, colon, true) else (.cutEnd false, 1, true)
  | _ => (.unknown, colon, true)

/-- The name of a parameter at the start of a text in braces; none if there is none. -/
def braceName (cs : List Char) : List Char :=
  match cs with
  | [] => []
  | c :: _ =>
    if Word.isNameStart c then cs.takeWhile Word.isNamePart
    else if c.isDigit then cs.takeWhile Char.isDigit
    else if isSpecial c then [c]
    else []

/-- Whether a text in braces asks for the length of a parameter. -/
def asksLength (cs : List Char) : Bool :=
  match cs with
  | '#' :: c :: d => Word.isNamePart c || (isSpecial c && d.head? == some '\x7d')
  | _ => false

/-- The parts of a command without keywords, as they are being collected. -/
structure SimpleParts where
  assignments : List (String × Word) := []
  words : List Word := []
  redirects : List Redirect := []

def SimpleParts.isEmpty (p : SimpleParts) : Bool :=
  p.assignments.isEmpty && p.words.isEmpty && p.redirects.isEmpty

/-- The command that has been collected in front of a token. -/
def SimpleParts.finish (line : Nat) (t : ScriptToken) (p : SimpleParts) : Reader Command := do
  giveBack t
  return .simple line p.assignments p.words p.redirects

/-! ## Words and commands -/

mutual

/-- What a dollar sign introduces, the sign itself being behind. -/
def readDollar : Nat → Bool → Reader WordPart
  | 0, _ => fail .brace
  | n + 1, quoted => do
    match ← chars' with
    | '(' :: '(' :: _ =>
      drop 2
      return .arithmetic (← readDouble n .brackets 0 false) quoted
    | '(' :: _ =>
      drop 1
      let body ← readList n true
      expect n ")"
      return .output body quoted
    | '\x7b' :: _ =>
      drop 1
      readBraced n quoted
    | c :: r =>
      if Word.isNameStart c then
        let name := (c :: r).takeWhile Word.isNamePart
        drop name.length
        return .parameter (String.ofList name) .value [] quoted
      else if isSpecial c then
        drop 1
        return .parameter (String.ofList [c]) .value [] quoted
      else return .literal "$" quoted
    | [] => return .literal "$" quoted

/-- A parameter in braces, the first of which is behind. -/
def readBraced : Nat → Bool → Reader WordPart
  | 0, _ => fail .brace
  | n + 1, quoted => do
    let cs ← chars'
    if asksLength cs then
      let name := braceName cs.tail
      drop (1 + name.length)
      let proper := (← chars').head? == some '\x7d'
      let _ ← readPlain n true
      return .parameter (String.ofList name) (if proper then .length else .unknown) [] quoted
    else
      let name := braceName cs
      drop name.length
      let (use, width, more) :=
        if name.isEmpty then (.unknown, 0, true) else useOf (cs.drop name.length)
      drop width
      if !more then return .parameter (String.ofList name) use [] quoted
      let cuts := match use with
        | .cutStart _ | .cutEnd _ => true
        | _ => false
      let word ← if quoted && !cuts then readDouble n .brace 0 false else readPlain n true
      return .parameter (String.ofList name) use word quoted

/-- The output of the command in backquotes, the first of which is behind. -/
def readBackquoted : Nat → Bool → Reader WordPart
  | 0, _ => fail .backquote
  | n + 1, quoted => do
    let text ← takeBackquoted quoted
    let s ← get
    set { s with chars := text, line := 1, skipped := 0, ahead := none }
    let body ← readList n true
    set s
    return .output body quoted

/-- The parts of a text in which only a dollar sign, a backquote and a backslash count, up to what
ends it. In braces quotation marks are left out, and a brace between them does not end the text; in
arithmetic the brackets inside are counted. -/
def readDouble : Nat → Ending → Nat → Bool → Reader Word
  | 0, _, _, _ => fail .quotation
  | n + 1, ending, depth, inner => do
    match ← chars' with
    | [] =>
      match ending with
      | .mark => fail .quotation
      | .brace => fail (if inner then .quotation else .brace)
      | .brackets => fail .arithmetic
      | .nothing => return []
    | c :: r =>
      if c = doubleQuote ∧ ending = .mark then
        drop 1
        return []
      else if c = doubleQuote ∧ ending = .brace then
        drop 1
        readDouble n ending depth (!inner)
      else if c = '\x7d' ∧ ending = .brace ∧ inner = false then
        drop 1
        return []
      else if c = ')' ∧ ending = .brackets ∧ depth = 0 ∧ r.head? = some ')' then
        drop 2
        return []
      else if c = '\\' then
        drop 1
        match r with
        | [] => return [.literal "\\" true]
        | d :: _ =>
          dropAny d
          let keeps := d = '$' ∨ d = '\x60' ∨ d = '\\' ∨
            (d = doubleQuote ∧ (ending = .mark ∨ ending = .brace)) ∨ (d = '\x7d' ∧ ending = .brace)
          let kept := if d = '\n' then [] else if keeps then [d] else ['\\', d]
          return .literal (String.ofList kept) true :: (← readDouble n ending depth inner)
      else if c = '$' then
        drop 1
        let part ← readDollar n true
        return part :: (← readDouble n ending depth inner)
      else if c = '\x60' then
        drop 1
        let part ← readBackquoted n true
        return part :: (← readDouble n ending depth inner)
      else
        dropAny c
        let depth := if c = '(' then depth + 1 else if c = ')' then depth - 1 else depth
        return literal c true :: (← readDouble n ending depth inner)

/-- A word up to a character that ends one, or up to the brace that ends the word of a parameter. -/
def readPlain : Nat → Bool → Reader Word
  | 0, _ => fail .quotation
  | n + 1, inBrace => do
    match ← chars' with
    | [] => if inBrace then fail .brace else return []
    | c :: r =>
      if inBrace && c = '\x7d' then
        drop 1
        return []
      else if !inBrace && isDelimiter c then return []
      else if c = apostrophe then
        drop 1
        let text ← takeSingle
        return .literal text true :: (← readPlain n inBrace)
      else if c = doubleQuote then
        drop 1
        let inner ← readDouble n .mark 0 false
        return .literal "" true :: inner ++ (← readPlain n inBrace)
      else if c = '\\' then
        drop 1
        match r with
        | [] => return [.literal "\\" true]
        | d :: _ =>
          dropAny d
          let rest ← readPlain n inBrace
          return if d = '\n' then rest else literal d true :: rest
      else if c = '$' then
        drop 1
        let part ← readDollar n false
        return part :: (← readPlain n inBrace)
      else if c = '\x60' then
        drop 1
        let part ← readBackquoted n false
        return part :: (← readPlain n inBrace)
      else
        dropAny c
        return literal c false :: (← readPlain n inBrace)

/-- The next token. -/
def next : Nat → Reader ScriptToken
  | 0 => return .finish
  | n + 1 => do
    let s ← get
    match s.ahead with
    | some t =>
      set { s with ahead := none }
      return t
    | none =>
      dropBlanks (s.chars.length + 1)
      let cs ← chars'
      match cs with
      | [] => return .finish
      | '\n' :: _ =>
        dropLineEnd
        return .operator "\n"
      | _ =>
        match operator? cs with
        | some (t, k) =>
          drop k
          return t
        | none =>
          match redirect? cs with
          | some (t, k) =>
            drop k
            return t
          | none => return .word (← readPlain n false)

/-- The next token that ends no line. -/
def nextBeyondLines : Nat → Reader ScriptToken
  | 0 => return .finish
  | n + 1 => do
    match ← next n with
    | .operator "\n" => nextBeyondLines n
    | t => return t

/-- Takes the name that must stand here; line ends in front of it may be passed over. -/
def expect : Nat → String → Reader Unit
  | 0, _ => fail .brace
  | n + 1, name => do
    let t ← next n
    if keyword? t ≠ some name then refuse t (some name)

def expectBeyondLines : Nat → String → Reader Unit
  | 0, _ => fail .brace
  | n + 1, name => do
    let t ← nextBeyondLines n
    if keyword? t ≠ some name then refuse t (some name)

/-- The next token where a command may start: a word that is an alias gives way to its text. -/
def nextCommandToken : Nat → Reader ScriptToken
  | 0 => return .finish
  | n + 1 => do
    let t ← next n
    let s ← get
    match t with
    | .word w =>
      match (Word.plain? w).bind fun name => (s.aliases.lookup name).map (name, ·) with
      | some (name, text) =>
        let busy := s.busy.any fun (other, left) => other = name && left < s.chars.length
        if busy then return t
        else
          set { s with
            chars := text.toList ++ s.chars, busy := (name, s.chars.length) :: s.busy }
          nextCommandToken n
      | none => return t
    | t => return t

/-- A redirection whose sign is behind. -/
def readRedirect : Nat → Nat → RedirectKind → Bool → Reader Redirect
  | 0, _, _, _ => fail .descriptor
  | n + 1, descriptor, kind, strips => do
    if kind = .here then
      dropBlanks ((← chars').length + 1)
      let cs ← chars'
      if cs.head?.all isDelimiter then refuse (← next n) none
      let line := (← get).line + 1 + (← get).skipped
      let (body, quoted) ← takeBody strips
      if quoted then return ⟨descriptor, kind, [.literal (String.ofList body) true]⟩
      let s ← get
      set { s with chars := body, line, skipped := 0 }
      let w ← readDouble n .nothing 0 false
      set s
      return ⟨descriptor, kind, w⟩
    else match ← next n with
      | .word w =>
        if kind = .duplicate then
          match Word.plain? w with
          | some s =>
            if s = "-" ∨ (s.length = 1 ∧ s.toList.all Char.isDigit) then
              return ⟨descriptor, kind, w⟩
            else fail .descriptor
          | none => return ⟨descriptor, kind, w⟩
        else return ⟨descriptor, kind, w⟩
      | t => refuse t none

/-- The redirections behind a command. -/
def readRedirects : Nat → Reader (List Redirect)
  | 0 => return []
  | n + 1 => do
    match ← next n with
    | .redirect d k strips =>
      let r ← readRedirect n d k strips
      return r :: (← readRedirects n)
    | t =>
      giveBack t
      return []

/-- Commands one after the other, up to what closes them, which may stand there at once where that
is allowed. -/
def readList : Nat → Bool → Reader Command
  | 0, _ => return .sequence []
  | n + 1, mayBeEmpty => do
    let t ← nextBeyondLines n
    giveBack t
    if t matches .finish then return .sequence []
    if mayBeEmpty && (keyword? t).any closers.contains then return .sequence []
    let c ← readConditional n
    match ← next n with
    | .operator ";" => return .sequence [c, ← readList n true]
    | .operator "\n" => return .sequence [c, ← readList n true]
    | .operator "&" => return .sequence [.background c, ← readList n true]
    | t =>
      giveBack t
      return c

/-- Commands that run according to the success of those before them. -/
def readConditional : Nat → Reader Command
  | 0 => return .sequence []
  | n + 1 => do readConditionalRest n (← readPipeline n)

def readConditionalRest : Nat → Command → Reader Command
  | 0, c => return c
  | n + 1, c => do
    match ← next n with
    | .operator "&&" =>
      giveBack (← nextBeyondLines n)
      readConditionalRest n (.both c (← readPipeline n))
    | .operator "||" =>
      giveBack (← nextBeyondLines n)
      readConditionalRest n (.either c (← readPipeline n))
    | t =>
      giveBack t
      return c

def readPipeline : Nat → Reader Command
  | 0 => return .sequence []
  | n + 1 => do
    let t ← next n
    let negated := keyword? t == some "!"
    unless negated do giveBack t
    let c ← readCommand n
    let parts ← readPipelineRest n
    return if parts.isEmpty && !negated then c else .pipeline negated (c :: parts)

def readPipelineRest : Nat → Reader (List Command)
  | 0 => return []
  | n + 1 => do
    match ← next n with
    | .operator "|" =>
      giveBack (← nextBeyondLines n)
      let c ← readCommand n
      return c :: (← readPipelineRest n)
    | t =>
      giveBack t
      return []

def readCommand : Nat → Reader Command
  | 0 => return .sequence []
  | n + 1 => do
    let t ← nextCommandToken n
    let line := (← get).line
    match keyword? t with
    | some "\x7b" =>
      let body ← readList n false
      expect n "\x7d"
      return .group line body (← readRedirects n)
    | some "(" =>
      let body ← readList n false
      expect n ")"
      return .subshell line body (← readRedirects n)
    | some "if" =>
      let c ← readBranch n
      return .group line c (← readRedirects n)
    | some "while" => readLoop n line false
    | some "until" => readLoop n line true
    | some "for" => readForEach n
    | some "case" => readChoice n
    | some s =>
      if closers.contains s ∨ s = "in" ∨ s = "!" then refuse t none
      else
        giveBack t
        readSimple n line {}
    | none =>
      giveBack t
      readSimple n line {}

/-- A loop over words, the first word of the command being behind. -/
def readForEach : Nat → Reader Command
  | 0 => return .sequence []
  | n + 1 => do
    let line := (← get).line
    let .word w ← next n | fail .loopVariable
    let some name := Word.name? w | fail .loopVariable
    let t ← nextBeyondLines n
    let items ← if keyword? t = some "in" then readItems n
      else
        if keyword? t ≠ some ";" then giveBack t
        pure [[.literal "" true, .parameter "@" .value [] true]]
    expectBeyondLines n "do"
    let body ← readList n false
    expect n "done"
    return .group line (.forEach line name items body) (← readRedirects n)

/-- The words of a loop, up to the end of a line or a semicolon. -/
def readItems : Nat → Reader (List Word)
  | 0 => return []
  | n + 1 => do
    match ← next n with
    | .word w => return w :: (← readItems n)
    | .operator "\n" | .operator ";" => return []
    | t => refuse t none

def readChoice : Nat → Reader Command
  | 0 => return .sequence []
  | n + 1 => do
    let t ← next n
    let line := (← get).line
    let .word subject := t | refuse t (some "word")
    expectBeyondLines n "in"
    let arms ← readArms n
    return .group line (.choose line subject arms) (← readRedirects n)

/-- The arms of a choice, up to its end. -/
def readArms : Nat → Reader (List (List Word × Command))
  | 0 => return []
  | n + 1 => do
    let t ← nextBeyondLines n
    if keyword? t = some "esac" then return []
    let t ← if keyword? t = some "(" then next n else pure t
    let patterns ← readPatterns n t
    let body ← readList n true
    let t ← nextBeyondLines n
    if keyword? t = some "esac" then return [(patterns, body)]
    if keyword? t ≠ some ";;" then refuse t (some ";;")
    return (patterns, body) :: (← readArms n)

/-- The patterns of an arm, of which one has been taken, with strokes between them. -/
def readPatterns : Nat → ScriptToken → Reader (List Word)
  | 0, _ => return []
  | n + 1, t => do
    let w := match t with
      | .word w => w
      | _ => []
    match ← next n with
    | .operator "|" => return w :: (← readPatterns n (← next n))
    | .operator ")" => return [w]
    | t => refuse t (some ")")

/-- A command without keywords: assignments, words and redirections. -/
def readSimple : Nat → Nat → SimpleParts → Reader Command
  | 0, _, _ => return .sequence []
  | n + 1, line, p => do
    let t ← if p.words.isEmpty && !p.isEmpty then nextCommandToken n else next n
    match t with
    | .redirect d k strips =>
      let r ← readRedirect n d k strips
      readSimple n line { p with redirects := p.redirects ++ [r] }
    | .word w =>
      match if p.words.isEmpty then Word.assignment? w else none with
      | some a => readSimple n line { p with assignments := p.assignments ++ [a] }
      | none => readSimple n line { p with words := p.words ++ [w] }
    | .operator "(" =>
      match p.words, p.assignments, p.redirects with
      | [w], [], [] => do
        expect n ")"
        match Word.name? w with
        | some name =>
          if specialCommands.contains name then fail .functionName
          giveBack (← nextBeyondLines n)
          return .define name (← readCommand n)
        | none => fail .functionName
      | _, _, _ => if p.isEmpty then refuse t none else p.finish line t
    | t => if p.isEmpty then refuse t none else p.finish line t

/-- The parts of a branch behind its first word. -/
def readBranch : Nat → Reader Command
  | 0 => return .sequence []
  | n + 1 => do
    let condition ← readList n false
    expect n "then"
    let body ← readList n false
    let t ← next n
    match keyword? t with
    | some "elif" => return .branch condition body (← readBranch n)
    | some "else" =>
      let otherwise ← readList n false
      expect n "fi"
      return .branch condition body otherwise
    | _ =>
      giveBack t
      expect n "fi"
      return .branch condition body (.sequence [])

def readLoop : Nat → Nat → Bool → Reader Command
  | 0, _, _ => return .sequence []
  | n + 1, line, whileFalse => do
    let condition ← readList n false
    expect n "do"
    let body ← readList n false
    expect n "done"
    return .group line (.loop whileFalse condition body) (← readRedirects n)

end

/-! ## Lines -/

/-- The commands up to the end of a line. -/
def readLine (fuel : Nat) : Nat → Reader Command
  | 0 => return .sequence []
  | n + 1 => do
    let c ← readConditional fuel
    match ← next fuel with
    | .finish | .operator "\n" => return c
    | .operator s =>
      if s ≠ ";" ∧ s ≠ "&" then refuse (.operator s) none
      let c := if s = "&" then .background c else c
      match ← next fuel with
      | .finish | .operator "\n" => return c
      | t =>
        giveBack t
        return .sequence [c, ← readLine fuel n]
    | t => refuse t none

/-- The next commands of a script, which run before those after them are read. -/
def next? : Reader (Option Command) := do
  let fuel := 16 * ((← chars').length + 2)
  match ← nextBeyondLines fuel with
  | .finish => return none
  | t =>
    giveBack t
    return some (← readLine fuel fuel)

end Script

end CommandServer.Job
