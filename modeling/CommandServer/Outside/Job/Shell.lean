/-
Running programs: those that every machine has, and the shell, which runs scripts. Every call of a
program or a command takes one unit of fuel; a run that uses up all of it counts as one that does
not end.
-/
import CommandServer.Outside.Job.Shell.Builtin
import CommandServer.Outside.Job.Shell.Expansion

namespace CommandServer.Job.Shell

open CommandServer.Text

/-- How often functions may call one another before a shell gives up. -/
def maxCalls : Nat := 1000

/-- The time after which a command beside the shell begins to run, and that which a program takes to
start. -/
def backgroundDelay : Nat := 500

def programDelay : Nat := 1000

/-- The output of commands that ran side by side stays behind; what went into a pipe is taken. -/
def takePipe (k : Nat) (s : Shell) : List UInt8 × Shell :=
  (bytesIn (.pipe k) s.output, { s with output := s.output.filter (·.sink != .pipe k) })

/-- The source of a script that a text is. -/
def sourceOf (text : String) : Source := { chars := text.toList }

/-- The source of a script in a file. -/
def sourceOfBytes (bytes : List UInt8) : Source := { chars := charsOfBytes bytes, isFile := true }

/-- Shows the lines of a file that have been read, if the shell is set up so. -/
def showLines (before after : Source) (s : Shell) : Shell :=
  if before.isFile && s.has 'v' then
    let count := before.chars.length - after.chars.length
    s.emit (s.target 2) (bytesOfChars (before.chars.take count))
  else s

/-- Remembers where output went when a command beside the shell began, once it is known. -/
def hold (s : Shell) : Shell :=
  if s.isFresh then { s with held := s.sinks, isFresh := false } else s

mutual

/-- Runs a program with its arguments. -/
def runProgram : Nat → String → List String → Context → Report
  | 0, _, _, c => { Report.ofChunks c 1 [] with micros := endless }
  | n + 1, program, argv, c =>
    if shellNames.contains program then runShell n program argv c
    else if program = "env" then runEnv n argv.tail c
    else match Utility.table.lookup program with
      | some behaviour => behaviour argv c
      | none => .ofChunks c 0 []

/-- Runs what has been found for a shell, which takes a script that asks for no program to be one of
its own. -/
def runFound : Nat → FoundProgram → List String → Context → Except StartError Report
  | 0, _, _, c => .ok { Report.ofChunks c 1 [] with micros := endless }
  | n + 1, found, argv, c =>
    match resolve c.files c.working maxInterpreters found argv with
    | .ok (program, argv) => .ok (runProgram n program argv c)
    | .error .format => .ok (runShell n "sh" ("/bin/sh" :: found.file :: argv.tail) c)
    | .error e => .error e

/-- Runs a program by its name with assignments put over the environment. -/
def runEnv : Nat → List String → Context → Report
  | 0, _, c => { Report.ofChunks c 1 [] with micros := endless }
  | n + 1, args, c =>
    match args with
    | [] => .ofText c (Utility.environmentLines c.environment)
    | "-i" :: args => runEnv n args { c with environment := .empty }
    | "-u" :: name :: args =>
      runEnv n args { c with environment := c.environment.filter fun k _ => k != name }
    | a :: args =>
      match splitAssignment a with
      | (name, some value) => runEnv n args { c with environment := c.environment.put name value }
      | (_, none) =>
        let search := (c.environment.get? "PATH").getD defaultSearch
        match startFor c.files c.working search (a :: args) with
        | .ok (program, argv) => runProgram n program argv c
        | .error e =>
          let (status, text) := startFailure .program (if e = .directory then .denied else e)
          .complaint c status "env" (quotedWord a ++ ": " ++ text)

/-- Runs a shell: a script given as text or in a file, or as input. -/
def runShell : Nat → String → List String → Context → Report
  | 0, _, _, c => { Report.ofChunks c 1 [] with micros := endless }
  | n + 1, program, argv, c =>
    let name := argv.headD program
    let start := ofContext c program name []
    let refuse (status : Int) (message : String) : Report :=
      .complaint c status (name ++ ": 0") message
    match readSettings true (argv.tail.map octets) start with
    | .error message => refuse 2 (ofOctets message)
    | .ok (args, _, s) =>
      let hasScript := s.has 'c'
      let s := (s.setOption false 'l').setOption false 'c'
      let s := if s.has 'i' then s.setOption true 'm' else s
      let s := s.withoutTerminal (complainAt 0)
      let named (name : String) (arguments : List String) (s : Shell) : Shell :=
        { s with name, arguments, errorStart := name ++ start.errorStart.drop start.name.length }
      if hasScript then
        match args with
        | [] => refuse 2 "-c requires an argument"
        | script :: rest =>
          (runWhole n (sourceOf script) (named (rest.headD start.name) rest.tail s)).report
      else if args.isEmpty || s.has 's' then
        let s := (s.setOption true 's').dropInput 0 c.input.length
        { (runWhole n (sourceOfBytes c.input) { s with arguments := args }).report with
          consumed := c.input.length }
      else
        let file := args.headD ""
        match c.files.read c.working (ofOctets file), start.dialect with
        | .ok bytes, _ => (runWhole n (sourceOfBytes bytes) (named file args.tail s)).report
        | .error .isADirectory, .shell => .ofChunks c 0 []
        | .error o, .shell => refuse 2 (ofOctets (openRefusal file o))
        | .error .isADirectory, .program =>
          .complaint c 126 (ofOctets file) (ofOctets file ++ ": Is a directory")
        | .error o, .program =>
          .complaint c 127 name (ofOctets file ++ ": " ++ obstacleText o)

/-- Runs what is left of a script, the commands of each line before the next one is read. -/
def runSource : Nat → Source → Shell → Shell
  | 0, _, s => s.exhaust
  | n + 1, source, s =>
    if s.isHalted then s
    else match Script.next?.run { source with aliases := s.aliases } with
      | .ok (none, rest) => s.showLines source rest
      | .ok (some c, rest) => runSource n rest (runCommand n c (s.showLines source rest))
      | .error e => (s.complainAt e.line (s.reader ++ e.fault.message)).exit 2

/-- Runs the action for the end of a shell. -/
def runLast : Nat → Shell → Shell
  | 0, s => s.exhaust
  | n + 1, s =>
    match if s.signal.isSome then none else s.traps.lookup 0 with
    | some action =>
      let last := { s with
        ended := false, jump := none, traps := s.traps.filter (·.1 != 0), loops := 0, calls := 0
        scripts := 0, tested := false, savedStatus := some s.status }
      let after := runSource n (sourceOf action) last
      if after.ended then after else after.setStatus s.status
    | none => s

/-- Runs a script to its end. -/
def runWhole : Nat → Source → Shell → Shell
  | 0, _, s => s.exhaust
  | n + 1, source, s =>
    let s := runLast n (runSource n source s)
    s.setStatus (s.status % 256)

/-- Runs the actions for the signals that have come. -/
def runPending : Nat → Shell → Shell
  | 0, s => s.exhaust
  | n + 1, s =>
    if s.ended then s
    else match s.pending.mergeSort (· ≤ ·) with
      | [] => s
      | k :: rest =>
        let action := (s.traps.lookup k).getD ""
        let before := { s with
          pending := rest, tested := false, savedStatus := some s.status, jump := none }
        let after := runSource n (sourceOf action) before
        let after := { after with
          tested := s.tested, line := s.line, savedStatus := s.savedStatus
          jump := after.jump.or s.jump }
        runPending n (if after.ended then after else after.setStatus s.status)

/-- Runs a command in a child of the shell. -/
def runChild : Nat → Command → Shell → Shell
  | 0, _, s => s.exhaust
  | n + 1, c, s =>
    let s := runLast n { runCommand n c s with jump := none }
    s.setStatus (s.status % 256)

/-- The output of a command as the text of a word. -/
def outputOf : Nat → Command → Shell → String × Shell
  | 0, _, s => ("", s.exhaust)
  | n + 1, body, s =>
    let k := s.pipes
    let child := ({ s.child with pipes := k + 1, tested := false }).setTarget 1 (.sink (.pipe k))
    let child := runChild n body child
    let child := { child with micros := child.lastTime (· == .pipe k) }
    let (bytes, child) := takePipe k child
    let text := withoutLastBreaks (String.ofList (charsOfBytes (bytes.filter (· != 0))))
    (text, { s.afterChild child with lastOutput := child.childStatus })

/-- The pieces that take the place of a parameter. -/
def expandParameter : Nat → String → ParameterUse → Word → Bool → Shell → List FieldItem × Shell
  | 0, _, _, _, _, s => ([], s.exhaust)
  | n + 1, name, use, word, quoted, s =>
    let value := s.value? name
    let items (text : String) : List FieldItem := FieldItem.ofText quoted (!quoted) text
    let isSet (orEmpty : Bool) : Bool := value.isSome && !(orEmpty && value == some "")
    let refuse (message : String) (s : Shell) : List FieldItem × Shell :=
      ([], s.fail (name ++ ": " ++ message))
    let word := if quoted then word else s.expandTildes false word
    let isMissing := s.has 'u' && value.isNone && !isList name
    let given := s.valueItems name quoted
    match use with
    | .value => if isMissing then refuse "parameter not set" s else (given, s)
    | .length =>
      if isMissing then refuse "parameter not set" s
      else (items (integerText (value.getD "").length), s)
    | .fallback orEmpty => if isSet orEmpty then (given, s) else expandItems n (!quoted) word s
    | .alternative orEmpty => if isSet orEmpty then expandItems n (!quoted) word s else ([], s)
    | .assignment orEmpty =>
      if isSet orEmpty then (given, s)
      else if !Word.isName name then refuse "bad variable name" s
      else
        let (text, s) := textOf n word s
        (items text, if s.ended then s else s.assign name text)
    | .demand orEmpty =>
      if isSet orEmpty then (given, s)
      else if word.isEmpty then
        refuse (if orEmpty then "parameter not set or null" else "parameter not set") s
      else
        let (text, s) := textOf n word s
        if s.ended then ([], s) else refuse text s
    | .cutStart longest =>
      if isMissing then refuse "parameter not set" s
      else
        let (pattern, s) := patternOf n word s
        (items (pattern.cutStart longest (value.getD "")), s)
    | .cutEnd longest =>
      if isMissing then refuse "parameter not set" s
      else
        let (pattern, s) := patternOf n word s
        (items (pattern.cutEnd longest (value.getD "")), s)
    | .unknown => ([], s.fail "Bad substitution")

/-- The pieces of a word. The flag says whether what is not quoted in it may separate fields. -/
def expandItems : Nat → Bool → Word → Shell → List FieldItem × Shell
  | 0, _, _, s => ([], s.exhaust)
  | n + 1, splits, w, s =>
    let (front, rest) := literalItems splits (s.withoutIdleMark w)
    if s.ended then ([], s)
    else match rest with
      | [] => (front, s)
      | part :: rest =>
        let (items, s) := match part with
          | .literal text quoted => (FieldItem.ofText quoted (splits && !quoted) text, s)
          | .parameter name use word quoted => expandParameter n name use word quoted s
          | .output body quoted =>
            let (text, s) := outputOf n body s
            (FieldItem.ofText quoted (!quoted) text, s)
          | .arithmetic expression quoted =>
            let (text, s) := textOf n expression s
            if s.ended then ([], s)
            else match s.calculate text with
              | .ok (k, s) => (FieldItem.ofText quoted (!quoted) (integerText k), s)
              | .error message => ([], s.fail message)
        let (more, s) := expandItems n splits rest s
        (front ++ items ++ more, s)

/-- The text of a word that stays in one piece, with what is quoted in it. -/
def patternOf : Nat → Word → Shell → FieldText × Shell
  | 0, _, s => ([], s.exhaust)
  | n + 1, w, s =>
    let (items, s) := expandItems n false w s
    (FieldItem.joined s.joint items, s)

def textOf : Nat → Word → Shell → String × Shell
  | 0, _, s => ("", s.exhaust)
  | n + 1, w, s =>
    let (f, s) := patternOf n w s
    (f.text, s)

/-- The fields of a word, names of files put in for patterns. -/
def expandWord : Nat → Word → Shell → List String × Shell
  | 0, _, s => ([], s.exhaust)
  | n + 1, w, s =>
    let (items, s) := expandItems n false (s.expandTildes false w) s
    let fields := fieldsOf s.separators items
    if s.ended then ([], s)
    else if s.has 'f' then (fields.map FieldText.text, s)
    else (fields.flatMap fun f => f.expand s.files s.working, s)

/-- The fields of the words of a loop. -/
def expandWords : Nat → List Word → Shell → List String × Shell
  | 0, _, s => ([], s.exhaust)
  | _ + 1, [], s => ([], s)
  | n + 1, w :: ws, s =>
    let (here, s) := expandWord n w s
    let (more, s) := expandWords n ws s
    (here ++ more, s)

/-- The fields of the words of a command, behind those that there are already. -/
def expandCommand : Nat → List Word → List String → Shell → List String × Shell
  | 0, _, fields, s => (fields, s.exhaust)
  | _ + 1, [], fields, s => (fields, s)
  | n + 1, w :: ws, fields, s =>
    let (here, s) :=
      if takesAssignments fields && (Word.assignment? w).isSome then
        let front := w.takeWhile fun p => !(p matches .literal "=" false)
        let value := w.drop (front.length + 1)
        let (text, s) := textOf n (front ++ .literal "=" false :: s.expandTildes true value) s
        ([text], s)
      else expandWord n w s
    expandCommand n ws (fields ++ here) s

/-- Applies redirections one after the other; the flag says whether all could be applied. -/
def applyRedirects : Nat → List Redirect → Shell → Bool × Shell
  | 0, _, s => (false, s.exhaust)
  | _ + 1, [], s => (!s.ended, s)
  | n + 1, r :: rs, s =>
    let (name, s) := textOf n (if r.kind = .here then r.target else s.expandTildes false r.target) s
    if s.ended then (false, s)
    else match s.redirect r.descriptor r.kind name with
      | .ok s => applyRedirects n rs s
      | .error e =>
        let s := s.complainWithin e.message
        (false, if e.isFatal then s.exit e.status else s.setStatus e.status)

/-- Assigns the texts of words to names, one after the other, and returns the texts. -/
def applyAssignments : Nat → Bool → List (String × Word) → Shell → List String × Shell
  | 0, _, _, s => ([], s.exhaust)
  | _ + 1, _, [], s => ([], s)
  | n + 1, exports, (name, w) :: rest, s =>
    let (value, s) := textOf n (s.expandTildes true w) s
    let s := if s.ended then s else s.assign name value
    let s := if exports then s.exportName name else s
    let (more, s) := if s.ended then ([], s) else applyAssignments n exports rest s
    ((name ++ "=" ++ value) :: more, s)

/-- Shows a command before it runs, behind a text of its own. -/
def showCommand : Nat → List String → Shell → Shell
  | 0, _, s => s.exhaust
  | n + 1, words, s =>
    let start := (s.vars.get? "PS4").getD ""
    let parts := match (Script.readDouble (start.length + 8) .nothing 0 false).run (sourceOf start) with
      | .ok (w, _) => w
      | .error _ => [.literal start true]
    let (shown, after) := textOf n parts { s with options := s.options.filter (· != 'x') }
    let after := { after with options := s.options }
    after.warn (shown ++ String.intercalate " " words ++ "\n")

/-- Runs a command whose words are known. The flag says whether it may be a function. -/
def runWords : Nat → Bool → List String → Shell → Shell
  | 0, _, _, s => s.exhaust
  | _ + 1, _, [], s => s
  | n + 1, mayBeFunction, name :: args, s =>
    let function := if mayBeFunction then s.functions.lookup name else none
    if name = "exec" then
      match readOptions [] args with
      | .error message => s.refuse name message
      | .ok (_, []) => s.setStatus 0
      | .ok (_, program :: rest) =>
        match findProgram s.files s.working (ofOctets s.search) (ofOctets program) with
        | .error e => s.refuseExec program e
        | .ok found =>
          match runFound n found ((program :: rest).map ofOctets) s.context with
          | .ok r => s.become r
          | .error e => s.refuseExec program e
    else if name = "eval" then
      let reader := if s.dialect = .shell then "eval: " else s.reader
      let text := String.intercalate " " args
      let after := runSource n (sourceOf text) { s with reader, status := 0, isLast := false }
      { after with reader := s.reader, line := s.line }
    else if name = "." || (name = "source" && s.dialect = .program) then
      match args with
      | [] => s.refuseNoScript name
      | file :: args =>
        match s.readSourced name file with
        | .ok bytes =>
          s.afterScript args (runSource n (sourceOfBytes bytes) (s.beginScript file args))
        | .error message => s.refuseScript message
    else match if Script.specialCommands.contains name then none else function with
      | some body =>
        if maxCalls ≤ s.calls then
          (s.complain "Maximum function recursion depth (1000) reached").exit 2
        else
          let inside := { s with
            arguments := args, loops := 0, calls := s.calls + 1, outer := [], outerOptions := none
            optionIndex := 1, optionOffset := none, isLast := false }
          s.afterFunction (runCommand n body inside)
      | none =>
        if name = "command" then runPlain n args s
        else match builtin? name with
          | some run => s.runBuiltin name run args
          | none => runExternal n (name :: args) s

/-- Runs a command that is no function, or says what a name stands for. -/
def runPlain : Nat → List String → Shell → Shell
  | 0, _, s => s.exhaust
  | n + 1, args, s =>
    match readOptions ['p', 'v', 'V'] args with
    | .error message => s.refuse "command" message
    | .ok (_, []) => s.setStatus 0
    | .ok (options, name :: rest) =>
      if options.any (·.1 == 'V') then describe name (s.setStatus 0)
      else if options.any (·.1 == 'v') then s.identify name
      else runWords n false (name :: rest) s

/-- Runs a program as a child of the shell. -/
def runExternal : Nat → List String → Shell → Shell
  | 0, _, s => s.exhaust
  | n + 1, words, s =>
    let name := words.headD ""
    match s.findCommand name with
    | .ok found =>
      let s := { s.track name (octets found.file) with micros := s.micros + programDelay }
      match runFound n found (words.map ofOctets) s.context with
      | .ok r => if s.isLast && s.traps.isEmpty then s.become r else s.absorb r
      | .error e =>
        let (status, text) := startFailure s.dialect e
        (s.complainWithin (name ++ ": " ++ text)).setStatus status
    | .error (status, message) => (s.complainWithin message).setStatus status

/-- Runs a command without keywords. Its assignments are for the command alone, unless that is none
or one of those that keep them. -/
def runSimple : Nat → Nat → List (String × Word) → List Word → List Redirect → Shell → Shell
  | 0, _, _, _, _, s => s.exhaust
  | n + 1, line, assignments, words, redirects, s =>
    let (fields, s) := expandCommand n words [] { s with line, lastOutput := 0 }
    if s.ended then s
    else
      let name := fields.headD ""
      let special := s.dialect = .shell && Script.specialCommands.contains name
      let before := { s with isSpecial := special }
      match applyRedirects n redirects before with
      | (false, s) =>
        let s := before.restore s
        if s.ended then s else if special then s.exit s.status else s.checkFailure
      | (true, s) =>
        let s := s.hold
        let isOwn := !fields.isEmpty && !special
        let saved := if isOwn then
            assignments.reverse.map fun (k, _) => (k, before.vars.get? k, before.exported.contains k)
          else []
        let (shown, s) := applyAssignments n (isOwn || name = "exec") assignments s
        if s.ended then before.restore s
        else
          let s := if s.has 'x' then
              let shower := showCommand n (shown ++ fields) { s with targets := before.targets }
              { shower with targets := s.targets }
            else s
          let after := if fields.isEmpty then s.setStatus s.lastOutput
            else runWords n true fields s
          let after := if saved.isEmpty then after else after.giveBack saved
          let keeps := (fields.dropWhile (· == "command")) = ["exec"]
          let after := if keeps && !after.ended then after else before.restore after
          if after.isHalted then after else after.checkFailure

/-- Runs a command, unless the shell has ended, and the actions for signals that came meanwhile. -/
def runCommand : Nat → Command → Shell → Shell
  | 0, _, s => s.exhaust
  | n + 1, c, s =>
    if s.isHalted || s.has 'n' then s
    else
      let s := match c with
        | .simple line assignments words redirects => runSimple n line assignments words redirects s
        | .pipeline negated parts =>
          let tested := s.tested
          let inside := { s with tested := tested || negated }
          let after := match parts with
            | [c] => runCommand n c inside
            | parts => runPipeline n s.micros none parts inside
          let after := { after with tested }
          if negated then
            if after.isHalted then after else after.setStatus (if after.isSuccess then 1 else 0)
          else if after.isHalted then after else after.checkFailure
        | .both a b =>
          let after := { runCommand n a { s with tested := true } with tested := s.tested }
          if after.isSuccess then runCommand n b after else after
        | .either a b =>
          let after := { runCommand n a { s with tested := true } with tested := s.tested }
          if after.isSuccess then after else runCommand n b after
        | .sequence cs => runSequence n cs s
        | .background body => runBackground n body s
        | .group line body redirects =>
          if redirects.isEmpty then runCommand n body s
          else match applyRedirects n redirects { s with line } with
            | (true, t) => s.restore (runCommand n body t.hold)
            | (false, t) =>
              let t := s.restore t
              if t.ended then t else t.checkFailure
        | .subshell line body redirects =>
          match applyRedirects n redirects { s.child with line } with
          | (true, t) =>
            let child := runChild n body t.hold
            ((s.afterChild child).setStatus child.childStatus).checkFailure
          | (false, t) => ((s.afterChild t).setStatus t.status).checkFailure
        | .branch condition body otherwise =>
          let s := { runCommand n condition { s with tested := true } with tested := s.tested }
          if s.isHalted then s
          else if s.isSuccess then runCommand n body s
          else match otherwise with
            | .sequence [] => s.setStatus 0
            | otherwise => runCommand n otherwise s
        | .loop whileFalse condition body => runLoop n whileFalse condition body 0 s
        | .forEach line name items body =>
          let (values, s) := expandWords n items { s with line }
          if s.ended then s
          else runEach n name values body (if values.isEmpty then s.setStatus 0 else s)
        | .choose line subject arms =>
          let (text, s) := textOf n (s.expandTildes false subject) { s with line }
          if s.ended then s else runArms n text arms s
        | .define name body =>
          { s with
            functions := (name, body) :: s.functions.filter (·.1 != name), status := 0 }
      if s.pending.isEmpty || !s.isMain then s else runPending n s

/-- Runs a loop whose last round had a status. -/
def runLoop : Nat → Bool → Command → Command → Int → Shell → Shell
  | 0, _, _, _, _, s => s.exhaust
  | n + 1, whileFalse, condition, body, last, s =>
    let t := { runCommand n condition { s with tested := true, loops := s.loops + 1 } with
      tested := s.tested }
    if t.isHalted then
      let (more, t) := t.endRound
      if more then runLoop n whileFalse condition body last t else t
    else if t.isSuccess == whileFalse then t.endRound.2.setStatus last
    else
      let (more, t) := (runCommand n body t).endRound
      if more then runLoop n whileFalse condition body t.status t else t

/-- Runs the first arm with a pattern that a text fits. -/
def runArms : Nat → String → List (List Word × Command) → Shell → Shell
  | 0, _, _, s => s.exhaust
  | _ + 1, _, [], s => s.setStatus 0
  | n + 1, text, (patterns, body) :: arms, s =>
    let (fitting, s) := fitsAny n text patterns s
    if s.ended then s
    else if !fitting then runArms n text arms s
    else match body with
      | .sequence [] => s.setStatus 0
      | body => runCommand n body s

def fitsAny : Nat → String → List Word → Shell → Bool × Shell
  | 0, _, _, s => (false, s.exhaust)
  | _ + 1, _, [], s => (false, s)
  | n + 1, text, w :: ws, s =>
    let (pattern, s) := patternOf n (s.expandTildes false w) s
    if s.ended then (false, s)
    else if pattern.matchesText text then (true, s) else fitsAny n text ws s

def runSequence : Nat → List Command → Shell → Shell
  | 0, _, s => s.exhaust
  | _ + 1, [], s => s
  | n + 1, c :: cs, s => runSequence n cs (runCommand n c s)

def runEach : Nat → String → List String → Command → Shell → Shell
  | 0, _, _, _, s => s.exhaust
  | _ + 1, _, [], _, s => s
  | n + 1, name, v :: vs, body, s =>
    let s := s.assign name v
    if s.ended then s
    else
      let (more, s) := (runCommand n body { s with loops := s.loops + 1 }).endRound
      if more then runEach n name vs body s else s

/-- Runs commands side by side, the output of each being the input of the next. All begin at the same
time; one that does not end stops when what it writes to has ended before it has taken all. -/
def runPipeline : Nat → Nat → Option Target → List Command → Shell → Shell
  | 0, _, _, _, s => s.exhaust
  | _ + 1, _, _, [], s => s
  | n + 1, start, input, c :: cs, s =>
    let finish := s.micros
    let k := s.pipes
    let child := { s.child with micros := start, pipes := k + 1 }
    let child := match input with
      | some t => child.setTarget 0 t
      | none => child
    let child := if cs.isEmpty then child else child.setTarget 1 (.sink (.pipe k))
    let child := runChild n c child
    let (bytes, child) := takePipe k { child with micros := child.lastTime (· == .pipe k) }
    let after := s.afterChild child
    let isEnded := after.ended
    let after := { after with micros := finish }
    match cs with
    | [] => { after.setStatus child.childStatus with micros := max finish child.micros }
    | cs =>
      let (t, after) := after.addStream (.bytes bytes)
      let after := runPipeline n start (some t) cs { after with ended := false }
      let isStopped := !(after.setTarget 0 t |>.inputAt 0).isEmpty
      { after with
        ended := after.ended || isEnded
        micros := if isStopped && endless ≤ child.micros then after.micros
          else max after.micros child.micros }

/-- Starts a command that runs beside the shell. It has no input. -/
def runBackground : Nat → Command → Shell → Shell
  | 0, _, s => s.exhaust
  | n + 1, body, s =>
    let child := { s.child with micros := s.micros + backgroundDelay, tested := false }
    let isLast := body matches .simple ..
    let child := { child.setTarget 0 .nowhere with isFresh := true, isLast, held := child.sinks }
    let process := child.process
    let child := runChild n body child
    let status := match child.signal with
      | some k => -(k : Int)
      | none => child.status
    let numbers := (s.jobs.filter (!·.reported)).map Background.number
    let job : Background :=
      { process, number := numbers.foldl max 0 + 1, start := s.micros, finish := child.micros
        status, sinks := child.held }
    let after := s.afterChild child
    { after with
      micros := s.micros, jobs := after.jobs ++ [job], latest := some process, status := 0
      ended := after.ended && child.killed.isSome }

end

end CommandServer.Job.Shell
