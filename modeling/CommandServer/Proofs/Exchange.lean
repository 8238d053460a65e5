/-
What a run of the server asks of the executor. An executor can keep a record of its exchanges, which
changes nothing else about a run. The record shows one request for each call of the tool by its name
with arguments that can be written and are rendered, in the order of the calls, and none for any
other operation; every answer goes by its operation and by what came of the request of this
operation, and by nothing else.
-/
import CommandServer.Proofs.Tool
import CommandServer.Server

namespace CommandServer

open CommandServer.Template

/-! ## Executors with a record -/

/-- A request and what came of it. -/
structure Exchange where
  request : ExecutionRequest
  outcome : Except Fault ExecutionResult

/-- The executor with a record of its exchanges, in their order. -/
def Executor.recorded {σ : Type} (execute : Executor σ) : Executor (σ × List Exchange) :=
  fun request (world, past) =>
    let step := execute request world
    ⟨step.answer, step.records, (step.state, past ++ [⟨request, step.answer⟩])⟩

namespace Server

/-! ## Requests and answers -/

section Answers

variable (stack : Stack) (s : Server)

/-- The request of an operation, if it has one: the tool is called by its name, with arguments that
can be written and are rendered. -/
def request? : Operation → Option ExecutionRequest
  | .list => none
  | .call name args =>
    if name = s.tool.name then
      match args.toValue.json stack.free, s.tool.template.render stack args with
      | .ok _, .ok argv => some ⟨argv, s.tool.execution⟩
      | _, _ => none
    else none

/-- How an operation is answered, by the exchange that it leads to, if any. -/
inductive Answers : Operation → Option Exchange → Answer → Prop
  | list : Answers .list none (.tools [s.definition])
  | unknown {name : String} {args : Arguments} (h : name ≠ s.tool.name) :
    Answers (.call name args) none (.called (.error (.unknownTool name)))
  | unlogged {args : Arguments} {f : Fault} (h : args.toValue.json stack.free = .error f) :
    Answers (.call s.tool.name args) none (.called (.error (.fault f)))
  | refused {args : Arguments} {text : String} {e : RenderError}
    (hlog : args.toValue.json stack.free = .ok text)
    (h : s.tool.template.render stack args = .error (.refused e)) :
    Answers (.call s.tool.name args) none
      (.called (.error (.failed ("Validation error: " ++ e.message))))
  | unwritten {args : Arguments} {text : String} {f : Fault}
    (hlog : args.toValue.json stack.free = .ok text)
    (h : s.tool.template.render stack args = .error (.fault f)) :
    Answers (.call s.tool.name args) none (.called (.error (.fault f)))
  | succeeded {args : Arguments} {text : String} {argv : List String} {r : ExecutionResult}
    (hlog : args.toValue.json stack.free = .ok text)
    (h : s.tool.template.render stack args = .ok argv) (hr : r.success = true) :
    Answers (.call s.tool.name args) (some ⟨⟨argv, s.tool.execution⟩, .ok r⟩)
      (.called (.ok r.output))
  | failed {args : Arguments} {text : String} {argv : List String} {r : ExecutionResult}
    (hlog : args.toValue.json stack.free = .ok text)
    (h : s.tool.template.render stack args = .ok argv) (hr : r.success = false) :
    Answers (.call s.tool.name args) (some ⟨⟨argv, s.tool.execution⟩, .ok r⟩)
      (.called (.error (.failed r.output)))
  | fault {args : Arguments} {text : String} {argv : List String} {f : Fault}
    (hlog : args.toValue.json stack.free = .ok text)
    (h : s.tool.template.render stack args = .ok argv) :
    Answers (.call s.tool.name args) (some ⟨⟨argv, s.tool.execution⟩, .error f⟩)
      (.called (.error (.fault f)))

/-- A run in which the operations are answered one after the other, with the exchanges that they
lead to. -/
inductive Serves : List Operation → List Exchange → List Answer → Prop
  | nil : Serves [] [] []
  | cons {op : Operation} {x : Option Exchange} {a : Answer} {ops : List Operation}
    {xs : List Exchange} {as : List Answer} (h : s.Answers stack op x a) (hs : Serves ops xs as) :
    Serves (op :: ops) (x.toList ++ xs) (a :: as)

end Answers

/-! ## One operation -/

section Step

variable {σ : Type} {stack : Stack} {s : Server} {args : Arguments} {text : String}

theorem request?_of_ok {argv : List String} (hlog : args.toValue.json stack.free = .ok text)
    (h : s.tool.template.render stack args = .ok argv) :
    s.request? stack (.call s.tool.name args) = some ⟨argv, s.tool.execution⟩ := by
  rw [request?, if_pos rfl, hlog, h]

theorem request?_of_unlogged {f : Fault} (h : args.toValue.json stack.free = .error f) :
    s.request? stack (.call s.tool.name args) = none := by
  rw [request?, if_pos rfl, h]

theorem request?_of_error {e : RenderFailure}
    (h : s.tool.template.render stack args = .error e) :
    s.request? stack (.call s.tool.name args) = none := by
  rw [request?, if_pos rfl, h]
  cases args.toValue.json stack.free <;> rfl

theorem request?_of_ne {name : String} (h : name ≠ s.tool.name) (args : Arguments) :
    s.request? stack (.call name args) = none := by
  rw [request?, if_neg h]

variable (execute : Executor σ)

theorem step_of_ne {name : String} (h : name ≠ s.tool.name) (args : Arguments) (world : σ) :
    s.step stack execute (.call name args) world =
      ⟨.called (.error (.unknownTool name)), [], world⟩ := by
  have hcall : s.call stack execute name args world = ⟨.error (.unknownTool name), [], world⟩ :=
    if_neg h
  rw [step, hcall]

theorem step_of_eq (args : Arguments) (world : σ) :
    s.step stack execute (.call s.tool.name args) world =
      ⟨.called (content (s.tool.call stack execute args world).answer),
        (s.tool.call stack execute args world).records,
        (s.tool.call stack execute args world).state⟩ := by
  have hcall : s.call stack execute s.tool.name args world =
      ⟨content (s.tool.call stack execute args world).answer,
        (s.tool.call stack execute args world).records,
        (s.tool.call stack execute args world).state⟩ := if_pos rfl
  rw [step, hcall]

theorem content_ofResult (r : ExecutionResult) :
    content (.ok (Tool.Reply.ofResult r)) =
      if r.success then .ok r.output else .error (.failed r.output) := by
  unfold content Tool.Reply.ofResult
  cases r.success <;> rfl

variable (stack s)

/-- The exchange that an operation leads to. -/
def exchange? (op : Operation) (world : σ) : Option Exchange :=
  (s.request? stack op).map fun r => ⟨r, (execute r world).answer⟩

variable {stack s}

/-- An operation is answered by its exchange. -/
theorem answers_step (op : Operation) (world : σ) :
    s.Answers stack op (s.exchange? stack execute op world)
      (s.step stack execute op world).answer := by
  cases op with
  | list => exact .list
  | call name args =>
    by_cases hname : name = s.tool.name
    · subst hname
      unfold exchange?
      rw [step_of_eq]
      cases Tool.fate stack s.tool args with
      | unlogged hlog =>
        rw [request?_of_unlogged hlog, Tool.call_of_unlogged hlog]
        exact .unlogged hlog
      | refused hlog hr =>
        rw [request?_of_error hr, (Tool.call_of_refused hlog hr execute world).1]
        exact .refused hlog hr
      | unwritten hlog hr =>
        rw [request?_of_error hr, (Tool.call_of_fault hlog hr execute world).1]
        exact .unwritten hlog hr
      | @rendered _ argv hlog hr =>
        rw [request?_of_ok hlog hr, (Tool.call_of_ok hlog hr execute world).1, Option.map_some]
        cases (execute ⟨argv, s.tool.execution⟩ world).answer with
        | error f => exact .fault hlog hr
        | ok r =>
          show s.Answers stack _ _ (.called (content (.ok (Tool.Reply.ofResult r))))
          rw [content_ofResult]
          cases hs : r.success with
          | true => exact .succeeded hlog hr hs
          | false => exact .failed hlog hr hs
    · rw [exchange?, request?_of_ne hname, step_of_ne execute hname]
      exact .unknown hname

/-- The answer to an operation is that which it gets anywhere, from any executor, as long as the
same comes of its request. -/
theorem answer_step_congr {τ : Type} {execute' : Executor τ} {op : Operation} {world : σ}
    {world' : τ} (h : ∀ r, s.request? stack op = some r →
      (execute r world).answer = (execute' r world').answer) :
    (s.step stack execute op world).answer = (s.step stack execute' op world').answer := by
  cases op with
  | list => rfl
  | call name args =>
    by_cases hname : name = s.tool.name
    · subst hname
      rw [step_of_eq, step_of_eq]
      cases Tool.fate stack s.tool args with
      | unlogged hlog => rw [Tool.call_of_unlogged hlog, Tool.call_of_unlogged hlog]
      | refused hlog hr =>
        rw [(Tool.call_of_refused hlog hr _ _).1, (Tool.call_of_refused hlog hr _ _).1]
      | unwritten hlog hr =>
        rw [(Tool.call_of_fault hlog hr _ _).1, (Tool.call_of_fault hlog hr _ _).1]
      | rendered hlog hr =>
        rw [(Tool.call_of_ok hlog hr _ _).1, (Tool.call_of_ok hlog hr _ _).1,
          h _ (request?_of_ok hlog hr)]
    · rw [step_of_ne _ hname, step_of_ne _ hname]

theorem call_recorded (t : Tool) (args : Arguments) (world : σ) (past : List Exchange) :
    t.call stack execute.recorded args (world, past) =
      ⟨(t.call stack execute args world).answer, (t.call stack execute args world).records,
        ((t.call stack execute args world).state,
          past ++ match args.toValue.json stack.free, t.request stack args with
            | .ok _, .ok r => [⟨r, (execute r world).answer⟩]
            | _, _ => [])⟩ := by
  unfold Tool.call
  cases args.toValue.json stack.free with
  | error f => rw [List.append_nil]
  | ok text =>
    cases t.request stack args with
    | error e => cases e <;> rw [List.append_nil]
    | ok r =>
      dsimp only [Executor.recorded]
      cases (execute r world).answer with
      | error f => rfl
      | ok r => rfl

/-- With a record an operation does what it does without, and its exchange is added. -/
theorem step_recorded (op : Operation) (world : σ) (past : List Exchange) :
    s.step stack execute.recorded op (world, past) =
      ⟨(s.step stack execute op world).answer, (s.step stack execute op world).records,
        ((s.step stack execute op world).state,
          past ++ (s.exchange? stack execute op world).toList)⟩ := by
  unfold exchange?
  cases op with
  | list =>
    show _ = (⟨_, _, (world, past ++ [])⟩ : Step _ _)
    rw [List.append_nil]
    rfl
  | call name args =>
    by_cases hname : name = s.tool.name
    · subst hname
      rw [step_of_eq, step_of_eq, call_recorded]
      cases Tool.fate stack s.tool args with
      | unlogged hlog =>
        rw [request?_of_unlogged hlog, hlog]
        rfl
      | refused hlog hr =>
        rw [request?_of_error hr, hlog, Tool.request_of_error hr]
        rfl
      | unwritten hlog hr =>
        rw [request?_of_error hr, hlog, Tool.request_of_error hr]
        rfl
      | rendered hlog hr =>
        rw [request?_of_ok hlog hr, hlog, Tool.request_of_ok hr]
        rfl
    · rw [step_of_ne _ hname, step_of_ne _ hname, request?_of_ne hname, Option.map_none,
        Option.toList_none, List.append_nil]

end Step

/-! ## Runs -/

section Run

variable {σ : Type} (stack : Stack) (s : Server) (execute : Executor σ)

/-- The exchanges of a run, operation by operation. -/
def exchanges : List Operation → σ → List Exchange
  | [], _ => []
  | op :: ops, world =>
    (s.exchange? stack execute op world).toList ++
      exchanges ops (s.step stack execute op world).state

variable {stack s}

theorem runAll_cons (op : Operation) (ops : List Operation) (world : σ) :
    s.runAll stack execute (op :: ops) world =
      (((s.step stack execute op world).answer, (s.step stack execute op world).records) ::
        (s.runAll stack execute ops (s.step stack execute op world).state).1,
          (s.runAll stack execute ops (s.step stack execute op world).state).2) := rfl

theorem runAll_append (ops ops' : List Operation) (world : σ) :
    s.runAll stack execute (ops ++ ops') world =
      ((s.runAll stack execute ops world).1 ++
          (s.runAll stack execute ops' (s.runAll stack execute ops world).2).1,
        (s.runAll stack execute ops' (s.runAll stack execute ops world).2).2) := by
  induction ops generalizing world with
  | nil => rfl
  | cons op ops ih => rw [List.cons_append, runAll_cons, runAll_cons, ih, List.cons_append]

theorem length_runAll (ops : List Operation) (world : σ) :
    (s.runAll stack execute ops world).1.length = ops.length := by
  induction ops generalizing world with
  | nil => rfl
  | cons op ops ih => rw [runAll_cons, List.length_cons, List.length_cons, ih]

/-- With a record a run does what it does without, and its exchanges are added. -/
theorem runAll_recorded (ops : List Operation) (world : σ) (past : List Exchange) :
    s.runAll stack execute.recorded ops (world, past) =
      ((s.runAll stack execute ops world).1,
        ((s.runAll stack execute ops world).2, past ++ s.exchanges stack execute ops world)) := by
  induction ops generalizing world past with
  | nil =>
    show ([], (world, past)) = ([], (world, past ++ []))
    rw [List.append_nil]
  | cons op ops ih =>
    rw [runAll_cons, runAll_cons, step_recorded, ih, exchanges, List.append_assoc]

theorem serves_runAll (ops : List Operation) (world : σ) :
    s.Serves stack ops (s.exchanges stack execute ops world)
      ((s.runAll stack execute ops world).1.map Prod.fst) := by
  induction ops generalizing world with
  | nil => exact .nil
  | cons op ops ih => exact .cons (answers_step execute op world) (ih _)

theorem requests_exchanges (ops : List Operation) (world : σ) :
    (s.exchanges stack execute ops world).map (·.request) = ops.filterMap (s.request? stack) := by
  induction ops generalizing world with
  | nil => rfl
  | cons op ops ih =>
    rw [exchanges, List.map_append, ih, List.filterMap_cons, exchange?]
    cases s.request? stack op with
    | none => rfl
    | some r => rfl

theorem getElem?_runAll (ops ops' : List Operation) (op : Operation) (world : σ) :
    ((s.runAll stack execute (ops ++ op :: ops') world).1.map Prod.fst)[ops.length]? =
      some (s.step stack execute op (s.runAll stack execute ops world).2).answer := by
  have hlength : ((s.runAll stack execute ops world).1.map Prod.fst).length = ops.length := by
    rw [List.length_map, length_runAll]
  rw [runAll_append, runAll_cons, List.map_append,
    List.getElem?_append_right (Nat.le_of_eq hlength), hlength, Nat.sub_self]
  rfl

end Run

/-- A run sends one request for each call of the tool by its name whose arguments can be written and
are rendered, in the order of the calls, and no other request. Each operation is answered by its own
exchange: its answer is the one that it gets by itself, whatever comes before and after it in the
run. Arguments without long integers that do not lie too deep can always be written: their calls are
sent or refused. -/
theorem runAll_exchanges {σ : Type} (stack : Stack) (s : Server) (execute : Executor σ)
    (ops : List Operation) (world : σ) :
    (∃ xs, s.runAll stack execute.recorded ops (world, []) =
        ((s.runAll stack execute ops world).1, ((s.runAll stack execute ops world).2, xs)) ∧
      xs.map (·.request) = ops.filterMap (s.request? stack) ∧
      s.Serves stack ops xs ((s.runAll stack execute ops world).1.map Prod.fst)) ∧
    (∀ before op after, ops = before ++ op :: after →
      ∀ {τ : Type} (execute' : Executor τ) (world' : τ),
        (∀ r, s.request? stack op = some r →
          (execute r (s.runAll stack execute before world).2).answer =
            (execute' r world').answer) →
        ((s.runAll stack execute ops world).1.map Prod.fst)[before.length]? =
          some (s.step stack execute' op world').answer) ∧
    (∀ args : Arguments, ¬args.toValue.HoldsLong → 3 * args.toValue.depth < stack.free →
      s.tool.Writes stack args) ∧
    (∀ name, (CallError.unknownTool name).message = "Unknown tool: " ++ name) ∧
    ∀ text, (CallError.failed text).message = text := by
  refine ⟨⟨s.exchanges stack execute ops world, ?_, ?_, ?_⟩, ?_,
    fun args hlong hdepth => Tool.writes_of_moderate hlong hdepth s.tool, fun _ => rfl,
    fun _ => rfl⟩
  · rw [runAll_recorded, List.nil_append]
  · exact requests_exchanges execute ops world
  · exact serves_runAll execute ops world
  · rintro before op after rfl τ execute' world' h
    rw [getElem?_runAll, answer_step_congr execute h]

/-- A server for a command that repeats its one parameter. -/
def parrotServer : Server := { tool := ⟨parrot, {}⟩ }

section Parrot

variable {σ : Type} {stack : Stack} {v : Value} {f : Fault} (execute : Executor σ) (world : σ)

theorem name_parrot : parrotServer.tool.name = "echo" := by decide +kernel

theorem answer_parrot_of_error {text : String} (hlog : (Value.record [("x", v)]).json stack.free =
    .ok text) (h : v.argumentText stack.free = .error f) :
    (parrotServer.step stack execute (.call "echo" (.ofPairs [("x", v)])) world).answer =
      .called (.error (.fault f)) := by
  rw [← name_parrot, step_of_eq]
  have hcall := (Tool.call_of_fault (t := parrotServer.tool) hlog (render_parrot_of_error h) execute
    world).1
  exact congrArg (fun answer => Answer.called (content answer)) hcall

theorem answer_parrot_of_unlogged (h : (Value.record [("x", v)]).json stack.free = .error f) :
    (parrotServer.step stack execute (.call "echo" (.ofPairs [("x", v)])) world).answer =
      .called (.error (.fault f)) := by
  rw [← name_parrot, step_of_eq]
  have hcall : parrotServer.tool.call stack execute (.ofPairs [("x", v)]) world =
      ⟨.error f, [], world⟩ := Tool.call_of_unlogged h execute world
  exact congrArg (fun step => Answer.called (content step.answer)) hcall

end Parrot

/-- A call whose value lies too deep, or holds an integer of too many digits, is neither sent nor
refused. -/
theorem runAll_of_unwritable :
    ofArguments ["echo", "\x7b\x7bx\x7d\x7d"] = .ok parrotServer.tool.template ∧
      ∀ execute : Executor Unit,
        (parrotServer.runAll .usual execute [.call "echo" (.ofPairs [("x", .nest)]),
            .call "echo" (.ofPairs [("x", .longInteger)])] ()).1.map Prod.fst =
          [.called (.error (.fault .tooDeepToWrite)),
            .called (.error (.fault .integerUnwritable))] := by
  obtain ⟨text, hnest⟩ := Value.exists_json_record_nest "x"
  have hlong := Value.json_record_longInteger .usual "x"
  refine ⟨ofArguments_parrot, fun execute => ?_⟩
  rw [runAll_cons, runAll_cons, List.map_cons, List.map_cons,
    answer_parrot_of_error execute _ hnest Value.argumentText_nest,
    answer_parrot_of_unlogged execute _ hlong]
  rfl

/-! ## The definition of the tool -/

/-- The tool as clients see it: the command with every character that no name has replaced by an
underscore, the command line behind a fixed text, and the schema of the template. -/
theorem definition_eq (s : Server) : ∃ name, s.definition = .record
      [("name", .text name),
        ("description", .text ("Run the shell command `" ++ s.tool.template.format ++ "`")),
        ("inputSchema", s.tool.template.schema.toValue)] ∧
    name.toList = s.tool.template.command.toList.map fun c =>
      if c.isAlphanum || c == '_' then c else '_' := by
  refine ⟨s.tool.name, rfl, ?_⟩
  rw [Tool.name, toolName, String.toList_map]
  rfl

end Server

end CommandServer
