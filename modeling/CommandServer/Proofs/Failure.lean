/-
Calls that fail. Arguments that are refused, commands that cannot be started, limits that run out
and commands that end with a status of their own are all answered with the text of an error. Two
things are not answered, but escape from the call as faults: arguments that cannot be written, and a
launch that the operating system cannot be told of, since a text in it holds the character zero or
the name of a variable an equals sign.
-/
import CommandServer.Outside.Job.Launch
import CommandServer.Proofs.Template.Supplied
import CommandServer.Proofs.Tool

namespace CommandServer

open CommandServer.Template

/-! ## What the system can be told -/

/-- A launch whose texts can be handed to the operating system. -/
structure Launch.Encodable (l : Launch) : Prop where
  argv : ∀ a ∈ l.argv, '\x00' ∉ a.toList
  directory : ∀ p, l.directory = some p → ∀ part ∈ p.parts, '\x00' ∉ part.toList
  name : ∀ e, l.environment = some e → ∀ x ∈ e.entries, '=' ∉ x.1.toList ∧ '\x00' ∉ x.1.toList
  value : ∀ e, l.environment = some e → ∀ x ∈ e.entries, '\x00' ∉ x.2.toList

/-- What is known of starting a process: only a limit that is set can run out, and a launch is
refused when it cannot be told to the system, and only then. -/
structure Launcher.Obeys {σ : Type} (launcher : Launcher σ) (l : Launch) (world : σ) : Prop where
  limit : ∀ t, (launcher l world).1 = .timedOut t → l.timeout = some t
  refused_iff : (∃ f, (launcher l world).1 = .refused f) ↔ ¬ l.Encodable

namespace Job

theorem hasNul_eq_false_iff {s : String} : hasNul s = false ↔ '\x00' ∉ s.toList := by
  unfold hasNul
  rw [List.contains_eq_mem, decide_eq_false_iff_not]

theorem any_entries_eq_false_iff {environment : Option Environment} {p : String × String → Bool} :
    ((environment.map (·.entries)).getD []).any p = false ↔
      ∀ e, environment = some e → ∀ x ∈ e.entries, p x = false := by
  cases environment with
  | none => simp
  | some e => simp

/-- A launch is refused when it cannot be told to the system. -/
theorem refusal?_eq_none_iff {l : Launch} : refusal? l = none ↔ l.Encodable := by
  have hargv : l.argv.any hasNul = false ↔ ∀ a ∈ l.argv, '\x00' ∉ a.toList := by
    simp [hasNul]
  have hdirectory : l.directory.any Path.hasNul = false ↔
      ∀ p, l.directory = some p → ∀ part ∈ p.parts, '\x00' ∉ part.toList := by
    cases l.directory with
    | none => simp
    | some p => simp [Path.hasNul]
  unfold refusal?
  dsimp only
  constructor
  · intro h
    split at h
    · cases h
    · next hname =>
      split at h
      · cases h
      · next hnul =>
        rw [Bool.not_eq_true, any_entries_eq_false_iff] at hname
        rw [Bool.not_eq_true, Bool.or_eq_false_iff, Bool.or_eq_false_iff,
          any_entries_eq_false_iff, hargv, hdirectory] at hnul
        obtain ⟨⟨ha, hd⟩, he⟩ := hnul
        refine ⟨ha, hd, fun e hl x hx => ?_, fun e hl x hx => ?_⟩
        · have hx₁ := (Bool.or_eq_false_iff.1 (he e hl x hx)).1
          exact ⟨by simpa using hname e hl x hx, hasNul_eq_false_iff.1 hx₁⟩
        · exact hasNul_eq_false_iff.1 (Bool.or_eq_false_iff.1 (he e hl x hx)).2
  · rintro ⟨ha, hd, hn, hv⟩
    rw [if_neg, if_neg]
    · rw [Bool.not_eq_true, Bool.or_eq_false_iff, Bool.or_eq_false_iff, any_entries_eq_false_iff]
      refine ⟨⟨hargv.2 ha, hdirectory.2 hd⟩, fun e hl x hx => ?_⟩
      rw [Bool.or_eq_false_iff]
      exact ⟨hasNul_eq_false_iff.2 (hn e hl x hx).2, hasNul_eq_false_iff.2 (hv e hl x hx)⟩
    · rw [Bool.not_eq_true, any_entries_eq_false_iff]
      intro e hl x hx
      simpa using (hn e hl x hx).1

/-- A time limit that can be waited for, if there is one: it has run out before the start, or it is
a finite number of not too many thousandths of a second. -/
def CanWait (timeout : Option Seconds) : Prop :=
  ∀ t, timeout = some t → ∃ x, limit? t = .ok x ∧
    (x.isNonPositive = true ∨ ∃ n d, x.toRatio? = some (n, d) ∧ n * 1000 ≤ (maxWait * d : Int))

theorem canWait_none : CanWait none := nofun

theorem exists_isWithin {t : Seconds} (h : CanWait (some t)) (micros : Nat) :
    ∃ b, isWithin micros t = .ok b := by
  obtain ⟨x, hx, hwait⟩ := h t rfl
  by_cases hover : x.isNonPositive = true
  · exact ⟨false, by simp [isWithin, hx, hover, bind, Except.bind, pure, Except.pure]⟩
  · obtain hneg | ⟨n, d, hratio, hle⟩ := hwait
    · exact absurd hneg hover
    · cases x with
      | nan => cases hratio
      | infinite negative => cases hratio
      | finite negative m e =>
        have hwait : ¬ (maxWait * d : Int) < n * 1000 := by omega
        have hclock : ¬ (maxClock * d : Int) < n * 1000 := by
          simp only [maxWait] at hle
          simp only [maxClock]
          omega
        refine ⟨decide ((micros * d : Int) ≤ n * 1000000), ?_⟩
        simp [isWithin, hx, hover, hratio, hwait, hclock, bind, Except.bind, pure, Except.pure]

/-- What comes of a command that has run within a limit that can be waited for. -/
theorem outcome_cases {timeout : Option Seconds} (h : CanWait timeout) (r : Report) :
    outcome timeout r = completed r ∨ ∃ t, timeout = some t ∧ outcome timeout r = .timedOut t := by
  cases timeout with
  | none => exact .inl rfl
  | some t =>
    obtain ⟨b, hb⟩ := exists_isWithin h (r.micros + startMicros)
    unfold outcome
    dsimp only
    rw [hb]
    cases b with
    | true => exact .inl rfl
    | false => exact .inr ⟨t, rfl, rfl⟩

/-- With a limit that can be waited for, the machine starts what can be told to the system, and
refuses the rest. -/
theorem launcher_obeys {l : Launch} (h : CanWait l.timeout) (m : Machine) :
    Launcher.Obeys launcher l m := by
  cases hr : refusal? l with
  | some f =>
    have hrefused : (launcher l m).1 = .refused f := by rw [launcher, hr]
    have hnot : ¬ l.Encodable := fun he => by
      rw [refusal?_eq_none_iff.2 he] at hr
      cases hr
    refine ⟨fun t ht => ?_, iff_of_true ⟨f, hrefused⟩ hnot⟩
    rw [hrefused] at ht
    cases ht
  | none =>
    -- the command cannot be started, or comes to its end, or is stopped when its limit has run out
    have hended : (∃ e, (launcher l m).1 = .failed e) ∨ (∃ r, (launcher l m).1 = completed r) ∨
        ∃ t, l.timeout = some t ∧ (launcher l m).1 = .timedOut t := by
      rw [launcher, hr]
      dsimp only
      cases run m l with
      | error e => exact .inl ⟨e, rfl⟩
      | ok report => exact .inr ((outcome_cases h report).imp (fun ho => ⟨report, ho⟩) id)
    refine ⟨fun t ht => ?_, iff_of_false ?_ (not_not_intro (refusal?_eq_none_iff.1 hr))⟩
    · obtain ⟨e, ho⟩ | ⟨r, ho⟩ | ⟨t', htimeout, ho⟩ := hended
      · cases ho.symm.trans ht
      · cases ho.symm.trans ht
      · cases ho.symm.trans ht
        exact htimeout
    · rintro ⟨f, hf⟩
      obtain ⟨e, ho⟩ | ⟨r, ho⟩ | ⟨t', -, ho⟩ := hended
      · cases ho.symm.trans hf
      · cases ho.symm.trans hf
      · cases ho.symm.trans hf

end Job

/-! ## Outcomes -/

theorem exists_of_map_eq_ok {ε α β : Type} {x : Except ε α} {f : α → β} {b : β}
    (h : x.map f = .ok b) : ∃ a, x = .ok a ∧ f a = b := by
  cases x with
  | error e => cases h
  | ok a => exact ⟨a, rfl, Except.ok.inj h⟩

namespace Execution

variable {o : Outcome} {r : ExecutionResult}

/-- An outcome has a result, unless it is a refusal or the text of the limit cannot be written. -/
theorem exists_report_iff :
    (∃ r, (report o).1 = .ok r) ↔
      (¬ ∃ f, o = .refused f) ∧ ∀ t, o = .timedOut t → ∃ text, t.roundedText = .ok text := by
  constructor
  · rintro ⟨r, h⟩
    cases o with
    | completed stdout stderr status => exact ⟨fun ⟨_, hf⟩ => (nomatch hf), fun _ ht => nomatch ht⟩
    | timedOut limit =>
      obtain ⟨text, htext, -⟩ := exists_of_map_eq_ok h
      refine ⟨fun ⟨_, hf⟩ => (nomatch hf), fun t ht => ?_⟩
      cases ht
      exact ⟨text, htext⟩
    | failed e => exact ⟨fun ⟨_, hf⟩ => (nomatch hf), fun _ ht => nomatch ht⟩
    | refused f => cases h
  · rintro ⟨hrefused, htext⟩
    cases o with
    | completed stdout stderr status => exact ⟨_, rfl⟩
    | timedOut limit =>
      obtain ⟨text, ht⟩ := htext limit rfl
      rw [report, ht]
      exact ⟨_, rfl⟩
    | failed e => exact ⟨_, rfl⟩
    | refused f => exact absurd ⟨f, rfl⟩ hrefused

/-- A result is a success when the command has come to its end with the status zero. -/
theorem success_report_iff (h : (report o).1 = .ok r) :
    r.success = true ↔ ∃ stdout stderr, o = .completed stdout stderr 0 := by
  cases o with
  | completed stdout stderr status =>
    cases h
    constructor
    · intro hs
      rw [of_decide_eq_true hs]
      exact ⟨stdout, stderr, rfl⟩
    · rintro ⟨_, _, ho⟩
      cases ho
      rfl
  | timedOut limit =>
    obtain ⟨text, -, rfl⟩ := exists_of_map_eq_ok h
    refine iff_of_false (fun hs => nomatch hs) ?_
    rintro ⟨_, _, ho⟩
    cases ho
  | failed e =>
    cases h
    refine iff_of_false (fun hs => nomatch hs) ?_
    rintro ⟨_, _, ho⟩
    cases ho
  | refused f => cases h

theorem answer_run {σ : Type} {request : ExecutionRequest} (h : isBlank request.argv = false)
    (environ : Environment) (launcher : Launcher σ) (world : σ) :
    (run environ launcher request world).answer =
      (report (launcher (launchOf environ request) world).1).1 := by
  unfold run
  rw [h]
  rfl

end Execution

/-! ## Calls -/

namespace Tool

variable {σ : Type} {stack : Stack} {t : Tool} {argv out : List String} {args : Arguments}
  {text : String} {launcher : Launcher σ} {world : σ}

/-- What is handed to the system for a call with a rendered command. -/
def launch (t : Tool) (environ : Environment) (out : List String) : Launch :=
  Execution.launchOf environ ⟨out, t.execution⟩

/-- The command of a template is never blank, so that a launch is made. -/
theorem isBlank_of_render (accepted : ofArguments argv = .ok t.template)
    (h : t.template.render stack args = .ok out) : Execution.isBlank out = false := by
  obtain ⟨words, -, hcommand, -⟩ := ofArguments_eq_ok_iff.1 accepted
  obtain ⟨-, contributions, -, rfl⟩ := render_eq_ok_iff.1 h
  exact hcommand

theorem call_of_render (accepted : ofArguments argv = .ok t.template)
    (hlog : args.toValue.json stack.free = .ok text)
    (h : t.template.render stack args = .ok out) (environ : Environment) :
    (t.call stack (executor environ launcher) args world).answer =
      (Execution.report (launcher (t.launch environ out) world).1).1.map Reply.ofResult := by
  rw [(call_of_ok hlog h _ _).1, executor, Execution.answer_run (isBlank_of_render accepted h)]
  rfl

section Rendered

variable (hlog : args.toValue.json stack.free = .ok text)
  (h : t.template.render stack args = .ok out)
  (accepted : ofArguments argv = .ok t.template) (environ : Environment)
include hlog h accepted

theorem exists_reply_iff (obeys : launcher.Obeys (t.launch environ out) world) :
    (∃ reply, (t.call stack (executor environ launcher) args world).answer = .ok reply) ↔
      (t.launch environ out).Encodable ∧ ∀ limit, t.execution.timeout = some limit →
        (launcher (t.launch environ out) world).1 = .timedOut limit →
          ∃ text, limit.roundedText = .ok text := by
  have hresult := Execution.exists_report_iff (o := (launcher (t.launch environ out) world).1)
  rw [obeys.refused_iff, Classical.not_not] at hresult
  rw [call_of_render accepted hlog h environ]
  constructor
  · rintro ⟨reply, hreply⟩
    obtain ⟨r, hreport, -⟩ := exists_of_map_eq_ok hreply
    obtain ⟨hencodable, htext⟩ := hresult.1 ⟨r, hreport⟩
    exact ⟨hencodable, fun limit _ => htext limit⟩
  · rintro ⟨hencodable, htext⟩
    obtain ⟨r, hreport⟩ := hresult.2 ⟨hencodable, fun limit ho =>
      htext limit (obeys.limit limit ho) ho⟩
    exact ⟨Reply.ofResult r, by rw [hreport]; rfl⟩

theorem isError_eq_false_iff {reply : Reply}
    (hreply : (t.call stack (executor environ launcher) args world).answer = .ok reply) :
    reply.isError = false ↔
      ∃ stdout stderr, (launcher (t.launch environ out) world).1 = .completed stdout stderr 0 := by
  rw [call_of_render accepted hlog h environ] at hreply
  obtain ⟨r, hreport, rfl⟩ := exists_of_map_eq_ok hreply
  rw [Reply.ofResult, Bool.not_eq_false', Execution.success_report_iff hreport]

end Rendered

/-- A call is answered exactly when its arguments can be written and are refused, or the system can
be told of its launch; only the text of a limit that ran out may be in the way, if this is an
integer beyond all floating point numbers. The answer is that of an error, unless the command has
come to its end with the status zero. What can always be written are arguments without long integers
that do not lie too deep. -/
theorem call_answered_iff (accepted : ofArguments argv = .ok t.template) (environ : Environment)
    (obeys : ∀ out, t.template.render stack args = .ok out →
      launcher.Obeys (t.launch environ out) world) :
    ((∃ reply, (t.call stack (executor environ launcher) args world).answer = .ok reply) ↔
      t.Writes stack args ∧
      ∀ out, t.template.render stack args = .ok out → (t.launch environ out).Encodable ∧
        ∀ limit, t.execution.timeout = some limit →
          (launcher (t.launch environ out) world).1 = .timedOut limit →
            ∃ text, limit.roundedText = .ok text) ∧
    (∀ reply, (t.call stack (executor environ launcher) args world).answer = .ok reply →
      (reply.isError = false ↔ ∃ out stdout stderr, t.template.render stack args = .ok out ∧
        (launcher (t.launch environ out) world).1 = .completed stdout stderr 0)) ∧
    (¬args.toValue.HoldsLong → 3 * args.toValue.depth < stack.free → t.Writes stack args) := by
  rw [← and_assoc]
  refine ⟨?_, fun hlong hdepth => writes_of_moderate hlong hdepth t⟩
  cases fate stack t args with
  | unlogged hlog =>
    rw [call_of_unlogged hlog]
    refine ⟨iff_of_false (fun ⟨_, h⟩ => nomatch h) ?_, fun reply h => nomatch h⟩
    rintro ⟨⟨⟨_, htext⟩, -⟩, -⟩
    cases hlog.symm.trans htext
  | @unwritten _ f hlog hr =>
    rw [(call_of_fault hlog hr (executor environ launcher) world).1]
    refine ⟨iff_of_false (fun ⟨_, h⟩ => nomatch h) ?_, fun reply h => nomatch h⟩
    rintro ⟨writes, -⟩
    exact writes.rendered f hr
  | @refused text e hlog hr =>
    rw [(call_of_refused hlog hr (executor environ launcher) world).1]
    have writes : t.Writes stack args := ⟨⟨text, hlog⟩, fun f h => nomatch hr.symm.trans h⟩
    refine ⟨iff_of_true ⟨_, rfl⟩ ⟨writes, fun out h => nomatch hr.symm.trans h⟩, fun reply h => ?_⟩
    cases h
    refine iff_of_false (fun h => nomatch h) ?_
    rintro ⟨out, stdout, stderr, hout, -⟩
    cases hr.symm.trans hout
  | @rendered text out hlog hr =>
    have writes : t.Writes stack args := ⟨⟨text, hlog⟩, fun f h => nomatch hr.symm.trans h⟩
    refine ⟨?_, fun reply hreply => ?_⟩
    · rw [exists_reply_iff hlog hr accepted environ (obeys out hr)]
      constructor
      · intro h
        refine ⟨writes, fun out' hout => ?_⟩
        cases hr.symm.trans hout
        exact h
      · rintro ⟨-, h⟩
        exact h out hr
    · rw [isError_eq_false_iff hlog hr accepted environ hreply]
      constructor
      · rintro ⟨stdout, stderr, ho⟩
        exact ⟨out, stdout, stderr, hr, ho⟩
      · rintro ⟨out', stdout, stderr, hout, ho⟩
        cases hr.symm.trans hout
        exact ⟨stdout, stderr, ho⟩

/-- A tool for a command that repeats its one parameter, and a letter to repeat. -/
def parrotTool : Tool := ⟨parrot, {}⟩

def letter : Arguments := .ofPairs [("x", .text "a")]

/-- Starts the command that repeats its arguments, and no other. -/
def echoLauncher : Launcher Unit := fun l world =>
  match Job.refusal? l with
  | some f => (.refused f, world)
  | none =>
    match l.argv with
    | "echo" :: words =>
      (.completed (some (String.intercalate " " words ++ "\n")) (some "") 0, world)
    | _ => (.failed (.noSuchFile (.name (l.argv.headD ""))), world)

theorem echoLauncher_obeys (l : Launch) : echoLauncher.Obeys l () := by
  unfold echoLauncher
  cases hr : Job.refusal? l with
  | some f =>
    refine ⟨fun t ht => ?_, iff_of_true ⟨f, by rw [hr]⟩ fun he => ?_⟩
    · rw [hr] at ht
      cases ht
    · rw [Job.refusal?_eq_none_iff.2 he] at hr
      cases hr
  | none =>
    refine ⟨fun t ht => ?_, iff_of_false ?_ (not_not_intro (Job.refusal?_eq_none_iff.1 hr))⟩
    · rw [hr] at ht
      dsimp only at ht
      split at ht <;> cases ht
    · rintro ⟨f, hf⟩
      rw [hr] at hf
      dsimp only at hf
      split at hf <;> cases hf

theorem call_answered_iff_echo :
    ofArguments ["echo", "\x7b\x7bx\x7d\x7d"] = .ok parrotTool.template ∧
      (∀ out, parrotTool.template.render .usual letter = .ok out →
        echoLauncher.Obeys (parrotTool.launch .empty out) ()) ∧
      ∃ reply, (parrotTool.call .usual (executor .empty echoLauncher) letter ()).answer =
          .ok reply ∧ reply.isError = false := by
  have rendered : parrotTool.template.render .usual letter = .ok ["echo", "a"] := by
    refine render_eq_ok_iff.2 ⟨accepted_of_isArray_eq_false ?_ (by decide +kernel), [["a"]],
      by decide +kernel, rfl⟩
    simp [parrotTool, parrot, Field.isArray]
  have obeys : ∀ out, parrotTool.template.render .usual letter = .ok out →
      echoLauncher.Obeys (parrotTool.launch .empty out) () := fun out _ => echoLauncher_obeys _
  obtain ⟨hanswered, hsuccess, -⟩ :=
    call_answered_iff (t := parrotTool) ofArguments_parrot .empty obeys
  have hencodable : (parrotTool.launch .empty ["echo", "a"]).Encodable :=
    Job.refusal?_eq_none_iff.1 rfl
  have writes : parrotTool.Writes .usual letter := by
    refine ⟨⟨_, rfl⟩, fun f h => ?_⟩
    cases rendered.symm.trans h
  obtain ⟨reply, hreply⟩ := hanswered.2 ⟨writes, fun out h => by
    cases rendered.symm.trans h
    refine ⟨hencodable, fun limit hlimit => ?_⟩
    cases hlimit⟩
  exact ⟨ofArguments_parrot, obeys, reply, hreply,
    (hsuccess reply hreply).2 ⟨_, _, _, rendered, rfl⟩⟩

/-- A tool that prints a text as it is, and a text with the character zero. -/
def printTool : Tool := ⟨⟨"printf", [[.text "%s"], [.field ⟨"a", "", .scalar true⟩]]⟩, {}⟩

def nulText : Arguments := .ofPairs [("a", .text "nul\x00byte")]

/-- A machine with nothing but its standard programs. -/
def bareMachine : Machine := { files := Job.standardFiles, environ := .empty, working := [] }

/-- A text with the character zero is rendered, and the call ends with the fault of its launch. -/
theorem call_of_nul :
    ofArguments ["printf", "%s", "\x7b\x7ba\x7d\x7d"] = .ok printTool.template ∧
      (∀ out, printTool.template.render .usual nulText = .ok out →
        Job.launcher.Obeys (printTool.launch .empty out) bareMachine) ∧
      (printTool.call .usual (executor .empty Job.launcher) nulText bareMachine).answer =
        .error .embeddedNul := by
  have accepted : ofArguments ["printf", "%s", "\x7b\x7ba\x7d\x7d"] = .ok printTool.template :=
    ofArguments_eq_ok_iff.2 ⟨["%s", "\x7b\x7ba\x7d\x7d"], rfl, by decide, by decide +kernel⟩
  have rendered : printTool.template.render .usual nulText =
      .ok ["printf", "%s", "nul\x00byte"] := by
    refine render_eq_ok_iff.2 ⟨accepted_of_isArray_eq_false ?_ (by decide +kernel),
      [["%s"], ["nul\x00byte"]], by decide +kernel, rfl⟩
    simp [printTool, Field.isArray]
  refine ⟨accepted, fun out _ => Job.launcher_obeys Job.canWait_none _, ?_⟩
  exact call_of_render (t := printTool) accepted rfl rendered .empty

end Tool

end CommandServer
