/-
Calls of a tool. Arguments that cannot be written end a call with a fault, and arguments that are
refused are answered, both without anything being run; for all others the executor runs one request,
and what comes of this request is what comes of the call.
-/
import CommandServer.Proofs.Template.Refusal
import CommandServer.Tool

namespace CommandServer

open CommandServer.Template

namespace Tool

section Calls

variable {σ : Type} {stack : Stack} {t : Tool} {args : Arguments} {argv : List String}
  {text : String} {e : RenderError} {f : Fault}

theorem request_of_ok (h : t.template.render stack args = .ok argv) :
    t.request stack args = .ok ⟨argv, t.execution⟩ := by
  unfold request
  rw [h]
  rfl

theorem request_of_error {e : RenderFailure} (h : t.template.render stack args = .error e) :
    t.request stack args = .error e := by
  unfold request
  rw [h]
  rfl

/-- Arguments that cannot be written for the log end a call before anything else. -/
theorem call_of_unlogged (h : args.toValue.json stack.free = .error f) (execute : Executor σ)
    (world : σ) : t.call stack execute args world = ⟨.error f, [], world⟩ := by
  unfold call
  rw [h]

/-- Arguments that are refused are answered with the reason, and the world stays as it is. -/
theorem call_of_refused (hlog : args.toValue.json stack.free = .ok text)
    (h : t.template.render stack args = .error (.refused e)) (execute : Executor σ) (world : σ) :
    (t.call stack execute args world).answer = .ok (Reply.ofRenderError e) ∧
      (t.call stack execute args world).state = world := by
  unfold call
  rw [hlog, request_of_error h]
  exact ⟨rfl, rfl⟩

/-- Arguments that cannot be written as arguments of the command end a call with a fault. -/
theorem call_of_fault (hlog : args.toValue.json stack.free = .ok text)
    (h : t.template.render stack args = .error (.fault f)) (execute : Executor σ) (world : σ) :
    (t.call stack execute args world).answer = .error f ∧
      (t.call stack execute args world).state = world := by
  unfold call
  rw [hlog, request_of_error h]
  exact ⟨rfl, rfl⟩

/-- Arguments that are rendered are answered with what comes of their request, and leave the world
as this request does. -/
theorem call_of_ok (hlog : args.toValue.json stack.free = .ok text)
    (h : t.template.render stack args = .ok argv) (execute : Executor σ) (world : σ) :
    (t.call stack execute args world).answer =
        (execute ⟨argv, t.execution⟩ world).answer.map Reply.ofResult ∧
      (t.call stack execute args world).state = (execute ⟨argv, t.execution⟩ world).state := by
  unfold call
  rw [hlog, request_of_ok h]
  dsimp only
  cases (execute ⟨argv, t.execution⟩ world).answer with
  | error f => exact ⟨rfl, rfl⟩
  | ok r => exact ⟨rfl, rfl⟩

/-- What becomes of the arguments of a call before anything is run. -/
inductive Fate (stack : Stack) (t : Tool) (args : Arguments) : Prop
  | unlogged {f : Fault} (h : args.toValue.json stack.free = .error f) : Fate stack t args
  | refused {text : String} {e : RenderError} (hlog : args.toValue.json stack.free = .ok text)
    (h : t.template.render stack args = .error (.refused e)) : Fate stack t args
  | unwritten {text : String} {f : Fault} (hlog : args.toValue.json stack.free = .ok text)
    (h : t.template.render stack args = .error (.fault f)) : Fate stack t args
  | rendered {text : String} {argv : List String}
    (hlog : args.toValue.json stack.free = .ok text)
    (h : t.template.render stack args = .ok argv) : Fate stack t args

theorem fate (stack : Stack) (t : Tool) (args : Arguments) : t.Fate stack args := by
  cases hlog : args.toValue.json stack.free with
  | error f => exact .unlogged hlog
  | ok text =>
    cases h : t.template.render stack args with
    | ok argv => exact .rendered hlog h
    | error e =>
      cases e with
      | refused e => exact .refused hlog h
      | fault f => exact .unwritten hlog h

end Calls

/-! ## Arguments that can be written -/

/-- The arguments of a call can be written, for the log and for the command. -/
structure Writes (stack : Stack) (t : Tool) (args : Arguments) : Prop where
  logged : ∃ text, args.toValue.json stack.free = .ok text
  rendered : ∀ f, t.template.render stack args ≠ .error (.fault f)

/-- Arguments without long integers that do not lie too deep can be written. -/
theorem writes_of_moderate {stack : Stack} {args : Arguments} (hlong : ¬args.toValue.HoldsLong)
    (hdepth : 3 * args.toValue.depth < stack.free) (t : Tool) : t.Writes stack args where
  logged := Value.exists_json hlong (by omega)
  rendered f h := by
    obtain ⟨e, he, hunwritable⟩ := exists_unwritable_of_render h
    have hinside : e.2.Inside args.toValue := .record he
    exact Value.not_unwritable hlong hdepth (hunwritable.of_inside hinside (Nat.le_add_right _ 3))

end Tool

end CommandServer
