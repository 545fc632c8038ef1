import Compliance.Calendar.Clock
import Compliance.Number.Exact

/-!
# Waiting

Time passes only while a run waits (`CancellationToken.sleep`), so it is only then that a
cancellation (`cancel_scan`) or a deadline (the `wait_for` of `run_scan`) can come. Whichever is due
first decides: the end of the wait, the cancellation or the deadline. A deadline that is due by the
end of a wait breaks it off.

A wait of no seconds comes to its end at once as well, but others have their turn meanwhile, and so
do they in every wait between the time that it is up and the time that the run goes on: the
`wait_for` of a delay then times out, whatever it waited for. A cancellation that comes then does
not end the wait. The token is set, and the run hears of it before its next step
(`raise_if_cancelled`).
-/
namespace Compliance

open Calendar Number

/-- Why waiting came to no end of its own. -/
inductive Interruption where
  /-- Cancelled before the step was taken. -/
  | cancelledBefore
  /-- Cancelled during a wait. -/
  | cancelled
  | deadline
  /-- The wait has no end, and nothing ends it. -/
  | endless
  deriving DecidableEq

/-- When the token of a response is set, apart from a cancellation at a given time
(`CancellationToken`). -/
inductive Token where
  | unset
  /-- Set from the start. -/
  | set
  /-- Set in the wait with a number, when so many seconds of it have passed. Of a wait that is
  shorter it is set at the end, before the run goes on. -/
  | during (wait : Nat) (elapsed : Rat)
  deriving DecidableEq

/-- A token that is set from the start, or not at all. -/
instance : Coe Bool Token := ⟨fun isSet => if isSet then .set else .unset⟩

/-- Whether the token is set after a number of waits. -/
def Token.isSet (waits : Nat) : Token → Bool
  | .unset => false
  | .set => true
  | .during n _ => n < waits

/-- The first of some times. -/
def soonest? : List Rat → Option Rat
  | [] => none
  | t :: rest =>
    match soonest? rest with
    | some u => some (if u < t then u else t)
    | none => some t

/-- When a response is to be broken off. Times are in seconds waited since the beginning. -/
structure Watch where
  token : Token
  cancelAt : Option Rat
  deadline : Option Rat

namespace Watch

/-- Nothing breaks off the response. -/
def none : Watch := ⟨.unset, .none, .none⟩

/-- Whether a run that looks at the token finds it set (`CancellationToken.cancelled`). -/
def isCancelled (w : Watch) (clock : Clock) : Bool :=
  w.token.isSet clock.waits || w.cancelAt.any (· ≤ clock.waited)

/-- When the token is set in the wait that begins, if that lasts long enough. -/
def cancelIn (w : Watch) (clock : Clock) : Option Rat :=
  match w.token with
  | .during n elapsed =>
    if n = clock.waits then soonest? ((clock.waited + elapsed) :: w.cancelAt.toList) else w.cancelAt
  | _ => w.cancelAt

/-- The watch over the wait that begins. -/
def onWait (w : Watch) (clock : Clock) : Watch := { w with cancelAt := w.cancelIn clock }

/-- The watch over a response that begins. A cancellation that is due by then comes in the first
wait, since nothing can come before. -/
def starting (w : Watch) (clock : Clock) : Watch :=
  match w.token with
  | .unset =>
    if w.cancelAt.any (· ≤ clock.waited) then ⟨.during clock.waits 0, .none, w.deadline⟩ else w
  | _ => w

/-- The interruption that is due first. -/
def next? (w : Watch) : Option (Rat × Interruption) :=
  match w.cancelAt, w.deadline with
  | some c, some t => some (if c < t then (c, .cancelled) else (t, .deadline))
  | some c, .none => some (c, .cancelled)
  | .none, some t => some (t, .deadline)
  | .none, .none => .none

/-- The later of two times. -/
def later (a b : Rat) : Rat := if a ≤ b then b else a

/-- Waits until a time, or without end. -/
def waitUntil (w : Watch) (waited : Rat) (until? : Option Rat) : Rat × Option Interruption :=
  match w.next?, until? with
  | some (t, cause), some e =>
    if t < e ∨ t = e ∧ cause = .deadline then (later waited t, some cause) else (e, .none)
  | some (t, cause), .none => (later waited t, some cause)
  | .none, some e => (e, .none)
  | .none, .none => (waited, some .endless)

/-- Whether the deadline is due. -/
def isDue (w : Watch) (waited : Rat) : Bool := w.deadline.any (· ≤ waited)

/-- Waits for so many seconds (`CancellationToken.sleep`). For a number that is not above zero the
wait is over at once, whatever cancellation is due; an undefined one is a wait for an interruption
if there can be one, and otherwise no wait. -/
def wait (w : Watch) (waited : Rat) (seconds : Exact) : Rat × Option Interruption :=
  if w.isDue waited then (waited, some .deadline)
  else
    match seconds with
    | .finite s => if 0 < s then w.waitUntil waited (some (waited + s)) else (waited, .none)
    | .infinite false => w.waitUntil waited .none
    | .infinite true => (waited, .none)
    | .undefined => if w.next?.isSome then w.waitUntil waited .none else (waited, .none)

@[simp]
theorem isCancelled_none (clock : Clock) : none.isCancelled clock = false := rfl

@[simp]
theorem onWait_none (clock : Clock) : none.onWait clock = none := rfl

@[simp]
theorem starting_none (clock : Clock) : none.starting clock = none := rfl

theorem onWait_of_unset {w : Watch} (h : w.token = .unset) (clock : Clock) :
    w.onWait clock = w := by
  obtain ⟨token, cancelAt, deadline⟩ := w
  subst h
  rfl

end Watch
end Compliance
