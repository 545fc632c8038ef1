import Compliance.Calendar.Clock
import Compliance.Calendar.Format
import Compliance.Number.Literal

/-!
# Timestamps in forms

A timestamp is a date with a time of day, a date alone, or a number of seconds since 1970, which is
taken as milliseconds when it is large.
-/
namespace Compliance.Timestamp

open Calendar Number

/-- The largest number that is taken as seconds. -/
def watershed : Nat := 20000000000

/-- A moment whose numbers are in range. -/
def checked (m : Moment) : Option Moment := m.check.toOption

/-- The moment so many seconds, or else milliseconds, and then microseconds after 1970 in universal
time. -/
def ofWhole? (n micros : Int) : Option Moment :=
  checked (Instant.mk (n * (if n.natAbs ≤ watershed then 1000000 else 1000) + micros)).toMoment

/-- The moment that a double stands for: its whole part, and its fraction in microseconds, a half
rounded up. -/
def ofFloat? (x : Float) : Option Moment :=
  match exact x, exact ((x - x.floor) * 1000000) with
  | .finite q, .finite micros => ofWhole? q.floor (micros + 1 / 2).floor
  | _, _ => none

/-- A number given as text. A large one with a fraction is taken as milliseconds first of all. -/
def ofNumber? (cs : List Char) : Option Moment :=
  let (negative, body) := signSpan cs
  match digitSpan body with
  | (ds, []) =>
    if ds.isEmpty then none else ofWhole? (if negative then -fromDigits ds else fromDigits ds) 0
  | _ =>
    (readFloat? cs).bind fun x =>
      ofFloat? (if Float.ofNat watershed < x.abs then x / 1000 else x)

/-- An offset: `Z`, or a sign with hours and minutes. The minus may be a hyphen or a proper one. -/
def readOffset? : List Char → Option (Option Int)
  | [] => some none
  | ['Z'] => some (some 0)
  | ['z'] => some (some 0)
  | sign :: cs =>
    if sign = '+' ∨ sign = '-' ∨ sign = '−' then
      match takeDigits? 2 0 cs with
      | some (h, cs) =>
        match takeDigits? 2 0 (if cs.head? = some ':' then cs.tail else cs) with
        | some (m, []) =>
          let micros : Int := (h * 3600 + m * 60) * 1000000
          if h < 24 ∧ m < 60 then some (some (if sign = '+' then micros else -micros)) else none
        | _ => none
      | none => none
    else none

/-- A fraction of a second, of which six digits count, and what follows it. -/
def readFraction? (cs : List Char) : Option (Nat × List Char) :=
  match cs with
  | mark :: c :: rest =>
    if mark = '.' ∨ mark = ',' then
      if c.isDigit then
        let ds := ((c :: rest).takeWhile Char.isDigit).take 6
        (takeFraction? ds).map fun (micro, _) => (micro, (c :: rest).dropWhile Char.isDigit)
      else none
    else some (0, cs)
  | _ => some (0, cs)

/-- A time of day with its offset, seconds being optional. -/
def readTime? (cs : List Char) : Option (Nat × Nat × Nat × Nat × Option Int) := do
  let (hour, cs) ← takeDigits? 2 0 cs
  match cs with
  | ':' :: cs =>
    let (minute, cs) ← takeDigits? 2 0 cs
    match cs with
    | ':' :: cs =>
      let (second, cs) ← takeDigits? 2 0 cs
      let (micro, cs) ← readFraction? cs
      let offset ← readOffset? cs
      some (hour, minute, second, micro, offset)
    | cs =>
      let offset ← readOffset? cs
      some (hour, minute, 0, 0, offset)
  | _ => none

/-- A date with hyphens, and perhaps a time after a `T`, a blank or an underscore. -/
def readWritten? (cs : List Char) : Option Moment := do
  let (year, cs) ← takeDigits? 4 0 cs
  match cs with
  | '-' :: cs =>
    let (month, cs) ← takeDigits? 2 0 cs
    match cs with
    | '-' :: cs =>
      let (day, cs) ← takeDigits? 2 0 cs
      let date : Date := ⟨year, month, day⟩
      match cs with
      | [] => some ⟨date, 0, 0, 0, 0, none⟩
      | mark :: cs =>
        if mark = 'T' ∨ mark = 't' ∨ mark = ' ' ∨ mark = '_' then
          let (hour, minute, second, micro, offset) ← readTime? cs
          some ⟨date, hour, minute, second, micro, offset⟩
        else none
    | _ => none
  | _ => none

/-- A timestamp given as text. -/
def ofText? (s : String) : Option Moment :=
  match readWritten? s.toList with
  | some m => checked m
  | none => ofNumber? s.toList

end Compliance.Timestamp
