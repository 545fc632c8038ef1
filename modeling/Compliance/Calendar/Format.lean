import Compliance.Calendar.Moment
import Compliance.Text.Basic
import Compliance.Text.Quoted

/-!
# Moments as text

How moments are read (`fromisoformat`) and how they are shown in messages.
-/
namespace Compliance.Calendar

/-!
## The written form of a moment

A date by month and day or by week, and after any one character a time of day, which may end with an
offset. Reading checks the form first and the ranges of the numbers second, so that each fault has
its own text. The form is one of bytes: a byte is taken for a character here, and the byte zero for
the end.
-/

/-- Exactly `n` ASCII digits at the head of a text. -/
def takeDigits? : Nat → Nat → List Char → Option (Nat × List Char)
  | 0, value, cs => some (value, cs)
  | n + 1, value, c :: cs =>
    if c.isDigit then takeDigits? n (10 * value + (c.toNat - 48)) cs else none
  | _ + 1, _, [] => none

/-- The bytes of a text, each as a character. -/
def byteChars (s : String) : List Char := s.toUTF8.toList.map fun b => Char.ofNat b.toNat

/-- Whether nothing follows. -/
def isOver (cs : List Char) : Bool := cs.head?.all (· == '\x00')

/-! ## Dates -/

/-- How much of a text is the date. A week may be followed by the number of a day; two digits after
a hyphen are an hour, and the digits of a time come in pairs. -/
def dateLength (cs : List Char) : Nat :=
  match cs.drop 4 with
  | '-' :: 'W' :: _ :: _ :: '-' :: _ :: c :: _ => if c.isDigit then 8 else 10
  | '-' :: 'W' :: _ :: _ :: '-' :: _ => 10
  | '-' :: 'W' :: _ => 8
  | '-' :: _ => 10
  | 'W' :: _ =>
    let n := ((cs.drop 7).takeWhile Char.isDigit).length
    if n < 2 then 7 + n else if n % 2 = 1 then 7 else 8
  | _ => 8

/-- The week after its letter, and perhaps the day. -/
def readWeek? (year : Nat) (hyphen : Bool) (cs : List Char) : Option Date := do
  let (week, cs) ← takeDigits? 2 0 cs
  match hyphen, cs with
  | _, [] => Date.ofWeek? year week 1
  | true, '-' :: cs
  | false, cs =>
    match takeDigits? 1 0 cs with
    | some (day, []) => Date.ofWeek? year week day
    | _ => none
  | _, _ => none

/-- A date, with or without hyphens. -/
def readDate? (cs : List Char) : Option Date := do
  let (year, cs) ← takeDigits? 4 0 cs
  match cs with
  | '-' :: 'W' :: cs => readWeek? year true cs
  | 'W' :: cs => readWeek? year false cs
  | '-' :: cs =>
    match takeDigits? 2 0 cs with
    | some (month, '-' :: cs) =>
      match takeDigits? 2 0 cs with
      | some (day, []) => some ⟨year, month, day⟩
      | _ => none
    | _ => none
  | cs =>
    match takeDigits? 4 0 cs with
    | some (n, []) => some ⟨year, n / 100, n % 100⟩
    | _ => none

/-! ## Times -/

/-- A time of day as it is written; numbers that are not written are zero. -/
structure ClockTime where
  hour : Nat
  minute : Nat
  second : Nat
  micro : Nat

/-- A fraction of a second in microseconds, and what comes after it. Six digits count, and those
that follow are cut off. -/
def takeFraction? (cs : List Char) : Option (Nat × List Char) :=
  let ds := cs.take 6
  (takeDigits? ds.length 0 ds).map fun (n, _) =>
    (n * Nat.pow 10 (6 - ds.length), (cs.drop 6).dropWhile Char.isDigit)

/-- So many pairs of digits and then perhaps a fraction: the numbers, the fraction, and whether the
text ends there. The first pair decides whether there are colons between pairs. A fraction follows a
point or a comma, or the last pair; of anything else a single character may be left over. -/
def readPairs? : Nat → Option Bool → List Char → Option (List Nat × Nat × Bool)
  | 0, _, cs => (takeFraction? cs).map fun (micro, rest) => ([], micro, isOver rest)
  | n + 1, colons, cs => do
    let (value, cs) ← takeDigits? 2 0 cs
    match cs with
    | [] => some ([value], 0, true)
    | [c] => some ([value], 0, c == '\x00')
    | c :: rest =>
      let colons := colons.getD (c == ':')
      if c = '.' ∨ c = ',' then
        let (micro, rest) ← takeFraction? rest
        some ([value], micro, isOver rest)
      else if colons && c != ':' then none
      else
        let (values, micro, atEnd) ← readPairs? n colons (if colons then rest else cs)
        some (value :: values, micro, atEnd)

/-- A time of day, and whether the text ends with it. -/
def readClock? (cs : List Char) : Option (ClockTime × Bool) :=
  (readPairs? 3 none cs).map fun (values, micro, atEnd) =>
    (⟨values[0]?.getD 0, values[1]?.getD 0, values[2]?.getD 0, micro⟩, atEnd)

/-- An offset without its sign. Less than a second is none. -/
def ClockTime.span (t : ClockTime) : Int :=
  let seconds := t.hour * 3600 + t.minute * 60 + t.second
  if seconds = 0 then 0 else (seconds * 1000000 + t.micro : Nat)

/-- The offset that ends a time: `Z`, or a sign and a clock time. -/
def readOffset? : List Char → Option Int
  | 'Z' :: cs => if isOver cs then some 0 else none
  | sign :: cs =>
    match readClock? cs with
    | some (t, true) => some (if sign = '-' then -t.span else t.span)
    | _ => none
  | [] => none

/-- Whether a character begins an offset. -/
def beginsOffset (c : Char) : Bool := c == '+' || c == '-' || c == 'Z'

/-- A time of day and perhaps an offset. What is left over before an offset does not count. -/
def readTime? (cs : List Char) : Option (ClockTime × Option Int) := do
  let (t, atEnd) ← readClock? (cs.takeWhile (!beginsOffset ·))
  match cs.dropWhile (!beginsOffset ·) with
  | [] => if atEnd then some (t, none) else none
  | cs => (readOffset? cs).map fun z => (t, some z)

/-! ## Moments -/

/-- How many bytes a character takes up, by the first of them. -/
def byteCount (c : Char) : Nat :=
  if c.toNat < 0x80 then 1
  else if c.toNat / 16 = 14 then 3
  else if c.toNat / 16 = 15 then 4
  else 2

/-- The form of a moment: a date, and after any one character a time. -/
def Moment.parse? (cs : List Char) : Option Moment := do
  let n := dateLength cs
  let date ← readDate? (cs.take n)
  match cs.drop n with
  | [] => some ⟨date, 0, 0, 0, 0, none⟩
  | c :: rest =>
    let (t, offset) ← readTime? ((c :: rest).drop (byteCount c))
    some ⟨date, t.hour, t.minute, t.second, t.micro, offset⟩

/-- Reads a moment. -/
def Moment.read (s : String) : Except Fault Moment :=
  match Moment.parse? (byteChars s) with
  | some m => m.check
  | none => .error (.form s)

/-!
## Dates in messages

Moments and offsets as they are shown inside a message, and the words for what is no date.
-/

/-- A span of time in microseconds, as days, seconds and microseconds. -/
def spanQuoted (micros : Int) : String :=
  let part := fun (name : String) (n : Int) => if n = 0 then [] else [name ++ "=" ++ toString n]
  let parts := part "days" (micros.fdiv 86400000000) ++
    part "seconds" ((micros.fmod 86400000000).fdiv 1000000) ++
    part "microseconds" (micros.fmod 1000000)
  "datetime.timedelta(" ++ joined ", " parts ++ ")"

/-- An offset from universal time. -/
def offsetQuoted (micros : Int) : String :=
  if micros = 0 then "datetime.timezone.utc"
  else "datetime.timezone(" ++ spanQuoted micros ++ ")"

/-- A date inside a message. -/
def Date.quoted (d : Date) : String :=
  "datetime.date(" ++ joined ", " [toString d.year, toString d.month, toString d.day] ++ ")"

/-- A moment inside a message: seconds and microseconds are left out from the end while zero. -/
def Moment.quoted (m : Moment) : String :=
  let fixed := [toString m.date.year, toString m.date.month, toString m.date.day,
    toString m.hour, toString m.minute]
  let tail :=
    if m.micro ≠ 0 then [toString m.second, toString m.micro]
    else if m.second ≠ 0 then [toString m.second]
    else []
  let offset := match m.offset with | some s => ["tzinfo=" ++ offsetQuoted s] | none => []
  "datetime.datetime(" ++ joined ", " (fixed ++ tail ++ offset) ++ ")"

def Fault.message : Fault → String
  | .form text => "Invalid isoformat string: " ++ Text.quoted text
  | .year n => "year " ++ toString n ++ " is out of range"
  | .month => "month must be in 1..12"
  | .day => "day is out of range for month"
  | .hour => "hour must be in 0..23"
  | .minute => "minute must be in 0..59"
  | .second => "second must be in 0..59"
  | .offset micros =>
    "offset must be a timedelta strictly between -timedelta(hours=24) and " ++
      "timedelta(hours=24), not " ++ spanQuoted micros ++ "."

end Compliance.Calendar
