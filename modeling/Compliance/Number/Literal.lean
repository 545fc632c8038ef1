import Compliance.Number.Exact
import Compliance.Text.Basic

/-!
# Reading numbers

Numbers are read from texts as `float` and `int` read them.
-/
namespace Compliance.Number

/-!
## Reading numbers

`readFloat?` reads a plain decimal or one of the words for infinity and the undefined number.
`lenientFloat?` is the rule for numbers given as text in a definition: white space around the
number, digits of any script and an underscore between two digits are allowed.
-/

/-- The decimal `± digits * 10 ^ exponent`. -/
structure Literal where
  negative : Bool
  digits : Nat
  exponent : Int

def infinity : Float := 1.0 / 0.0

/-- The double nearest to a decimal. Exponents far outside the range are settled by size alone. -/
def Literal.toFloat (l : Literal) : Float :=
  let reach := (Nat.toDigits 10 l.digits).length + l.exponent
  let size :=
    if l.digits = 0 ∨ reach < -400 then 0.0
    else if 400 < reach then infinity
    else nearest (mkRat (l.digits * Nat.pow 10 l.exponent.toNat) (Nat.pow 10 (-l.exponent).toNat))
  if l.negative then -size else size

/-- The double nearest to a whole number, when that is finite. -/
def ofInt? (n : Int) : Option Float :=
  let x := Literal.toFloat ⟨n < 0, n.natAbs, 0⟩
  if x.isInf then none else some x

/-- The number that a row of decimal digits stands for. -/
def fromDigits (ds : List Nat) : Nat := ds.foldl (fun n d => 10 * n + d) 0

/-- The ASCII digits at the head of a text, and the rest. -/
def digitSpan : List Char → List Nat × List Char
  | [] => ([], [])
  | c :: cs =>
    match Text.asciiDigit? c with
    | some d => let (ds, rest) := digitSpan cs; (d :: ds, rest)
    | none => ([], c :: cs)

/-- A sign at the head of a text: whether it is a minus, and the rest. -/
def signSpan : List Char → Bool × List Char
  | '-' :: cs => (true, cs)
  | '+' :: cs => (false, cs)
  | cs => (false, cs)

/-- An exponent that is the whole of a text; no text is the exponent zero. -/
def readExponent? : List Char → Option Int
  | [] => some 0
  | e :: cs =>
    if e = 'e' ∨ e = 'E' then
      let (negative, cs) := signSpan cs
      match digitSpan cs with
      | ([], _) => none
      | (ds, []) => some (if negative then -(fromDigits ds : Int) else fromDigits ds)
      | _ => none
    else none

/-- A decimal without sign: digits, or digits with a point before, among or after them, and
perhaps an exponent. -/
def readUnsigned? (negative : Bool) (cs : List Char) : Option Literal :=
  let (whole, rest) := digitSpan cs
  let (fraction, rest) :=
    match rest with
    | '.' :: rest => digitSpan rest
    | rest => ([], rest)
  if whole.isEmpty && fraction.isEmpty then none
  else (readExponent? rest).map fun e =>
    ⟨negative, fromDigits (whole ++ fraction), e - fraction.length⟩

/-- A double: a decimal, or a word for a number without digits. -/
def readFloat? (cs : List Char) : Option Float :=
  let (negative, body) := signSpan cs
  let word := body.map Char.toLower
  if word = "inf".toList ∨ word = "infinity".toList then
    some (if negative then -infinity else infinity)
  else if word = "nan".toList then some (0.0 / 0.0)
  else (readUnsigned? negative body).map Literal.toFloat

/-- Takes out the underscores that stand between two digits; any other one is refused. -/
def joinGroups? : Bool → List Char → Option (List Char)
  | _, [] => some []
  | afterDigit, '_' :: c :: cs =>
    if afterDigit && c.isDigit then (joinGroups? true cs).map (c :: ·) else none
  | _, c :: cs => if c = '_' then none else (joinGroups? c.isDigit cs).map (c :: ·)

/-- A digit of any script as the ASCII digit of its value. -/
def plainDigit (c : Char) : Char :=
  match Text.digitValue? c with
  | some d => Char.ofNat (48 + d)
  | none => c

/-- A double given as text in a definition. -/
def lenientFloat? (s : String) : Option Float :=
  (joinGroups? false ((Text.trimBoth Text.isWhiteSpace s.toList).map plainDigit)).bind readFloat?

/-!
## Reading whole numbers

A whole number in a base up to sixteen: a sign, digits of any script with single underscores between
them, and white space around it all. A mark for the base, such as `0x`, may stand before the digits;
an underscore may follow it. Decimal digits are limited in number, and so is the decimal form of a
number.
-/

/-- The largest number of decimal digits that are read or written. -/
def digitLimit : Nat := 4300

/-- Digits in a base that take up a whole text, with single underscores between them: their value
and their number. -/
def groupedDigits? (base : Nat) : Nat → Nat → Bool → List Char → Option (Nat × Nat)
  | value, count, afterDigit, [] => if afterDigit then some (value, count) else none
  | value, count, afterDigit, c :: cs =>
    if c = '_' then if afterDigit then groupedDigits? base value count false cs else none
    else
      match Text.hexDigit? c with
      | some d =>
        if d < base then groupedDigits? base (base * value + d) (count + 1) true cs else none
      | none => none

/-- The letter that marks a base after a zero. -/
def baseLetter? (base : Nat) : Option Char :=
  if base = 16 then some 'x' else if base = 8 then some 'o' else if base = 2 then some 'b' else none

/-- A text without the mark for a base. -/
def withoutMark (base : Nat) (cs : List Char) : List Char :=
  match cs with
  | '0' :: c :: rest =>
    if baseLetter? base = some c.toLower then
      match rest with
      | '_' :: rest => rest
      | rest => rest
    else cs
  | cs => cs

/-- A whole number in a base. -/
def readWhole? (base : Nat) (cs : List Char) : Option Int := do
  let cs := (Text.trimBoth Text.isWhiteSpace cs).map plainDigit
  let (negative, cs) := signSpan cs
  let (value, count) ← groupedDigits? base 0 0 false (withoutMark base cs)
  if base = 10 ∧ digitLimit < count then none
  else some (if negative then -value else value)

/-- The words for a decimal form that has too many digits to be read. -/
def tooManyDigits (digits : Nat) : String :=
  "Exceeds the limit (" ++ toString digitLimit ++ " digits) for integer string conversion: " ++
    "value has " ++ toString digits ++ " digits; use sys.set_int_max_str_digits() to increase the limit"

/-- The words for a whole number that has too many digits to be written. -/
def tooManyDigitsToWrite : String :=
  "Exceeds the limit (" ++ toString digitLimit ++ " digits) for integer string conversion; " ++
    "use sys.set_int_max_str_digits() to increase the limit"

/-- Whether the decimal form of a whole number has no more digits than the limit. -/
def isWritable (n : Int) : Bool := n.natAbs < Nat.pow 10 digitLimit

example : readWhole? 10 "12".toList = some 12 ∧ readWhole? 16 "-0x_1F".toList = some (-31) := by
  decide

example : readWhole? 10 "1__0".toList = none := by decide

end Compliance.Number
