import Compliance.Number.Exact

/-!
# The shortest decimal of a floating-point number

Among the decimals that read back as a given double, the one with the fewest digits is written,
and of those the nearest to the double. The search tries one digit, two digits, and so on: on the
grid of decimals with so many digits only the two neighbours of the double can read back first. This
is what `repr` writes for a double.
-/
namespace Compliance.Number

/-- A positive decimal: its digits, read as `0.d₁d₂… * 10 ^ point`. -/
structure Digits where
  digits : Nat
  point : Int
  deriving DecidableEq

/-- A positive double and the interval of numbers that round to it, over one denominator. The ends
belong to the interval when the significand is even. -/
structure Interval where
  low : Nat
  value : Nat
  high : Nat
  den : Nat
  closed : Bool

/-- The interval of a positive double. Below a power of two the doubles lie twice as close. -/
def Parts.interval (p : Parts) : Interval :=
  let closer := p.significand == 0x10000000000000 && p.exponent > -1074
  let m := 4 * p.significand
  let low := if closer then m - 1 else m - 2
  let e := p.exponent - 2
  if e < 0 then ⟨low, m, m + 2, Nat.pow 2 (-e).toNat, p.significand % 2 == 0⟩
  else
    let scale := Nat.pow 2 e.toNat
    ⟨low * scale, m * scale, (m + 2) * scale, 1, p.significand % 2 == 0⟩

/-- How many of the first decimal places of `num / den` are zero, `fuel` at most. -/
def leadingZeros (num den : Nat) : Nat → Nat
  | 0 => 0
  | fuel + 1 => if num * 10 < den then leadingZeros (num * 10) den fuel + 1 else 0

/-- The `p` with `10 ^ (p - 1) ≤ num / den < 10 ^ p`. -/
def pointOf (num den : Nat) : Int :=
  if den ≤ num then (Nat.toDigits 10 (num / den)).length else -(leadingZeros num den 400 : Int)

/-- Whether the decimal `c * up / down` lies in the interval. -/
def Interval.holds (i : Interval) (c up down : Nat) : Bool :=
  let x := c * up * i.den
  if i.closed then i.low * down ≤ x && x ≤ i.high * down
  else i.low * down < x && x < i.high * down

/-- The decimal with so many digits that reads back, when there is one: the nearer of the two
neighbours, an exact tie going to the even one. -/
def Interval.onGrid? (i : Interval) (point : Int) (count : Nat) : Option Digits :=
  let k := point - count
  let up := Nat.pow 10 k.toNat
  let down := Nat.pow 10 (-k).toNat
  let num := i.value * down
  let den := i.den * up
  let c := num / den
  let rest := 2 * (num % den)
  let lower := i.holds c up down
  let above := i.holds (c + 1) up down
  let takeAbove := above && (!lower || den < rest || (den == rest && c % 2 == 1))
  if takeAbove then
    if c + 1 == Nat.pow 10 count then some ⟨1, point + 1⟩ else some ⟨c + 1, point⟩
  else if lower then some ⟨c, point⟩
  else none

/-- The first grid with a decimal that reads back, from `count` digits on. -/
def Interval.search (i : Interval) (point : Int) : Nat → Nat → Digits
  | 0, count => ⟨i.value / i.den, point + count⟩
  | fuel + 1, count =>
    match i.onGrid? point count with
    | some d => d
    | none => i.search point fuel (count + 1)

/-- The shortest digits of a positive double; seventeen always suffice. -/
def Parts.shortest (p : Parts) : Digits :=
  let i := p.interval
  i.search (pointOf i.value i.den) 17 1

/-!
## Writing a floating-point number

The digits come from `Parts.shortest`; a `Layout` says how they are set out.
-/

/-- How digits are set out as text. -/
structure Layout where
  /-- The least decimal exponent that is written without an exponent. -/
  leastPositional : Int
  /-- The first decimal exponent above those. -/
  firstScientific : Int
  /-- The least number of digits of an exponent. -/
  exponentWidth : Nat
  /-- What a number is written as that has no digits. -/
  infinite : String
  undefined : String

/-- The digits of a number without the zeros at its end. -/
def significantDigits (n : Nat) : List Char :=
  let ds := (Nat.toDigits 10 n).reverse.dropWhile (· == '0')
  if ds.isEmpty then ['0'] else ds.reverse

/-- An exponent, with its sign. -/
def Layout.exponent (l : Layout) (e : Int) : List Char :=
  let ds := Nat.toDigits 10 e.natAbs
  (if e < 0 then '-' else '+') :: (List.replicate (l.exponentWidth - ds.length) '0' ++ ds)

/-- Digits with the point `point` places after the first; there is a digit on either side of it. -/
def positional (ds : List Char) (point : Int) : List Char :=
  if point ≤ 0 then '0' :: '.' :: List.replicate (-point).toNat '0' ++ ds
  else
    let n := point.toNat
    if ds.length ≤ n then ds ++ List.replicate (n - ds.length) '0' ++ ['.', '0']
    else ds.take n ++ '.' :: ds.drop n

/-- Digits set out in a layout. -/
def Layout.set (l : Layout) (d : Digits) : List Char :=
  let ds := significantDigits d.digits
  let e := d.point - 1
  if l.leastPositional ≤ e ∧ e < l.firstScientific then positional ds d.point
  else
    match ds with
    | [] => []
    | [c] => c :: 'e' :: l.exponent e
    | c :: cs => c :: '.' :: cs ++ 'e' :: l.exponent e

/-- A double as text. -/
def Layout.write (l : Layout) (x : Float) : String :=
  match parts? x with
  | some p =>
    let body := if p.significand = 0 then ['0', '.', '0'] else l.set p.shortest
    String.ofList (if p.negative then '-' :: body else body)
  | none =>
    match exact x with
    | .infinite true => "-" ++ l.infinite
    | .infinite false => l.infinite
    | _ => l.undefined

/-- Numbers in messages: an exponent of at least two digits from ten to the sixteenth on and below
a ten-thousandth, and otherwise always a digit after the point. -/
def plainLayout : Layout := ⟨-4, 16, 2, "inf", "nan"⟩

/-- Numbers in JSON differ only where there are no digits. -/
def jsonLayout : Layout := { plainLayout with infinite := "Infinity", undefined := "NaN" }

end Compliance.Number
