/-!
# The exact value of a floating-point number

A finite double is a whole number times a power of two. Comparison with whole numbers, and the
arithmetic of waiting times, use that value and never round.
-/
namespace Compliance.Number

/-- A finite double, taken apart: `significand * 2 ^ exponent`, with a sign. -/
structure Parts where
  negative : Bool
  significand : Nat
  exponent : Int
  deriving DecidableEq

/-- The value of a double. -/
inductive Exact where
  | finite (value : Rat)
  | infinite (negative : Bool)
  | undefined
  deriving DecidableEq

/-- The sign bit, the biased exponent and the fraction of a double. -/
def fields (x : Float) : Bool × Nat × Nat :=
  let bits := x.toBits.toNat
  ((bits >>> 63) % 2 == 1, (bits >>> 52) % 0x800, bits % 0x10000000000000)

/-- The parts of a finite double. -/
def parts? (x : Float) : Option Parts :=
  match fields x with
  | (_, 2047, _) => none
  | (negative, 0, fraction) => some ⟨negative, fraction, -1074⟩
  | (negative, biased, fraction) => some ⟨negative, 0x10000000000000 + fraction, biased - 1075⟩

/-- The rational number that parts stand for. -/
def Parts.value (p : Parts) : Rat :=
  let m : Int := if p.negative then -p.significand else p.significand
  if p.exponent < 0 then mkRat m (Nat.pow 2 (-p.exponent).toNat)
  else (m * Nat.pow 2 p.exponent.toNat : Int)

/-- The value of a double. -/
def exact (x : Float) : Exact :=
  match parts? x with
  | some p => .finite p.value
  | none => if (fields x).2.2 = 0 then .infinite (fields x).1 else .undefined

/-- Equality of values; the undefined one equals nothing. -/
def Exact.same : Exact → Exact → Bool
  | .finite a, .finite b => a == b
  | .infinite a, .infinite b => a == b
  | _, _ => false

/-- Order of values; the undefined one is below nothing and above nothing. -/
def Exact.below : Exact → Exact → Bool
  | .finite a, .finite b => a < b
  | .finite _, .infinite b => !b
  | .infinite a, .finite _ => a
  | .infinite a, .infinite b => a && !b
  | _, _ => false

theorem Exact.same_comm (a b : Exact) : a.same b = b.same a := by
  cases a <;> cases b <;> simp [Exact.same, BEq.comm]

theorem Exact.below_finite (a b : Rat) : (Exact.finite a).below (.finite b) = decide (a < b) := rfl

/-!
## Rounding to a whole number of units

`roundHalfEven` takes a rational number to the nearest whole one, and a tie to the even neighbour.
`nearest` does so in units of a power of two, so that a double comes out, and `toPlaces` in units of
a power of ten.
-/

/-- The whole number nearest to a rational one; a tie goes to the even neighbour. -/
def roundHalfEven (q : Rat) : Int :=
  let below := q.floor
  let rest := q - below
  if rest < 1 / 2 then below
  else if 1 / 2 < rest then below + 1
  else if below % 2 = 0 then below
  else below + 1

/-- The `k` with `2 ^ k ≤ q < 2 ^ (k + 1)`, for a positive number. -/
def binaryOrder (q : Rat) : Int :=
  let k : Int := (q.num.natAbs.log2 : Int) - (q.den.log2 : Int)
  if q.num.natAbs * Nat.pow 2 (-k).toNat < q.den * Nat.pow 2 k.toNat then k - 1 else k

/-- The double nearest to a rational number; a tie goes to the even neighbour. -/
def nearest (q : Rat) : Float :=
  let size := if q < 0 then -q else q
  let unit := max (binaryOrder size - 52) (-1074)
  let units := roundHalfEven (size * 2 ^ (-unit).toNat / 2 ^ unit.toNat)
  let x := Float.scaleB (Float.ofNat units.toNat) unit
  if q < 0 then -x else x

/-- A double to so many decimal places; a tie goes to the even neighbour. -/
def Exact.toPlaces (places : Nat) : Exact → Float
  | .finite q => nearest (mkRat (roundHalfEven (q * Nat.pow 10 places)) (Nat.pow 10 places))
  | .infinite negative => if negative then -(1.0 / 0.0) else 1.0 / 0.0
  | .undefined => 0.0 / 0.0

theorem roundHalfEven_intCast (n : Int) : roundHalfEven n = n := by
  have : (n : Rat).floor = n := Rat.floor_intCast n
  simp only [roundHalfEven, this, Rat.sub_self]
  rw [if_pos (by decide +kernel)]

example : roundHalfEven (5 / 2) = 2 ∧ roundHalfEven (7 / 2) = 4 := by decide +kernel

end Compliance.Number
