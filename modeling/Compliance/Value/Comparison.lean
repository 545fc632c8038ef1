import Compliance.Value.Basic

/-!
# Comparison of values

Which values are equal (`==`), and which come before others (`<`).
-/
namespace Compliance.Value

/-!
## Equality of values

Lists are equal element by element, and mappings when they have the same keys with equal values, in
any order. Between elements the number that is not equal to itself makes no difference.
`Value.identical` asks in addition that the outermost types agree, so that a number does
not equal a truth value.
-/

/-- Whether both values are the number that is not equal to itself. -/
def areUndefined : Value → Value → Bool
  | .scalar a, .scalar b => a.isUndefined && b.isUndefined
  | _, _ => false

mutual

/-- Equality of values. -/
def same : Value → Value → Bool
  | .scalar a, .scalar b => a.same b
  | .list xs, .list ys => sameItems xs ys
  | .map xs, .map ys => xs.length == ys.length && sameEntries xs ys
  | .pair a b, .pair c d => (same a c || areUndefined a c) && (same b d || areUndefined b d)
  | .set xs, .set ys => xs.length == ys.length && xs.all fun x => ys.any x.alike
  | .knot m v, .knot n w => m == n && same v w
  | .again m, .again n => m == n
  | _, _ => false

/-- Equality of lists, element by element. -/
def sameItems : List Value → List Value → Bool
  | [], [] => true
  | x :: xs, y :: ys => (same x y || areUndefined x y) && sameItems xs ys
  | _, _ => false

/-- Whether every entry of the first mapping is in the second. -/
def sameEntries : List (Scalar × Value) → List (Scalar × Value) → Bool
  | [], _ => true
  | (k, v) :: rest, ys =>
    (match Entries.find? k ys with
      | some w => same v w || areUndefined v w
      | none => false) && sameEntries rest ys

end

/-- Equality of elements. -/
def alike (a b : Value) : Bool := a.same b || areUndefined a b

/-- Equality without crossing types at the top: both the type and the value agree. -/
def identical (a b : Value) : Bool := a.typeName == b.typeName && a.same b

theorem alike_scalar (a b : Scalar) : (Value.scalar a).alike (.scalar b) = a.alike b := by
  simp [alike, same, areUndefined, Scalar.alike]

theorem same_text (s t : String) : (Value.text s).same (.text t) = (s == t) := by
  simp [same, Scalar.same_text]

/-- Texts are equal elements when they are the same. -/
theorem any_alike_text (ss : List String) (t : String) :
    (ss.map Value.text).any (·.alike (.text t)) = ss.contains t := by
  induction ss with
  | nil => rfl
  | cons s ss ih =>
    rw [List.map_cons, List.any_cons, ih, alike_scalar, Scalar.alike_text, List.contains_cons,
      BEq.comm]

end Compliance.Value

namespace Compliance

/-!
## Order of values

Numbers are ordered by value, texts by code points, and lists by the first pair of elements that
differ, a list coming after its own beginnings. `less?` is `none` where two values cannot be
ordered; in a list only the deciding pair matters.
-/

/-- Whether one scalar is below another, if they can be ordered. -/
def Scalar.less? (a b : Scalar) : Option Bool :=
  match a.number?, b.number? with
  | some x, some y => some (x.below y)
  | _, _ =>
    match a, b with
    | .text s, .text t => some (decide (s < t))
    | .bytes bs, .bytes cs => some (decide (bs < cs))
    | _, _ => none

namespace Value

mutual

/-- Whether one value is below another, if they can be ordered. -/
def less? : Value → Value → Option Bool
  | .scalar a, .scalar b => a.less? b
  | .list xs, .list ys => lessItems? xs ys
  | _, _ => none

/-- Order of lists: the first pair that differs decides, or else the lengths. -/
def lessItems? : List Value → List Value → Option Bool
  | [], ys => some (!ys.isEmpty)
  | _ :: _, [] => some false
  | x :: xs, y :: ys => if alike x y then lessItems? xs ys else less? x y

end

/-- Whether one value is below another; values that cannot be ordered are not. -/
def precedes (a b : Value) : Bool := (a.less? b).getD false

end Value

end Compliance
