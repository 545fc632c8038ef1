import Compliance.Asset.Basic
import Compliance.Pattern.Reader
import Compliance.Value.Container
import Compliance.Value.Comparison

/-!
# Conditions

A condition compares the value at a path in a record with a value of its own. A path that leads
nowhere, a null at its end, values that the operator does not apply to and a malformed pattern make
it false. A pattern that is no pattern for any other reason is a fault of the evaluation, and so is
a number that has too many digits to be searched as text. This is `RuleCondition.evaluate`, whose
handler takes type errors and malformed patterns for false and lets everything else through.
-/
namespace Compliance

inductive Operator where
  | equals
  | contains
  | regex
  | isIn
  | notIn
  | greaterThan
  | lessThan
  deriving DecidableEq

instance : Vocabulary Operator where
  name := "RuleOperator"
  members := [.equals, .contains, .regex, .isIn, .notIn, .greaterThan, .lessThan]
  word
    | .equals => "equals"
    | .contains => "contains"
    | .regex => "regex"
    | .isIn => "in"
    | .notIn => "not_in"
    | .greaterThan => "greater_than"
    | .lessThan => "less_than"

/-- The value that a path of field names leads to; an absent field counts as null. -/
def Value.follow : List String → Value → Option Value
  | [], v => some v
  | name :: path, .map es => follow path ((Entries.field? es name).getD .null)
  | _ :: _, _ => none

/-- The value at a dotted path, unless it is null (the first half of `RuleCondition.evaluate`). -/
def Value.at? (path : String) (facts : Value) : Option Value :=
  match facts.follow (Text.pieces '.' path) with
  | some .null => none
  | r => r

/-- Whether an answer is yes; a fault is not. -/
def isYes (r : Except ShapeFault Bool) : Bool :=
  match r with
  | .ok b => b
  | .error _ => false

namespace Operator

/-- A value as a text to search for or in, as `str` gives it. -/
def searched (v : Value) : Except Pattern.Fault String :=
  match v.writtenAs Value.toText with
  | .ok s => .ok s
  | .error _ => .error .unwritable

theorem searched_eq_ok_iff {v : Value} {s : String} :
    searched v = .ok s ↔ v.isWritable = true ∧ v.toText = s := by
  unfold searched Value.writtenAs
  cases v.isWritable <;> simp

theorem searched_eq_error_iff {v : Value} {f : Pattern.Fault} :
    searched v = .error f ↔ v.isWritable = false ∧ f = .unwritable := by
  unfold searched Value.writtenAs
  cases v.isWritable <;> simp [eq_comm]

/-- Whether a value contains another: a list an equal element, and any other value as text. -/
def containing (actual expected : Value) : Except Pattern.Fault Bool :=
  match actual with
  | .list vs => .ok (vs.any (·.alike expected))
  | v => do
    let part ← searched expected
    return Text.contains part (← searched v)

/-- Whether a pattern is found in a value as text. Both are written before the pattern is read; a
malformed pattern is found nowhere. -/
def matching (actual expected : Value) : Except Pattern.Fault Bool := do
  let pattern ← searched expected
  let text ← searched actual
  match Pattern.read pattern with
  | .ok p => return p.search text
  | .error .malformed => return false
  | .error f => throw f

/-- Whether a value is not in a container, and of a list no element of the container is in it. -/
def excluded (actual container : Value) : Except ShapeFault Bool :=
  match actual with
  | .list vs => container.items.map fun ws => !ws.any fun w => vs.any (·.alike w)
  | v => (container.has v).map (!·)

/-- Whether an operator holds between the value found and the value expected (the operators of
`RuleCondition.evaluate`). -/
def holds (actual expected : Value) : Operator → Except Pattern.Fault Bool
  | .equals => .ok (actual.same expected)
  | .contains => containing actual expected
  | .regex => matching actual expected
  | .isIn => .ok (isYes (expected.has actual))
  | .notIn => .ok (isYes (excluded actual expected))
  | .greaterThan => .ok (expected.precedes actual)
  | .lessThan => .ok (actual.precedes expected)

end Operator

structure Condition where
  assetType : AssetType
  operator : Operator
  field : String
  value : Value

namespace Condition

/-- Whether a condition holds of a record (`RuleCondition.evaluate`). -/
def holds (c : Condition) (facts : Value) : Except Pattern.Fault Bool :=
  match facts.at? c.field with
  | some actual => c.operator.holds actual c.value
  | none => .ok false

def toValue (c : Condition) : Value :=
  .record [("asset_type", .member c.assetType), ("operator", .member c.operator),
    ("field", .text c.field), ("value", c.value)]

end Condition
end Compliance
