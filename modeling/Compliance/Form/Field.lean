import Compliance.Form.Basic
import Compliance.Form.Timestamp
import Compliance.Number.Literal

/-!
# Fields

How the value of a field is read as one of the types of the domain. Texts may stand for numbers and
truth values, and numbers for one another where nothing is lost; nothing stands for a text.
-/
namespace Compliance.Field

open Calendar Number Checked

def text : Value → Checked String
  | .text s => .accepted s
  | _ => complain .stringType

/-- A text without the white space at its ends. -/
def trimmed (s : String) : List Char := Text.trimBoth Text.isWhiteSpace s.toList

/-- Takes out single underscores inside a text; others are refused. -/
def joined? : List Char → Option (List Char)
  | [] => some []
  | ['_'] => none
  | '_' :: '_' :: _ => none
  | '_' :: cs => joined? cs
  | c :: cs => (joined? cs).map (c :: ·)

/-- A text without single underscores inside; others are refused. -/
def withoutUnderscores? (cs : List Char) : Option (List Char) :=
  if cs.head? = some '_' then none else joined? cs

/-- What comes after the zeros at the head of a number. One zero is kept before a point, and at the
end the last character. -/
def afterZeros? (last : Char) : List Char → Option (List Char)
  | [] => some [last]
  | c :: cs =>
    if c = '0' ∨ c = '_' then afterZeros? c cs
    else if c = '.' then some (last :: c :: cs)
    else if c = '-' ∨ c.isDigit then some (c :: cs)
    else none

/-- A whole number without the zeros at its head. -/
def withoutZeros? : List Char → Option (List Char)
  | '0' :: cs => afterZeros? '0' cs
  | c :: cs => if c = '-' ∨ c.isDigit then some (c :: cs) else none
  | [] => none

/-- A whole number without the zeros after its last point, which must be there if the point is. -/
def withoutFraction (cs : List Char) : List Char :=
  match cs.reverse.dropWhile (· == '0') with
  | '.' :: rest => if cs.getLast? = some '0' then rest.reverse else cs
  | _ => cs

/-- The digits of a whole number; there is no zero before others. -/
def plainWhole (cs : List Char) : Checked Int :=
  let (negative, body) := match cs with
    | '-' :: body => (true, body)
    | body => (false, body)
  match digitSpan body with
  | ([], _) => complain .intParsing
  | (0 :: _ :: _, _) => complain .intParsing
  | (ds, rest) =>
    if digitLimit < ds.length + (if negative then 1 else 0) then complain .intParsingSize
    else if !rest.isEmpty then complain .intParsing
    else .accepted (if negative then -fromDigits ds else fromDigits ds)

/-- The bare form of a whole number given as text. -/
def bareWhole? (cs : List Char) : Option (List Char) := do
  let cs ← match cs with
    | '+' :: '-' :: _ => none
    | '+' :: cs => some cs
    | cs => some cs
  let cs ← withoutZeros? cs
  withoutUnderscores? (withoutFraction cs)

/-- A whole number given as text. -/
def intOfText (s : String) : Checked Int :=
  match bareWhole? (trimmed s) with
  | some cs => plainWhole cs
  | none => complain .intParsing

/-- Beyond this, floating-point numbers are not taken as whole ones. -/
def wholeBound : Nat := Nat.pow 2 63

/-- A whole number given as a floating-point one. -/
def intOfFloat (x : Float) : Checked Int :=
  match exact x with
  | .finite q =>
    if q.den ≠ 1 then complain .intFromFloat
    else if wholeBound ≤ q.num.natAbs then complain .intParsingSize
    else .accepted q.num
  | _ => complain .finiteNumber

def int : Value → Checked Int
  | .int n => .accepted n
  | .bool b => .accepted (if b then 1 else 0)
  | .float x => intOfFloat x
  | .text s => intOfText s
  | _ => complain .intType

/-- A floating-point number given as text: with white space around it, or with underscores. -/
def floatOfText? (s : String) : Option Float :=
  readFloat? (trimmed s) <|> (withoutUnderscores? s.toList).bind readFloat?

def float : Value → Checked Float
  | .float x => .accepted x
  | .bool b => .accepted (if b then 1.0 else 0.0)
  | .int n =>
    match ofInt? n with
    | some x => .accepted x
    | none => complain .floatType
  | .text s =>
    match floatOfText? s with
    | some x => .accepted x
    | none => complain .floatParsing
  | _ => complain .floatType

/-- A truth value given as text. -/
def boolOfText? (s : String) : Option Bool :=
  let word := String.ofList (s.toList.map Char.toLower)
  if ["1", "on", "t", "true", "y", "yes"].contains word then some true
  else if ["0", "off", "f", "false", "n", "no"].contains word then some false
  else none

/-- A truth value given as a whole number. -/
def boolOfInt (n : Int) : Checked Bool :=
  if n = 1 then .accepted true
  else if n = 0 then .accepted false
  else if wholeBound ≤ n.natAbs ∧ n ≠ -wholeBound then complain .boolType
  else complain .boolParsing

def bool : Value → Checked Bool
  | .bool b => .accepted b
  | .int n => boolOfInt n
  | .float x =>
    match intOfFloat x with
    | .accepted n => boolOfInt n
    | .rejected _ => complain .boolType
  | .text s =>
    match boolOfText? s with
    | some b => .accepted b
    | none => complain .boolParsing
  | _ => complain .boolType

def member (α : Type) [Vocabulary α] (v : Value) : Checked α :=
  match readMember α v with
  | .ok a => .accepted a
  | .error _ => complain .member

/-- A field that may be null. -/
def optional {α : Type} (read : Value → Checked α) : Value → Checked (Option α)
  | .null => .accepted none
  | v => (read v).map some

def list {α : Type} (read : Value → Checked α) : Value → Checked (List α)
  | .list vs => eachFrom read 0 vs
  | _ => complain .listType

/-- Any mapping. -/
def mapping : Value → Checked Entries
  | .map es => .accepted es
  | _ => complain .dictType

/-- A mapping whose fields are read. -/
def record {α : Type} (read : Entries → Checked α) : Value → Checked α
  | .map es => read es
  | _ => complain .modelType

def timestamp : Value → Checked Moment
  | .text s =>
    match Timestamp.ofText? s with
    | some m => .accepted m
    | none => complain .datetimeText
  | .int n =>
    match Timestamp.ofWhole? n 0 with
    | some m => .accepted m
    | none => complain .datetimeNumber
  | .float x =>
    match Timestamp.ofFloat? x with
    | some m => .accepted m
    | none => complain .datetimeNumber
  | _ => complain .datetimeType

/-- A value that must satisfy a condition. -/
def such {α : Type} (holds : α → Bool) (kind : ComplaintKind) (read : Value → Checked α)
    (v : Value) : Checked α :=
  (read v).andThen fun a => if holds a then .accepted a else complain kind

end Compliance.Field
