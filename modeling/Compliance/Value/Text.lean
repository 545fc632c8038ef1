import Compliance.Calendar.Format
import Compliance.Number.Literal
import Compliance.Number.Shortest
import Compliance.Text.Quoted
import Compliance.Value.Basic

/-!
# Values as text

`Value.quoted` shows a value inside a message, with its texts in quotes (`repr`); `Value.toText` is
the same except that a value that is itself a text stands as it is (`str`), and `Value.json` is the
value in JSON (`json.dumps`). None of them is to be had for a number with too many digits:
`Value.writtenAs` is the text or that fault.
-/
namespace Compliance

open Calendar Number

/-- A scalar inside a message. -/
def Scalar.quoted : Scalar → String
  | .null => "None"
  | .bool true => "True"
  | .bool false => "False"
  | .int n => toString n
  | .float x => plainLayout.write x
  | .text s => Text.quoted s
  | .date d => d.quoted
  | .moment m => m.quoted
  | .bytes bs => Text.quotedBytes bs

/-- Whether a scalar can be written as text. -/
def Scalar.isWritable : Scalar → Bool
  | .int n => Number.isWritable n
  | _ => true

namespace Value

mutual

/-- A value inside a message, given the knots it stands in. A knot is not shown inside itself. -/
def quotedIn (around : List (Nat × String)) : Value → String
  | .scalar s => s.quoted
  | .list items => "[" ++ joined ", " (quotedItems around items) ++ "]"
  | .map entries => "\x7b" ++ joined ", " (quotedEntries around entries) ++ "\x7d"
  | .pair a b => "(" ++ quotedIn around a ++ ", " ++ quotedIn around b ++ ")"
  | .set [] => "set()"
  | .set members => "\x7b" ++ joined ", " (members.map Scalar.quoted) ++ "\x7d"
  | .knot n v =>
    match around.lookup n with
    | some short => short
    | none => quotedIn ((n, if typeName v = "dict" then "\x7b...\x7d" else "[...]") :: around) v
  | .again n => (around.lookup n).getD "..."

def quotedItems (around : List (Nat × String)) : List Value → List String
  | [] => []
  | v :: rest => quotedIn around v :: quotedItems around rest

def quotedEntries (around : List (Nat × String)) : List (Scalar × Value) → List String
  | [] => []
  | (k, v) :: rest => (k.quoted ++ ": " ++ quotedIn around v) :: quotedEntries around rest

end

/-- A value inside a message. -/
def quoted (v : Value) : String := quotedIn [] v

/-- A value as text. -/
def toText : Value → String
  | .scalar (.text s) => s
  | .scalar (.date d) => String.ofList d.text
  | .scalar (.moment m) => m.text ' '
  | v => v.quoted

mutual

/-- Whether every whole number in a value has a decimal form that can be written. -/
def isWritable : Value → Bool
  | .scalar s => s.isWritable
  | .list items => areWritable items
  | .map entries => areWritableEntries entries
  | .pair a b => isWritable a && isWritable b
  | .set members => members.all Scalar.isWritable
  | .knot _ v => isWritable v
  | .again _ => true

def areWritable : List Value → Bool
  | [] => true
  | v :: rest => isWritable v && areWritable rest

def areWritableEntries : List (Scalar × Value) → Bool
  | [] => true
  | (k, v) :: rest => k.isWritable && isWritable v && areWritableEntries rest

end

/-- A number that has too many digits to be written. -/
structure TooLong where
  deriving DecidableEq

/-- A value in one of its written forms, unless a number in it is too long to be written. -/
def writtenAs (form : Value → String) (v : Value) : Except TooLong String :=
  if v.isWritable then .ok (form v) else .error ⟨⟩

section
variable {form : Value → String} {v : Value}

theorem writtenAs_eq_ok_iff {s : String} :
    v.writtenAs form = .ok s ↔ v.isWritable = true ∧ form v = s := by
  unfold writtenAs
  cases v.isWritable <;> simp

theorem writtenAs_eq_error_iff {e : TooLong} :
    v.writtenAs form = .error e ↔ v.isWritable = false := by
  unfold writtenAs
  cases v.isWritable <;> simp

end

end Value

/-- A scalar as text. -/
def Scalar.toText (s : Scalar) : String := (Value.scalar s).toText

/-!
## Values as JSON text

One line, with a blank after every comma and colon, entries in the order of the mapping, and every
character outside ASCII escaped (`json.dumps`). A key that is no text is written as the text of its
JSON form.
-/

/-- A scalar in JSON; dates and bytes are written as text. -/
def Scalar.json : Scalar → String
  | .null => "null"
  | .bool true => "true"
  | .bool false => "false"
  | .int n => toString n
  | .float x => jsonLayout.write x
  | .text s => Text.jsonString s
  | .date d => Text.jsonString (Scalar.toText (.date d))
  | .moment m => Text.jsonString (Scalar.toText (.moment m))
  | .bytes bs => Text.jsonString (Scalar.toText (.bytes bs))

/-- The text that a key is written as. -/
def Scalar.jsonKey : Scalar → String
  | .text s => s
  | s => s.json

namespace Value

mutual

/-- A value in JSON. -/
def json : Value → String
  | .scalar s => s.json
  | .list items => "[" ++ joined ", " (jsonItems items) ++ "]"
  | .map entries => "\x7b" ++ joined ", " (jsonEntries entries) ++ "\x7d"
  | .pair a b => "[" ++ json a ++ ", " ++ json b ++ "]"
  | .set members => "[" ++ joined ", " (members.map Scalar.json) ++ "]"
  | .knot _ v => json v
  | .again _ => "null"

def jsonItems : List Value → List String
  | [] => []
  | v :: rest => json v :: jsonItems rest

def jsonEntries : List (Scalar × Value) → List String
  | [] => []
  | (k, v) :: rest => (Text.jsonString k.jsonKey ++ ": " ++ json v) :: jsonEntries rest

end

/-- Whether a scalar is no number without digits. -/
def isFiniteScalar : Scalar → Bool
  | .float x => (parts? x).isSome
  | _ => true

mutual

/-- Whether every number of a value has digits, as JSON proper demands, and the value has an end. -/
def isFinite : Value → Bool
  | .scalar s => isFiniteScalar s
  | .list items => isFiniteItems items
  | .map entries => isFiniteEntries entries
  | .pair a b => isFinite a && isFinite b
  | .set members => members.all isFiniteScalar
  | .knot .. => false
  | .again _ => false

def isFiniteItems : List Value → Bool
  | [] => true
  | v :: rest => isFinite v && isFiniteItems rest

def isFiniteEntries : List (Scalar × Value) → Bool
  | [] => true
  | (k, v) :: rest => isFiniteScalar k && isFinite v && isFiniteEntries rest

end

end Value

end Compliance
