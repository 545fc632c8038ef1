import Compliance.Text.Basic
import Compliance.Value.Comparison

/-!
# Values as containers

Lists, mappings and texts can be walked through (`iter`) and asked whether they contain something
(`in`); other values cannot. A `ShapeFault` says which demand on the shape of a value was not met.
-/
namespace Compliance

/-- A demand on the shape of a value that it does not meet. The type names are those of
`Value.typeName`. -/
inductive ShapeFault where
  /-- Something without elements is walked through. -/
  | notIterable (type : String)
  /-- Something that contains nothing is asked whether it contains a value. -/
  | notContainer (type : String)
  /-- A text is asked whether it contains something that is no text. -/
  | notTextInText (type : String)
  /-- Something is looked up in a value that has no fields. -/
  | notIndexable (type : String)
  /-- A field name is looked up in a text or a list. -/
  | fieldOfText
  | fieldOfList
  /-- An operation is called on a value that does not have it. -/
  | noOperation (type operation : String)
  /-- A list or mapping is used as a key. -/
  | notKey (type : String)
  /-- An element of a list of pairs is no sequence, or not of two elements. -/
  | notPair (index : Nat)
  | pairLength (index length : Nat)
  /-- Something is read as a number that cannot be one. -/
  | notNumeric (type : String)
  deriving DecidableEq

/-- Whether the fault is the lack of an operation, rather than the wrong type for it. -/
def ShapeFault.lacksOperation : ShapeFault → Bool
  | .noOperation .. => true
  | _ => false

/-- The words for a fault. -/
def ShapeFault.message : ShapeFault → String
  | .notIterable t => "'" ++ t ++ "' object is not iterable"
  | .notContainer t => "argument of type '" ++ t ++ "' is not iterable"
  | .notTextInText t => "'in <string>' requires string as left operand, not " ++ t
  | .notIndexable t => "'" ++ t ++ "' object is not subscriptable"
  | .fieldOfText => "string indices must be integers, not 'str'"
  | .fieldOfList => "list indices must be integers or slices, not str"
  | .noOperation t op => "'" ++ t ++ "' object has no attribute '" ++ op ++ "'"
  | .notKey t => "unhashable type: '" ++ t ++ "'"
  | .notPair i => "cannot convert dictionary update sequence element #" ++ toString i ++
      " to a sequence"
  | .pairLength i n => "dictionary update sequence element #" ++ toString i ++ " has length " ++
      toString n ++ "; 2 is required"
  | .notNumeric t => "float() argument must be a string or a real number, not '" ++ t ++ "'"

namespace Value

/-- The elements of a value: of a text its characters, of a mapping its keys. -/
def items (v : Value) : Except ShapeFault (List Value) :=
  match v.opened with
  | .list vs => .ok vs
  | .map es => .ok (es.map fun e => .scalar e.1)
  | .pair a b => .ok [a, b]
  | .set ms => .ok (ms.map .scalar)
  | .scalar (.text s) => .ok (s.toList.map fun c => .text (String.singleton c))
  | .scalar (.bytes bs) => .ok (bs.map fun b => .int (Int.ofNat b))
  | v => .error (.notIterable v.typeName)

/-- The entries of a mapping. -/
def entries? (v : Value) : Option Entries :=
  match v.opened with
  | .map es => some es
  | _ => none

/-- The scalar that a value is, if it can be a key. -/
def key : Value → Except ShapeFault Scalar
  | .scalar s => .ok s
  | v => .error (.notKey v.typeName)

/-- Whether a container holds a value: a list an equal element, a mapping an equal key, a text the
other text. -/
def has (container v : Value) : Except ShapeFault Bool :=
  match container with
  | .list vs => .ok (vs.any (·.alike v))
  | .map es => v.key.map fun k => (Entries.find? k es).isSome
  | .scalar (.text s) =>
    match v with
    | .scalar (.text part) => .ok (Text.contains part s)
    | _ => .error (.notTextInText v.typeName)
  | _ => .error (.notContainer container.typeName)

end Value
end Compliance
