import Compliance.Vocabulary

/-!
# Forms

A form is a set of fields, each read from a value. Reading goes on after a fault, so that all
complaints about a form come together, in the order of its fields. Complaints have the kinds and
places that a validation error lists.
-/
namespace Compliance

/-- What is wrong with a field. -/
inductive ComplaintKind where
  | missing
  | modelType
  | stringType
  | intType
  | intParsing
  | intParsingSize
  | intFromFloat
  | finiteNumber
  | floatType
  | floatParsing
  | boolType
  | boolParsing
  | member
  | listType
  | dictType
  | datetimeType
  /-- A text that is no timestamp. -/
  | datetimeText
  /-- A number that is no timestamp. -/
  | datetimeNumber
  | greaterThan
  | greaterThanEqual
  | value
  deriving DecidableEq

/-- The word for a kind of complaint. -/
def ComplaintKind.word : ComplaintKind → String
  | .missing => "missing"
  | .modelType => "model_attributes_type"
  | .stringType => "string_type"
  | .intType => "int_type"
  | .intParsing => "int_parsing"
  | .intParsingSize => "int_parsing_size"
  | .intFromFloat => "int_from_float"
  | .finiteNumber => "finite_number"
  | .floatType => "float_type"
  | .floatParsing => "float_parsing"
  | .boolType => "bool_type"
  | .boolParsing => "bool_parsing"
  | .member => "enum"
  | .listType => "list_type"
  | .dictType => "dict_type"
  | .datetimeType => "datetime_type"
  | .datetimeText => "datetime_from_date_parsing"
  | .datetimeNumber => "datetime_parsing"
  | .greaterThan => "greater_than"
  | .greaterThanEqual => "greater_than_equal"
  | .value => "value_error"

/-- One step of the way to a place in a form. -/
inductive Place where
  | field (name : String)
  | index (n : Nat)
  deriving DecidableEq

structure Complaint where
  path : List Place
  kind : ComplaintKind
  deriving DecidableEq

/-- What reading comes to: all complaints, or what was read. -/
inductive Checked (α : Type) where
  | rejected (complaints : List Complaint)
  | accepted (a : α)

namespace Checked

def map {α β : Type} (f : α → β) : Checked α → Checked β
  | .rejected cs => .rejected cs
  | .accepted a => .accepted (f a)

/-- Reads two parts, collecting the complaints of both. -/
def both {α β : Type} (f : Checked (α → β)) (a : Checked α) : Checked β :=
  match f, a with
  | .rejected cs, .rejected ds => .rejected (cs ++ ds)
  | .rejected cs, .accepted _ => .rejected cs
  | .accepted _, .rejected ds => .rejected ds
  | .accepted f, .accepted a => .accepted (f a)

instance : Applicative Checked where
  pure := .accepted
  seq f a := both f (a ())
  map := map

/-- Reads on with what has been read. -/
def andThen {α β : Type} (c : Checked α) (f : α → Checked β) : Checked β :=
  match c with
  | .rejected cs => .rejected cs
  | .accepted a => f a

/-- A single complaint about the place itself. -/
def complain {α : Type} (kind : ComplaintKind) : Checked α := .rejected [⟨[], kind⟩]

/-- The complaints as seen from one step further out. -/
def inside {α : Type} (place : Place) : Checked α → Checked α
  | .rejected cs => .rejected (cs.map fun c => { c with path := place :: c.path })
  | .accepted a => .accepted a

/-- Reads the elements of a list, numbered from `n` on. -/
def eachFrom {α : Type} (read : Value → Checked α) : Nat → List Value → Checked (List α)
  | _, [] => .accepted []
  | n, v :: rest => List.cons <$> (read v).inside (.index n) <*> eachFrom read (n + 1) rest

/-- Reads a field that must be there. -/
def field {α : Type} (read : Value → Checked α) (name : String) (es : Entries) : Checked α :=
  match es.field? name with
  | some v => (read v).inside (.field name)
  | none => (complain .missing).inside (.field name)

/-- Reads a field, or takes a default in its place. -/
def fieldOr {α : Type} (default : α) (read : Value → Checked α) (name : String) (es : Entries) :
    Checked α :=
  match es.field? name with
  | some v => (read v).inside (.field name)
  | none => .accepted default

end Checked
end Compliance
