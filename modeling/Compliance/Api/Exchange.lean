import Compliance.Form.Basic
import Compliance.Text.Bytes
import Compliance.Value.Container
import Compliance.Value.Text
import Compliance.Web.Address

/-!
# Requests and replies

What the interface (`create_app`) is sent, and what it sends back.
-/
namespace Compliance.Api

/-!
## Replies

A reply has a status and mostly a body, which is a value in JSON proper: dates and bytes are texts
in it, pairs and sets are lists, and names that begin with a reserved mark are left out. A body that
has no such form spoils the reply.
-/

/-- What the names of fields that are not sent begin with. -/
def reservedMark : String := "_sa"

/-- A scalar as it is sent. -/
def sentScalar? : Scalar → Option Scalar
  | .date d => some (.text (String.ofList d.text))
  | .moment m => some (.text (m.text 'T'))
  | .bytes bs => (Text.ofUtf8? bs).map fun cs => .text (String.ofList cs)
  | s => some s

/-- Whether the entry under a key is not sent. -/
def isReserved : Scalar → Bool
  | .text s => reservedMark.toList.isPrefixOf s.toList
  | _ => false

mutual

/-- A value as it is sent, if it has an end and its bytes are texts. -/
def sent? : Value → Option Value
  | .scalar s => (sentScalar? s).map .scalar
  | .list items => (sentItems? items).map .list
  | .map entries => (sentEntries? entries).map fun es => .map (Entries.ofList es)
  | .pair a b => do return .list [← sent? a, ← sent? b]
  | .set members => (members.mapM sentScalar?).map fun ms => .list (ms.map .scalar)
  | .knot .. => none
  | .again _ => none

def sentItems? : List Value → Option (List Value)
  | [] => some []
  | v :: rest => do return (← sent? v) :: (← sentItems? rest)

def sentEntries? : List (Scalar × Value) → Option (List (Scalar × Value))
  | [] => some []
  | (k, v) :: rest =>
    if isReserved k then sentEntries? rest
    else do return (← sentScalar? k, ← sent? v) :: (← sentEntries? rest)

end

inductive Reply where
  | json (status : Nat) (body : Value)
  | invalid (complaints : List Complaint)
  /-- A reply without a body. -/
  | empty (status : Nat)
  /-- The request could not be answered. -/
  | failed

namespace Reply

/-- A reply with a body. It fails if a number in it cannot be written. -/
def of (status : Nat) (body : Value) : Reply :=
  match sent? body with
  | some v => if v.isFinite && v.isWritable then .json status v else .failed
  | none => .failed

/-- A reply with a body that may be spoilt. -/
def ofRecord (status : Nat) (body : Except ShapeFault Value) : Reply :=
  match body with
  | .ok v => of status v
  | .error _ => .failed

/-- A reply that only gives a reason. -/
def detail (status : Nat) (reason : String) : Reply :=
  .json status (.record [("detail", .text reason)])

/-- What is left of a reply where only its head is asked for. -/
def head : Reply → Reply
  | .json status _ => .empty status
  | .invalid _ => .empty 422
  | r => r

end Reply

/-!
## Requests

A request names a method and a path, and may bring parameters and a body. It is sent to an address,
which is completed by the address of the interface and need not be straight or escaped.
-/

structure Request where
  method : String
  path : String
  parameters : List (String × String)
  body : Option Value

/-- The parameters of a query. -/
def queryParameters (cs : List Char) : List (String × String) :=
  (Text.splitAt '&' cs).filterMap fun part =>
    match Text.splitAt '=' part with
    | [] => none
    | name :: rest =>
      if part.isEmpty then none
      else
        let word := fun (cs : List Char) =>
          String.ofList (Web.unescaped (cs.map fun c => if c = '+' then ' ' else c))
        some (word name, word (['='].intercalate rest))

namespace Request

/-- The address of the interface, under which the others are used. -/
def base : Web.Address := ⟨"http".toList, [], "test".toList, none, [], none, none⟩

/-- The request with a method, an address and a body. Parameters that are given apart take the place
of those in the address. -/
def read (method address : String) (parameters? : Option (List (String × String)))
    (body : Option Value) : Except Web.Fault Request :=
  match Web.Address.read? address.toList >>= base.under? with
  | none => .error .unreadable
  | some a =>
    match body.bind Web.Fault.ofBody? with
    | some fault => .error fault
    | none =>
      .ok ⟨method.toUpper, String.ofList (Web.unescaped a.target),
        parameters?.getD (queryParameters (a.query.getD [])), body⟩

/-- The segments of the path. -/
def segments (r : Request) : List String := (Text.pieces '/' r.path).drop 1

/-- Reads a parameter that may be left out; of several the last one counts. -/
def parameter {α : Type} (read : Value → Checked α) (name : String) (r : Request) :
    Checked (Option α) :=
  match r.parameters.reverse.lookup name with
  | some s => (((read (.text s)).map some).inside (.field name)).inside (.field "query")
  | none => .accepted none

/-- The body, unless there is none or it is null. -/
def body? (r : Request) : Option Value :=
  match r.body with
  | some .null => none
  | b => b

/-- Reads the body. -/
def form {α : Type} (read : Value → Checked α) (r : Request) : Checked α :=
  match r.body? with
  | some v => (read v).inside (.field "body")
  | none => (Checked.complain .missing).inside (.field "body")

/-- Reads the body if there is one. -/
def form? {α : Type} (read : Value → Checked α) (r : Request) : Checked (Option α) :=
  match r.body? with
  | some v => ((read v).map some).inside (.field "body")
  | none => .accepted none

end Request

end Compliance.Api
