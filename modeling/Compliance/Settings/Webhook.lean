import Compliance.Value.Text
import Compliance.Vocabulary
import Compliance.Web.Address

/-!
# Delivery by webhook

A notification is posted to the address of its channel (`WebhookNotifier.notify`); a channel without
an address is passed over. Anything but an answer in the two hundreds is a failed delivery. A
notification that cannot be posted at all is a fault.
-/
namespace Compliance.Webhook

/-- What is posted, and where to. -/
structure Post where
  url : String
  body : Value

/-- How a post is answered. -/
inductive Answer where
  | status (code : Int)
  | noConnection (message : String)

/-- A failed delivery (`NotificationError`). -/
structure DeliveryError where
  channel : String
  answer : Answer

namespace DeliveryError

def message (e : DeliveryError) : String :=
  match e.answer with
  | .status code => "Webhook returned " ++ toString code
  | .noConnection message => "Webhook request failed: " ++ message

def statusCode? (e : DeliveryError) : Option Int :=
  match e.answer with
  | .status code => some code
  | .noConnection _ => none

end DeliveryError

/-- The body of a post (`_payload`). A chat channel takes the text and one recipient. -/
def payload (channel message : String) (recipients : List Value) : Value :=
  if channel = "slack" then
    .record (("text", .text message) ::
      (match recipients with | r :: _ => [("channel", r)] | [] => []))
  else
    .record [("channel", .text channel), ("message", .text message),
      ("recipients", .list recipients)]

/-- The address of a channel, if it has one. -/
def address? (urls : List (String × String)) (channel : String) : Option String :=
  match urls.lookup channel with
  | some url => if url = "" then none else some url
  | none => none

/-- No address at all, under which an address without a host stays without one. -/
def nowhere : Web.Address := ⟨[], [], [], none, [], none, none⟩

/-- The post of a body to an address. -/
def post (address : String) (body : Value) : Except Web.Fault Post :=
  match Web.Address.read? address.toList >>= nowhere.under? with
  | none => .error .unreadable
  | some a =>
    match Web.Fault.ofBody? body with
    | some fault => .error fault
    | none => .ok ⟨String.ofList a.text, body⟩

/-- The error that an answer to a post means, if any. -/
def error? (channel : String) (answer : Answer) : Option DeliveryError :=
  match answer with
  | .status code => if 200 ≤ code ∧ code < 300 then none else some ⟨channel, answer⟩
  | .noConnection _ => some ⟨channel, answer⟩

/-- The fault of an answer to a post, which needs an address with a scheme. -/
def answerFault? (p : Post) (answer : Answer) : Option Web.Fault :=
  match answer with
  | .status _ => if "/".toList.isPrefixOf p.url.toList then some (.noScheme p.url) else none
  | .noConnection _ => none

/-- Delivers a notification: what is posted, and the error if there is one. -/
def deliver (urls : List (String × String)) (channel message : String) (recipients : List Value)
    (answer : Answer) : Except Web.Fault (Option Post × Option DeliveryError) :=
  match address? urls channel with
  | none => .ok (none, none)
  | some address => do
    let p ← post address (payload channel message recipients)
    match answerFault? p answer with
    | some fault => throw fault
    | none => return (some p, error? channel answer)

end Compliance.Webhook
