import Compliance.Calendar.Clock
import Compliance.Playbook.Basic
import Compliance.Vocabulary

/-!
# What a response leaves behind

The records of its runs, and what they sent.
-/
namespace Compliance

/-!
## The ledger

One record for every run of a playbook, in the order in which the runs ended (`ExecutionLedger`).
-/

open Calendar

/-- Why a run ended before its last step. -/
inductive RunError where
  | stepLimit (limit : Nat)
  | notMember (f : NotMember)
  /-- A remediation was turned down. -/
  | remediation (message : String)
  /-- A step was carried out on a value that does not allow it. -/
  | unfit
  /-- A change was made, but a number in the value is too long to be written into its event. -/
  | unwritable (v : Value)
  | cancelled

/-- What stands for the words of an error that the program does not word itself: those of the
interpreter for an operation that a value does not allow, and for a number too long to be written.
These words are left out; in records of runs one placeholder stands for them all. -/
def RunError.unworded : String := "<interpreter>"

/-- The words for an error, which are put on record (`error` of a ledger entry). -/
def RunError.message : RunError → String
  | .stepLimit limit => "Step limit of " ++ toString limit ++ " exceeded"
  | .notMember f => if f.value.isWritable then f.message else unworded
  | .remediation message => message
  | .unfit => unworded
  | .unwritable _ => unworded
  | .cancelled => "cancelled"

inductive Outcome where
  | success
  | failure (error : RunError)

/-- The record of one run (`ExecutionLedgerEntry`). -/
structure Execution where
  playbookId : Value
  executedAt : Instant
  outcome : Outcome
  /-- The incident that was bound when the run ended. -/
  incidentId : Option String

def Execution.toValue (e : Execution) : Value :=
  let (result, error) := match e.outcome with
    | .success => ("success", none)
    | .failure error => ("failure", some error.message)
  .record [("playbook_id", e.playbookId), ("executed_at", .text e.executedAt.iso),
    ("result", .text result), ("incident_id", .text? e.incidentId), ("error", .text? error)]

abbrev Ledger := List Execution

/-- The last records, as many as asked for, oldest first (`recent`). -/
def Ledger.recent (l : Ledger) (limit : Int) : Ledger := l.drop (l.length - limit.toNat)

/-!
## What a run sends out

Notifications and remediation requests, in the order in which they were sent (`BaseNotifier.notify`,
`BaseRemediationRunner.run`). Whether each one is taken is up to the backends, which may look at
everything sent before.
-/

/-- A notification as it is sent. -/
structure Notice where
  channel : Channel
  message : String
  recipients : List Value

/-- A remediation as it is requested. -/
structure Request where
  script : Value
  parameters : Entries
  violationId : String

/-- A notification on record. -/
structure SentNotice extends Notice where
  sentAt : Instant
  taken : Bool

/-- A request on record. -/
structure SentRequest extends Request where
  requestedAt : Instant
  taken : Bool

def SentNotice.toValue (n : SentNotice) : Value :=
  .record [("channel", .member n.channel), ("message", .text n.message),
    ("recipients", .list n.recipients), ("sent_at", .text n.sentAt.iso)]

def SentRequest.toValue (r : SentRequest) : Value :=
  .record [("script", r.script), ("parameters", .map r.parameters),
    ("violation_id", .text r.violationId), ("requested_at", .text r.requestedAt.iso)]

structure Outbox where
  notices : List SentNotice
  requests : List SentRequest

/-- Who takes what is sent: any notifier, and any remediation runner that either returns or fails
with an error that has a text. A runner that raises the cancellation of scans itself
(`ScanCancelled`), or an error whose text cannot be asked for, is left out. -/
structure Backends where
  /-- Whether a notification is taken, after earlier ones. Why it is not makes no difference to a
  run, which lets every error of a notifier pass. -/
  delivers : List Notice → Notice → Bool
  /-- The text of the error with which a request is turned down, after earlier ones. -/
  refuses? : List Request → Request → Option String

namespace Outbox

def empty : Outbox := ⟨[], []⟩

/-- Sends a notification. -/
def notify (b : Backends) (now : Instant) (n : Notice) (o : Outbox) : Outbox :=
  let taken := b.delivers (o.notices.map (·.toNotice)) n
  { o with notices := o.notices ++ [⟨n, now, taken⟩] }

/-- Sends a request; the answer is why it was turned down, if it was. -/
def request (b : Backends) (now : Instant) (r : Request) (o : Outbox) : Outbox × Option String :=
  let refusal := b.refuses? (o.requests.map (·.toRequest)) r
  ({ o with requests := o.requests ++ [⟨r, now, refusal.isNone⟩] }, refusal)

/-- Forgets the notifications. -/
def clearNotices (o : Outbox) : Outbox := { o with notices := [] }

/-- The notifications that were taken. -/
def delivered (o : Outbox) : List SentNotice := o.notices.filter (·.taken)

/-- The requests that were taken. -/
def accepted (o : Outbox) : List SentRequest := o.requests.filter (·.taken)

end Outbox

/-- Backends that keep a record of everything (`LogNotifier`, `RecordingRemediationRunner`). -/
def Backends.recording : Backends := ⟨fun _ _ => true, fun _ _ => none⟩

/-- Backends that take no notifications. -/
def Backends.withoutDelivery (b : Backends) : Backends := { b with delivers := fun _ _ => false }

/-- Backends that turn every request down. -/
def Backends.withoutRemediation (b : Backends) : Backends :=
  { b with refuses? := fun _ r => some (r.script.toText ++ " failed") }

end Compliance
