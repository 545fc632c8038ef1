import Compliance.Asset.Basic
import Compliance.Vocabulary

/-!
# Violations

A violation (`Violation`) is a deviation found on an asset, with the evidence for it and what is
done about it. Its status moves forward only: open, investigating, remediating, resolved. False
positive is reached from anywhere and never left.
-/
namespace Compliance

open Calendar

inductive EvidenceType where
  | screenshot
  | log
  | apiResponse
  | config
  | certificate
  | other
  deriving DecidableEq

instance : Vocabulary EvidenceType where
  name := "EvidenceType"
  members := [.screenshot, .log, .apiResponse, .config, .certificate, .other]
  word
    | .screenshot => "screenshot"
    | .log => "log"
    | .apiResponse => "api_response"
    | .config => "config"
    | .certificate => "certificate"
    | .other => "other"

inductive RemediationType where
  | manual
  | automated
  deriving DecidableEq

instance : Vocabulary RemediationType where
  name := "RemediationType"
  members := [.manual, .automated]
  word
    | .manual => "manual"
    | .automated => "automated"

inductive RemediationStatus where
  | pending
  | inProgress
  | completed
  | failed
  deriving DecidableEq

instance : Vocabulary RemediationStatus where
  name := "RemediationStatus"
  members := [.pending, .inProgress, .completed, .failed]
  word
    | .pending => "pending"
    | .inProgress => "in_progress"
    | .completed => "completed"
    | .failed => "failed"

inductive ViolationStatus where
  | opened
  | investigating
  | remediating
  | resolved
  | falsePositive
  deriving DecidableEq

instance : Vocabulary ViolationStatus where
  name := "ViolationStatus"
  members := [.opened, .investigating, .remediating, .resolved, .falsePositive]
  word
    | .opened => "open"
    | .investigating => "investigating"
    | .remediating => "remediating"
    | .resolved => "resolved"
    | .falsePositive => "false_positive"

namespace ViolationStatus

/-- Whether work on a violation is still going on (`is_open`). -/
def isOpen (s : ViolationStatus) : Bool :=
  s = .opened || s = .investigating || s = .remediating

/-- The place of a status in the life of a violation. -/
def rank : ViolationStatus → Nat
  | .opened => 0
  | .investigating => 1
  | .remediating => 2
  | .resolved => 3
  | .falsePositive => 4

/-- Whether a violation may move from one status to another (`update_violation_status`). False
positive comes last, so that nothing leads back from it. -/
def permits (current requested : ViolationStatus) : Bool := current.rank ≤ requested.rank

end ViolationStatus

/-- Evidence as it is handed in. -/
structure Exhibit where
  type : EvidenceType
  description : String
  data : String
  deriving DecidableEq

/-- Evidence on file. -/
structure Evidence extends Exhibit where
  timestamp : Instant
  deriving DecidableEq

/-- A remediation action as it is handed in. -/
structure Remedy where
  description : String
  type : RemediationType
  status : RemediationStatus
  assignedTo : Option String
  completedAt : Option Moment
  automationScript : Option String
  deriving DecidableEq

/-- A remediation action on file. -/
structure Remediation extends Remedy where
  id : String
  deriving DecidableEq

/-- A pending task for somebody. -/
def Remedy.task (description : String) : Remedy :=
  ⟨description, .manual, .pending, none, none, none⟩

structure Violation where
  id : String
  policyId : String
  policyName : String
  assetId : String
  assetType : AssetType
  assetIdentifier : String
  severity : Severity
  status : ViolationStatus
  title : String
  description : String
  detectedAt : Instant
  updatedAt : Instant
  resolvedAt : Option Instant
  evidence : List Evidence
  remediation : List Remediation
  deriving DecidableEq

def Evidence.toValue (e : Evidence) : Value :=
  .record [("type", .member e.type), ("description", .text e.description), ("data", .text e.data),
    ("timestamp", .text e.timestamp.iso)]

def Remediation.toValue (r : Remediation) : Value :=
  .record [("id", .text r.id), ("type", .member r.type), ("status", .member r.status),
    ("description", .text r.description), ("assigned_to", .text? r.assignedTo),
    ("completed_at", .text? (r.completedAt.map Moment.iso)),
    ("automation_script", .text? r.automationScript)]

/-- The violation as a record. The requirement and control it would belong to are not known. -/
def Violation.toValue (v : Violation) : Value :=
  .record [("id", .text v.id), ("policy_id", .text v.policyId),
    ("policy_name", .text v.policyName), ("requirement_id", .null), ("control_id", .null),
    ("asset_id", .text v.assetId), ("asset_type", .member v.assetType),
    ("asset_identifier", .text v.assetIdentifier), ("severity", .member v.severity),
    ("status", .member v.status), ("title", .text v.title), ("description", .text v.description),
    ("detected_at", .text v.detectedAt.iso), ("updated_at", .text v.updatedAt.iso),
    ("resolved_at", .text? (v.resolvedAt.map Instant.iso)),
    ("evidence", .list (v.evidence.map Evidence.toValue)),
    ("remediation", .list (v.remediation.map Remediation.toValue))]

end Compliance
