import Compliance.Violation.Basic

/-!
# The violations on file

Findings are filed as open violations with running numbers (`ViolationDetector`, without its
checks). Every accepted change of a violation moves its time of update forward, whatever the clock
says.
-/
namespace Compliance

open Calendar

/-- What is to be filed as a violation. -/
structure Finding where
  policyId : String
  policyName : String
  assetId : String
  assetType : AssetType
  assetIdentifier : String
  severity : Severity
  title : String
  description : String
  evidence : List Exhibit
  remedy : String
  deriving DecidableEq

/-- A status change that would lead back (`InvalidStatusTransition`). -/
structure BackwardMove where
  id : String
  current : ViolationStatus
  requested : ViolationStatus

def BackwardMove.message (m : BackwardMove) : String :=
  "Violation " ++ m.id ++ " cannot move from " ++ word m.current ++ " to " ++ word m.requested

structure ViolationStore where
  violations : List Violation
  /-- How many violations have been filed so far. -/
  issued : Nat
  /-- How many remediation actions have been filed so far. -/
  remediations : Nat

/-- The violation that a finding is filed as (`create_violation`). -/
def Finding.filed (f : Finding) (now : Instant) (number remediation : Nat) : Violation where
  id := label "violation" number
  policyId := f.policyId
  policyName := f.policyName
  assetId := f.assetId
  assetType := f.assetType
  assetIdentifier := f.assetIdentifier
  severity := f.severity
  status := .opened
  title := f.title
  description := f.description
  detectedAt := now
  updatedAt := now
  resolvedAt := none
  evidence := f.evidence.map fun e => ⟨e, now⟩
  remediation := [⟨.task f.remedy, label "remediation" remediation⟩]

/-- The violation in a new status (`update_violation_status`). -/
def Violation.moved (now : Instant) (status : ViolationStatus) (v : Violation) : Violation :=
  let updatedAt := advance now v.updatedAt
  { v with
    status
    updatedAt
    resolvedAt := if status = .resolved then v.resolvedAt <|> some updatedAt else v.resolvedAt }

/-- The violation with a further remediation action (`add_remediation`). -/
def Violation.withRemediation (now : Instant) (r : Remediation) (v : Violation) : Violation :=
  { v with remediation := v.remediation ++ [r], updatedAt := advance now v.updatedAt }

namespace ViolationStore

def empty : ViolationStore := ⟨[], 0, 0⟩

def find? (s : ViolationStore) (id : String) : Option Violation :=
  s.violations.find? (·.id = id)

/-- Files a finding. -/
def file (now : Instant) (f : Finding) (s : ViolationStore) : ViolationStore × Violation :=
  let v := f.filed now (s.issued + 1) (s.remediations + 1)
  (⟨s.violations ++ [v], s.issued + 1, s.remediations + 1⟩, v)

/-- Files findings in their order. -/
def fileAll (now : Instant) : List Finding → ViolationStore → ViolationStore × List Violation
  | [], s => (s, [])
  | f :: rest, s =>
    let (s, v) := s.file now f
    let (s, vs) := fileAll now rest s
    (s, v :: vs)

/-- Writes a violation in place of the one with its id. -/
def replace (v : Violation) (s : ViolationStore) : ViolationStore :=
  { s with violations := s.violations.map fun w => if w.id = v.id then v else w }

/-- Moves a violation to a status, if there is such a violation (`update_violation_status`). -/
def setStatus (now : Instant) (id : String) (status : ViolationStatus) (s : ViolationStore) :
    Except BackwardMove (Option (ViolationStore × Violation)) :=
  match s.find? id with
  | none => .ok none
  | some v =>
    if v.status.permits status then
      let v := v.moved now status
      .ok (some (s.replace v, v))
    else .error ⟨id, v.status, status⟩

/-- Files a remediation action with a violation, if there is such a violation (`add_remediation`).
-/
def addRemediation (now : Instant) (id : String) (r : Remedy) (s : ViolationStore) :
    Option (ViolationStore × Remediation) :=
  match s.find? id with
  | none => none
  | some v =>
    let r : Remediation := ⟨r, label "remediation" (s.remediations + 1)⟩
    some ({ s.replace (v.withRemediation now r) with remediations := s.remediations + 1 }, r)

/-- Takes a violation off file (`delete_violation`). -/
def delete (id : String) (s : ViolationStore) : ViolationStore :=
  { s with violations := s.violations.filter (·.id ≠ id) }

def withStatus (s : ViolationStore) (status : ViolationStatus) : List Violation :=
  s.violations.filter (·.status = status)

def withSeverity (s : ViolationStore) (severity : Severity) : List Violation :=
  s.violations.filter (·.severity = severity)

/-- The violations that work is going on for. -/
def opened (s : ViolationStore) : List Violation := s.violations.filter (·.status.isOpen)

end ViolationStore

/-!
## Counts of violations

One pass over the violations counts them by status and by severity; the open ones are added up from
those counts (`get_stats` of the detector).
-/

/-- A count for each member of a vocabulary. -/
abbrev Tally (α : Type) := α → Nat

/-- The tally with one more for a member. -/
def Tally.increment {α : Type} [DecidableEq α] (t : Tally α) (a : α) : Tally α :=
  fun b => if b = a then t b + 1 else t b

/-- A tally as a record, with a field for every member. -/
def Tally.toValue {α : Type} [Vocabulary α] (t : Tally α) : Value :=
  .record ((Vocabulary.members (α := α)).map fun a => (word a, .int (t a)))

structure ViolationCounts where
  total : Nat
  byStatus : Tally ViolationStatus
  bySeverity : Tally Severity

namespace ViolationCounts

/-- The counts with one more violation. -/
def count (c : ViolationCounts) (v : Violation) : ViolationCounts :=
  ⟨c.total + 1, c.byStatus.increment v.status, c.bySeverity.increment v.severity⟩

def of (vs : List Violation) : ViolationCounts := vs.foldl count ⟨0, fun _ => 0, fun _ => 0⟩

def openCount (c : ViolationCounts) : Nat :=
  c.byStatus .opened + c.byStatus .investigating + c.byStatus .remediating

def toValue (c : ViolationCounts) : Value :=
  .record [("total", .int c.total), ("by_status", c.byStatus.toValue),
    ("by_severity", c.bySeverity.toValue), ("open_count", .int c.openCount),
    ("resolved_count", .int (c.byStatus .resolved))]

end ViolationCounts

end Compliance
