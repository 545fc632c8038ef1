import Compliance.Asset.Basic
import Compliance.Vocabulary
import Compliance.Value.Container

/-!
# Incidents

An incident (`Incident`) is the record of the response to a violation, with a timeline of events
(`IncidentEvent`). Its free fields take any value that an update writes into them.
-/
namespace Compliance

open Calendar

inductive IncidentStatus where
  | opened
  | investigating
  | mitigated
  | closed
  deriving DecidableEq

instance : Vocabulary IncidentStatus where
  name := "IncidentStatus"
  members := [.opened, .investigating, .mitigated, .closed]
  word
    | .opened => "open"
    | .investigating => "investigating"
    | .mitigated => "mitigated"
    | .closed => "closed"

inductive EventType where
  | created
  | updated
  | comment
  | statusChange
  | assignment
  | escalation
  deriving DecidableEq

instance : Vocabulary EventType where
  name := "IncidentEventType"
  members := [.created, .updated, .comment, .statusChange, .assignment, .escalation]
  word
    | .created => "created"
    | .updated => "updated"
    | .comment => "comment"
    | .statusChange => "status_change"
    | .assignment => "assignment"
    | .escalation => "escalation"

/-- An event as it is reported, signed by an actor. -/
structure Report where
  type : EventType
  description : String
  actor : String
  data : Value

/-- An event on a timeline. -/
structure Event extends Report where
  id : String
  timestamp : Instant

structure Incident where
  id : String
  title : Value
  description : Value
  severity : Severity
  status : IncidentStatus
  priority : Priority
  assignee : Value
  reporter : Value
  violationIds : Value
  timeline : List Event
  createdAt : Instant
  updatedAt : Instant
  resolvedAt : Option Instant

def Event.toValue (e : Event) : Value :=
  .record [("id", .text e.id), ("type", .member e.type), ("description", .text e.description),
    ("actor", .text e.actor), ("timestamp", .text e.timestamp.iso), ("data", e.data)]

namespace Incident

/-- The incident as a record (`to_dict`); its violations must be something that can be listed. -/
def toValue (i : Incident) : Except ShapeFault Value := do
  let violations ← i.violationIds.items
  return .record [("id", .text i.id), ("title", i.title), ("description", i.description),
    ("severity", .member i.severity), ("status", .member i.status),
    ("priority", .member i.priority), ("assignee", i.assignee), ("reporter", i.reporter),
    ("violation_ids", .list violations), ("timeline", .list (i.timeline.map Event.toValue)),
    ("created_at", .text i.createdAt.iso), ("updated_at", .text i.updatedAt.iso),
    ("resolved_at", .text? (i.resolvedAt.map Instant.iso))]

/-- The incident with one more event (`add_event`). -/
def withEvent (now : Instant) (e : Event) (i : Incident) : Incident :=
  { i with timeline := i.timeline ++ [e], updatedAt := advance now i.updatedAt }

end Incident
end Compliance
