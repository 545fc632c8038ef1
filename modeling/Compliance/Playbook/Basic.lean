import Compliance.Number.Exact
import Compliance.Value.Container
import Compliance.Violation.Basic

/-!
# Playbooks

A playbook (`Playbook`) says which violations it responds to, and how: a graph of steps
(`PlaybookStep`), linked by what comes after success and after failure. Names, descriptions and
links are kept as they were given.
-/
namespace Compliance

open Calendar

inductive TriggerType where
  | violation
  | schedule
  | manual
  | webhook
  deriving DecidableEq

instance : Vocabulary TriggerType where
  name := "TriggerType"
  members := [.violation, .schedule, .manual, .webhook]
  word
    | .violation => "violation"
    | .schedule => "schedule"
    | .manual => "manual"
    | .webhook => "webhook"

inductive StepType where
  | action
  | notification
  | delay
  | condition
  | remediation
  deriving DecidableEq

instance : Vocabulary StepType where
  name := "StepType"
  members := [.action, .notification, .delay, .condition, .remediation]
  word
    | .action => "action"
    | .notification => "notification"
    | .delay => "delay"
    | .condition => "condition"
    | .remediation => "remediation"

inductive ActionKind where
  | createIncident
  | updateStatus
  | assign
  | escalate
  deriving DecidableEq

instance : Vocabulary ActionKind where
  name := "ActionKind"
  members := [.createIncident, .updateStatus, .assign, .escalate]
  word
    | .createIncident => "create_incident"
    | .updateStatus => "update_status"
    | .assign => "assign"
    | .escalate => "escalate"

inductive Channel where
  | slack
  | email
  | jira
  | pagerduty
  | webhook
  deriving DecidableEq

instance : Vocabulary Channel where
  name := "NotificationChannel"
  members := [.slack, .email, .jira, .pagerduty, .webhook]
  word
    | .slack => "slack"
    | .email => "email"
    | .jira => "jira"
    | .pagerduty => "pagerduty"
    | .webhook => "webhook"

/-- A member of a vocabulary, or a plain text in its place. -/
inductive Tag (α : Type) where
  | member (a : α)
  | plain (text : String)
  deriving DecidableEq

/-- The member that a tag stands for; a plain text stands for the member with that word. -/
def Tag.member? {α : Type} [Vocabulary α] : Tag α → Option α
  | .member a => some a
  | .plain s => Compliance.member? s

/-- The text of a tag. -/
def Tag.word {α : Type} [Vocabulary α] : Tag α → String
  | .member a => Compliance.word a
  | .plain s => s

/-- Which violations a playbook responds to. An empty list, like a policy that counts as false,
asks for nothing. -/
structure Trigger where
  type : TriggerType
  severities : List Severity
  assetTypes : List AssetType
  policyId : Value

structure Action where
  kind : Tag ActionKind
  params : Entries

structure Notification where
  channel : Channel
  template : Value
  recipients : List Value

/-- A time to wait, as a whole number or not. -/
inductive Seconds where
  | whole (n : Int)
  | real (x : Float)

/-- The exact number of seconds. -/
def Seconds.exact : Seconds → Number.Exact
  | .whole n => .finite n
  | .real x => Number.exact x

def Seconds.toValue : Seconds → Value
  | .whole n => .int n
  | .real x => .float x

/-- A test of a field of the run. -/
structure Test where
  field : Value
  value : Value
  operator : Value

structure Script where
  script : Value
  /-- Texts under texts. -/
  parameters : Entries

/-- What a step is to do; the part for its type is used. -/
structure StepConfig where
  action : Option Action
  notification : Option Notification
  delay : Option Seconds
  condition : Option Test
  remediation : Option Script

/-- A step that says nothing of what it is to do. -/
def StepConfig.blank : StepConfig := ⟨none, none, none, none, none⟩

structure Step where
  id : String
  name : Value
  type : Tag StepType
  config : StepConfig
  onSuccess : Value
  onFailure : Value

structure Playbook where
  id : Value
  name : Value
  description : Value
  trigger : Trigger
  steps : List Step
  enabled : Bool
  lastRun : Option Instant

/-- Whether a playbook with this trigger responds to a violation (`PlaybookTrigger.matches`). -/
def Trigger.accepts (t : Trigger) (v : Violation) : Bool :=
  t.type = .violation &&
    (t.severities.isEmpty || t.severities.contains v.severity) &&
    (t.assetTypes.isEmpty || t.assetTypes.contains v.assetType) &&
    (!t.policyId.truthy || (Value.text v.policyId).same t.policyId)

/-- The first step that a link leads to (`get_step`). Ids are texts, so no other value leads
anywhere. -/
def Playbook.step? (p : Playbook) (link : Value) : Option Step :=
  p.steps.find? fun s => (Value.text s.id).same link

/-- The step with which a run starts (`first_step`). -/
def Playbook.first? (p : Playbook) : Option Step := p.steps.head?

end Compliance
