import Compliance.Playbook.Basic

/-!
# Playbooks as records

The record of a playbook (`to_dict`) can be read back as a definition. A plain text in the place of
an action kind has no word of its own, and spoils the record.
-/
namespace Compliance

open Calendar

def Trigger.toValue (t : Trigger) : Value :=
  .record [("type", .member t.type),
    ("conditions", .record [("severity", .list (t.severities.map .member)),
      ("asset_type", .list (t.assetTypes.map .member)), ("policy_id", t.policyId)])]

/-- The fields for an action; parameters are left out when there are none. -/
def Action.fields (a : Action) : Except ShapeFault (List (String × Value)) :=
  match a.kind with
  | .member k =>
    .ok (("action", .member k) :: if a.params.isEmpty then [] else [("params", .map a.params)])
  | .plain _ => .error (.noOperation "str" "value")

def Notification.toValue (n : Notification) : Value :=
  .record [("channel", .member n.channel), ("template", n.template),
    ("recipients", .list n.recipients)]

def Test.toValue (t : Test) : Value :=
  .record [("field", t.field), ("operator", t.operator), ("value", t.value)]

def Script.toValue (s : Script) : Value :=
  .record [("script", s.script), ("parameters", .map s.parameters)]

/-- A field for a part that is there. -/
def partField {α : Type} (name : String) (toValue : α → Value) : Option α → List (String × Value)
  | some a => [(name, toValue a)]
  | none => []

def StepConfig.toValue (c : StepConfig) : Except ShapeFault Value := do
  let action ← match c.action with
    | some a => a.fields
    | none => pure []
  return .record (action ++ partField "notification" Notification.toValue c.notification ++
    partField "delay" (fun s => .record [("seconds", s.toValue)]) c.delay ++
    partField "condition" Test.toValue c.condition ++
    partField "remediation" Script.toValue c.remediation)

def Step.toValue (s : Step) : Except ShapeFault Value := do
  let config ← s.config.toValue
  return .record [("id", .text s.id), ("name", s.name), ("type", .text s.type.word),
    ("config", config), ("on_success", s.onSuccess), ("on_failure", s.onFailure)]

def Playbook.toValue (p : Playbook) : Except ShapeFault Value := do
  let steps ← p.steps.mapM Step.toValue
  return .record [("id", p.id), ("name", p.name), ("description", p.description),
    ("enabled", .bool p.enabled), ("trigger", p.trigger.toValue), ("steps", .list steps),
    ("last_run", .text? (p.lastRun.map Instant.iso))]

end Compliance
