import Compliance.Incident.Basic
import Compliance.Incident.Store
import Compliance.Playbook.Basic
import Compliance.Response.Ledger
import Compliance.Response.Watch
import Compliance.Text.Basic
import Compliance.Value.Comparison
import Compliance.Violation.Basic

/-!
# Runs

A run takes the steps of a playbook one after the other, from the first on, as its links lead. It
acts on nothing but its `World`: the clock, the incidents and what is sent out. An incident opened
by a step is bound to the run from then on, and later steps act on it. Of `PlaybookExecutor` this
is:

* `Run.start`, `Run.walk`: `run_playbook` up to the record of the run, and `_walk`;
* `Run.take`: `_execute_step`;
* `Run.perform`: the handlers for the types of steps, `_handle_action` to `_handle_remediation`;
* `Run.act`: the handlers for the kinds of actions, `_action_create_incident` to `_action_escalate`.

What is logged on the way is left out.
-/
namespace Compliance.Template

/-!
## Message templates

A template names values of the violation and the incident between double braces. They are put in
one after the other: title, description, severity, incident. A name that a value brings with it is
therefore replaced too if its turn is still to come (`render_template`).
-/

/-- A name as it stands in a template. -/
def placeholder (name : String) : String := "\x7b\x7b" ++ name ++ "\x7d\x7d"

/-- What stands for an incident when there is none. -/
def noIncident : String := "N/A"

/-- The message for a violation and the id of an incident. -/
def render (template : String) (v : Violation) (incident : Option String) : String :=
  let s := Text.replace (placeholder "violation.title") v.title template
  let s := Text.replace (placeholder "violation.description") v.description s
  let s := Text.replace (placeholder "violation.severity") (word v.severity) s
  Text.replace (placeholder "incident.id") (incident.getD noIncident) s

end Compliance.Template

namespace Compliance.Branch

/-!
## Tests within a run

A test asks for a field of the run, which is compared with a literal without crossing types.
-/

/-- The value of a field of the run: whether the incident has an assignee, or the severity of the
violation. There are no other fields (`resolve_condition_field`). -/
def resolve? (field : Value) (severity : Severity) (assignee : Option Value) : Option Value :=
  match field with
  | .text "acknowledged" => some (.bool (assignee.any (·.truthy)))
  | .text "severity" => some (.member severity)
  | _ => none

/-- Whether a resolved field has a value; one that does not exist has none (`strict_equals`). -/
def agrees (resolved : Option Value) (expected : Value) : Bool :=
  match resolved with
  | some v => v.identical expected
  | none => false

/-- Whether a test succeeds. Equality is the only operator (`_handle_condition`). -/
def holds (t : Test) (severity : Severity) (assignee : Option Value) : Bool :=
  match t.operator with
  | .text "equals" => agrees (resolve? t.field severity assignee) t.value
  | _ => false

end Compliance.Branch

namespace Compliance

open Calendar

/-- What runs act on. -/
structure World where
  clock : Clock
  incidents : IncidentStore
  outbox : Outbox

/-- The present instant. -/
def World.now (w : World) : Instant := w.clock.now

/-- What runs are subject to. -/
structure Terms where
  backends : Backends
  /-- The largest number of steps in a run. -/
  limit : Nat
  watch : Watch

/-- A run under way. -/
structure Run where
  world : World
  /-- The id of the incident that is bound to the run. -/
  bound : Option String

/-- How a step ends. -/
inductive StepEnd where
  | done (success : Bool)
  | failed (error : RunError)
  | interrupted (cause : Interruption)

/-- How a run ends. -/
inductive Ending where
  | finished
  | failed (error : RunError)
  | interrupted (cause : Interruption)

namespace Run

/-- The incident that is bound to the run. -/
def incident? (r : Run) : Option Incident := r.bound.bind r.world.incidents.find?

/-- Acts on the incidents. -/
def withIncidents (r : Run) (incidents : IncidentStore) : Run :=
  { r with world := { r.world with incidents } }

/-- Opens an incident for the violation, and binds it (`_action_create_incident`). -/
def createIncident (v : Violation) (r : Run) : Run :=
  let (incidents, i) := r.world.incidents.openFor r.world.now v
  { r.withIncidents incidents with bound := some i.id }

/-- Makes a change of an incident. -/
def amend (id : String) (change : Change) (r : Run) : Run :=
  r.withIncidents (r.world.incidents.change r.world.now id [change])

/-- Records an event of an incident. -/
def record (id : String) (type : EventType) (description : String)
    (data : List (String × Value)) (r : Run) : Run :=
  let s := r.world.incidents
  r.withIncidents (s.addEvent r.world.now id ⟨type, description, s.actor, .record data⟩).1

/-- Who incidents are assigned to unless somebody is named. -/
def defaultAssignee : String := "security-team"

/-- Who an action with parameters assigns an incident to. -/
def assigneeIn (params : Entries) : Value :=
  (params.field? "assignee").getD (.text defaultAssignee)

/-- Takes an action. All actions but the opening of an incident need one. An incident is changed
(`update_incident`) before the event is worded, and stays changed if it cannot be. -/
def act (playbookId : Value) (v : Violation) (kind : ActionKind) (params : Entries) (r : Run) :
    Run × StepEnd :=
  match kind, r.bound with
  | .createIncident, _ => (r.createIncident v, .done true)
  | _, none => (r, .done false)
  | .updateStatus, some id =>
    let given := (params.field? "status").getD (.member IncidentStatus.investigating)
    match readMember IncidentStatus given with
    | .ok status =>
      ((r.amend id (.status status)).record id .statusChange ("Status updated to " ++ word status)
        [("status", .member status), ("playbook_id", playbookId)], .done true)
    | .error f => (r, .failed (.notMember f))
  | .assign, some id =>
    let assignee := assigneeIn params
    let r := r.amend id (.assignee assignee)
    match assignee.writtenAs Value.toText with
    | .ok name =>
      (r.record id .assignment ("Assigned to " ++ name)
        [("assignee", assignee), ("playbook_id", playbookId)], .done true)
    | .error _ => (r, .failed (.unwritable assignee))
  | .escalate, some id =>
    ((r.amend id (.priority .p1)).record id .escalation "Incident escalated to P1"
      [("playbook_id", playbookId)], .done true)

/-- Sends a notification (`_handle_notification`). Whether it is taken makes no difference to the
run, but a template that is no text does. -/
def notify (b : Backends) (v : Violation) (n : Notification) (r : Run) : Run × StepEnd :=
  match n.template with
  | .text template =>
    let message := Template.render template v r.bound
    let outbox := r.world.outbox.notify b r.world.now ⟨n.channel, message, n.recipients⟩
    ({ r with world := { r.world with outbox } }, .done true)
  | _ => (r, .failed .unfit)

/-- Waits (`_handle_delay`). -/
def wait (w : Watch) (s : Seconds) (r : Run) : Run × StepEnd :=
  let (waited, cause) := (w.onWait r.world.clock).wait r.world.clock.waited s.exact
  let r := { r with world := { r.world with clock := r.world.clock.waitUntil waited } }
  match cause with
  | some cause => (r, .interrupted cause)
  | none => (r, .done true)

/-- Requests a remediation (`_handle_remediation`). -/
def remediate (b : Backends) (v : Violation) (s : Script) (r : Run) : Run × StepEnd :=
  let (outbox, refusal) := r.world.outbox.request b r.world.now ⟨s.script, s.parameters, v.id⟩
  let r := { r with world := { r.world with outbox } }
  match refusal with
  | some message => (r, .failed (.remediation message))
  | none => (r, .done true)

/-- Does what a step of a type is to do; a step that does not say fails. -/
def perform (t : Terms) (playbookId : Value) (v : Violation) (type : StepType) (c : StepConfig)
    (r : Run) : Run × StepEnd :=
  match type with
  | .action =>
    match c.action with
    | some a =>
      match a.kind.member? with
      | some kind => r.act playbookId v kind a.params
      | none => (r, .done false)
    | none => (r, .done false)
  | .notification =>
    match c.notification with
    | some n => r.notify t.backends v n
    | none => (r, .done false)
  | .delay =>
    match c.delay with
    | some s => r.wait t.watch s
    | none => (r, .done false)
  | .condition =>
    match c.condition with
    | some test =>
      (r, .done (Branch.holds test v.severity (r.incident?.map (·.assignee))))
    | none => (r, .done false)
  | .remediation =>
    match c.remediation with
    | some s => r.remediate t.backends v s
    | none => (r, .done false)

/-- Takes a step (`_execute_step`). A step whose type is unknown does nothing and succeeds; one
whose type is only known by its word is carried out, since the word is the key of its handler as
well, but it has no `value` to log, and the run fails before an incident is bound. -/
def take (t : Terms) (playbookId : Value) (v : Violation) (s : Step) (r : Run) : Run × StepEnd :=
  match s.type with
  | .member type => r.perform t playbookId v type s.config
  | .plain text =>
    match member? (α := StepType) text with
    | none => (r, .done true)
    | some type =>
      match r.perform t playbookId v type s.config with
      | (r', .done _) => ({ r' with bound := r.bound }, .failed .unfit)
      | result => result

/-- The step that comes after a step (`get_step`). -/
def next? (p : Playbook) (s : Step) (success : Bool) : Option Step :=
  let link := if success then s.onSuccess else s.onFailure
  if link.truthy then p.step? link else none

/-- Takes steps, as many as are left, until no further one follows (`_walk`). The limit comes before
the token, and both come before the step. -/
def walk (t : Terms) (p : Playbook) (v : Violation) : Nat → Option Step → Run → Run × Ending
  | _, none, r => (r, .finished)
  | 0, some _, r => (r, .failed (.stepLimit t.limit))
  | left + 1, some s, r =>
    if t.watch.isCancelled r.world.clock then (r, .interrupted .cancelledBefore)
    else
      match r.take t p.id v s with
      | (r, .done success) => walk t p v left (next? p s success) r
      | (r, .failed error) => (r, .failed error)
      | (r, .interrupted cause) => (r, .interrupted cause)

/-- Runs a playbook for a violation (`run_playbook`). -/
def start (t : Terms) (p : Playbook) (v : Violation) (w : World) : Run × Ending :=
  walk t p v t.limit p.first? ⟨w, none⟩

end Run

/-- The outcome that is put on record for an ending (the handlers of `run_playbook`). -/
def Ending.outcome : Ending → Outcome
  | .finished => .success
  | .failed error => .failure error
  | .interrupted _ => .failure .cancelled

end Compliance
