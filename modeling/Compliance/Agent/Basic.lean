import Compliance.Detection.Detector
import Compliance.Response.Desk
import Compliance.Settings.Basic
import Compliance.Violation.Store

/-!
# The agent

The agent (`ComplianceAgent`) holds everything: the inventory, the rules, the violations, the
policies, and the desk that responds to violations.
-/
namespace Compliance

open Calendar

structure Agent where
  settings : Settings
  backends : Backends
  inventory : Inventory
  rules : List Rule
  policies : List Policy
  violations : ViolationStore
  desk : Desk

namespace Agent

/-- The clock at the beginning: 2024-01-01 in universal time, and no time waited. -/
def firstClock : Clock := ⟨⟨1704067200000000⟩, 0, 0⟩

/-- A new agent with a set of playbooks. -/
def create (settings : Settings) (backends : Backends) (playbooks : List Playbook) :
    Except ShapeFault Agent := do
  let registry ← Registry.empty.addAll playbooks
  let world : World := ⟨firstClock, .empty settings.actor, .empty⟩
  return ⟨settings, backends, .empty, Rule.standard, [], .empty, ⟨world, registry, []⟩⟩

/-- The present instant. -/
def now (a : Agent) : Instant := a.desk.world.now

def incidents (a : Agent) : IncidentStore := a.desk.world.incidents

/-- Replaces the incidents. -/
def withIncidents (a : Agent) (incidents : IncidentStore) : Agent :=
  { a with desk := { a.desk with world := { a.desk.world with incidents } } }

/-- Sets the wall time back or forth. -/
def tick (a : Agent) (micros : Int) : Agent :=
  let clock := a.desk.world.clock.shift micros
  { a with desk := { a.desk with world := { a.desk.world with clock } } }

/-- Adds an asset. -/
def addAsset (a : Agent) (type : AssetType) (identifier organization : String)
    (metadata : Value) : Agent × Asset :=
  let (inventory, asset) := a.inventory.add type identifier organization metadata
  ({ a with inventory }, asset)

/-- Takes an asset out, if there is such an asset. -/
def removeAsset (a : Agent) (id : String) : Option Agent :=
  (a.inventory.find? id).map fun _ => { a with inventory := a.inventory.remove id }

/-- Takes in facts. -/
def setFacts (a : Agent) (f : Facts) : Agent :=
  { a with inventory := a.inventory.setFacts a.now f }

def addPolicy (a : Agent) (p : Policy) : Agent := { a with policies := p.register a.policies }

def activePolicies (a : Agent) : List Policy := Policy.active a.policies

/-- Adds a rule. -/
def addRule (a : Agent) (r : Rule) : Agent := { a with rules := a.rules ++ [r] }

/-- Switches a rule, if there is such a rule. -/
def toggleRule (a : Agent) (id : String) (enabled : Bool) : Option Agent :=
  (Rule.find? id a.rules).map fun _ => { a with rules := Rule.toggle id enabled a.rules }

/-- Files what detection finds on all assets (`run_detection` of the detector). -/
def detect (a : Agent) : Agent × Except Pattern.Fault (List Violation) :=
  let (violations, found) := a.violations.detect a.now a.inventory a.rules a.activePolicies
  ({ a with violations }, found)

/-- Files what detection finds on one asset (`check_asset`). -/
def checkAsset (a : Agent) (asset : Asset) : Agent × Except Pattern.Fault (List Violation) :=
  let (violations, found) :=
    a.violations.checkAsset a.now a.inventory a.rules a.activePolicies asset
  ({ a with violations }, found)

/-- Files a finding that was reported (`create_violation`). -/
def report (a : Agent) (f : Finding) : Agent × Violation :=
  let (violations, v) := a.violations.file a.now f
  ({ a with violations }, v)

/-- Moves a violation to a status, if there is such a violation. -/
def setStatus (a : Agent) (id : String) (status : ViolationStatus) :
    Except BackwardMove (Option (Agent × Violation)) :=
  (a.violations.setStatus a.now id status).map fun r =>
    r.map fun (violations, v) => ({ a with violations }, v)

/-- Adds a remediation action to a violation, if there is such a violation. -/
def addRemediation (a : Agent) (id : String) (r : Remedy) : Option (Agent × Remediation) :=
  (a.violations.addRemediation a.now id r).map fun (violations, r) => ({ a with violations }, r)

/-- Takes a violation off file, if there is such a violation. -/
def deleteViolation (a : Agent) (id : String) : Option Agent :=
  (a.violations.find? id).map fun _ => { a with violations := a.violations.delete id }

/-- The terms of a run. -/
def terms (a : Agent) (watch : Watch) : Terms := ⟨a.backends, a.settings.maxStepsPerRun, watch⟩

/-- Responds to a violation (`execute_playbooks` with the settings of the agent). -/
def respond (a : Agent) (watch : Watch) (v : Violation) : Agent × Responses :=
  let (desk, r) := a.desk.respond (a.terms (watch.starting a.desk.world.clock)) v
  ({ a with desk }, r)

/-- Registers a playbook. -/
def addPlaybook (a : Agent) (p : Playbook) : Except ShapeFault Agent :=
  (a.desk.registry.add p).map fun registry => { a with desk := { a.desk with registry } }

/-- The playbook with an id. -/
def playbook? (a : Agent) (id : Value) : Option Playbook := a.desk.registry.get? id

/-- Replaces the registry. -/
def withRegistry (a : Agent) (registry : Registry) : Agent :=
  { a with desk := { a.desk with registry } }

/-- Switches a playbook, if there is such a playbook. -/
def togglePlaybook (a : Agent) (id : Value) (enabled : Bool) : Option Agent :=
  (a.playbook? id).map fun _ => a.withRegistry (a.desk.registry.toggle id enabled)

/-- Takes a playbook out, if there is such a playbook. -/
def deletePlaybook (a : Agent) (id : Value) : Option Agent :=
  (a.playbook? id).map fun _ => a.withRegistry (a.desk.registry.delete id)

/-- Forgets the notifications that were sent. -/
def clearNotices (a : Agent) : Agent :=
  let outbox := a.desk.world.outbox.clearNotices
  { a with desk := { a.desk with world := { a.desk.world with outbox } } }

/-- Opens an incident for a violation. -/
def createIncident (a : Agent) (v : Violation) : Agent × Incident :=
  let (incidents, i) := a.incidents.openFor a.now v
  (a.withIncidents incidents, i)

/-- Updates an incident, if there is such an incident. -/
def updateIncident (a : Agent) (id : String) (updates : List (String × Value)) :
    Except UpdateFault (Option Agent) :=
  (a.incidents.update a.now id updates).map fun s => s.map a.withIncidents

/-- Links a violation to an incident, if there is such an incident. -/
def linkViolation (a : Agent) (id violation : String) : Except ShapeFault (Option Agent) :=
  (a.incidents.link a.now id violation).map fun s => s.map a.withIncidents

/-- Records an event of an incident; the agent signs what nobody else does. -/
def addEvent (a : Agent) (id : String) (type : EventType) (description : String)
    (actor : Option String) (data : Value) : Agent × Event :=
  let signed := match actor with
    | some name => if name = "" then a.incidents.actor else name
    | none => a.incidents.actor
  let (incidents, e) := a.incidents.addEvent a.now id ⟨type, description, signed, data⟩
  (a.withIncidents incidents, e)

/-- Counts of everything (`get_stats` of the agent). -/
def statistics (a : Agent) : Value :=
  .record [("assets", .int a.inventory.assets.length), ("policies", .int a.policies.length),
    ("violations", (ViolationCounts.of a.violations.violations).toValue),
    ("soar", a.desk.statistics)]

end Agent
end Compliance
