import Compliance.Agent.Scan
import Compliance.Api.Forms
import Compliance.Api.Exchange
import Compliance.Playbook.Definition
import Compliance.Playbook.Record

/-!
# The control interface

What each request does and how it is answered: the routes that `create_app` defines, each with a
handler of its own. A request that is refused, whether its form is wrong or what it names does not
exist, leaves the agent as it was.
-/
namespace Compliance.Api

/-- What a request does. -/
abbrev Handler := Agent → Request → Agent × Reply

/-- Goes on with what has been read, or complains. -/
def withForm {α : Type} (c : Checked α) (a : Agent) (go : α → Agent × Reply) : Agent × Reply :=
  match c with
  | .accepted x => go x
  | .rejected cs => (a, .invalid cs)

/-- Reports without a change. -/
def reporting (report : Agent → Value) : Handler := fun a _ => (a, .of 200 (report a))

def notFound (kind id : String) : Reply := .detail 404 (kind ++ " " ++ id ++ " not found")

/-- A list of records. -/
def listed {α : Type} (toValue : α → Except ShapeFault Value) (xs : List α) :
    Except ShapeFault Value := do return .list (← xs.mapM toValue)

/-! ## State and assets -/

/-- The seconds spent waiting, to two places. -/
def uptime (a : Agent) : Float := (Number.exact (Number.nearest a.waited)).toPlaces 2

def health : Handler := reporting fun a =>
  .record [("status", .text "healthy"), ("version", .text "0.1.0"),
    ("scan_in_progress", .bool false), ("uptime_seconds", .float (uptime a))]

def addAsset : Handler := fun a r =>
  withForm (r.form AssetForm.read) a fun f =>
    let organization := match f.organization with
      | some name => if name = "" then a.settings.organizationId else name
      | none => a.settings.organizationId
    let (a, asset) := a.addAsset f.type f.identifier organization (.map [])
    (a, .of 201 asset.toValue)

/-- Takes in facts of a type. -/
def putFacts {α : Type} (read : Value → Checked α) (facts : α → Facts) : Handler := fun a r =>
  withForm (r.form read) a fun x =>
    let f := facts x
    (a.setFacts f, .of 200
      (.record [("status", .text "cached"), ("identifier", .text f.identifier)]))

def addPolicy : Handler := fun a r =>
  withForm (r.form readPolicy) a fun p => (a.addPolicy p, .of 201 p.toValue)

/-! ## Scans -/

def scan : Handler := fun a r =>
  withForm (r.form? readTimeout) a fun timeout =>
    let limit := timeout.join.map fun x => Agent.TimeLimit.of (Number.exact x)
    let begun := a.waited
    match a.scan (limit.getD a.defaultLimit) none with
    | (a, .ok s) => (a, .ofRecord 200 (a.scanRecord ⟨s, Agent.millisBetween begun a.waited⟩))
    | (a, .error _) => (a, .failed)

/-- There is no scan to cancel while requests are answered one by one. -/
def cancelScan : Handler := reporting fun _ => .record [("cancelled", .bool false)]

/-! ## Violations -/

def listViolations : Handler := fun a r =>
  let filters := Prod.mk <$> r.parameter (Field.member ViolationStatus) "status"
    <*> r.parameter (Field.member Severity) "severity"
  withForm filters a fun (status, severity) =>
    let vs := a.violations.violations.filter fun v =>
      status.all (v.status = ·) && severity.all (v.severity = ·)
    (a, .of 200 (.list (vs.map Violation.toValue)))

def createViolation : Handler := fun a r =>
  withForm (r.form readFinding) a fun f =>
    let (a, v) := a.report f
    (a, .of 201 v.toValue)

def getViolation (id : String) : Handler := fun a _ =>
  match a.violations.find? id with
  | some v => (a, .of 200 v.toValue)
  | none => (a, notFound "Violation" id)

def setViolationStatus (id : String) : Handler := fun a r =>
  withForm (r.form readStatus) a fun status =>
    match a.setStatus id status with
    | .error m => (a, .detail 409 m.message)
    | .ok none => (a, notFound "Violation" id)
    | .ok (some (a, v)) => (a, .of 200 v.toValue)

def respond (id : String) : Handler := fun a _ =>
  match a.violations.find? id with
  | none => (a, notFound "Violation" id)
  | some v =>
    let (a, r) := a.respond .none v
    (a, .ofRecord 200 (listed Incident.toValue (r.incidentIds.filterMap a.incidents.find?)))

/-! ## Incidents -/

def listIncidents : Handler := fun a r =>
  withForm (r.parameter (Field.member IncidentStatus) "status") a fun status =>
    let is := match status with
      | some s => a.incidents.withStatus s
      | none => a.incidents.incidents
    (a, .ofRecord 200 (listed Incident.toValue is))

def getIncident (id : String) : Handler := fun a _ =>
  match a.incidents.find? id with
  | some i => (a, .ofRecord 200 i.toValue)
  | none => (a, notFound "Incident" id)

def updateIncident (id : String) : Handler := fun a r =>
  withForm (r.form readUpdate) a fun updates =>
    match a.updateIncident id updates with
    | .error _ => (a, .failed)
    | .ok none => (a, notFound "Incident" id)
    | .ok (some a) => getIncident id a r

def addEvent (id : String) : Handler := fun a r =>
  withForm (r.form EventForm.read) a fun f =>
    match a.incidents.find? id with
    | none => (a, notFound "Incident" id)
    | some _ =>
      let data := match f.data with | some es => .map es | none => .null
      let (a, e) := a.addEvent id f.type f.description f.actor data
      (a, .of 201 e.toValue)

/-! ## Playbooks and rules -/

def listPlaybooks : Handler := fun a _ =>
  (a, .ofRecord 200 (listed Playbook.toValue a.desk.registry.playbooks))

def addPlaybook : Handler := fun a r =>
  withForm (r.form Field.mapping) a fun es =>
    match Definition.read (.map es) with
    | .error (.refused r) => (a, .detail 400 r.message)
    | .error _ => (a, .failed)
    | .ok p =>
      match a.addPlaybook p with
      | .ok a => (a, .ofRecord 201 p.toValue)
      | .error _ => (a, .failed)

def getPlaybook (id : String) : Handler := fun a _ =>
  match a.playbook? (.text id) with
  | some p => (a, .ofRecord 200 p.toValue)
  | none => (a, notFound "Playbook" id)

/-- Makes a change of a named thing that must exist, and says so. -/
def changing (kind id field : String) (answer : Bool) (change : Agent → Option Agent) : Handler :=
  fun a _ =>
    match change a with
    | some a => (a, .of 200 (.record [("id", .text id), (field, .bool answer)]))
    | none => (a, notFound kind id)

def togglePlaybook (id : String) (enabled : Bool) : Handler :=
  changing "Playbook" id "enabled" enabled (·.togglePlaybook (.text id) enabled)

def deletePlaybook (id : String) : Handler :=
  changing "Playbook" id "deleted" true (·.deletePlaybook (.text id))

def executions : Handler := fun a r =>
  withForm (r.parameter Field.int "limit") a fun limit =>
    let limit := match limit with
      | some n => if n = 0 then (a.settings.historyLimit : Int) else n
      | none => a.settings.historyLimit
    (a, .of 200 (.list ((a.desk.ledger.recent limit).map Execution.toValue)))

def toggleRule (id : String) (enabled : Bool) : Handler :=
  changing "Rule" id "enabled" enabled (·.toggleRule id enabled)

/-! ## Routes -/

/-- The methods that a path answers to. A fixed name at the end of the path stands for itself with
or without a line end; `last` is the last segment as it is, which may name a thing. -/
def handlers (last : String) : List String → List (String × Handler)
  | ["health"] => [("GET", health)]
  | ["stats"] => [("GET", reporting Agent.statistics)]
  | ["assets"] =>
    [("GET", reporting fun a => .list (a.inventory.assets.map Asset.toValue)), ("POST", addAsset)]
  | ["facts", "domain"] => [("PUT", putFacts readDomainFacts .domain)]
  | ["facts", "ip"] => [("PUT", putFacts readIpFacts .ip)]
  | ["facts", "certificate"] => [("PUT", putFacts readCertificateFacts .certificate)]
  | ["policies"] =>
    [("GET", reporting fun a => .list (a.policies.map Policy.toValue)), ("POST", addPolicy)]
  | ["scan"] => [("POST", scan)]
  | ["scan", "cancel"] => [("POST", cancelScan)]
  | ["violations"] => [("GET", listViolations), ("POST", createViolation)]
  | ["violations", "stats"] =>
    [("GET", reporting fun a => (ViolationCounts.of a.violations.violations).toValue)]
  | ["violations", _] => [("GET", getViolation last)]
  | ["violations", id, "status"] => [("PATCH", setViolationStatus id)]
  | ["violations", id, "respond"] => [("POST", respond id)]
  | ["incidents"] => [("GET", listIncidents)]
  | ["incidents", _] => [("GET", getIncident last), ("PATCH", updateIncident last)]
  | ["incidents", id, "events"] => [("POST", addEvent id)]
  | ["playbooks"] => [("GET", listPlaybooks), ("POST", addPlaybook)]
  | ["playbooks", _] => [("GET", getPlaybook last), ("DELETE", deletePlaybook last)]
  | ["playbooks", id, "enable"] => [("POST", togglePlaybook id true)]
  | ["playbooks", id, "disable"] => [("POST", togglePlaybook id false)]
  | ["executions"] => [("GET", executions)]
  | ["rules"] => [("GET", reporting fun a => .list (a.rules.map Rule.toValue))]
  | ["rules", id, "enable"] => [("POST", toggleRule id true)]
  | ["rules", id, "disable"] => [("POST", toggleRule id false)]
  | _ => []

/-- A text without a line end at its end. -/
def withoutLineEnd (s : String) : String :=
  if s.toList.getLast? = some '\n' then String.ofList s.toList.dropLast else s

/-- The methods that some segments answer to. -/
def handlersOf (segments : List String) : List (String × Handler) :=
  let last := segments.getLast?.getD ""
  if segments.contains "" then [] else handlers last (segments.dropLast ++ [withoutLineEnd last])

/-- Segments without the empty ones at the end. -/
def withoutSlashes (segments : List String) : List String :=
  (segments.reverse.dropWhile (· = "")).reverse

/-- Answers a request whose reply is sent in full. A path with needless slashes at its end is
redirected. -/
def fullAnswer (a : Agent) (r : Request) : Agent × Reply :=
  match handlersOf r.segments with
  | [] =>
    if r.segments.getLast? = some "" ∧ !(handlersOf (withoutSlashes r.segments)).isEmpty then
      (a, .empty 307)
    else (a, .detail 404 "Not Found")
  | hs =>
    match hs.lookup r.method with
    | some handler => handler a r
    | none => (a, .detail 405 "Method Not Allowed")

/-- Answers a request. -/
def answer (a : Agent) (r : Request) : Agent × Reply :=
  let (a, reply) := fullAnswer a r
  (a, if r.method = "HEAD" then reply.head else reply)

end Compliance.Api
