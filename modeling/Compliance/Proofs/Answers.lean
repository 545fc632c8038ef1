import Compliance.Api.Routes
import Compliance.Proofs.Lifecycle
import Compliance.Proofs.Rereading

/-!
# Requests that are refused

A route asks several things of a request, one after the other, before it does anything: that its
form can be read, that what it names exists, that a violation does not move back, that a definition
describes a playbook. `handlers_asks` says once what each route asks. The first demand that is
not met decides the status of the reply, and the agent stays as it is; where all are met the request
is not refused. Main statement: `answer_orderly`.
-/
namespace Compliance.Api

namespace Reply

/-- The status of a reply. -/
def status : Reply → Nat
  | .json status _ => status
  | .invalid _ => 422
  | .empty status => status
  | .failed => 500

/-- Whether a reply says that the request is at fault. -/
def isRefusal (r : Reply) : Bool := 400 ≤ r.status && r.status < 500

theorem status_head (r : Reply) : r.head.status = r.status := by
  cases r <;> rfl

theorem isRefusal_of {status : Nat} (h : status < 400) (body : Value) :
    (of status body).isRefusal = false := by
  have hstatus : ¬ 400 ≤ status := by omega
  unfold of
  split
  · split
    · simp [isRefusal, Reply.status, hstatus]
    · rfl
  · rfl

theorem isRefusal_ofRecord {status : Nat} (h : status < 400) (body : Except ShapeFault Value) :
    (ofRecord status body).isRefusal = false := by
  cases body with
  | ok v => exact isRefusal_of h v
  | error f => rfl

end Reply

/-! ## Demands -/

/-- What a route may ask of a request. -/
inductive Demand where
  /-- The form or the parameters can be read. -/
  | form (isRead : Request → Bool)
  /-- There is a violation, incident, playbook or rule with an id. -/
  | violation (id : String)
  | incident (id : String)
  | playbook (id : String)
  | rule (id : String)
  /-- The violation with an id may move to the status in the form. -/
  | move (id : String)
  /-- The form is the definition of a playbook. -/
  | definition

/-- Whether something has been read. -/
def isAccepted {α : Type} : Checked α → Bool
  | .accepted _ => true
  | .rejected _ => false

namespace Demand

/-- Whether a request meets a demand of an agent. -/
def isMet (a : Agent) (r : Request) : Demand → Bool
  | form isRead => isRead r
  | violation id => (a.violations.find? id).isSome
  | incident id => (a.incidents.find? id).isSome
  | playbook id => (a.playbook? (.text id)).isSome
  | rule id => (Rule.find? id a.rules).isSome
  | move id =>
    match a.violations.find? id, r.form readStatus with
    | some v, .accepted status => !decide (v.status.Forbids status)
    | _, _ => true
  | definition =>
    match r.form Field.mapping with
    | .accepted es =>
      match Definition.read (.map es) with
      | .error (.refused _) => false
      | _ => true
    | .rejected _ => true

/-- The status of the reply to a request that does not meet a demand. -/
def status : Demand → Nat
  | form _ => 422
  | violation _ => 404
  | incident _ => 404
  | playbook _ => 404
  | rule _ => 404
  | move _ => 409
  | definition => 400

/-- That the body can be read as a form. -/
def body {α : Type} (read : Value → Checked α) : Demand := form fun r => isAccepted (r.form read)

end Demand

section
variable {a : Agent} {r : Request} {d : Demand} {ds : List Demand} {result : Agent × Reply}

/-- An answer by which the first demand that is not met is refused, without any change, and nothing
is refused where all are met. -/
def Answered (a : Agent) (r : Request) (ds : List Demand) (result : Agent × Reply) : Prop :=
  match ds.find? fun d => !d.isMet a r with
  | some d => result.1 = a ∧ result.2.status = d.status
  | none => result.2.isRefusal = false

theorem Answered.granted (h : result.2.isRefusal = false) : Answered a r [] result := h

theorem Answered.met (hd : d.isMet a r = true) (h : Answered a r ds result) :
    Answered a r (d :: ds) result := by
  unfold Answered
  rw [List.find?_cons, hd]
  exact h

theorem Answered.unmet (hd : d.isMet a r = false) (ha : result.1 = a)
    (hstatus : result.2.status = d.status) : Answered a r (d :: ds) result := by
  unfold Answered
  rw [List.find?_cons, hd]
  exact ⟨ha, hstatus⟩

/-- Only the state and the status count. -/
theorem Answered.congr {result' : Agent × Reply} (h : Answered a r ds result)
    (hstate : result'.1 = result.1) (hstatus : result'.2.status = result.2.status) :
    Answered a r ds result' := by
  unfold Answered Reply.isRefusal at h ⊢
  rw [hstate, hstatus]
  exact h

/-- Whatever is asked: an answer that is a refusal leaves the agent as it was. -/
theorem Answered.unchanged (h : Answered a r ds result) (hr : result.2.isRefusal = true) :
    result.1 = a := by
  unfold Answered at h
  split at h
  · exact h.1
  · rw [h] at hr
    cases hr

end

/-- Whether a handler asks for some things in turn, whoever sends what. -/
def Handler.Asks (h : Handler) (ds : List Demand) : Prop := ∀ a r, Answered a r ds (h a r)

/-! ## The handlers -/

theorem reporting_asks (report : Agent → Value) : (reporting report).Asks [] :=
  fun a _ => .granted (Reply.isRefusal_of (by decide) (report a))

/-- What is read first is asked for first. -/
theorem withForm_asks {α : Type} (read : Request → Checked α) (go : α → Handler) {ds : List Demand}
    (h : ∀ a r x, read r = .accepted x → Answered a r ds (go x a r)) :
    Handler.Asks (fun a r => withForm (read r) a fun x => go x a r)
      (.form (fun r => isAccepted (read r)) :: ds) := by
  intro a r
  simp only
  cases hread : read r with
  | accepted x => exact .met (by simp [Demand.isMet, isAccepted, hread]) (h a r x hread)
  | rejected cs => exact .unmet (by simp [Demand.isMet, isAccepted, hread]) rfl rfl

/-- A handler that only needs its form. -/
theorem withForm_granted {α : Type} (read : Request → Checked α) (go : α → Handler)
    (h : ∀ x a r, (go x a r).2.isRefusal = false) :
    Handler.Asks (fun a r => withForm (read r) a fun x => go x a r)
      [.form fun r => isAccepted (read r)] :=
  withForm_asks read go fun a r x _ => .granted (h x a r)

theorem addAsset_asks : addAsset.Asks [.body AssetForm.read] :=
  withForm_granted (·.form AssetForm.read) _ fun _ _ _ => Reply.isRefusal_of (by decide) _

theorem putFacts_asks {α : Type} (read : Value → Checked α) (facts : α → Facts) :
    (putFacts read facts).Asks [.body read] :=
  withForm_granted (·.form read) _ fun _ _ _ => Reply.isRefusal_of (by decide) _

theorem addPolicy_asks : addPolicy.Asks [.body readPolicy] :=
  withForm_granted (·.form readPolicy) _ fun _ _ _ => Reply.isRefusal_of (by decide) _

theorem createViolation_asks : createViolation.Asks [.body readFinding] :=
  withForm_granted (·.form readFinding) _ fun _ _ _ => Reply.isRefusal_of (by decide) _

theorem scan_asks : scan.Asks [.form fun r => isAccepted (r.form? readTimeout)] := by
  refine withForm_granted (·.form? readTimeout) _ fun timeout a r => ?_
  simp only
  split
  · exact Reply.isRefusal_ofRecord (by decide) _
  · rfl

/-- The parameters that choose among the violations. -/
def violationFilters (r : Request) : Checked (Option ViolationStatus × Option Severity) :=
  Prod.mk <$> r.parameter (Field.member ViolationStatus) "status"
    <*> r.parameter (Field.member Severity) "severity"

theorem listViolations_asks :
    listViolations.Asks [.form fun r => isAccepted (violationFilters r)] :=
  withForm_granted violationFilters _ fun _ _ _ => Reply.isRefusal_of (by decide) _

/-- A handler that only needs what it names to be there. -/
theorem find_asks {α : Type} (find? : Agent → Option α) (missing : Reply) {d : Demand}
    {h : Handler} (hmet : ∀ a r, d.isMet a r = (find? a).isSome)
    (hstatus : missing.status = d.status)
    (hnone : ∀ a r, find? a = none → h a r = (a, missing))
    (hsome : ∀ a r x, find? a = some x → (h a r).2.isRefusal = false) : h.Asks [d] := by
  intro a r
  cases hfind : find? a with
  | none =>
    have hmissing := hnone a r hfind
    exact .unmet (by rw [hmet, hfind]; rfl) (by rw [hmissing]) (by rw [hmissing, hstatus])
  | some x => exact .met (by rw [hmet, hfind]; rfl) (.granted (hsome a r x hfind))

theorem getViolation_asks (id : String) : (getViolation id).Asks [.violation id] := by
  refine find_asks (·.violations.find? id) (notFound "Violation" id)
    (fun _ _ => rfl) rfl (fun a r h => ?_) fun a r v h => ?_
  · simp only [getViolation, h]
  · simp only [getViolation, h]
    exact Reply.isRefusal_of (by decide) _

theorem respond_asks (id : String) : (respond id).Asks [.violation id] := by
  refine find_asks (·.violations.find? id) (notFound "Violation" id)
    (fun _ _ => rfl) rfl (fun a r h => ?_) fun a r v h => ?_
  · simp only [respond, h]
  · simp only [respond, h]
    exact Reply.isRefusal_ofRecord (by decide) _

theorem getIncident_asks (id : String) : (getIncident id).Asks [.incident id] := by
  refine find_asks (·.incidents.find? id) (notFound "Incident" id)
    (fun _ _ => rfl) rfl (fun a r h => ?_) fun a r i h => ?_
  · simp only [getIncident, h]
  · simp only [getIncident, h]
    exact Reply.isRefusal_ofRecord (by decide) _

theorem getPlaybook_asks (id : String) : (getPlaybook id).Asks [.playbook id] := by
  refine find_asks (·.playbook? (.text id)) (notFound "Playbook" id)
    (fun _ _ => rfl) rfl (fun a r h => ?_) fun a r p h => ?_
  · simp only [getPlaybook, h]
  · simp only [getPlaybook, h]
    exact Reply.isRefusal_ofRecord (by decide) _

/-- A change of a named thing asks for the thing. -/
theorem changing_asks {kind id field : String} {answer : Bool} {change : Agent → Option Agent}
    {d : Demand} (hmet : ∀ a r, d.isMet a r = (change a).isSome) (hstatus : d.status = 404) :
    (changing kind id field answer change).Asks [d] := by
  refine find_asks change (notFound kind id) hmet hstatus.symm
    (fun a r h => ?_) fun a r a' h => ?_
  · simp only [changing, h]
  · simp only [changing, h]
    exact Reply.isRefusal_of (by decide) _

theorem togglePlaybook_asks (id : String) (enabled : Bool) :
    (togglePlaybook id enabled).Asks [.playbook id] :=
  changing_asks (fun a _ => by simp [Demand.isMet, Agent.togglePlaybook]) rfl

theorem deletePlaybook_asks (id : String) : (deletePlaybook id).Asks [.playbook id] :=
  changing_asks (fun a _ => by simp [Demand.isMet, Agent.deletePlaybook]) rfl

theorem toggleRule_asks (id : String) (enabled : Bool) : (toggleRule id enabled).Asks [.rule id] :=
  changing_asks (fun a _ => by simp [Demand.isMet, Agent.toggleRule]) rfl

theorem listIncidents_asks : listIncidents.Asks
    [.form fun r => isAccepted (r.parameter (Field.member IncidentStatus) "status")] :=
  withForm_granted (·.parameter (Field.member IncidentStatus) "status") _ fun _ _ _ =>
    Reply.isRefusal_ofRecord (by decide) _

theorem executions_asks :
    executions.Asks [.form fun r => isAccepted (r.parameter Field.int "limit")] :=
  withForm_granted (·.parameter Field.int "limit") _ fun _ _ _ => Reply.isRefusal_of (by decide) _

theorem listPlaybooks_asks : listPlaybooks.Asks [] :=
  fun _ _ => .granted (Reply.isRefusal_ofRecord (by decide) _)

theorem addPlaybook_asks : addPlaybook.Asks [.body Field.mapping, .definition] := by
  refine withForm_asks (·.form Field.mapping) _ fun a r es hread => ?_
  cases hdefinition : Definition.read (.map es) with
  | error f =>
    cases f with
    | refused refusal =>
      exact .unmet (by simp [Demand.isMet, hread, hdefinition]) (by simp only) (by simp only; rfl)
    | _ => exact .met (by simp [Demand.isMet, hread, hdefinition]) (.granted (by simp only; rfl))
  | ok p =>
    refine .met (by simp [Demand.isMet, hread, hdefinition]) (.granted ?_)
    simp only
    split
    · exact Reply.isRefusal_ofRecord (by decide) _
    · rfl

theorem setViolationStatus_asks (id : String) :
    (setViolationStatus id).Asks [.body readStatus, .violation id, .move id] := by
  refine withForm_asks (·.form readStatus) _ fun a r status hread => ?_
  simp only [Agent.setStatus, ViolationStore.setStatus]
  cases hfind : a.violations.find? id with
  | none => exact .unmet (by simp [Demand.isMet, hfind]) rfl rfl
  | some v =>
    refine .met (by simp [Demand.isMet, hfind]) ?_
    by_cases hforbids : v.status.Forbids status
    · have hpermits : v.status.permits status = false := by
        rw [← Bool.not_eq_true, ViolationStatus.permits_iff, not_not]
        exact hforbids
      simp only [hpermits]
      exact .unmet (by simp [Demand.isMet, hfind, hread, hforbids]) rfl rfl
    · simp only [ViolationStatus.permits_iff.2 hforbids]
      exact .met (by simp [Demand.isMet, hfind, hread, hforbids])
        (.granted (Reply.isRefusal_of (by decide) _))

theorem addEvent_asks (id : String) : (addEvent id).Asks [.body EventForm.read, .incident id] := by
  refine withForm_asks (·.form EventForm.read) _ fun a r f hread => ?_
  cases hfind : a.incidents.find? id with
  | none => exact .unmet (by simp [Demand.isMet, hfind]) rfl rfl
  | some i =>
    exact .met (by simp [Demand.isMet, hfind]) (.granted (Reply.isRefusal_of (by decide) _))

/-! ### Updates of incidents -/

section
variable {α β : Type}

theorem map_eq_accepted {f : α → β} {c : Checked α} {y : β} (h : f <$> c = .accepted y) :
    ∃ x, c = .accepted x ∧ y = f x := by
  cases c with
  | accepted x =>
    cases h
    exact ⟨x, rfl, rfl⟩
  | rejected cs => cases h

theorem seq_eq_accepted {f : Checked (α → β)} {c : Checked α} {y : β}
    (h : f <*> c = .accepted y) : ∃ g x, f = .accepted g ∧ c = .accepted x ∧ y = g x := by
  cases f with
  | rejected cs => cases c <;> cases h
  | accepted g =>
    cases c with
    | accepted x =>
      cases h
      exact ⟨g, x, rfl, rfl, rfl⟩
    | rejected cs => cases h

/-- A field that is written into an incident stands for a change, whatever was read. -/
theorem forall_of_written {name : String} {toValue : α → Value} {c : Checked (Option α)}
    {updates : List (String × Value)}
    (h : c.map (fun a => (a.map fun a => (name, toValue a)).toList) = .accepted updates)
    (hname : name ∈ Change.fieldNames) (hread : ∀ x, ∃ y, Change.read name (toValue x) = .ok y) :
    ∀ u ∈ updates, u.1 ∈ Change.fieldNames ∧ ∃ y, Change.read u.1 u.2 = .ok y := by
  obtain ⟨x, -, rfl⟩ := map_eq_accepted h
  intro u hu
  cases x with
  | none => simp at hu
  | some x =>
    rw [List.mem_singleton.1 hu]
    exact ⟨hname, hread x⟩

end

/-- What is read from the body is read from a value. -/
theorem exists_of_form {α : Type} {r : Request} {read : Value → Checked α} {x : α}
    (h : r.form read = .accepted x) : ∃ v, read v = .accepted x := by
  unfold Request.form at h
  split at h
  · next v _ =>
    refine ⟨v, ?_⟩
    cases hread : read v with
    | accepted y =>
      rw [hread] at h
      exact h
    | rejected cs =>
      rw [hread] at h
      cases h
  · cases h

/-- An update that is read from a form is one of changes. -/
theorem readAll_of_readUpdate {v : Value} {updates : List (String × Value)}
    (h : readUpdate v = .accepted updates) :
    ∀ u ∈ updates, u.1 ∈ Change.fieldNames ∧ ∃ y, Change.read u.1 u.2 = .ok y := by
  cases v with
  | map es =>
    obtain ⟨write₄, assignee, h₄, hassignee, rfl⟩ := seq_eq_accepted h
    obtain ⟨write₃, priority, h₃, hpriority, rfl⟩ := seq_eq_accepted h₄
    obtain ⟨write₂, status, h₂, hstatus, rfl⟩ := seq_eq_accepted h₃
    obtain ⟨write₁, description, h₁, hdescription, rfl⟩ := seq_eq_accepted h₂
    obtain ⟨title, htitle, rfl⟩ := map_eq_accepted h₁
    have htitle := forall_of_written htitle (by decide) fun x => ⟨.title (.text x), rfl⟩
    have hdescription := forall_of_written hdescription (by decide) fun x =>
      ⟨.description (.text x), rfl⟩
    have hstatus := forall_of_written hstatus (by decide) fun x =>
      ⟨.status x, congrArg (Except.map Change.status) (Change.readWord_eq_ok_iff.2 rfl)⟩
    have hpriority := forall_of_written hpriority (by decide) fun x =>
      ⟨.priority x, congrArg (Except.map Change.priority) (Change.readWord_eq_ok_iff.2 rfl)⟩
    have hassignee := forall_of_written hassignee (by decide) fun x => ⟨.assignee (.text x), rfl⟩
    simp only [List.forall_mem_append]
    exact ⟨⟨⟨⟨htitle, hdescription⟩, hstatus⟩, hpriority⟩, hassignee⟩
  | _ => cases h

/-- An update that is read from a form is made, if there is such an incident. -/
theorem readAll_eq_ok {v : Value} {updates : List (String × Value)}
    (h : readUpdate v = .accepted updates) : ∃ changes, Change.readAll updates = .ok changes := by
  have hread := readAll_of_readUpdate h
  rw [Change.readAll_eq_mapM fun u hu => (hread u hu).1]
  exact mapM_eq_ok_of_forall fun u hu => (hread u hu).2

/-- What is on file is shown. -/
theorem getIncident_granted {a : Agent} {id : String}
    (h : (a.incidents.find? id).isSome = true) (r : Request) :
    (getIncident id a r).2.isRefusal = false := by
  simpa [Answered, Demand.isMet, h] using getIncident_asks id a r

theorem updateIncident_asks (id : String) :
    (updateIncident id).Asks [.body readUpdate, .incident id] := by
  refine withForm_asks (·.form readUpdate) _ fun a r updates hread => ?_
  obtain ⟨v, hv⟩ := exists_of_form hread
  obtain ⟨changes, hchanges⟩ := readAll_eq_ok hv
  simp only [Agent.updateIncident, IncidentStore.update, hchanges]
  cases hfind : a.incidents.find? id with
  | none => exact .unmet (by simp [Demand.isMet, hfind]) rfl rfl
  | some i =>
    refine .met (by simp [Demand.isMet, hfind]) (.granted ?_)
    -- an incident stays on file when it is changed
    have hstays : ((a.withIncidents (a.incidents.change a.now id changes)).incidents.find?
        id).isSome = true := by
      change ((a.incidents.change a.now id changes).find? id).isSome = true
      rw [IncidentStore.find?_change, hfind]
      rfl
    exact getIncident_granted hstays r

/-! ## The routes -/

/-- What a path asks of a request in turn, by method. -/
def demandsOf (last : String) : List String → List (String × List Demand)
  | ["health"] => [("GET", [])]
  | ["stats"] => [("GET", [])]
  | ["assets"] => [("GET", []), ("POST", [.body AssetForm.read])]
  | ["facts", "domain"] => [("PUT", [.body readDomainFacts])]
  | ["facts", "ip"] => [("PUT", [.body readIpFacts])]
  | ["facts", "certificate"] => [("PUT", [.body readCertificateFacts])]
  | ["policies"] => [("GET", []), ("POST", [.body readPolicy])]
  | ["scan"] => [("POST", [.form fun r => isAccepted (r.form? readTimeout)])]
  | ["scan", "cancel"] => [("POST", [])]
  | ["violations"] =>
    [("GET", [.form fun r => isAccepted (violationFilters r)]), ("POST", [.body readFinding])]
  | ["violations", "stats"] => [("GET", [])]
  | ["violations", _] => [("GET", [.violation last])]
  | ["violations", id, "status"] => [("PATCH", [.body readStatus, .violation id, .move id])]
  | ["violations", id, "respond"] => [("POST", [.violation id])]
  | ["incidents"] =>
    [("GET", [.form fun r => isAccepted (r.parameter (Field.member IncidentStatus) "status")])]
  | ["incidents", _] => [("GET", [.incident last]), ("PATCH", [.body readUpdate, .incident last])]
  | ["incidents", id, "events"] => [("POST", [.body EventForm.read, .incident id])]
  | ["playbooks"] => [("GET", []), ("POST", [.body Field.mapping, .definition])]
  | ["playbooks", _] => [("GET", [.playbook last]), ("DELETE", [.playbook last])]
  | ["playbooks", id, "enable"] => [("POST", [.playbook id])]
  | ["playbooks", id, "disable"] => [("POST", [.playbook id])]
  | ["executions"] => [("GET", [.form fun r => isAccepted (r.parameter Field.int "limit")])]
  | ["rules"] => [("GET", [])]
  | ["rules", id, "enable"] => [("POST", [.rule id])]
  | ["rules", id, "disable"] => [("POST", [.rule id])]
  | _ => []

/-- A handler asks for what the table says under its method. -/
def AsksAlike (route : String × Handler) (asked : String × List Demand) : Prop :=
  route.1 = asked.1 ∧ route.2.Asks asked.2

/-- Each path asks for what the table says. -/
theorem handlers_asks (last : String) (segments : List String) :
    List.Forall₂ AsksAlike (handlers last segments) (demandsOf last segments) := by
  -- One case for each path, with the methods that it answers to.
  fun_cases handlers last segments <;>
    simp [demandsOf, AsksAlike, reporting_asks, health, cancelScan, addAsset_asks, putFacts_asks,
      addPolicy_asks, scan_asks, listViolations_asks, createViolation_asks, getViolation_asks,
      setViolationStatus_asks, respond_asks, listIncidents_asks, getIncident_asks,
      updateIncident_asks, addEvent_asks, listPlaybooks_asks, addPlaybook_asks, getPlaybook_asks,
      togglePlaybook_asks, deletePlaybook_asks, executions_asks, toggleRule_asks]

namespace Request

/-- The segments by which the route of a request is found: its last one without a line end. -/
def routed (r : Request) : List String :=
  r.segments.dropLast ++ [withoutLineEnd (r.segments.getLast?.getD "")]

/-- Whether there is a route for the path and the method of a request. -/
def isRouted (r : Request) : Bool := ((handlersOf r.segments).lookup r.method).isSome

/-- What is asked of a request in turn. -/
def demands (r : Request) : List Demand :=
  ((demandsOf (r.segments.getLast?.getD "") r.routed).lookup r.method).getD []

/-- A request that is to move a violation to a status. -/
structure Moves (r : Request) (id : String) (status : ViolationStatus) : Prop where
  method : r.method = "PATCH"
  path : ∃ last, r.segments = ["violations", id, last] ∧ withoutLineEnd last = "status"
  named : id ≠ ""
  form : r.form readStatus = .accepted status

end Request

/-- What is looked up under a method asks for what is looked up in the table. -/
theorem asks_of_lookup {routes : List (String × Handler)} {asked : List (String × List Demand)}
    (h : List.Forall₂ AsksAlike routes asked) {method : String} {handler : Handler}
    (hlookup : routes.lookup method = some handler) :
    handler.Asks ((asked.lookup method).getD []) := by
  induction h with
  | nil => cases hlookup
  | @cons route entry routes asked halike _ ih =>
    obtain ⟨name, found⟩ := route
    obtain ⟨name', demands⟩ := entry
    obtain ⟨rfl, hasks⟩ := halike
    simp only [List.lookup_cons] at hlookup ⊢
    cases hname : method == name with
    | true =>
      simp only [hname] at hlookup
      cases hlookup
      exact hasks
    | false =>
      simp only [hname] at hlookup
      exact ih hlookup

theorem fullAnswer_asks {a : Agent} {r : Request} (h : r.isRouted = true) :
    Answered a r r.demands (fullAnswer a r) := by
  obtain ⟨handler, hlookup⟩ := Option.isSome_iff_exists.1 h
  have hfull : fullAnswer a r = handler a r := by
    unfold fullAnswer
    split
    · next hnone =>
      rw [hnone] at hlookup
      cases hlookup
    · simp only [hlookup]
  rw [hfull]
  unfold handlersOf at hlookup
  simp only at hlookup
  split at hlookup
  · cases hlookup
  · exact asks_of_lookup (handlers_asks _ _) hlookup a r

/-- A request that has no route is not found, not allowed or sent elsewhere. -/
theorem fullAnswer_unrouted {a : Agent} {r : Request} (h : r.isRouted = false) :
    (fullAnswer a r).1 = a ∧ (fullAnswer a r).2.status ∈ [307, 404, 405] := by
  unfold fullAnswer
  split
  · split
    · exact ⟨rfl, by simp [Reply.status]⟩
    · exact ⟨rfl, by simp [Reply.status, Reply.detail]⟩
  · split
    · next hlookup =>
      unfold Request.isRouted at h
      rw [hlookup] at h
      cases h
    · exact ⟨rfl, by simp [Reply.status, Reply.detail]⟩

/-! ## What is sent -/

/-- A value that is sent as it is. -/
structure IsSent (v : Value) : Prop where
  same : sent? v = some v
  finite : v.isFinite = true
  writable : v.isWritable = true

section
variable {v : Value} {vs : List Value} {fields : List (String × Value)}

theorem IsSent.reply (h : IsSent v) (status : Nat) : Reply.of status v = .json status v := by
  unfold Reply.of
  simp only [h.same, h.finite, h.writable, Bool.and_self, if_true]

theorem isSent_text (s : String) : IsSent (.text s) := ⟨rfl, rfl, rfl⟩

theorem isSent_null : IsSent .null := ⟨rfl, rfl, rfl⟩

theorem isSent_text? (s : Option String) : IsSent (.text? s) := by
  cases s with
  | none => exact isSent_null
  | some s => exact isSent_text s

theorem isSent_list (h : ∀ v ∈ vs, IsSent v) : IsSent (.list vs) := by
  have hitems : sentItems? vs = some vs ∧ Value.isFiniteItems vs = true ∧
      Value.areWritable vs = true := by
    induction vs with
    | nil => exact ⟨rfl, rfl, rfl⟩
    | cons v vs ih =>
      obtain ⟨hv, hvs⟩ := List.forall_mem_cons.1 h
      obtain ⟨hsame, hfinite, hwritable⟩ := ih hvs
      simp [sentItems?, Value.isFiniteItems, Value.areWritable, hv.same, hv.finite, hv.writable,
        hsame, hfinite, hwritable]
  obtain ⟨hsame, hfinite, hwritable⟩ := hitems
  exact ⟨by simp [sent?, hsame], hfinite, hwritable⟩

/-- Names that a record can be sent with. -/
def AreSendable (names : List String) : Prop :=
  names.Nodup ∧ ∀ name ∈ names, isReserved (.text name) = false

instance (names : List String) : Decidable (AreSendable names) :=
  inferInstanceAs (Decidable (_ ∧ _))

/-- The entries of a record are sent one by one. -/
theorem sentEntries?_fields (hfree : ∀ f ∈ fields, isReserved (.text f.1) = false)
    (h : ∀ f ∈ fields, IsSent f.2) :
    sentEntries? (fields.map fun f => (.text f.1, f.2)) =
        some (fields.map fun f => (.text f.1, f.2)) ∧
      Value.isFiniteEntries (fields.map fun f => (.text f.1, f.2)) = true ∧
      Value.areWritableEntries (fields.map fun f => (.text f.1, f.2)) = true := by
  induction fields with
  | nil => exact ⟨rfl, rfl, rfl⟩
  | cons f fields ih =>
    obtain ⟨hf, hfs⟩ := List.forall_mem_cons.1 h
    obtain ⟨hf', hfs'⟩ := List.forall_mem_cons.1 hfree
    obtain ⟨hsame, hfinite, hwritable⟩ := ih hfs' hfs
    simp [sentEntries?, sentScalar?, Value.isFiniteEntries, Value.isFiniteScalar,
      Value.areWritableEntries, Scalar.isWritable, hf', hf.same, hf.finite, hf.writable, hsame,
      hfinite, hwritable]

/-- A record is sent as it is if its fields are. -/
theorem isSent_record (hnames : AreSendable (fields.map (·.1))) (h : ∀ f ∈ fields, IsSent f.2) :
    IsSent (.record fields) := by
  obtain ⟨hnodup, hfree⟩ := hnames
  obtain ⟨hsame, hfinite, hwritable⟩ := sentEntries?_fields (List.forall_mem_map.1 hfree) h
  have hdifferent : (fields.map fun f => (Scalar.text f.1, f.2)).Pairwise
      fun e e' => e.1.alike e'.1 = false := by
    rw [List.pairwise_map]
    refine (List.pairwise_map.1 hnodup).imp fun hne => ?_
    simp [Scalar.alike_text, hne]
  exact ⟨by simp [Value.record, sent?, hsame, Entries.ofList_eq_self hdifferent], hfinite,
    hwritable⟩

end

theorem isSent_evidence (e : Evidence) : IsSent e.toValue := by
  have hnames : AreSendable ["type", "description", "data", "timestamp"] := by decide
  refine isSent_record hnames ?_
  simp [isSent_text, Value.member]

theorem isSent_remediation (r : Remediation) : IsSent r.toValue := by
  have hnames : AreSendable ["id", "type", "status", "description", "assigned_to", "completed_at",
    "automation_script"] := by decide
  refine isSent_record hnames ?_
  simp [isSent_text, isSent_text?, Value.member]

theorem isSent_violation (v : Violation) : IsSent v.toValue := by
  have hnames : AreSendable ["id", "policy_id", "policy_name", "requirement_id", "control_id",
    "asset_id", "asset_type", "asset_identifier", "severity", "status", "title", "description",
    "detected_at", "updated_at", "resolved_at", "evidence", "remediation"] := by decide
  have hevidence : IsSent (.list (v.evidence.map Evidence.toValue)) :=
    isSent_list (List.forall_mem_map.2 fun e _ => isSent_evidence e)
  have hremediation : IsSent (.list (v.remediation.map Remediation.toValue)) :=
    isSent_list (List.forall_mem_map.2 fun r _ => isSent_remediation r)
  refine isSent_record hnames ?_
  simp [isSent_text, isSent_text?, isSent_null, Value.member, hevidence, hremediation]

/-! ## Status changes -/

/-- A violation that is written over is found in its place. -/
theorem find?_replace {s : ViolationStore} {id : String} {v v' : Violation}
    (h : s.find? id = some v) (hid : v'.id = id) : (s.replace v').find? id = some v' := by
  obtain ⟨-, hvid⟩ := ViolationStore.mem_of_find? h
  have hsame : (fun w => decide (w.id = id)) ∘ (fun w => if w.id = v'.id then v' else w) =
      fun w => decide (w.id = id) := by
    funext w
    by_cases hw : w.id = v'.id
    · simp [hw, hid]
    · simp [hw]
  unfold ViolationStore.find? ViolationStore.replace at *
  rw [List.find?_map, hsame, h, Option.map_some, if_pos (hvid.trans hid.symm)]

/-- The violation `v'` is what the detector's `update_violation_status` makes of the violation `v`
when it is moved to a status. -/
structure Restated (now : Calendar.Instant) (requested : ViolationStatus)
    (v v' : Violation) : Prop where
  /-- It has the status that was asked for. -/
  status : v'.status = requested
  /-- Its time of update is later than it was, whatever the clock says. -/
  later : v.updatedAt < v'.updatedAt
  /-- It is the present instant, or the next microsecond where the clock has not moved on. -/
  updatedAt : v'.updatedAt = if v.updatedAt < now then now else v.updatedAt.later 1
  /-- The first resolution is dated. A time of resolution that is there stays, and none is given
  for any other status. -/
  resolvedAt : v'.resolvedAt =
    if requested = .resolved ∧ v.resolvedAt = none then some v'.updatedAt else v.resolvedAt
  /-- Nothing else is written. -/
  rest : v' = { v with status := v'.status, updatedAt := v'.updatedAt, resolvedAt := v'.resolvedAt }

theorem restated_moved (now : Calendar.Instant) (status : ViolationStatus) (v : Violation) :
    Restated now status v (v.moved now status) := by
  refine ⟨rfl, Calendar.lt_advance now v.updatedAt, rfl, ?_, rfl⟩
  rw [Violation.moved_resolvedAt]
  by_cases hs : status = .resolved <;> cases hr : v.resolvedAt <;> simp [hs]

/-- A body in which a violation is read: it is the violation's record, and says which violation it
is, the status it is in, and when it was updated and resolved. -/
structure Shows (body : Value) (v : Violation) : Prop where
  record : body = v.toValue
  id : body.entries?.bind (·.field? "id") = some (.text v.id)
  status : body.entries?.bind (·.field? "status") = some (.text (word v.status))
  updatedAt : body.entries?.bind (·.field? "updated_at") = some (.text v.updatedAt.iso)
  resolvedAt : body.entries?.bind (·.field? "resolved_at") =
    some (match v.resolvedAt with
      | some t => .text t.iso
      | none => .null)

theorem shows_toValue (v : Violation) : Shows v.toValue v := by
  have hentries : v.toValue.entries? = some (v.toValue.entries?.getD []) := rfl
  refine ⟨rfl, ?_, ?_, ?_, ?_⟩
  all_goals rw [hentries]
  all_goals simp [Violation.toValue, Value.record, Value.entries?, Value.opened, Value.member]
  cases v.resolvedAt <;> rfl

/-- The answer to a request that is to move a violation on file. -/
structure Moved (a : Agent) (id : String) (status : ViolationStatus) (v : Violation)
    (result : Agent × Reply) : Prop where
  /-- What the transition rule forbids is a conflict, and the agent stays as it is. -/
  forbidden : v.status.Forbids status →
    result = (a, .detail 409 (BackwardMove.message ⟨id, v.status, status⟩))
  /-- Everything else is granted: the reply shows the violation in its new status, and it is the
  violation that is then on file under the id. Nothing but this violation is written. -/
  permitted : ¬ v.status.Forbids status →
    ∃ v' body, Restated a.now status v v' ∧ Shows body v' ∧
      result = ({ a with violations := a.violations.replace v' }, .json 200 body) ∧
      result.1.violations.find? id = some v'

/-- How a request is answered. -/
structure Orderly (a : Agent) (r : Request) (result : Agent × Reply) : Prop where
  /-- A refusal leaves the whole agent as it was. -/
  unchanged : result.2.isRefusal = true → result.1 = a
  /-- Where there is a route, the first of its demands that is not met is what the request is
  refused for, and without one the request is not refused. -/
  routed : r.isRouted = true → Answered a r r.demands result
  /-- Where there is none, the request is not found, not allowed or sent elsewhere. -/
  unrouted : r.isRouted = false → result.1 = a ∧ result.2.status ∈ [307, 404, 405]
  /-- A status change of a violation on file. -/
  moved : ∀ id status v, r.Moves id status → a.violations.find? id = some v →
    Moved a id status v result

/-- A request to move a violation is answered by its route. -/
theorem Request.Moves.answer_eq {r : Request} {id : String} {status : ViolationStatus}
    (h : r.Moves id status) (a : Agent) : answer a r = setViolationStatus id a r := by
  obtain ⟨last, hsegments, hlast⟩ := h.path
  have hnamed : last ≠ "" := by
    rintro rfl
    exact absurd hlast (by decide)
  have hhandlers : handlersOf r.segments = [("PATCH", setViolationStatus id)] := by
    simp [handlersOf, hsegments, hlast, hnamed, h.named, handlers]
  simp [answer, fullAnswer, hhandlers, h.method]

theorem moved_of_moves {a : Agent} {r : Request} {id : String} {status : ViolationStatus}
    {v : Violation} (h : r.Moves id status) (hv : a.violations.find? id = some v) :
    Moved a id status v (answer a r) := by
  rw [h.answer_eq]
  simp only [setViolationStatus, h.form, withForm, Agent.setStatus, ViolationStore.setStatus, hv]
  constructor
  · intro hforbids
    rw [if_neg fun hpermits => ViolationStatus.permits_iff.1 hpermits hforbids]
    rfl
  · intro hpermits
    rw [if_pos (ViolationStatus.permits_iff.2 hpermits)]
    obtain ⟨-, hid⟩ := ViolationStore.mem_of_find? hv
    have hreply := (isSent_violation (v.moved a.now status)).reply 200
    exact ⟨_, _, restated_moved a.now status v, shows_toValue _, Prod.ext rfl hreply,
      find?_replace hv hid⟩

/-- **Every request is answered in order.** -/
theorem answer_orderly (a : Agent) (r : Request) : Orderly a r (answer a r) := by
  have hstate : (answer a r).1 = (fullAnswer a r).1 := rfl
  have hstatus : (answer a r).2.status = (fullAnswer a r).2.status := by
    unfold answer
    simp only
    split
    · exact Reply.status_head _
    · rfl
  have hunrouted (h : r.isRouted = false) :
      (answer a r).1 = a ∧ (answer a r).2.status ∈ [307, 404, 405] := by
    rw [hstate, hstatus]
    exact fullAnswer_unrouted h
  have hrouted (h : r.isRouted = true) : Answered a r r.demands (answer a r) :=
    (fullAnswer_asks h).congr hstate hstatus
  refine ⟨fun h => ?_, hrouted, hunrouted, fun id status v hmoves hv => moved_of_moves hmoves hv⟩
  cases hroute : r.isRouted with
  | true => exact (hrouted hroute).unchanged h
  | false => exact (hunrouted hroute).1

end Compliance.Api
