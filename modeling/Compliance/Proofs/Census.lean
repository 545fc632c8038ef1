import Compliance.Proofs.Amendment
import Compliance.Proofs.Answers
import Compliance.Proofs.Catalogue
import Compliance.Proofs.Interruption
import Mathlib.Algebra.Ring.Nat
import Mathlib.Data.List.Induction

/-!
# Counts and lists agree

The violations are counted in one pass, by status and by severity, and listed in others. Each count
is the length of the list that it stands for, the lists by status have every violation once between
them, and the counts add up to the total. The open incidents and the closed ones add up to all;
those that are closed are those with a time of resolution, since whatever an agent is called on to
do is a history of its incidents (`apply_leads`). Main statement: `census_agrees`.
-/
namespace Compliance

open Calendar

/-! ## Lists by a key -/

/-- The lists by some keys have together what has one of these keys. -/
theorem flatMap_filter_perm {α κ : Type} [DecidableEq κ] (key : α → κ) (xs : List α) (ks : List κ)
    (h : ks.Nodup) :
    (ks.flatMap fun k => xs.filter (key · = k)).Perm (xs.filter (key · ∈ ks)) := by
  induction ks with
  | nil => simp
  | cons k ks ih =>
    obtain ⟨hk, h⟩ := List.nodup_cons.1 h
    have hfirst : (xs.filter (key · ∈ k :: ks)).filter (key · = k) = xs.filter (key · = k) := by
      rw [List.filter_filter]
      refine List.filter_congr fun x _ => ?_
      by_cases hx : key x = k <;> simp [hx]
    have hrest : (xs.filter (key · ∈ k :: ks)).filter (fun x => !decide (key x = k)) =
        xs.filter (key · ∈ ks) := by
      rw [List.filter_filter]
      refine List.filter_congr fun x _ => ?_
      by_cases hx : key x = k <;> simp [hx, hk]
    rw [List.flatMap_cons]
    refine ((ih h).append_left _).trans ?_
    rw [← hfirst, ← hrest]
    exact List.filter_append_perm _ _

/-- The lists by a key have everything once between them. -/
theorem flatMap_members_perm {α κ : Type} [DecidableEq κ] [Vocabulary κ] (key : α → κ)
    (xs : List α) (h : (Vocabulary.members (α := κ)).Nodup) :
    ((Vocabulary.members (α := κ)).flatMap fun k => xs.filter (key · = k)).Perm xs := by
  have hall : xs.filter (key · ∈ Vocabulary.members) = xs :=
    List.filter_eq_self.2 fun x _ => decide_eq_true (Vocabulary.mem_members (key x))
  have perm := flatMap_filter_perm key xs Vocabulary.members h
  rwa [hall] at perm

/-- One more in a tally of lists by a key. -/
theorem Tally.increment_lengths {α κ : Type} [DecidableEq κ] (key : α → κ) (xs : List α) (x : α) :
    Tally.increment (fun k => (xs.filter (key · = k)).length) (key x) =
      fun k => ((xs ++ [x]).filter (key · = k)).length := by
  funext k
  by_cases h : k = key x
  · simp [increment, List.filter_append, h]
  · simp [increment, List.filter_append, h, Ne.symm h]

namespace ViolationCounts

theorem of_concat (vs : List Violation) (v : Violation) : of (vs ++ [v]) = (of vs).count v :=
  List.foldl_append

/-- The counts are the lengths of the lists. -/
theorem of_eq (vs : List Violation) :
    of vs = ⟨vs.length, fun status => (vs.filter (·.status = status)).length,
      fun severity => (vs.filter (·.severity = severity)).length⟩ := by
  induction vs using List.reverseRecOn with
  | nil => rfl
  | append_singleton vs v ih =>
    rw [of_concat, ih, count, Tally.increment_lengths, Tally.increment_lengths, List.length_append,
      List.length_singleton]

end ViolationCounts

namespace ViolationStore

variable (s : ViolationStore)

/-- The lists by status have every violation once between them. -/
theorem flatMap_withStatus_perm :
    ((Vocabulary.members (α := ViolationStatus)).flatMap s.withStatus).Perm s.violations :=
  flatMap_members_perm (·.status) s.violations (by decide)

theorem flatMap_withSeverity_perm :
    ((Vocabulary.members (α := Severity)).flatMap s.withSeverity).Perm s.violations :=
  flatMap_members_perm (·.severity) s.violations (by decide)

/-- The violations that are open are those in one of three lists. -/
theorem length_opened :
    (s.withStatus .opened).length + (s.withStatus .investigating).length +
      (s.withStatus .remediating).length = s.opened.length := by
  have perm := flatMap_filter_perm Violation.status s.violations
    [.opened, .investigating, .remediating] (by decide)
  have hopened : s.violations.filter
      (fun v => decide (v.status ∈ [ViolationStatus.opened, .investigating, .remediating])) =
        s.opened :=
    List.filter_congr fun v _ => by cases hs : v.status <;> decide
  rw [hopened] at perm
  simpa [withStatus, Nat.add_assoc] using perm.length_eq

end ViolationStore

/-! ## What an agent is called on to do -/

/-- What an agent can be called on to do. -/
inductive Call where
  | tick (micros : Int)
  | addAsset (type : AssetType) (identifier organization : String) (metadata : Value)
  | removeAsset (id : String)
  | setFacts (f : Facts)
  | addPolicy (p : Policy)
  | addRule (r : Rule)
  | toggleRule (id : String) (enabled : Bool)
  | detect
  | checkAsset (asset : Asset)
  | report (f : Finding)
  | setStatus (id : String) (status : ViolationStatus)
  | addRemediation (id : String) (r : Remedy)
  | deleteViolation (id : String)
  | addPlaybook (p : Playbook)
  | togglePlaybook (id : Value) (enabled : Bool)
  | deletePlaybook (id : Value)
  | clearNotices
  | createIncident (v : Violation)
  | updateIncident (id : String) (updates : List (String × Value))
  | linkViolation (id violation : String)
  | addEvent (id : String) (type : EventType) (description : String) (actor : Option String)
    (data : Value)
  /-- A step of a run that is under way, with an incident bound or none. -/
  | takeStep (watch : Watch) (playbookId : Value) (v : Violation) (s : Step)
    (bound : Option String)
  | respond (watch : Watch) (v : Violation)
  | scan (limit : Agent.TimeLimit) (token : Token) (cancelAt : Option Rat)
  | scanAll (limits : List (Option Agent.TimeLimit)) (cancels : List Rat)
  | request (r : Api.Request)

/-- The agent after a call; one that is refused leaves it as it is. -/
def Call.apply (a : Agent) : Call → Agent
  | .tick micros => a.tick micros
  | .addAsset type identifier organization metadata =>
    (a.addAsset type identifier organization metadata).1
  | .removeAsset id => (a.removeAsset id).getD a
  | .setFacts f => a.setFacts f
  | .addPolicy p => a.addPolicy p
  | .addRule r => a.addRule r
  | .toggleRule id enabled => (a.toggleRule id enabled).getD a
  | .detect => a.detect.1
  | .checkAsset asset => (a.checkAsset asset).1
  | .report f => (a.report f).1
  | .setStatus id status =>
    match a.setStatus id status with
    | .ok (some (a', _)) => a'
    | _ => a
  | .addRemediation id r => ((a.addRemediation id r).map (·.1)).getD a
  | .deleteViolation id => (a.deleteViolation id).getD a
  | .addPlaybook p => (a.addPlaybook p).toOption.getD a
  | .togglePlaybook id enabled => (a.togglePlaybook id enabled).getD a
  | .deletePlaybook id => (a.deletePlaybook id).getD a
  | .clearNotices => a.clearNotices
  | .createIncident v => (a.createIncident v).1
  | .updateIncident id updates => (a.updateIncident id updates).toOption.join.getD a
  | .linkViolation id violation => (a.linkViolation id violation).toOption.join.getD a
  | .addEvent id type description actor data => (a.addEvent id type description actor data).1
  | .takeStep watch playbookId v s bound =>
    let (r, _) := Run.take (a.terms watch) playbookId v s ⟨a.desk.world, bound⟩
    { a with desk := { a.desk with world := r.world } }
  | .respond watch v => (a.respond watch v).1
  | .scan limit token cancelAt => (a.scanWith limit token cancelAt).1
  | .scanAll limits cancels => (a.scanAll limits cancels).1
  | .request r => (Api.answer a r).1

/-- The agent after calls, one after the other. -/
def Agent.after (a : Agent) (calls : List Call) : Agent := calls.foldl Call.apply a

/-! ## Calls as histories of the incidents -/

/-- Some incidents on file become others by a history. -/
def IncidentStore.Leads (s s' : IncidentStore) : Prop := ∃ h : History, s' = s.after h

namespace IncidentStore.Leads

theorem refl (s : IncidentStore) : s.Leads s := ⟨[], rfl⟩

theorem trans {s s' s'' : IncidentStore} (h : s.Leads s') (h' : s'.Leads s'') : s.Leads s'' := by
  obtain ⟨first, rfl⟩ := h
  obtain ⟨later, rfl⟩ := h'
  exact ⟨first ++ later, (s.after_append first later).symm⟩

theorem operation (now : Instant) (op : Operation) (s : IncidentStore) :
    s.Leads (op.apply now s) := ⟨[(now, op)], rfl⟩

end IncidentStore.Leads

open IncidentStore

namespace Desk

theorem runAll_leads (t : Terms) (v : Violation) (ps : List Playbook) (d : Desk) :
    d.world.incidents.Leads (d.runAll t v ps).1.world.incidents := by
  induction ps generalizing d with
  | nil => exact .refl _
  | cons p ps ih =>
    have hrun : d.world.incidents.Leads (Run.start t p v d.world).1.world.incidents :=
      Run.start_history t p v d.world
    rw [runAll]
    generalize Run.start t p v d.world = result at hrun ⊢
    obtain ⟨run, ending⟩ := result
    have hrest := hrun.trans (ih (d.conclude p run ending))
    cases ending with
    | interrupted cause => exact hrun
    | failed error => exact hrest
    | finished => exact hrest

theorem respondAll_leads (t : Terms) (vs : List Violation) (d : Desk) :
    d.world.incidents.Leads (d.respondAll t vs).1.world.incidents := by
  induction vs generalizing d with
  | nil => exact .refl _
  | cons v vs ih =>
    have hfirst := runAll_leads t v (d.playbooksFor v) d
    rw [respondAll]
    simp only
    split
    · exact hfirst
    · exact hfirst.trans (ih _)

end Desk

namespace Agent

variable (a : Agent)

theorem detectAndRespond_leads (watch : Watch) :
    a.incidents.Leads (a.detectAndRespond watch).1.incidents := by
  have hdetect : a.detect.1.incidents = a.incidents := rfl
  unfold detectAndRespond
  generalize a.detect = result at hdetect ⊢
  obtain ⟨a', found⟩ := result
  rw [← hdetect]
  cases found with
  | error f => exact .refl _
  | ok found => exact Desk.respondAll_leads (a'.terms watch) found a'.desk

theorem scanWith_leads (limit : TimeLimit) (token : Token) (cancelAt : Option Rat) :
    a.incidents.Leads (a.scanWith limit token cancelAt).1.incidents := by
  cases limit with
  | expired | beyond => exact .refl _
  | unlimited | seconds | atOnce => exact a.detectAndRespond_leads _

theorem scanFrom_leads (start : Rat) (cancels : List Rat) (token : Token)
    (limits : List (Option TimeLimit)) :
    a.incidents.Leads (scanFrom start cancels token limits a).1.incidents := by
  induction limits generalizing a token with
  | nil => exact .refl _
  | cons limit limits ih => exact (a.scanWith_leads _ _ _).trans (ih _ _)

/-- A change of something else that is there, if it is there. -/
theorem leads_map_getD {α : Type} (o : Option α) {f : α → Agent}
    (h : ∀ x, (f x).incidents = a.incidents) : a.incidents.Leads ((o.map f).getD a).incidents := by
  cases o with
  | none => exact .refl _
  | some x =>
    rw [Option.map_some, Option.getD_some, h x]
    exact .refl _

theorem setStatus_incidents {id : String} {status : ViolationStatus} {a' : Agent} {v : Violation}
    (h : a.setStatus id status = .ok (some (a', v))) : a'.incidents = a.incidents := by
  obtain ⟨moved, -, hmoved⟩ := map_eq_ok.1 h
  obtain ⟨result, -, hresult⟩ := Option.map_eq_some_iff.1 hmoved
  cases hresult
  rfl

theorem addPlaybook_incidents {p : Playbook} {a' : Agent} (h : a.addPlaybook p = .ok a') :
    a'.incidents = a.incidents := by
  obtain ⟨registry, -, rfl⟩ := map_eq_ok.1 h
  rfl

/-- What an agent makes of a change of its incidents that may be refused. -/
theorem incidents_accepted {ε : Type} (result : Except ε (Option IncidentStore)) :
    ((result.map fun s => s.map a.withIncidents).toOption.join.getD a).incidents =
      (Operation.accepted? result).getD a.incidents := by
  rcases result with f | _ | s <;> rfl

theorem updateIncident_leads (id : String) (updates : List (String × Value)) :
    a.incidents.Leads ((a.updateIncident id updates).toOption.join.getD a).incidents :=
  ⟨[(a.now, .update id updates)], a.incidents_accepted (a.incidents.update a.now id updates)⟩

theorem linkViolation_leads (id violation : String) :
    a.incidents.Leads ((a.linkViolation id violation).toOption.join.getD a).incidents :=
  ⟨[(a.now, .link id violation)], a.incidents_accepted (a.incidents.link a.now id violation)⟩

end Agent

namespace Api

/-- Whatever a handler is sent, it does a history to the incidents. -/
def Handler.Leads (h : Handler) : Prop :=
  ∀ (a : Agent) (r : Request), a.incidents.Leads (h a r).1.incidents

theorem withForm_leads {α : Type} (read : Request → Checked α) {go : α → Handler}
    (h : ∀ x, (go x).Leads) : Handler.Leads fun a r => withForm (read r) a fun x => go x a r := by
  intro a r
  simp only
  cases read r with
  | accepted x => exact h x a r
  | rejected cs => exact .refl _

theorem reporting_leads (report : Agent → Value) : (reporting report).Leads := fun _ _ => .refl _

theorem addAsset_leads : addAsset.Leads :=
  withForm_leads (·.form AssetForm.read) fun _ _ _ => .refl _

theorem putFacts_leads {α : Type} (read : Value → Checked α) (facts : α → Facts) :
    (putFacts read facts).Leads :=
  withForm_leads (·.form read) fun _ _ _ => .refl _

theorem addPolicy_leads : addPolicy.Leads :=
  withForm_leads (·.form readPolicy) fun _ _ _ => .refl _

theorem scan_leads : scan.Leads := by
  refine withForm_leads (·.form? readTimeout) fun timeout a r => ?_
  have hscan := a.scanWith_leads ((timeout.join.map fun x => Agent.TimeLimit.of (Number.exact x)).getD
    a.defaultLimit) .unset none
  simp only [Agent.scan]
  generalize a.scanWith _ .unset none = result at hscan ⊢
  obtain ⟨a', outcome⟩ := result
  cases outcome with
  | error f => exact hscan
  | ok s => exact hscan

theorem listViolations_leads : listViolations.Leads :=
  withForm_leads violationFilters fun _ _ _ => .refl _

theorem createViolation_leads : createViolation.Leads :=
  withForm_leads (·.form readFinding) fun _ _ _ => .refl _

theorem getViolation_leads (id : String) : (getViolation id).Leads := by
  intro a r
  unfold getViolation
  split <;> exact .refl _

theorem setViolationStatus_leads (id : String) : (setViolationStatus id).Leads := by
  refine withForm_leads (·.form readStatus) fun status a r => ?_
  split
  · exact .refl _
  · exact .refl _
  · next hresult =>
    rw [a.setStatus_incidents hresult]
    exact .refl _

theorem respond_leads (id : String) : (respond id).Leads := by
  intro a r
  unfold respond
  split
  · exact .refl _
  · exact Desk.runAll_leads _ _ _ _

theorem listIncidents_leads : listIncidents.Leads :=
  withForm_leads (·.parameter (Field.member IncidentStatus) "status") fun _ _ _ => .refl _

theorem getIncident_leads (id : String) : (getIncident id).Leads := by
  intro a r
  unfold getIncident
  split <;> exact .refl _

theorem updateIncident_leads (id : String) : (updateIncident id).Leads := by
  refine withForm_leads (·.form readUpdate) fun updates a r => ?_
  have hupdate := a.updateIncident_leads id updates
  split
  · exact .refl _
  · exact .refl _
  · next a' hresult =>
    rw [hresult] at hupdate
    exact hupdate.trans (getIncident_leads id a' r)

theorem addEvent_leads (id : String) : (addEvent id).Leads := by
  refine withForm_leads (·.form EventForm.read) fun f a r => ?_
  simp only
  split
  · exact .refl _
  · exact .operation a.now (.event id _) a.incidents

theorem listPlaybooks_leads : listPlaybooks.Leads := fun _ _ => .refl _

theorem addPlaybook_leads : addPlaybook.Leads := by
  refine withForm_leads (·.form Field.mapping) fun es a r => ?_
  split
  · exact .refl _
  · exact .refl _
  · split
    · next hresult =>
      rw [a.addPlaybook_incidents hresult]
      exact .refl _
    · exact .refl _

theorem getPlaybook_leads (id : String) : (getPlaybook id).Leads := by
  intro a r
  unfold getPlaybook
  split <;> exact .refl _

theorem changing_leads (kind id field : String) (answer : Bool) {change : Agent → Option Agent}
    (h : ∀ a : Agent, a.incidents.Leads ((change a).getD a).incidents) :
    (changing kind id field answer change).Leads := by
  intro a r
  have hchange := h a
  unfold changing
  split
  · next a' hresult =>
    rw [hresult] at hchange
    exact hchange
  · exact .refl _

theorem togglePlaybook_leads (id : String) (enabled : Bool) : (togglePlaybook id enabled).Leads :=
  changing_leads "Playbook" id "enabled" enabled fun a => a.leads_map_getD _ fun _ => rfl

theorem deletePlaybook_leads (id : String) : (deletePlaybook id).Leads :=
  changing_leads "Playbook" id "deleted" true fun a => a.leads_map_getD _ fun _ => rfl

theorem executions_leads : executions.Leads :=
  withForm_leads (·.parameter Field.int "limit") fun _ _ _ => .refl _

theorem toggleRule_leads (id : String) (enabled : Bool) : (toggleRule id enabled).Leads :=
  changing_leads "Rule" id "enabled" enabled fun a => a.leads_map_getD _ fun _ => rfl

/-- Each path leads on from the incidents on file. -/
theorem handlers_leads (last : String) (segments : List String) :
    ∀ route ∈ handlers last segments, route.2.Leads := by
  -- One case for each path, with the methods that it answers to.
  fun_cases handlers last segments <;>
    simp [reporting_leads, health, cancelScan, addAsset_leads, putFacts_leads, addPolicy_leads,
      scan_leads, listViolations_leads, createViolation_leads, getViolation_leads,
      setViolationStatus_leads, respond_leads, listIncidents_leads, getIncident_leads,
      updateIncident_leads, addEvent_leads, listPlaybooks_leads, addPlaybook_leads,
      getPlaybook_leads, togglePlaybook_leads, deletePlaybook_leads, executions_leads,
      toggleRule_leads]

theorem answer_leads (a : Agent) (r : Request) : a.incidents.Leads (answer a r).1.incidents := by
  change a.incidents.Leads (fullAnswer a r).1.incidents
  unfold fullAnswer
  split
  · split <;> exact .refl _
  · split
    · next handler hlookup =>
      obtain ⟨before, after, hroutes, -⟩ := List.lookup_eq_some_iff.1 hlookup
      have hmem : (r.method, handler) ∈ handlersOf r.segments := by simp [hroutes]
      unfold handlersOf at hmem
      simp only at hmem
      split at hmem
      · exact absurd hmem List.not_mem_nil
      · exact handlers_leads _ _ _ hmem a r
    · exact .refl _

end Api

/-- **Whatever an agent is called on to do is a history of its incidents.** -/
theorem Call.apply_leads (a : Agent) (c : Call) : a.incidents.Leads (c.apply a).incidents := by
  cases c with
  | tick | addAsset | setFacts | addPolicy | addRule | detect | checkAsset | report
  | clearNotices => exact .refl _
  | removeAsset | toggleRule | deleteViolation | togglePlaybook | deletePlaybook =>
    exact a.leads_map_getD _ fun _ => rfl
  | addRemediation id r =>
    simp only [Call.apply, Agent.addRemediation, Option.map_map]
    exact a.leads_map_getD _ fun _ => rfl
  | setStatus id status =>
    simp only [Call.apply]
    split
    · next hresult =>
      rw [a.setStatus_incidents hresult]
      exact .refl _
    · exact .refl _
  | addPlaybook p =>
    simp only [Call.apply]
    cases hresult : a.addPlaybook p with
    | error f => exact .refl _
    | ok a' => exact a.addPlaybook_incidents hresult ▸ .refl _
  | createIncident v => exact .operation a.now (.opening v) a.incidents
  | updateIncident id updates => exact a.updateIncident_leads id updates
  | linkViolation id violation => exact a.linkViolation_leads id violation
  | addEvent id type description actor data => exact .operation a.now (.event id _) a.incidents
  | takeStep watch playbookId v s bound =>
    simp only [Call.apply]
    cases htake : Run.take (a.terms watch) playbookId v s ⟨a.desk.world, bound⟩ with
    | mk r e => exact (Visit.take_does htake).history
  | respond watch v => exact Desk.runAll_leads _ _ _ _
  | scan limit token cancelAt => exact a.scanWith_leads limit token cancelAt
  | scanAll limits cancels => exact a.scanFrom_leads _ _ _ limits
  | request r => exact Api.answer_leads a r

theorem Agent.after_leads (a : Agent) (calls : List Call) :
    a.incidents.Leads (a.after calls).incidents := by
  induction calls generalizing a with
  | nil => exact .refl _
  | cons c calls ih => exact (c.apply_leads a).trans (ih (c.apply a))

/-! ## The counts of an agent -/

/-- The counts of violations agree with the lists of them. -/
structure ViolationStore.Counted (s : ViolationStore) (c : ViolationCounts) : Prop where
  total : c.total = s.violations.length
  byStatus : ∀ status, c.byStatus status = (s.withStatus status).length
  bySeverity : ∀ severity, c.bySeverity severity = (s.withSeverity severity).length
  statusSum : ((Vocabulary.members (α := ViolationStatus)).map c.byStatus).sum = c.total
  severitySum : ((Vocabulary.members (α := Severity)).map c.bySeverity).sum = c.total
  statuses : ((Vocabulary.members (α := ViolationStatus)).flatMap s.withStatus).Perm s.violations
  opened : c.openCount = s.opened.length

theorem ViolationStore.counted (s : ViolationStore) :
    s.Counted (ViolationCounts.of s.violations) := by
  rw [ViolationCounts.of_eq]
  refine ⟨rfl, fun _ => rfl, fun _ => rfl, ?_, ?_, s.flatMap_withStatus_perm, s.length_opened⟩
  · exact List.length_flatMap.symm.trans s.flatMap_withStatus_perm.length_eq
  · exact List.length_flatMap.symm.trans s.flatMap_withSeverity_perm.length_eq

/-- The counts of incidents agree with the lists of them. -/
def Desk.Counted (d : Desk) : Prop :=
  ∃ opened closed total : Nat,
    d.count? "open_incidents" = some (.int opened) ∧
      d.count? "closed_incidents" = some (.int closed) ∧
      d.count? "total_incidents" = some (.int total) ∧
      opened + closed = total ∧
      total = d.world.incidents.incidents.length ∧
      closed = (d.world.incidents.withStatus .closed).length ∧
      closed = (d.world.incidents.incidents.filter (·.resolvedAt.isSome)).length

theorem Desk.counted {d : Desk} (h : d.world.incidents.Sound) : d.Counted := by
  let is := d.world.incidents.incidents
  refine ⟨(is.filter (·.status ≠ .closed)).length, (is.filter (·.status = .closed)).length,
    is.length, ?_, ?_, ?_, ?_, rfl, rfl, ?_⟩
  · simp [count?, statistics, Value.record, Value.entries?, Value.opened, is]
  · simp [count?, statistics, Value.record, Value.entries?, Value.opened, is]
  · simp [count?, statistics, Value.record, Value.entries?, Value.opened, is]
  · have split := is.length_eq_length_filter_add (·.status = .closed)
    simp only [ne_eq, decide_not]
    omega
  · refine congrArg List.length (List.filter_congr fun i hi => ?_)
    rw [Bool.eq_iff_iff, decide_eq_true_eq]
    exact (h i hi).closed.symm

/-- The counts that an agent gives agree with its lists. -/
structure Agent.Counted (a : Agent) : Prop where
  violations : a.violations.Counted (ViolationCounts.of a.violations.violations)
  desk : a.desk.Counted

/-- **Counts and lists agree.** Whatever a new agent has been called on to do, with any rules and
any inventory to begin with. -/
theorem census_agrees {settings : Settings} {backends : Backends} {playbooks : List Playbook}
    {a : Agent} (h : Agent.create settings backends playbooks = .ok a) (rules : List Rule)
    (inventory : Inventory) (calls : List Call) :
    (({ a with rules, inventory } : Agent).after calls).Counted := by
  have hempty : a.incidents = .empty settings.actor := by
    obtain ⟨registry, -, hcreated⟩ := bind_eq_ok.1 h
    cases hcreated
    rfl
  have sound : a.incidents.Sound := hempty ▸ sound_empty settings.actor
  obtain ⟨history, hhistory⟩ := ({ a with rules, inventory } : Agent).after_leads calls
  have sound' : (({ a with rules, inventory } : Agent).after calls).incidents.Sound :=
    hhistory ▸ sound.after history
  exact ⟨ViolationStore.counted _, Desk.counted sound'⟩

/-- A violation is reported and resolved, and of two incidents one is closed. -/
def Call.housekeeping : List Call :=
  let f : Finding := ⟨"p", "Policy", "a.example", .domain, "a.example", .high, "Leak", "A leak", [],
    "Fix"⟩
  [.report f, .report f, .setStatus (label "violation" 1) .resolved, .createIncident .leak,
    .createIncident .leak, .updateIncident (label "incident" 1) Incident.closing]

theorem census_agrees_housekeeping :
    ∃ a, Agent.create Agent.alarmed.settings .recording [] = .ok a ∧
      (a.after Call.housekeeping).violations.violations.map (·.status) = [.resolved, .opened] ∧
      (a.after Call.housekeeping).incidents.incidents.map (·.status) = [.closed, .opened] ∧
      (a.after Call.housekeeping).Counted := by
  have hcreate : Agent.create Agent.alarmed.settings .recording [] =
      .ok { Agent.alarmed with
        inventory := .empty
        desk := ⟨.fresh Agent.firstClock "agent", .empty, []⟩ } := rfl
  exact ⟨_, hcreate, by decide +kernel, by decide +kernel, census_agrees hcreate _ _ _⟩

end Compliance
