import Compliance.Agent.Basic
import Compliance.Proofs.Turns

/-!
# What a run leaves alone

A step can touch the incident that is bound to the run and no other one. What a run opens is bound
at most until it opens the next, so an incident that is on file when the run starts, or when the run
comes to open a further one, stays as it is however the run ends (`Spares`). Main statement:
`ran_footprint`.
-/
namespace Compliance

/-! ## One step -/

/-- Changing the incident with an id leaves the others in the list. -/
theorem Incident.mem_map_of_ne {is : List Incident} {i : Incident} (hi : i ∈ is) {id : String}
    (hid : i.id ≠ id) (f : Incident → Incident) :
    i ∈ is.map fun i => if i.id = id then f i else i :=
  List.mem_map.2 ⟨i, hi, if_neg hid⟩

theorem IncidentStore.find?_of_mem {s : IncidentStore} {i : Incident} (hi : i ∈ s.incidents) :
    s.find? i.id = some i := find?_of_nodup s.ids_nodup hi

namespace Run

/-- An incident is on file and not bound to the run. -/
structure Spares (r : Run) (i : Incident) : Prop where
  onFile : i ∈ r.world.incidents.incidents
  unbound : r.bound ≠ some i.id

section
variable {r r' : Run} {i : Incident} {v : Violation} {playbookId : Value}

theorem Spares.ne_of_bound (h : r.Spares i) {id : String} (hb : r.bound = some id) : i.id ≠ id :=
  fun hid => h.unbound (hid ▸ hb)

theorem Spares.amend (h : r.Spares i) {id : String} (hb : r.bound = some id) (c : Change) :
    (r.amend id c).Spares i :=
  ⟨Incident.mem_map_of_ne h.onFile (h.ne_of_bound hb) _, h.unbound⟩

theorem Spares.mark (h : r.Spares i) {id : String} (hb : r.bound = some id) (m : Mark) :
    (r.mark playbookId id m).Spares i :=
  ⟨Incident.mem_map_of_ne (h.amend hb m.change).onFile (h.ne_of_bound hb) _, h.unbound⟩

/-- What is on file when an incident is opened is not bound afterwards. -/
theorem spares_createIncident (hi : i ∈ r.world.incidents.incidents) (v : Violation) :
    (r.createIncident v).Spares i := by
  refine ⟨List.mem_append_left _ hi, fun hb => ?_⟩
  exact IncidentStore.id_ne_nextId hi (Option.some.inj hb).symm

/-- A step leaves alone what is not bound, and does not bind it. -/
theorem Spares.does {x : Visit} (h : x.before.Spares i) (does : x.Does playbookId v r') :
    r'.Spares i := by
  cases does with
  | nothing incidents bound => exact ⟨incidents ▸ h.onFile, bound ▸ h.unbound⟩
  | opens incidents bound =>
    have opened := spares_createIncident h.onFile v
    refine ⟨incidents ▸ opened.onFile, ?_⟩
    rcases bound with bound | bound
    · exact bound ▸ opened.unbound
    · exact bound ▸ h.unbound
  | marks id m hb _ incidents bound =>
    exact ⟨incidents ▸ (h.mark hb m).onFile, bound ▸ h.unbound⟩
  | amends id a hb _ incidents bound =>
    exact ⟨incidents ▸ (h.amend hb (.assignee a)).onFile, bound ▸ h.unbound⟩

/-- A step that is to open an incident opens one, and binds it unless the run fails there. -/
theorem take_opens (t : Terms) (playbookId : Value) (v : Violation) {s : Step}
    (h : s.actionKind? = some .createIncident) (r : Run) :
    r.take t playbookId v s = (r.createIncident v, .done true) ∨
      r.take t playbookId v s = ({ r.createIncident v with bound := r.bound }, .failed .unfit) := by
  unfold Step.actionKind? at h
  split at h
  · next hm =>
    obtain ⟨a, ha, hk⟩ := Option.bind_eq_some_iff.1 h
    have performed : r.perform t playbookId v .action s.config =
        (r.createIncident v, .done true) := by
      simp only [perform, ha, hk, act]
    rw [take_of_known hm, performed]
    rcases Step.verdict_cases s r (r.createIncident v, .done true) with
      h | ⟨-, r', success, hdone, h⟩
    · exact .inl h
    · cases hdone
      exact .inr h
  · cases h

end

/-! ## A whole run -/

section
variable {t : Terms} {p : Playbook} {v : Violation} {s : Option Step} {r r' : Run}
  {xs : List Visit} {e : Ending} {i : Incident}

/-- A walk goes on from each of its visits to its own end. -/
theorem Walk.from_visit (walk : Walk t p v s r xs r' e) {x : Visit} (hx : x ∈ xs) :
    ∃ ys, Walk t p v (some x.step) x.before ys r' e := by
  induction walk with
  | done r => cases hx
  | limit s r => cases hx
  | cancelled s r => cases hx
  | failed htake =>
    rw [List.mem_singleton.1 hx]
    exact ⟨_, .failed htake⟩
  | interrupted htake =>
    rw [List.mem_singleton.1 hx]
    exact ⟨_, .interrupted htake⟩
  | step htake rest ih =>
    rcases List.mem_cons.1 hx with rfl | hx
    · exact ⟨_, .step htake rest⟩
    · exact ih hx

/-- What is not bound when a walk starts is as before when it has ended. -/
theorem Walk.spares (walk : Walk t p v s r xs r' e) (h : r.Spares i) :
    i ∈ r'.world.incidents.incidents := by
  induction walk with
  | done r => exact h.onFile
  | limit s r => exact h.onFile
  | cancelled s r => exact h.onFile
  | failed htake => exact (h.does (Visit.take_does htake)).onFile
  | interrupted htake => exact (h.does (Visit.take_does htake)).onFile
  | step htake _ ih => exact ih (h.does (Visit.take_does htake))

/-- What is on file when a walk comes to open an incident is as before when it has ended. -/
theorem Walk.spares_of_opening {s : Step} (walk : Walk t p v (some s) r xs r' e)
    (hs : s.actionKind? = some .createIncident) (hi : i ∈ r.world.incidents.incidents) :
    i ∈ r'.world.incidents.incidents := by
  have opened := spares_createIncident hi v
  have opens := take_opens t p.id v hs r
  cases walk with
  | limit => exact hi
  | cancelled => exact hi
  | failed htake =>
    rcases opens with h | h
    · cases htake.symm.trans h
    · cases htake.symm.trans h
      exact opened.onFile
  | interrupted htake =>
    rcases opens with h | h
    · cases htake.symm.trans h
    · cases htake.symm.trans h
  | step htake rest =>
    rcases opens with h | h
    · cases htake.symm.trans h
      exact rest.spares opened
    · cases htake.symm.trans h

end
end Run

/-! ## The agent -/

namespace Agent

/-- The agent after a run of a playbook for a violation, by itself. -/
def ran (a : Agent) (watch : Watch) (p : Playbook) (v : Violation) : Agent :=
  { a with desk := (a.desk.runAll (a.terms watch) v [p]).1 }

/-- What a run of a playbook leaves alone. -/
structure Footprint (a : Agent) (watch : Watch) (p : Playbook) (v : Violation) (a' : Agent) :
    Prop where
  /-- Incidents that were on file before the run. -/
  incidents : ∀ i ∈ a.incidents.incidents, a'.incidents.find? i.id = some i
  /-- Incidents that are on file when the run comes to open a further one. -/
  rebound : ∀ x ∈ Run.startVisits (a.terms watch) p v a.desk.world,
    x.step.actionKind? = some .createIncident →
      ∀ i ∈ x.before.world.incidents.incidents, a'.incidents.find? i.id = some i
  violations : a'.violations = a.violations
  rules : a'.rules = a.rules
  inventory : a'.inventory = a.inventory
  policies : a'.policies = a.policies
  settings : a'.settings = a.settings
  /-- Playbooks stay as they are, but for the time of the last run of the one that ran. -/
  playbooks : a'.desk.registry.playbooks = a.desk.registry.playbooks.map fun q =>
    if q.hasId p.id then { q with lastRun := some a'.now } else q

theorem ran_desk (a : Agent) (watch : Watch) (p : Playbook) (v : Violation) :
    (a.ran watch p v).desk =
      a.desk.after [Turn.of (a.terms watch) v p.definition a.desk.world] := by
  have h := congrArg Prod.fst (Desk.runAll_eq (a.terms watch) v [p] a.desk)
  rwa [List.map_singleton, turns_singleton] at h

theorem ran_world (a : Agent) (watch : Watch) (p : Playbook) (v : Violation) :
    (a.ran watch p v).desk.world = (Run.start (a.terms watch) p v a.desk.world).1.world := by
  rw [ran_desk, Desk.after_world, ← Run.start_definition]
  rfl

theorem ran_playbooks (a : Agent) (watch : Watch) (p : Playbook) (v : Violation) :
    (a.ran watch p v).desk.registry.playbooks = a.desk.registry.playbooks.map fun q =>
      if q.hasId p.id then { q with lastRun := some (a.ran watch p v).now } else q := by
  unfold now
  rw [ran_desk]
  rfl

/-- **A run touches only what it created.** Whatever the steps of the playbook, the violation and
the agent, and however the run ends: everything else is afterwards as it was before. -/
theorem ran_footprint (a : Agent) (watch : Watch) (p : Playbook) (v : Violation) :
    a.Footprint watch p v (a.ran watch p v) := by
  have walk := Run.start_walk (a.terms watch) p v a.desk.world
  have hincidents : (a.ran watch p v).incidents =
      (Run.start (a.terms watch) p v a.desk.world).1.world.incidents :=
    congrArg World.incidents (ran_world a watch p v)
  refine ⟨fun i hi => ?_, fun x hx hs i hi => ?_, rfl, rfl, rfl, rfl, rfl,
    ran_playbooks a watch p v⟩
  · have spared := walk.spares (i := i) ⟨hi, nofun⟩
    rw [hincidents]
    exact IncidentStore.find?_of_mem spared
  · obtain ⟨ys, rest⟩ := walk.from_visit hx
    rw [hincidents]
    exact IncidentStore.find?_of_mem (rest.spares_of_opening hs hi)

end Agent
end Compliance
