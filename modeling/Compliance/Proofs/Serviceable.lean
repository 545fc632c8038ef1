import Compliance.Proofs.Linkage

/-!
# Incidents that can be worked with

An incident on file can be shown, found by its status, linked to further violations and given
further events. Status and events never fail. The other two need the violations to be a list, which
is what an incident is opened with; an update that is accepted may write something else there.
`after_serviceable` says that nothing but such an update takes an incident out of service.
-/
namespace Compliance

open Calendar

namespace IncidentStore

variable {s s' : IncidentStore} {now : Instant} {id : String} {i : Incident}

/-! ## Where the links come from -/

/-- Where the links of the incident with an id come from after an operation. -/
inductive LinksFrom (s : IncidentStore) (now : Instant) (op : Operation) (s' : IncidentStore)
    (id : String) (links : Value) : Prop
  /-- They are a list. -/
  | listed (vs : List Value) (h : links = .list vs)
  /-- They were there before. -/
  | kept (i : Incident) (hi : s.find? id = some i) (h : i.violationIds = links)
  /-- An update has written them. -/
  | written (updates : List (String × Value)) (hop : op = .update id updates)
    (accepted : s.update now id updates = .ok (some s')) (h : ("violation_ids", links) ∈ updates)

/-- What changes incidents, but not their links. -/
theorem LinksFrom.of_map {op : Operation} {turn : Incident → Incident}
    (hturn : ∀ i, (turn i).violationIds = i.violationIds)
    (hi : (s.find? id).map turn = some i) : LinksFrom s now op s' id i.violationIds := by
  obtain ⟨j, hj, rfl⟩ := Option.map_eq_some_iff.1 hi
  exact .kept j hj (hturn j).symm

/-- **What an operation does to the links.** -/
theorem linksFrom_does {op : Operation} {touched : Option String}
    (does : Operation.Does now s op touched s') (hi : s'.find? id = some i) :
    LinksFrom s now op s' id i.violationIds := by
  cases does with
  | opens v =>
    rw [find?_openFor, Option.or_eq_some_iff] at hi
    rcases hi with hi | ⟨-, hi⟩
    · exact .kept i hi rfl
    · split at hi
      · cases hi
        exact .listed _ rfl
      · cases hi
  | nothing => exact .kept i hi rfl
  | notes id' report =>
    rw [find?_addEvent] at hi
    refine .of_map (fun i => ?_) hi
    split <;> rfl
  | @updates id' updates changes hread accepted =>
    rw [find?_change] at hi
    obtain ⟨j, hj, rfl⟩ := Option.map_eq_some_iff.1 hi
    by_cases hid : id = id'
    · subst hid
      rw [if_pos rfl]
      rcases Incident.updated_violationIds hread now j with h | h
      · exact .kept j hj h.symm
      · exact .written updates rfl accepted h
    · rw [if_neg hid]
      exact .kept j hj rfl
  | @links id' violation vs report =>
    rw [find?_addEvent, find?_modify, Option.map_map] at hi
    obtain ⟨j, hj, rfl⟩ := Option.map_eq_some_iff.1 hi
    by_cases hid : id = id'
    · simp only [Function.comp, if_pos hid]
      exact .listed vs rfl
    · simp only [Function.comp, if_neg hid]
      exact .kept j hj rfl
  | marks m report =>
    rw [find?_addEvent, find?_change, Option.map_map] at hi
    refine .of_map (fun i => ?_) hi
    cases m <;> simp only [Function.comp] <;> split <;> rfl
  | amends m =>
    rw [find?_change] at hi
    refine .of_map (fun i => ?_) hi
    cases m <;> split <;> rfl

/-- An update of the incident with an id was accepted in the course of a history, and it has written
the links. -/
def Overwrote (s : IncidentStore) (h : History) (id : String) (links : Value) : Prop :=
  ∃ (earlier later : History) (now : Instant) (updates : List (String × Value)),
    h = earlier ++ (now, .update id updates) :: later ∧
      (s.after earlier).update now id updates =
        .ok (some (s.after (earlier ++ [(now, .update id updates)]))) ∧
      ("violation_ids", links) ∈ updates

theorem Overwrote.concat {h : History} {links : Value} (hw : s.Overwrote h id links)
    (step : Instant × Operation) : s.Overwrote (h ++ [step]) id links := by
  obtain ⟨earlier, later, now, updates, rfl, accepted, hmem⟩ := hw
  exact ⟨earlier, later ++ [step], now, updates, by simp, accepted, hmem⟩

/-- The links of an incident are a list, or an update has written what they are. -/
theorem listed_or_overwrote (actor : String) {h : History}
    (hi : ((empty actor).after h).find? id = some i) :
    (∃ vs, i.violationIds = .list vs) ∨ (empty actor).Overwrote h id i.violationIds := by
  induction h using List.reverseRecOn generalizing i with
  | nil => cases hi
  | append_singleton h step ih =>
    obtain ⟨now, op⟩ := step
    rw [after_concat] at hi
    rcases linksFrom_does (op.apply_does now _) hi with
      ⟨vs, hvs⟩ | ⟨j, hj, hlinks⟩ | ⟨updates, rfl, accepted, hw⟩
    · exact .inl ⟨vs, hvs⟩
    · rw [← hlinks]
      exact (ih hj).imp_right (·.concat _)
    · exact .inr ⟨h, [], now, updates, rfl, by rwa [after_concat], hw⟩

/-! ## What can be done -/

/-- An incident can be shown, and any violation can be linked to it. -/
structure Serves (s : IncidentStore) (i : Incident) : Prop where
  shown : ∃ r, i.toValue = .ok r
  linked : ∀ (now : Instant) (violation : String), ∃ s' j,
    s.link now i.id violation = .ok (some s') ∧ s'.find? i.id = some j ∧
      j.isLinkedTo violation = true

theorem serves_of_list (hi : s.find? i.id = some i) {vs : List Value}
    (hvs : i.violationIds = .list vs) : s.Serves i where
  shown := by
    unfold Incident.toValue
    rw [hvs]
    exact ⟨_, rfl⟩
  linked now violation := by
    rw [link_of_list hi hvs]
    cases hx : vs.any (·.alike (.text violation)) with
    | true => exact ⟨s, i, rfl, hi, by simp [Incident.isLinkedTo, hvs, Value.has, hx]⟩
    | false =>
      refine ⟨_, _, rfl, find?_linked hi now vs violation, ?_⟩
      simp [Incident.isLinkedTo, Incident.withEvent, Value.has, Value.alike_scalar,
        Scalar.alike_self]

/-- What can be done with an incident on file after a history. -/
structure Serviceable (s : IncidentStore) (h : History) (i : Incident) : Prop where
  /-- It is found by its status. -/
  sorted : ∀ status, i ∈ s.withStatus status ↔ i.status = status
  /-- It takes further events. -/
  noted : ∀ (now : Instant) (report : Report), ∃ j,
    (s.addEvent now i.id report).1.find? i.id = some j ∧
      j.timeline.map (·.toReport) = i.timeline.map (·.toReport) ++ [report]
  /-- It can be shown and linked, unless an update was accepted that wrote something else than a
  list where its violations are. -/
  serves : s.Serves i ∨
    (∀ vs, i.violationIds ≠ .list vs) ∧ (empty s.actor).Overwrote h i.id i.violationIds

theorem after_actor (s : IncidentStore) (h : History) : (s.after h).actor = s.actor := by
  induction h using List.reverseRecOn with
  | nil => rfl
  | append_singleton h step ih => rw [after_concat, Operation.apply_actor, ih]

end IncidentStore

open IncidentStore in
/-- **Nothing but an update of its violations takes an incident out of service.** -/
theorem after_serviceable (actor : String) (h : History) {i : Incident}
    (hi : i ∈ ((empty actor).after h).incidents) :
    ((empty actor).after h).Serviceable h i where
  sorted status := by simp [withStatus, hi]
  noted now report := by
    have hfind := find?_of_nodup ((empty actor).after h).ids_nodup hi
    refine ⟨_, (find?_addEvent _ now i.id report i.id).trans (congrArg _ hfind), ?_⟩
    simp [Incident.withEvent]
  serves := by
    have hfind := find?_of_nodup ((empty actor).after h).ids_nodup hi
    rw [after_actor]
    by_cases hlist : ∃ vs, i.violationIds = .list vs
    · obtain ⟨vs, hvs⟩ := hlist
      exact .inl (serves_of_list hfind hvs)
    · exact .inr ⟨fun vs hvs => hlist ⟨vs, hvs⟩,
        (listed_or_overwrote actor hfind).resolve_left hlist⟩

/-- An incident is opened, and its violations are written anew. -/
def History.rewriting (links : Value) : History :=
  [(⟨0⟩, .opening .leak), (⟨1⟩, .update (label "incident" 1) [("violation_ids", links)])]

theorem after_serviceable_rewritten :
    ∃ i ∈ ((IncidentStore.empty "agent").after (.rewriting (.texts ["a", "b"]))).incidents,
      i.violationIds = .texts ["a", "b"] ∧
        ((IncidentStore.empty "agent").after (.rewriting (.texts ["a", "b"]))).Serviceable
          (.rewriting (.texts ["a", "b"])) i :=
  ⟨_, List.mem_singleton_self _, rfl, after_serviceable "agent" _ (List.mem_singleton_self _)⟩

/-- An update to no violations at all is accepted, and then the incident can be neither shown nor
linked. -/
theorem nullLinks_unserviceable :
    ∃ s i, IncidentStore.leaking.update ⟨1⟩ (label "incident" 1) [("violation_ids", .null)] =
        .ok (some s) ∧
      s.incidents = [i] ∧ i.toValue = .error (.notIterable "NoneType") ∧
        s.link ⟨2⟩ i.id "b" = .error (.notContainer "NoneType") :=
  ⟨_, _, rfl, rfl, rfl, rfl⟩

end Compliance
