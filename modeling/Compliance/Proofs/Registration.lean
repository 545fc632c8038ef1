import Compliance.Api.Routes
import Compliance.Proofs.Isolation
import Compliance.Proofs.Refusals

/-!
# Accepted definitions and the registry

Reading a definition asks of its id only that it counts as true, and the registry needs one that can
be a key. A scalar can: then every way in registers the playbook, `put_eq` says where, and nothing
else on file is touched. A collection cannot: its definition is read, and nothing registers it. Main
statement: `read_registers`.
-/
namespace Compliance

namespace Registry

/-! ## Writing into the list -/

/-- A playbook takes the place of the one with its id, or comes last. -/
theorem put_eq (p : Playbook) (ps : List Playbook) :
    (∃ before q after, ps = before ++ q :: after ∧ q.hasId p.id = true ∧
      (∀ r ∈ before, r.hasId p.id = false) ∧ put p ps = before ++ p :: after) ∨
    (∀ r ∈ ps, r.hasId p.id = false) ∧ put p ps = ps ++ [p] := by
  induction ps with
  | nil => exact .inr ⟨by simp, rfl⟩
  | cons r ps ih =>
    cases hr : r.hasId p.id with
    | true => exact .inl ⟨[], r, ps, rfl, hr, by simp, by simp [put, hr]⟩
    | false =>
      have hput : put p (r :: ps) = r :: put p ps := by simp [put, hr]
      rcases ih with ⟨before, q, after, rfl, hq, hbefore, hplace⟩ | ⟨hnone, hlast⟩
      · exact .inl ⟨r :: before, q, after, rfl, hq, List.forall_mem_cons.2 ⟨hr, hbefore⟩,
          by rw [hput, hplace]; rfl⟩
      · exact .inr ⟨List.forall_mem_cons.2 ⟨hr, hnone⟩, by rw [hput, hlast]; rfl⟩

/-- The playbooks with other ids stay as they are, in their order. -/
theorem filter_put (p : Playbook) (hp : p.hasId p.id = true) (ps : List Playbook) :
    (put p ps).filter (fun q => !q.hasId p.id) = ps.filter fun q => !q.hasId p.id := by
  rcases put_eq p ps with ⟨before, q, after, rfl, hq, -, hput⟩ | ⟨-, hput⟩
  · simp [hput, hp, hq]
  · simp [hput, hp]

theorem mem_put_self (p : Playbook) (ps : List Playbook) : p ∈ put p ps := by
  rcases put_eq p ps with ⟨before, q, after, -, -, -, hput⟩ | ⟨-, hput⟩
  · simp [hput]
  · simp [hput]

end Registry

/-- The one registered playbook with an id is all that there is with it. -/
theorem Keyed.filter_hasId {ps : List Playbook} (h : Keyed ps) {p : Playbook} (hp : p ∈ ps) :
    ps.filter (·.hasId p.id) = [p] := by
  obtain ⟨before, after, rfl⟩ := List.append_of_mem hp
  obtain ⟨-, hafter, hbefore⟩ := List.pairwise_append.1 h.distinct
  have hbefore' : ∀ q ∈ before, q.hasId p.id = false :=
    fun q hq => hbefore q hq p List.mem_cons_self
  have hafter' : ∀ q ∈ after, q.hasId p.id = false := by
    intro q hq
    rw [Bool.eq_false_iff]
    intro hid
    -- A later playbook with the id would be this one, which the later ones differ from.
    obtain rfl := h.eq_of_hasId (by simp [hq]) hp hid
    rw [(List.pairwise_cons.1 hafter).1 q hq] at hid
    cases hid
  simp [List.filter_eq_nil_iff.2 fun q hq => Bool.eq_false_iff.1 (hbefore' q hq),
    List.filter_eq_nil_iff.2 fun q hq => Bool.eq_false_iff.1 (hafter' q hq), h.hasId_self hp]

theorem Registry.get?_of_mem {r : Registry} {p : Playbook} (hp : p ∈ r.playbooks) :
    r.get? p.id = some p := by
  rw [get?, ← List.head?_filter, r.keyed.filter_hasId hp]
  rfl

/-! ## Registering -/

/-- A registry after a playbook was registered. -/
structure Registered (p : Playbook) (r r' : Registry) : Prop where
  /-- The playbook is found by its id. -/
  found : r'.get? p.id = some p
  /-- It is listed once, and no other is listed under its id. -/
  once : r'.playbooks.filter (·.hasId p.id) = [p]
  /-- The playbooks with other ids are listed as before. -/
  others : r'.playbooks.filter (fun q => !q.hasId p.id) =
    r.playbooks.filter fun q => !q.hasId p.id

theorem Registered.mem_iff {p q : Playbook} {r r' : Registry} (h : Registered p r r') :
    q ∈ r'.playbooks ↔ q = p ∨ q ∈ r.playbooks ∧ q.hasId p.id = false := by
  have honce : q ∈ r'.playbooks.filter (·.hasId p.id) ↔ q = p := by
    rw [h.once, List.mem_singleton]
  have hothers : q ∈ r'.playbooks.filter (fun q => !q.hasId p.id) ↔
      q ∈ r.playbooks.filter fun q => !q.hasId p.id := by rw [h.others]
  simp only [List.mem_filter, Bool.not_eq_true'] at honce hothers
  rw [← honce, ← hothers]
  cases q.hasId p.id <;> simp

/-- An id that can be a key. -/
def Value.IsKey (v : Value) : Prop := ∃ k, v = .scalar k

namespace Registry

theorem add_of_isKey {p : Playbook} (h : p.id.IsKey) (r : Registry) :
    ∃ r', r.add p = .ok r' ∧ Registered p r r' := by
  obtain ⟨k, hk⟩ := h
  have hself : p.hasId p.id = true := by
    rw [Playbook.hasId, hk, Value.alike_scalar]
    exact Scalar.alike_self k
  have hkeyed := put_keyed hk r.keyed
  have hadd : r.add p = .ok ⟨put p r.playbooks, hkeyed⟩ := by
    unfold add
    split
    · rfl
    · next f hf =>
      rw [hk] at hf
      cases hf
  have hmem := mem_put_self p r.playbooks
  exact ⟨_, hadd, get?_of_mem hmem, hkeyed.filter_hasId hmem, filter_put p hself r.playbooks⟩

theorem playbooks_of_add {p : Playbook} {r r' : Registry} (h : r.add p = .ok r') :
    r'.playbooks = put p r.playbooks := by
  unfold add at h
  split at h
  · cases h
    rfl
  · cases h

theorem add_of_not_isKey {p : Playbook} (h : ¬ p.id.IsKey) (r : Registry) :
    r.add p = .error (.notKey p.id.typeName) := by
  have hkey : p.id.key = .error (.notKey p.id.typeName) := by
    cases hid : p.id with
    | scalar k => exact absurd ⟨k, hid⟩ h
    | _ => rfl
  unfold add
  split
  · next k hk =>
    rw [hkey] at hk
    cases hk
  · next f hf =>
    rw [hkey] at hf
    cases hf
    rfl

theorem addAll_append (ps qs : List Playbook) (r : Registry) :
    r.addAll (ps ++ qs) = r.addAll ps >>= (·.addAll qs) := List.foldlM_append

theorem addAll_singleton (p : Playbook) (r : Registry) : r.addAll [p] = r.add p := by
  unfold addAll
  rw [List.foldlM_cons]
  cases r.add p <;> rfl

end Registry

/-! ## The ways in -/

/-- A new agent that has registered some playbooks goes on with the others. -/
theorem Agent.create_append {settings : Settings} {backends : Backends} {ps : List Playbook}
    {a : Agent} (h : Agent.create settings backends ps = .ok a) (qs : List Playbook) :
    Agent.create settings backends (ps ++ qs) =
      (a.desk.registry.addAll qs).map a.withRegistry := by
  obtain ⟨r, hr, h⟩ := bind_eq_ok.1 h
  cases h
  unfold create
  rw [Registry.addAll_append, hr]
  change (r.addAll qs >>= _) = _
  cases r.addAll qs <;> rfl

/-- A playbook that every way in registers, whatever is on file. -/
structure Admitted (p : Playbook) : Prop where
  registry : ∀ r : Registry, ∃ r', r.add p = .ok r' ∧ Registered p r r'
  /-- Nothing of an agent changes but its registry. -/
  agent : ∀ a : Agent, ∃ r', a.addPlaybook p = .ok (a.withRegistry r') ∧
    Registered p a.desk.registry r'
  /-- A new agent registers it after the playbooks that it has got already. -/
  start : ∀ settings backends ps a, Agent.create settings backends ps = .ok a →
    ∃ r', Agent.create settings backends (ps ++ [p]) = .ok (a.withRegistry r') ∧
      Registered p a.desk.registry r'
  request : ∀ (a : Agent) (req : Api.Request) es, req.form Field.mapping = .accepted es →
    Definition.read (.map es) = .ok p →
    ∃ r', Api.addPlaybook a req = (a.withRegistry r', .ofRecord 201 p.toValue) ∧
      Registered p a.desk.registry r'

/-- A playbook that no way in registers, whatever is on file: each fails and changes nothing. -/
structure Stranded (p : Playbook) : Prop where
  registry : ∀ r : Registry, r.add p = .error (.notKey p.id.typeName)
  agent : ∀ a : Agent, a.addPlaybook p = .error (.notKey p.id.typeName)
  /-- A new agent comes to no beginning with it. -/
  start : ∀ settings backends ps a qs, Agent.create settings backends ps = .ok a →
    Agent.create settings backends (ps ++ p :: qs) = .error (.notKey p.id.typeName)
  request : ∀ (a : Agent) (req : Api.Request) es, req.form Field.mapping = .accepted es →
    Definition.read (.map es) = .ok p → Api.addPlaybook a req = (a, .failed)

theorem admitted_of_isKey {p : Playbook} (h : p.id.IsKey) : Admitted p where
  registry := Registry.add_of_isKey h
  agent a := by
    obtain ⟨r', hadd, hregistered⟩ := Registry.add_of_isKey h a.desk.registry
    exact ⟨r', by unfold Agent.addPlaybook; rw [hadd]; rfl, hregistered⟩
  start settings backends ps a ha := by
    obtain ⟨r', hadd, hregistered⟩ := Registry.add_of_isKey h a.desk.registry
    refine ⟨r', ?_, hregistered⟩
    rw [Agent.create_append ha, Registry.addAll_singleton, hadd]
    rfl
  request a req es hform hread := by
    obtain ⟨r', hadd, hregistered⟩ := Registry.add_of_isKey h a.desk.registry
    refine ⟨r', ?_, hregistered⟩
    simp only [Api.addPlaybook, Api.withForm, hform, hread, Agent.addPlaybook, hadd]
    rfl

theorem stranded_of_not_isKey {p : Playbook} (h : ¬ p.id.IsKey) : Stranded p where
  registry := Registry.add_of_not_isKey h
  agent a := by
    unfold Agent.addPlaybook
    rw [Registry.add_of_not_isKey h]
    rfl
  start settings backends ps a qs ha := by
    have hadd : a.desk.registry.addAll (p :: qs) = .error (.notKey p.id.typeName) := by
      unfold Registry.addAll
      rw [List.foldlM_cons, Registry.add_of_not_isKey h]
      rfl
    rw [Agent.create_append ha, hadd]
    rfl
  request a req es hform hread := by
    simp only [Api.addPlaybook, Api.withForm, hform, hread, Agent.addPlaybook,
      Registry.add_of_not_isKey h]
    rfl

namespace Definition

/-- **What becomes of an accepted definition.** The playbook has the id that was given. If that is a
scalar, every way in registers the playbook; if it is a collection, none does. -/
theorem read_registers {v : Value} {p : Playbook} (h : read v = .ok p) :
    p.id = givenId v ∧ ((givenId v).IsKey → Admitted p) ∧ (¬ (givenId v).IsKey → Stranded p) := by
  obtain ⟨es, trigger, steps, hes, hid, -, -, rfl⟩ := read_eq_ok_iff.1 h
  have hgiven := givenId_of_truthy hes hid
  exact ⟨hgiven.symm, fun hkey => admitted_of_isKey (hgiven ▸ hkey),
    fun hkey => stranded_of_not_isKey (hgiven ▸ hkey)⟩

/-- A definition without steps. -/
def bare (id : Value) : Value := .record [("id", id), ("steps", .list [])]

/-- The playbook that such a definition describes. -/
def barePlaybook (id : Value) : Playbook :=
  ⟨id, id, .text "", ⟨.violation, [], [], .null⟩, [], true, none⟩

theorem read_bare {id : Value} (h : id.truthy = true) : read (bare id) = .ok (barePlaybook id) := by
  have ht : memberOf TriggerType (.member TriggerType.violation) = .ok .violation :=
    memberOf_member TriggerType.violation
  simp [read, bare, barePlaybook, Value.record, Value.entries?, Value.opened, get, getOr, h, body,
    trigger, mapping, ht, elements, Value.truthy, distinct, bind, Except.bind, pure, Except.pure]

/-- A text can be a key. -/
theorem read_registers_text :
    read (bare (.text "notify")) = .ok (barePlaybook (.text "notify")) ∧
      Admitted (barePlaybook (.text "notify")) := by
  have hread : read (bare (.text "notify")) = .ok (barePlaybook (.text "notify")) := read_bare rfl
  exact ⟨hread, (read_registers hread).2.1 ⟨.text "notify", rfl⟩⟩

/-- A list counts as true where it has elements, and cannot be a key. -/
theorem read_bare_list : ∃ p, read (bare (.texts ["notify"])) = .ok p ∧
    ∀ r : Registry, ¬ ∃ r', r.add p = .ok r' := by
  refine ⟨barePlaybook (.texts ["notify"]), read_bare rfl, fun r => ?_⟩
  rintro ⟨r', hadd⟩
  rw [Registry.add_of_not_isKey fun ⟨k, hk⟩ => by cases hk] at hadd
  cases hadd

end Definition
end Compliance
