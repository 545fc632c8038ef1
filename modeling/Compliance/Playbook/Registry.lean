import Compliance.Playbook.Basic

/-!
# The playbook registry

Playbooks in the order in which their ids were first registered (`PlaybookRegistry`, a mapping by
id). Ids are compared as values, and an id that cannot be a key is refused. No two registered
playbooks have the same id.
-/
namespace Compliance

open Calendar

/-- Whether a playbook has an id. -/
def Playbook.hasId (p : Playbook) (id : Value) : Bool := p.id.alike id

/-- The ids of playbooks can be keys, and no two of them are the same key. -/
structure Keyed (ps : List Playbook) : Prop where
  keys : ∀ p ∈ ps, ∃ k, p.id = .scalar k
  distinct : ps.Pairwise fun p q => p.hasId q.id = false

structure Registry where
  playbooks : List Playbook
  keyed : Keyed playbooks

theorem Value.key_eq_ok {v : Value} {k : Scalar} (h : v.key = .ok k) : v = .scalar k := by
  cases v <;> simp_all [Value.key]

namespace Keyed

variable {ps : List Playbook}

theorem nil : Keyed [] := ⟨by simp, .nil⟩

theorem filter (h : Keyed ps) (keep : Playbook → Bool) : Keyed (ps.filter keep) :=
  ⟨fun p hp => h.keys p (List.mem_filter.1 hp).1, h.distinct.filter keep⟩

/-- Changes that leave the ids alone. -/
theorem map (h : Keyed ps) {f : Playbook → Playbook} (hf : ∀ p, (f p).id = p.id) :
    Keyed (ps.map f) := by
  refine ⟨fun q hq => ?_, List.pairwise_map.2 (h.distinct.imp ?_)⟩
  · obtain ⟨p, hp, rfl⟩ := List.mem_map.1 hq
    rw [hf p]
    exact h.keys p hp
  · intro p q hpq
    unfold Playbook.hasId at hpq ⊢
    rwa [hf p, hf q]

theorem tail {p : Playbook} (h : Keyed (p :: ps)) : Keyed ps :=
  ⟨fun q hq => h.keys q (List.mem_cons_of_mem p hq), (List.pairwise_cons.1 h.distinct).2⟩

end Keyed

namespace Registry

def empty : Registry := ⟨[], .nil⟩

/-- Writes a playbook in place of the one with its id, or else at the end. -/
def put (p : Playbook) : List Playbook → List Playbook
  | [] => [p]
  | q :: rest => if q.hasId p.id then p :: rest else q :: put p rest

theorem mem_put {p r : Playbook} {ps : List Playbook} (h : r ∈ put p ps) : r = p ∨ r ∈ ps := by
  induction ps with
  | nil => simpa [put] using h
  | cons q rest ih =>
    unfold put at h
    split at h
    · rcases List.mem_cons.1 h with rfl | hr
      · exact .inl rfl
      · exact .inr (List.mem_cons_of_mem q hr)
    · rcases List.mem_cons.1 h with rfl | hr
      · exact .inr List.mem_cons_self
      · exact (ih hr).imp_right (List.mem_cons_of_mem q)

/-- A key that is the key of one of two playbooks with different keys is not that of the other. -/
theorem hasId_of_replaced {p q r : Playbook} {k : Scalar} (hp : p.id = .scalar k)
    (hq : ∃ k, q.id = .scalar k) (hr : ∃ k, r.id = .scalar k) (hqp : q.hasId p.id = true)
    (hqr : q.hasId r.id = false) : p.hasId r.id = false := by
  obtain ⟨a, ha⟩ := hq
  obtain ⟨b, hb⟩ := hr
  simp only [Playbook.hasId, hp, ha, hb, Value.alike_scalar] at hqp hqr ⊢
  cases hkb : k.alike b with
  | false => rfl
  | true => rw [Scalar.alike_trans hqp hkb] at hqr; exact hqr

theorem put_keyed {p : Playbook} {k : Scalar} (hp : p.id = .scalar k) {ps : List Playbook}
    (h : Keyed ps) : Keyed (put p ps) := by
  refine ⟨fun r hr => ?_, ?_⟩
  · rcases mem_put hr with rfl | hr
    · exact ⟨k, hp⟩
    · exact h.keys r hr
  · induction ps with
    | nil => simp [put]
    | cons q rest ih =>
      obtain ⟨hq, hrest⟩ := List.pairwise_cons.1 h.distinct
      unfold put
      split
      · next hqp =>
        refine List.pairwise_cons.2 ⟨fun r hr => ?_, hrest⟩
        exact hasId_of_replaced hp (h.keys q List.mem_cons_self)
          (h.keys r (List.mem_cons_of_mem q hr)) hqp (hq r hr)
      · next hqp =>
        refine List.pairwise_cons.2 ⟨fun r hr => ?_, ih h.tail⟩
        rcases mem_put hr with rfl | hr
        · exact Bool.eq_false_iff.2 hqp
        · exact hq r hr

/-- Registers a playbook (`add`). -/
def add (p : Playbook) (r : Registry) : Except ShapeFault Registry :=
  match h : p.id.key with
  | .ok _ => .ok ⟨put p r.playbooks, put_keyed (Value.key_eq_ok h) r.keyed⟩
  | .error f => .error f

def addAll (ps : List Playbook) (r : Registry) : Except ShapeFault Registry :=
  ps.foldlM (fun r p => r.add p) r

def get? (id : Value) (r : Registry) : Option Playbook := r.playbooks.find? (·.hasId id)

/-- The playbooks that are switched on (`list_enabled`). -/
def enabled (r : Registry) : List Playbook := r.playbooks.filter (·.enabled)

/-- Changes the playbook with an id. -/
def modify (id : Value) (f : Playbook → Playbook) (hf : ∀ p, (f p).id = p.id) (r : Registry) :
    Registry where
  playbooks := r.playbooks.map fun p => if p.hasId id then f p else p
  keyed := r.keyed.map fun p => by split <;> simp [hf]

/-- Switches a playbook on or off. -/
def toggle (id : Value) (enabled : Bool) (r : Registry) : Registry :=
  r.modify id (fun p => { p with enabled }) fun _ => rfl

/-- Notes when a playbook was last run (`last_run`, which `_finish` sets). -/
def ran (now : Instant) (id : Value) (r : Registry) : Registry :=
  r.modify id (fun p => { p with lastRun := some now }) fun _ => rfl

/-- Takes a playbook out. -/
def delete (id : Value) (r : Registry) : Registry :=
  ⟨r.playbooks.filter fun p => !p.hasId id, r.keyed.filter _⟩

end Registry
end Compliance
