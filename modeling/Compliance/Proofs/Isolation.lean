import Compliance.Proofs.Watched
import Mathlib.Data.List.Forall2

/-!
# Runs fail alone

A response that nothing breaks off gives every playbook that responds its turn, whatever becomes of
the turns before. The ledger, the times of the last runs and the incidents that are given back all
tell the same about these turns. Main statement: `respond_isolated`.
-/
namespace Compliance

open Calendar Turn

/-- The incidents of the successful runs on record. -/
def successIds (l : Ledger) : List String :=
  l.filterMap fun e =>
    match e.outcome with
    | .success => e.incidentId
    | .failure _ => none

theorem successIds_map_entry (xs : List Turn) :
    successIds (xs.map Turn.entry) = xs.flatMap Turn.yields := by
  induction xs with
  | nil => rfl
  | cons x xs ih =>
    rw [List.map_cons, List.flatMap_cons, ← ih]
    unfold successIds
    rw [List.filterMap_cons]
    cases he : x.ending with
    | finished =>
      cases hb : x.run.bound <;> simp [Turn.entry, Turn.yields, Ending.outcome, he, hb]
    | failed error => simp [Turn.entry, Turn.yields, Ending.outcome, he]
    | interrupted cause => simp [Turn.entry, Turn.yields, Ending.outcome, he]

/-! ## The registry after turns -/

/-- Registered playbooks with the same id are the same. -/
theorem Keyed.eq_of_hasId {ps : List Playbook} (h : Keyed ps) {p q : Playbook} (hp : p ∈ ps)
    (hq : q ∈ ps) (hid : p.hasId q.id = true) : p = q := by
  induction ps with
  | nil => cases hp
  | cons r ps ih =>
    have hr := (List.pairwise_cons.1 h.distinct).1
    rcases List.mem_cons.1 hp with rfl | hp'
    · rcases List.mem_cons.1 hq with rfl | hq'
      · rfl
      · rw [hr q hq'] at hid
        cases hid
    · rcases List.mem_cons.1 hq with rfl | hq'
      · obtain ⟨a, ha⟩ := h.keys p hp
        obtain ⟨b, hb⟩ := h.keys q hq
        have hne := hr p hp'
        simp only [Playbook.hasId, ha, hb, Value.alike_scalar] at hid hne
        rw [Scalar.alike_comm hid] at hne
        cases hne
      · exact ih h.tail hp' hq'

theorem Keyed.hasId_self {ps : List Playbook} (h : Keyed ps) {p : Playbook} (hp : p ∈ ps) :
    p.hasId p.id = true := by
  obtain ⟨k, hk⟩ := h.keys p hp
  rw [Playbook.hasId, hk, Value.alike_scalar]
  exact Scalar.alike_self k

namespace Playbook

/-- A playbook after a turn, which is noted if it is the playbook's own. -/
def noting (x : Turn) (q : Playbook) : Playbook :=
  if q.hasId x.playbook.id then { q with lastRun := some x.entry.executedAt } else q

/-- A playbook after turns. -/
def ranIn : List Turn → Playbook → Playbook
  | [], q => q
  | x :: xs, q => ranIn xs (q.noting x)

theorem definition_noting (x : Turn) (q : Playbook) : (q.noting x).definition = q.definition := by
  unfold noting
  split <;> rfl

theorem id_noting (x : Turn) (q : Playbook) : (q.noting x).id = q.id := by
  unfold noting
  split <;> rfl

theorem definition_ranIn (xs : List Turn) (q : Playbook) :
    (q.ranIn xs).definition = q.definition := by
  induction xs generalizing q with
  | nil => rfl
  | cons x xs ih => exact (ih (q.noting x)).trans (definition_noting x q)

/-- Turns of other playbooks change nothing. -/
theorem ranIn_of_none {xs : List Turn} {q : Playbook}
    (h : ∀ x ∈ xs, q.hasId x.playbook.id = false) : q.ranIn xs = q := by
  induction xs with
  | nil => rfl
  | cons x xs ih =>
    have hx : q.noting x = q := by simp [noting, h x List.mem_cons_self]
    rw [ranIn, hx]
    exact ih fun y hy => h y (List.mem_cons_of_mem x hy)

/-- A playbook that got a turn was last run in one of its turns. -/
theorem lastRun_ranIn {xs : List Turn} {q : Playbook}
    (h : ∃ x ∈ xs, q.hasId x.playbook.id = true) :
    ∃ x ∈ xs, q.hasId x.playbook.id = true ∧
      (q.ranIn xs).lastRun = some x.entry.executedAt := by
  induction xs generalizing q with
  | nil => simp at h
  | cons x xs ih =>
    have hid : ∀ y : Turn, (q.noting x).hasId y.playbook.id = q.hasId y.playbook.id := by
      intro y
      rw [hasId, hasId, id_noting]
    by_cases hrest : ∃ y ∈ xs, q.hasId y.playbook.id = true
    · obtain ⟨y, hy, hqy, hlast⟩ := ih (q := q.noting x) (by simpa only [hid] using hrest)
      exact ⟨y, List.mem_cons_of_mem x hy, hid y ▸ hqy, hlast⟩
    · have hnone : ∀ y ∈ xs, (q.noting x).hasId y.playbook.id = false := by
        intro y hy
        rw [hid y]
        exact Bool.eq_false_iff.2 fun hqy => hrest ⟨y, hy, hqy⟩
      obtain ⟨y, hy, hqy⟩ := h
      rcases List.mem_cons.1 hy with rfl | hy
      · refine ⟨y, List.mem_cons_self, hqy, ?_⟩
        rw [ranIn, ranIn_of_none hnone, noting, if_pos hqy]
      · exact absurd ⟨y, hy, hqy⟩ hrest

end Playbook

namespace Desk

theorem after_playbooks (xs : List Turn) (d : Desk) :
    (d.after xs).registry.playbooks = d.registry.playbooks.map (·.ranIn xs) := by
  induction xs generalizing d with
  | nil => exact (List.map_id d.registry.playbooks).symm
  | cons x xs ih =>
    refine (ih (d.conclude x.playbook x.run x.ending)).trans ?_
    exact List.map_map ..

/-- A playbook has noted its run for a violation, if it responds to it, and nothing else. -/
def Noted (v : Violation) (runs : List Turn) (q q' : Playbook) : Prop :=
  q'.definition = q.definition ∧
    if q.enabled && q.trigger.accepts v then
      ∃ x ∈ runs, x.playbook = q.definition ∧ q'.lastRun = some x.entry.executedAt
    else q'.lastRun = q.lastRun

/-- What runs for a violation leave behind at the desk, and what is given back. -/
structure Isolated (t : Terms) (v : Violation) (d : Desk) (runs : List Turn) (d' : Desk)
    (r : Responses) : Prop where
  /-- There is one run for each playbook that responds, in the order of registration. -/
  playbooks : runs.map (·.playbook) = (d.playbooksFor v).map (·.definition)
  /-- Each run is that of its playbook in the world that the one before left behind. -/
  chained : runs = turns t (d.schedule v) d.world
  started : ∀ x ∈ runs, (x.run, x.ending) = Run.start t x.playbook v x.before
  world : d'.world = worldAfter runs d.world
  ledger : d'.ledger = d.ledger ++ runs.map entry
  succeeded : ∀ x ∈ runs, x.entry.outcome = .success ↔ x.ending = .finished
  registry : List.Forall₂ (Noted v runs) d.registry.playbooks d'.registry.playbooks
  returned : r.returned? = some (successIds (runs.map entry))
  collected : ∀ earlier, r.collected earlier = earlier ++ successIds (runs.map entry)

section
variable (b : Backends) (limit : Nat) (v : Violation) (d : Desk)

/-- After a turn for each playbook that responds, these and no others have a new time. -/
theorem noted_after {xs : List Turn}
    (h : xs.map (·.playbook) = (d.playbooksFor v).map (·.definition)) {q : Playbook}
    (hq : q ∈ d.registry.playbooks) : Noted v xs q (q.ranIn xs) := by
  -- a turn that the playbook notes is its own
  have own : ∀ x ∈ xs, q.hasId x.playbook.id = true → q ∈ d.playbooksFor v ∧
      x.playbook = q.definition := by
    intro x hx hid
    have hmem : x.playbook ∈ (d.playbooksFor v).map (·.definition) := h ▸ List.mem_map_of_mem hx
    obtain ⟨p, hp, he⟩ := List.mem_map.1 hmem
    have hpq : q = p := by
      refine d.registry.keyed.eq_of_hasId hq (mem_playbooksFor.1 hp).1 ?_
      rw [← he] at hid
      exact hid
    subst hpq
    exact ⟨hp, he.symm⟩
  refine ⟨Playbook.definition_ranIn xs q, ?_⟩
  split
  · next hresponds =>
    have hmem : q.definition ∈ xs.map (·.playbook) :=
      h ▸ List.mem_map_of_mem (mem_playbooksFor.2 ⟨hq, hresponds⟩)
    obtain ⟨x, hx, he⟩ := List.mem_map.1 hmem
    have hid : q.hasId x.playbook.id = true := by
      rw [he]
      exact d.registry.keyed.hasId_self hq
    obtain ⟨y, hy, hqy, hlast⟩ := Playbook.lastRun_ranIn ⟨x, hx, hid⟩
    exact ⟨y, hy, (own y hy hqy).2, hlast⟩
  · next hnot =>
    rw [Playbook.ranIn_of_none]
    intro x hx
    cases hid : q.hasId x.playbook.id with
    | false => rfl
    | true => exact absurd (mem_playbooksFor.1 (own x hx hid).1).2 hnot

/-- Every playbook that responds gets its turn, in the order of registration. -/
theorem playbooks_turns_of_none {t : Terms} {v : Violation} {d : Desk}
    (h : interruption (turns t (d.schedule v) d.world) = none) :
    (turns t (d.schedule v) d.world).map (·.playbook) =
      (d.playbooksFor v).map (·.definition) := by
  have hmap := congrArg (List.map Prod.snd) (map_turns_of_none t h)
  simpa [schedule, Function.comp_def] using hmap

/-- **Runs fail alone.** Whatever the playbooks, the violation, the desk before and the answers to
what is sent out: a response that nothing breaks off gives back the incidents of its successful
runs, and leaves one record for every playbook that responds. -/
theorem respond_isolated (hd : ∀ p ∈ d.registry.playbooks, p.DelaysFinite) :
    ∃ runs, Isolated ⟨b, limit, .none⟩ v d runs (d.respond ⟨b, limit, .none⟩ v).1
      (d.respond ⟨b, limit, .none⟩ v).2 := by
  let t : Terms := ⟨b, limit, .none⟩
  have hnone : interruption (turns t (d.schedule v) d.world) = none :=
    turns_unwatched t (schedule_finite hd v) d.world
  have hplaybooks := playbooks_turns_of_none hnone
  rw [respond_eq t v d]
  refine ⟨turns t (d.schedule v) d.world, hplaybooks, rfl, ?_, after_world _ d, after_ledger _ d,
    ?_, ?_, ?_, ?_⟩
  · intro x hx
    have h := eq_of_mem_turns t hx
    have hv : x.violation = v := violation_of_mem_schedule (mem_of_mem_turns t hx)
    rw [hv] at h
    exact Prod.ext (congrArg Turn.run h) (congrArg Turn.ending h)
  · intro x _
    cases hx : x.ending <;> simp [entry, Ending.outcome, hx]
  · rw [after_playbooks, List.forall₂_map_right_iff]
    exact List.forall₂_same.2 fun q hq => noted_after v d hplaybooks hq
  · simp only [Responses.returned?, responses, hnone, Option.isNone_none, if_true,
      successIds_map_entry]
  · intro earlier
    simp only [Responses.collected, responses, successIds_map_entry]

end
end Desk

/-! ## One playbook alone -/

/-- A registry with one playbook. -/
def Registry.only (p : Playbook) (h : ∃ k, p.id = .scalar k) : Registry :=
  ⟨[p], ⟨by simpa using h, List.pairwise_singleton _ p⟩⟩

theorem Registry.empty_add {p : Playbook} (h : ∃ k, p.id = .scalar k) :
    Registry.empty.add p = .ok (.only p h) := by
  obtain ⟨k, hk⟩ := h
  unfold Registry.add
  split
  · rfl
  · next f hf =>
    rw [hk] at hf
    cases hf

/-- A desk with a playbook that waits. -/
def Desk.quiet : Desk := ⟨.fresh ⟨⟨0⟩, 0, 0⟩ "agent", .only .patient ⟨.text "patient", rfl⟩, []⟩

theorem Desk.quiet_delaysFinite : ∀ p ∈ Desk.quiet.registry.playbooks, p.DelaysFinite := by
  intro p hp
  rw [List.mem_singleton.1 hp]
  exact Playbook.patient_delaysFinite

theorem Desk.respond_isolated_quiet :
    (∀ p ∈ Desk.quiet.registry.playbooks, p.DelaysFinite) ∧
      ∃ runs, Isolated ⟨.recording, 100, .none⟩ .leak .quiet runs
        (Desk.quiet.respond ⟨.recording, 100, .none⟩ .leak).1
        (Desk.quiet.respond ⟨.recording, 100, .none⟩ .leak).2 :=
  ⟨quiet_delaysFinite, respond_isolated .recording 100 .leak .quiet quiet_delaysFinite⟩

end Compliance
