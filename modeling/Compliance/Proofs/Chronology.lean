import Compliance.Proofs.Operations

/-!
# The times on an incident

Whatever is done to the incidents on file, and however the clock is moved in between, the times on
an incident stay in order: it is not updated before it is created, no event on its timeline is later
than its last update, and it has a time of resolution exactly while it is closed. An incident that
an operation touches gets a later time of update, and all others stay as they are. Main statement:
`incident_endures`.
-/
namespace Compliance

open Calendar

/-! ## One incident -/

namespace Incident

/-- The times on an incident agree with one another, with its timeline and with its status. -/
structure Sound (i : Incident) : Prop where
  created : i.createdAt ≤ i.updatedAt
  events : ∀ e ∈ i.timeline, e.timestamp ≤ i.updatedAt
  opening : i.timeline.head?.map (·.type) = some .created
  closed : i.resolvedAt.isSome = true ↔ i.status = .closed
  resolved : ∀ t, i.resolvedAt = some t → i.createdAt < t ∧ t ≤ i.updatedAt

/-- What a change leaves in place, and what it moves forward. -/
structure Advances (i i' : Incident) : Prop where
  id : i'.id = i.id
  created : i'.createdAt = i.createdAt
  later : i.updatedAt < i'.updatedAt
  timeline : i.timeline <+: i'.timeline
  resolved : i.status = .closed → i'.status = .closed → i'.resolvedAt = i.resolvedAt

theorem sound_opened (v : Violation) (now : Instant) (actor : String) (number event : Nat) :
    (v.incident now actor number event).Sound where
  created := Int.le_refl _
  events e he := by
    rw [List.mem_singleton.1 he]
    exact Int.le_refl _
  opening := rfl
  closed := by simp [Violation.incident]
  resolved t ht := by simp [Violation.incident] at ht

/-- The fields that no change writes. -/
theorem foldl_apply_fixed (changes : List Change) (i : Incident) :
    (changes.foldl Change.apply i).timeline = i.timeline ∧
      (changes.foldl Change.apply i).createdAt = i.createdAt ∧
      (changes.foldl Change.apply i).updatedAt = i.updatedAt ∧
      (changes.foldl Change.apply i).resolvedAt = i.resolvedAt := by
  induction changes generalizing i with
  | nil => exact ⟨rfl, rfl, rfl, rfl⟩
  | cons c changes ih =>
    obtain ⟨ht, hc, hu, hr⟩ := ih (c.apply i)
    rw [List.foldl_cons, ht, hc, hu, hr]
    cases c <;> exact ⟨rfl, rfl, rfl, rfl⟩

section
variable {i : Incident} (now : Instant) (changes : List Change)

theorem updated_timeline : (i.updated now changes).timeline = i.timeline :=
  (foldl_apply_fixed changes i).1

theorem updated_createdAt : (i.updated now changes).createdAt = i.createdAt :=
  (foldl_apply_fixed changes i).2.1

theorem updated_updatedAt : (i.updated now changes).updatedAt = advance now i.updatedAt :=
  congrArg (advance now) (foldl_apply_fixed changes i).2.2.1

theorem updated_resolvedAt :
    (i.updated now changes).resolvedAt =
      if (i.updated now changes).status = .closed then
        i.resolvedAt <|> some (i.updated now changes).updatedAt
      else none := by
  rw [← (foldl_apply_fixed changes i).2.2.2]
  rfl

end

variable {now : Instant} {i i' : Incident}

theorem Sound.updated (h : i.Sound) (now : Instant) (changes : List Change) :
    (i.updated now changes).Sound := by
  have moved : i.updatedAt < (i.updated now changes).updatedAt := by
    rw [updated_updatedAt]
    exact lt_advance now i.updatedAt
  have hcreated := h.created
  rw [Instant.le_iff] at hcreated
  rw [Instant.lt_iff] at moved
  refine ⟨?_, fun e he => ?_, ?_, updated_resolved now changes i, fun t ht => ?_⟩
  · rw [updated_createdAt, Instant.le_iff]
    omega
  · rw [updated_timeline] at he
    have hevent := h.events e he
    rw [Instant.le_iff] at hevent ⊢
    omega
  · rw [updated_timeline]
    exact h.opening
  · -- closed before, the incident keeps its time of resolution; closed now, it gets the new time
    rw [updated_resolvedAt] at ht
    split at ht
    · rw [updated_createdAt, Instant.lt_iff, Instant.le_iff]
      cases hr : i.resolvedAt with
      | some t' =>
        rw [hr] at ht
        cases ht
        have hresolved := h.resolved _ hr
        rw [Instant.lt_iff, Instant.le_iff] at hresolved
        omega
      | none =>
        rw [hr] at ht
        cases ht
        omega
    · cases ht

theorem Sound.withEvent (h : i.Sound) {e : Event} (he : e.timestamp = now) :
    (i.withEvent now e).Sound := by
  have moved : i.updatedAt < advance now i.updatedAt := lt_advance now i.updatedAt
  have hnow : now ≤ advance now i.updatedAt := le_advance now i.updatedAt
  have hcreated := h.created
  rw [Instant.le_iff] at hcreated
  rw [Instant.lt_iff] at moved
  refine ⟨?_, fun e' he' => ?_, ?_, h.closed, fun t ht => ?_⟩
  · rw [Instant.le_iff]
    change i.createdAt.micros ≤ (advance now i.updatedAt).micros
    omega
  · rcases List.mem_append.1 he' with he' | he'
    · have hevent := h.events e' he'
      rw [Instant.le_iff] at hevent ⊢
      change e'.timestamp.micros ≤ (advance now i.updatedAt).micros
      omega
    · rw [List.mem_singleton.1 he', he]
      exact hnow
  · obtain ⟨e₀, rest, ht⟩ : ∃ e₀ rest, i.timeline = e₀ :: rest := by
      cases ht : i.timeline with
      | nil =>
        have := h.opening
        rw [ht] at this
        cases this
      | cons e₀ rest => exact ⟨e₀, rest, rfl⟩
    have := h.opening
    rw [ht] at this
    change (i.timeline ++ [e]).head?.map (·.type) = _
    rw [ht]
    exact this
  · have hresolved := h.resolved t ht
    rw [Instant.lt_iff, Instant.le_iff] at hresolved
    refine ⟨hresolved.1, ?_⟩
    change t.micros ≤ (advance now i.updatedAt).micros
    omega

theorem Changed.sound (h : i.Changed now i') (hi : i.Sound) : i'.Sound := by
  cases h with
  | updated changes => exact hi.updated now changes
  | noted violations e he =>
    have linked : ({ i with violationIds := violations } : Incident).Sound :=
      ⟨hi.created, hi.events, hi.opening, hi.closed, hi.resolved⟩
    exact linked.withEvent he
  | marked changes e he => exact (hi.updated now changes).withEvent he

theorem Sound.updated_advances (h : i.Sound) (now : Instant) (changes : List Change) :
    i.Advances (i.updated now changes) where
  id := updated_id now changes i
  created := updated_createdAt now changes
  later := by
    rw [updated_updatedAt]
    exact lt_advance now i.updatedAt
  timeline := ⟨[], by rw [List.append_nil, updated_timeline]⟩
  resolved hc hc' := by
    obtain ⟨t, ht⟩ := Option.isSome_iff_exists.1 (h.closed.2 hc)
    simp only [updated_resolvedAt, if_pos hc', ht, Option.orElse_eq_orElse, Option.orElse_some]

/-- Recording an event moves the time of update forward and leaves the status alone. -/
theorem Advances.withEvent {j : Incident} (h : i.Advances j) (e : Event) :
    i.Advances (j.withEvent now e) where
  id := h.id
  created := h.created
  later := Int.lt_trans h.later (lt_advance now j.updatedAt)
  timeline := h.timeline.trans (List.prefix_append j.timeline [e])
  resolved := h.resolved

theorem withEvent_advances (violations : Value) (e : Event) :
    i.Advances ({ i with violationIds := violations }.withEvent now e) where
  id := rfl
  created := rfl
  later := lt_advance now i.updatedAt
  timeline := List.prefix_append i.timeline [e]
  resolved _ _ := rfl

theorem Changed.advances (h : i.Changed now i') (hi : i.Sound) : i.Advances i' := by
  cases h with
  | updated changes => exact hi.updated_advances now changes
  | noted violations e _ => exact withEvent_advances violations e
  | marked changes e _ => exact (hi.updated_advances now changes).withEvent e

end Incident

/-! ## A history -/

namespace IncidentStore

/-- All incidents on file are sound. -/
def Sound (s : IncidentStore) : Prop := ∀ i ∈ s.incidents, i.Sound

variable {s s' : IncidentStore} {now : Instant} {touched : Option String}

theorem Sound.moves (hs : s.Sound) (h : Operation.Moves now touched s s') : s'.Sound := by
  obtain ⟨turn, opened, hincidents, hturn, hopened⟩ := h
  intro i' hi'
  rw [hincidents] at hi'
  rcases List.mem_append.1 hi' with hi' | hi'
  · obtain ⟨i, hi, rfl⟩ := List.mem_map.1 hi'
    have turned := hturn i hi
    split at turned
    · exact turned.sound (hs i hi)
    · rw [turned]
      exact hs i hi
  · obtain ⟨v, actor, number, event, rfl⟩ := hopened i' hi'
    exact Incident.sound_opened v now actor number event

/-- An incident on file is still on file after an operation; if it was touched it has advanced, and
otherwise it is as before. -/
theorem Sound.turned (hs : s.Sound) (h : Operation.Moves now touched s s') {i : Incident}
    (hi : i ∈ s.incidents) :
    ∃ i' ∈ s'.incidents, if touched = some i.id then i.Advances i' else i' = i := by
  obtain ⟨turn, opened, hincidents, hturn, _⟩ := h
  refine ⟨turn i, ?_, ?_⟩
  · rw [hincidents]
    exact List.mem_append_left opened (List.mem_map_of_mem hi)
  · have turned := hturn i hi
    split at turned
    · next ht =>
      rw [if_pos ht]
      exact turned.advances (hs i hi)
    · next ht =>
      rw [if_neg ht]
      exact turned

theorem Sound.after (hs : s.Sound) (h : History) : (s.after h).Sound := by
  induction h generalizing s with
  | nil => exact hs
  | cons step h ih => exact ih (hs.moves (step.2.apply_moves step.1 s))

theorem sound_empty (actor : String) : (empty actor).Sound :=
  fun _ hi => absurd hi List.not_mem_nil

end IncidentStore

end Compliance
