import Compliance.Detection.Detector
import Mathlib.Data.List.Induction
import Mathlib.Data.List.Nodup

/-!
# The life of a violation

A `Motion` is one thing done to the violations on file at one instant, and a `Docket` is a list of
motions under any clock. `apply_origin` says once where a violation on file comes from: it was on
file before, perhaps in another status or with fewer remediation actions, or it has just been filed.
Over a docket the status of a violation only moves forward, and the time of its first resolution
stays. Main statement: `docket_orderly`.
-/
namespace Compliance

open Calendar

/-! ## The order of the statuses -/

namespace ViolationStatus

/-- The way of a violation from its filing to its resolution. False positive is not on it. -/
def order : List ViolationStatus := [.opened, .investigating, .remediating, .resolved]

/-- Whether a status comes before another on the way. -/
def IsBefore (a b : ViolationStatus) : Prop := [a, b].Sublist order

instance (a b : ViolationStatus) : Decidable (a.IsBefore b) :=
  inferInstanceAs (Decidable ([a, b].Sublist order))

/-- Whether a violation may not move from one status to another: it would go back on the way, or
return to it from false positive. -/
def Forbids (current requested : ViolationStatus) : Prop :=
  requested ≠ current ∧ requested ≠ .falsePositive ∧
    (current = .falsePositive ∨ requested.IsBefore current)

instance (current requested : ViolationStatus) : Decidable (current.Forbids requested) :=
  inferInstanceAs (Decidable (_ ∧ _ ∧ _))

theorem permits_iff {current requested : ViolationStatus} :
    current.permits requested = true ↔ ¬ current.Forbids requested := by
  cases current <;> cases requested <;> decide

theorem permits_trans {a b c : ViolationStatus} (hab : a.permits b = true)
    (hbc : b.permits c = true) : a.permits c = true := by
  simp only [permits, decide_eq_true_eq] at hab hbc ⊢
  omega

/-- A status that may be moved to does not come before, and false positive stays. -/
theorem forward_of_permits {a b : ViolationStatus} (h : a.permits b = true) :
    ¬ b.IsBefore a ∧ (a = .falsePositive → b = .falsePositive) := by
  revert h
  cases a <;> cases b <;> decide

end ViolationStatus

/-! ## One motion -/

/-- What can be done to the violations on file at one instant. -/
inductive Motion where
  | report (f : Finding)
  /-- Checks one asset. -/
  | check (inv : Inventory) (rules : List Rule) (policies : List Policy) (a : Asset)
  /-- Checks all assets. -/
  | detect (inv : Inventory) (rules : List Rule) (policies : List Policy)
  | move (id : String) (status : ViolationStatus)
  | remedy (id : String) (r : Remedy)
  | delete (id : String)

/-- The violations after a motion; one that is refused leaves them as they are. -/
def Motion.apply (now : Instant) (s : ViolationStore) : Motion → ViolationStore
  | .report f => (s.file now f).1
  | .check inv rules policies a => (s.checkAsset now inv rules policies a).1
  | .detect inv rules policies => (s.detect now inv rules policies).1
  | .move id status =>
    match s.setStatus now id status with
    | .ok (some (s', _)) => s'
    | _ => s
  | .remedy id r =>
    match s.addRemediation now id r with
    | some (s', _) => s'
    | none => s
  | .delete id => s.delete id

namespace ViolationStore

/-- Ids are running numbers, and no two violations have the same. -/
structure Numbered (s : ViolationStore) : Prop where
  issued : ∀ v ∈ s.violations, ∃ k < s.issued, v.id = label "violation" (k + 1)
  distinct : (s.violations.map (·.id)).Nodup

section
variable {s s' : ViolationStore} {id : String} {v u : Violation}

theorem numbered_empty : empty.Numbered := ⟨by simp [empty], by simp [empty]⟩

theorem Numbered.eq_of_id (h : s.Numbered) (hv : v ∈ s.violations) (hu : u ∈ s.violations)
    (hid : v.id = u.id) : v = u :=
  List.inj_on_of_nodup_map h.distinct hv hu hid

theorem mem_of_find? (h : s.find? id = some v) : v ∈ s.violations ∧ v.id = id :=
  ⟨List.mem_of_find?_eq_some h, by simpa using List.find?_some h⟩

theorem Numbered.find?_eq (h : s.Numbered) (hv : v ∈ s.violations) (hid : v.id = id) :
    s.find? id = some v := hid ▸ find?_of_nodup h.distinct hv

/-- Writing a violation over the one with its id leaves the ids as they are. -/
theorem ids_replace (v : Violation) (s : ViolationStore) :
    (s.replace v).violations.map (·.id) = s.violations.map (·.id) := by
  refine (List.map_map ..).trans (List.map_congr_left fun u _ => ?_)
  simp only [Function.comp]
  split
  · next h => exact h.symm
  · rfl

theorem Numbered.of_ids (h : s.Numbered) (hids : s'.violations.map (·.id) = s.violations.map (·.id))
    (hissued : s'.issued = s.issued) : s'.Numbered := by
  refine ⟨fun v hv => ?_, hids ▸ h.distinct⟩
  have hmem : v.id ∈ s.violations.map (·.id) := hids ▸ List.mem_map_of_mem hv
  obtain ⟨u, hu, hid⟩ := List.mem_map.1 hmem
  rw [hissued, ← hid]
  exact h.issued u hu

theorem Numbered.replace (h : s.Numbered) (v : Violation) : (s.replace v).Numbered :=
  h.of_ids (ids_replace v s) rfl

theorem Numbered.delete (h : s.Numbered) (id : String) : (s.delete id).Numbered :=
  ⟨fun v hv => h.issued v (List.mem_filter.1 hv).1,
    h.distinct.sublist (List.filter_sublist.map _)⟩

theorem Numbered.file (h : s.Numbered) (now : Instant) (f : Finding) :
    (s.file now f).1.Numbered := by
  refine ⟨fun v hv => ?_, ?_⟩
  · rcases List.mem_append.1 hv with hv | hv
    · obtain ⟨k, hk, hid⟩ := h.issued v hv
      exact ⟨k, Nat.lt_succ_of_lt hk, hid⟩
    · rw [List.mem_singleton.1 hv]
      exact ⟨s.issued, Nat.lt_succ_self _, rfl⟩
  · change ((s.violations ++ [_]).map _).Nodup
    rw [List.map_append, List.nodup_append]
    refine ⟨h.distinct, List.nodup_singleton _, fun a ha b hb hab => ?_⟩
    obtain ⟨v, hv, rfl⟩ := List.mem_map.1 ha
    obtain ⟨k, hk, hid⟩ := h.issued v hv
    have hnew : b = label "violation" (s.issued + 1) := List.mem_singleton.1 hb
    rw [hid, hnew, label_inj] at hab
    omega

end

/-! ### Filing -/

section
variable {now : Instant} {s : ViolationStore}

theorem fileAll_append (fs gs : List Finding) :
    (s.fileAll now (fs ++ gs)).1 = ((s.fileAll now fs).1.fileAll now gs).1 := by
  induction fs generalizing s with
  | nil => rfl
  | cons f fs ih => exact ih

variable (now s) (inv : Inventory) (rules : List Rule) (policies : List Policy)

/-- Checking an asset files findings and does nothing else, even if it comes to a fault. -/
theorem checkAsset_filed (a : Asset) :
    ∃ fs, (s.checkAsset now inv rules policies a).1 = (s.fileAll now fs).1 := by
  unfold checkAsset
  split
  · next fs _ => exact ⟨fs, rfl⟩
  · exact ⟨[], rfl⟩

theorem checkAssets_filed (as : List Asset) :
    ∃ fs, (s.checkAssets now inv rules policies as).1 = (s.fileAll now fs).1 := by
  induction as generalizing s with
  | nil => exact ⟨[], rfl⟩
  | cons a as ih =>
    obtain ⟨fs, hfs⟩ := checkAsset_filed now s inv rules policies a
    unfold checkAssets
    generalize s.checkAsset now inv rules policies a = result at hfs ⊢
    obtain ⟨s₁, found⟩ := result
    subst hfs
    cases found with
    | error fault => exact ⟨fs, rfl⟩
    | ok found =>
      obtain ⟨gs, hgs⟩ := ih (s.fileAll now fs).1
      exact ⟨fs ++ gs, hgs.trans (fileAll_append fs gs).symm⟩

end

/-! ### What becomes of a violation -/

/-- A violation that has just been filed: its number is new, it is open and was never resolved. -/
structure Fresh (s : ViolationStore) (v : Violation) : Prop where
  numbered : ∃ k, s.issued ≤ k ∧ v.id = label "violation" (k + 1)
  opened : v.status = .opened
  unresolved : v.resolvedAt = none

/-- Where a violation that is on file after a motion comes from. -/
inductive Origin (now : Instant) (s : ViolationStore) (v' : Violation) : Prop
  | kept (hv : v' ∈ s.violations)
  | moved {v : Violation} (hv : v ∈ s.violations) (status : ViolationStatus)
      (hp : v.status.permits status = true) (he : v' = v.moved now status)
  | remedied {v : Violation} (hv : v ∈ s.violations) (r : Remediation)
      (he : v' = v.withRemediation now r)
  | filed (fresh : s.Fresh v')

/-- The numbering goes on, and everything on file has an origin. -/
structure Accounted (now : Instant) (s s' : ViolationStore) : Prop where
  numbered : s'.Numbered
  issued : s.issued ≤ s'.issued
  origin : ∀ v' ∈ s'.violations, Origin now s v'

section
variable {now : Instant} {s s' : ViolationStore} {id : String} {status : ViolationStatus}
  {v v' : Violation}

theorem Numbered.accounted (h : s.Numbered) : Accounted now s s :=
  ⟨h, Nat.le_refl _, fun _ hv => .kept hv⟩

theorem Numbered.fileAll (h : s.Numbered) (now : Instant) (fs : List Finding) :
    (s.fileAll now fs).1.Numbered := by
  induction fs generalizing s with
  | nil => exact h
  | cons f fs ih => exact ih (h.file now f)

theorem issued_le_fileAll (now : Instant) (fs : List Finding) (s : ViolationStore) :
    s.issued ≤ (s.fileAll now fs).1.issued := by
  induction fs generalizing s with
  | nil => exact Nat.le_refl _
  | cons f fs ih => exact Nat.le_of_succ_le (ih (s.file now f).1)

theorem mem_fileAll {fs : List Finding} (h : v' ∈ (s.fileAll now fs).1.violations) :
    v' ∈ s.violations ∨ s.Fresh v' := by
  induction fs generalizing s with
  | nil => exact .inl h
  | cons f fs ih =>
    rcases ih h with hv | ⟨⟨k, hk, hid⟩, opened, unresolved⟩
    · rcases List.mem_append.1 hv with hv | hv
      · exact .inl hv
      · rw [List.mem_singleton.1 hv]
        exact .inr ⟨⟨s.issued, Nat.le_refl _, rfl⟩, rfl, rfl⟩
    · exact .inr ⟨⟨k, Nat.le_of_succ_le hk, hid⟩, opened, unresolved⟩

theorem Numbered.fileAll_accounted (h : s.Numbered) (fs : List Finding) :
    Accounted now s (s.fileAll now fs).1 :=
  ⟨h.fileAll now fs, issued_le_fileAll now fs s, fun _ hv => (mem_fileAll hv).elim .kept .filed⟩

/-- One violation is written over, and the rest is kept. -/
theorem Numbered.replace_accounted (h : s.Numbered) (origin : Origin now s v')
    (hviolations : s'.violations = (s.replace v').violations) (hissued : s'.issued = s.issued) :
    Accounted now s s' := by
  refine ⟨(h.replace v').of_ids (congrArg _ hviolations) hissued, Nat.le_of_eq hissued.symm,
    fun u' hu' => ?_⟩
  rw [hviolations] at hu'
  obtain ⟨u, hu, rfl⟩ := List.mem_map.1 hu'
  split
  · exact origin
  · exact .kept hu

/-! ### Status updates and remediation actions -/

/-- A status update is refused exactly if there is such a violation and its status forbids it. -/
theorem Numbered.setStatus_error_iff (h : s.Numbered) {m : BackwardMove} :
    s.setStatus now id status = .error m ↔
      ∃ v ∈ s.violations, v.id = id ∧ v.status.Forbids status ∧ m = ⟨id, v.status, status⟩ := by
  unfold setStatus
  constructor
  · intro he
    split at he
    · cases he
    · next v hf =>
      obtain ⟨hv, hid⟩ := mem_of_find? hf
      split at he
      · cases he
      · next hp =>
        cases he
        exact ⟨v, hv, hid, not_not.1 (mt ViolationStatus.permits_iff.2 hp), rfl⟩
  · rintro ⟨v, hv, hid, hforbids, rfl⟩
    have hp : ¬ v.status.permits status = true :=
      fun hp => ViolationStatus.permits_iff.1 hp hforbids
    rw [h.find?_eq hv hid]
    simp only [hp, Bool.false_eq_true, if_false]

/-- A status update that is accepted writes the violation in its new status over the old one. -/
theorem setStatus_eq (he : s.setStatus now id status = .ok (some (s', v'))) :
    ∃ v ∈ s.violations, v.id = id ∧ v.status.permits status = true ∧ v' = v.moved now status ∧
      s' = s.replace v' := by
  unfold setStatus at he
  split at he
  · cases he
  · next v hf =>
    obtain ⟨hv, hid⟩ := mem_of_find? hf
    split at he
    · next hp =>
      cases he
      exact ⟨v, hv, hid, hp, rfl, rfl⟩
    · cases he

theorem Numbered.setStatus_of_mem (h : s.Numbered) (hv : v ∈ s.violations) (hid : v.id = id)
    (hp : v.status.permits status = true) :
    s.setStatus now id status =
      .ok (some (s.replace (v.moved now status), v.moved now status)) := by
  unfold setStatus
  rw [h.find?_eq hv hid]
  simp only [hp, if_true]

theorem Numbered.addRemediation_of_mem (h : s.Numbered) (hv : v ∈ s.violations) (now : Instant)
    (r : Remedy) : ∃ s' r', s.addRemediation now v.id r = some (s', r') := by
  unfold addRemediation
  rw [h.find?_eq hv rfl]
  exact ⟨_, _, rfl⟩

theorem addRemediation_eq {r : Remedy} {r' : Remediation}
    (he : s.addRemediation now id r = some (s', r')) :
    ∃ v ∈ s.violations, v.id = id ∧ r'.toRemedy = r ∧
      s'.violations = (s.replace (v.withRemediation now r')).violations ∧
      s'.issued = s.issued := by
  unfold addRemediation at he
  split at he
  · cases he
  · next v hf =>
    obtain ⟨hv, hid⟩ := mem_of_find? hf
    cases he
    exact ⟨v, hv, hid, rfl, rfl, rfl⟩

/-- **What a motion does to the violations on file.** -/
theorem Numbered.apply_accounted (h : s.Numbered) (now : Instant) (m : Motion) :
    Accounted now s (m.apply now s) := by
  cases m with
  | report f => exact h.fileAll_accounted [f]
  | check inv rules policies a =>
    obtain ⟨fs, hfs⟩ := checkAsset_filed now s inv rules policies a
    simpa only [Motion.apply, hfs] using h.fileAll_accounted fs
  | detect inv rules policies =>
    obtain ⟨fs, hfs⟩ := checkAssets_filed now s inv rules policies inv.assets
    simpa only [Motion.apply, ViolationStore.detect, hfs] using h.fileAll_accounted fs
  | move id status =>
    simp only [Motion.apply]
    split
    · next s' v' he =>
      obtain ⟨v, hv, -, hp, rfl, rfl⟩ := setStatus_eq he
      exact h.replace_accounted (.moved hv status hp rfl) rfl rfl
    · exact h.accounted
  | remedy id r =>
    simp only [Motion.apply]
    split
    · next s' r' he =>
      obtain ⟨v, hv, -, -, hviolations, hissued⟩ := addRemediation_eq he
      exact h.replace_accounted (.remedied hv r' rfl) hviolations hissued
    · exact h.accounted
  | delete id =>
    exact ⟨h.delete id, Nat.le_refl _, fun _ hv => .kept (List.mem_filter.1 hv).1⟩

end
end ViolationStore

/-! ## A docket -/

/-- Motions, each at the instant that the clock then shows. -/
abbrev Docket := List (Instant × Motion)

/-- What lasts of a violation, whatever is done to it. -/
structure Violation.Leads (v v' : Violation) : Prop where
  forward : v.status.permits v'.status = true
  resolved : ∀ t, v.resolvedAt = some t → v'.resolvedAt = some t

namespace Violation

theorem Leads.refl (v : Violation) : v.Leads v :=
  ⟨by simp [ViolationStatus.permits], fun _ h => h⟩

theorem Leads.trans {u v w : Violation} (h : u.Leads v) (h' : v.Leads w) : u.Leads w :=
  ⟨ViolationStatus.permits_trans h.forward h'.forward, fun t ht => h'.resolved t (h.resolved t ht)⟩

theorem moved_resolvedAt (now : Instant) (status : ViolationStatus) (v : Violation) :
    (v.moved now status).resolvedAt =
      if status = .resolved then v.resolvedAt <|> some (v.moved now status).updatedAt
      else v.resolvedAt := rfl

theorem leads_moved {v : Violation} {status : ViolationStatus} (now : Instant)
    (hp : v.status.permits status = true) : v.Leads (v.moved now status) := by
  refine ⟨hp, fun t ht => ?_⟩
  rw [moved_resolvedAt, ht]
  split <;> rfl

theorem leads_withRemediation (now : Instant) (r : Remediation) (v : Violation) :
    v.Leads (v.withRemediation now r) := ⟨(Leads.refl v).forward, fun _ h => h⟩

end Violation

namespace ViolationStore

/-- The violations after a docket. -/
def after (s : ViolationStore) (d : Docket) : ViolationStore :=
  d.foldl (fun s step => step.2.apply step.1 s) s

theorem after_append (s : ViolationStore) (d later : Docket) :
    s.after (d ++ later) = (s.after d).after later := List.foldl_append

theorem after_concat (s : ViolationStore) (d : Docket) (step : Instant × Motion) :
    s.after (d ++ [step]) = step.2.apply step.1 (s.after d) := after_append s d [step]

section
variable {s : ViolationStore} {v v' : Violation}

theorem Numbered.after (h : s.Numbered) (d : Docket) : (s.after d).Numbered := by
  induction d generalizing s with
  | nil => exact h
  | cons step d ih => exact ih (h.apply_accounted step.1 step.2).numbered

theorem Numbered.issued_le_after (h : s.Numbered) (d : Docket) : s.issued ≤ (s.after d).issued := by
  induction d generalizing s with
  | nil => exact Nat.le_refl _
  | cons step d ih =>
    have accounted := h.apply_accounted step.1 step.2
    exact Nat.le_trans accounted.issued (ih accounted.numbered)

/-- A violation that is on file later under the same id is what became of it: no id is given away
twice. -/
theorem Numbered.leads (h : s.Numbered) (d : Docket) (hv : v ∈ s.violations)
    (hv' : v' ∈ (s.after d).violations) (hid : v'.id = v.id) : v.Leads v' := by
  induction d using List.reverseRecOn generalizing v' with
  | nil => exact h.eq_of_id hv' hv hid ▸ .refl v'
  | append_singleton d step ih =>
    rw [after_concat] at hv'
    cases ((h.after d).apply_accounted step.1 step.2).origin v' hv' with
    | kept hu => exact ih hu hid
    | moved hu status hp he =>
      subst he
      exact (ih hu hid).trans (Violation.leads_moved step.1 hp)
    | remedied hu r he =>
      subst he
      exact (ih hu hid).trans (Violation.leads_withRemediation step.1 r _)
    | filed fresh =>
      -- its number was still free after `d`, but `v` had been on file long before
      obtain ⟨⟨k, hk, hnew⟩, -, -⟩ := fresh
      obtain ⟨j, hj, hold⟩ := h.issued v hv
      rw [hnew, hold, label_inj] at hid
      have := h.issued_le_after d
      omega

/-- A resolved violation has a time of resolution. -/
theorem resolvedAt_of_resolved (d : Docket) (hv : v ∈ (empty.after d).violations)
    (hs : v.status = .resolved) : v.resolvedAt.isSome = true := by
  induction d using List.reverseRecOn generalizing v with
  | nil => cases hv
  | append_singleton d step ih =>
    rw [after_concat] at hv
    cases ((numbered_empty.after d).apply_accounted step.1 step.2).origin v hv with
    | kept hu => exact ih hu hs
    | @moved u hu status hp he =>
      subst he
      have hstatus : status = .resolved := hs
      rw [Violation.moved_resolvedAt, if_pos hstatus]
      cases u.resolvedAt <;> rfl
    | remedied hu r he =>
      subst he
      have resolved := ih hu hs
      exact resolved
    | filed fresh =>
      rw [fresh.opened] at hs
      cases hs

end
end ViolationStore

namespace Docket

/-- The violations on file after a docket that starts with none. -/
def violations (d : Docket) : List Violation := (ViolationStore.empty.after d).violations

/-- Whether the violation with an id is in a status at the end of a part of a docket. -/
def Reached (d : Docket) (id : String) (status : ViolationStatus) : Prop :=
  ∃ v ∈ d.violations, v.id = id ∧ v.status = status

/-- The violation with an id was first resolved at a time: that of its update at the end of some
part of the docket, before which it was never resolved. -/
def FirstResolved (d : Docket) (id : String) (t : Instant) : Prop :=
  ∃ part : Docket, part <+: d ∧
    (∃ v ∈ part.violations, v.id = id ∧ v.status = .resolved ∧ v.updatedAt = t) ∧
    ∀ earlier : Docket, earlier <+: part → earlier ≠ part → ¬ earlier.Reached id .resolved

section
variable {d : Docket} {v : Violation}

theorem FirstResolved.concat {id : String} {t : Instant} (h : d.FirstResolved id t)
    (step : Instant × Motion) : FirstResolved (d ++ [step]) id t := by
  obtain ⟨part, hpart, resolved⟩ := h
  exact ⟨part, hpart.trans (List.prefix_append d [step]), resolved⟩

/-- What was resolved in a part of a docket has a time of resolution ever after. -/
theorem resolvedAt_of_reached {part : Docket} (hpart : part <+: d) (hv : v ∈ d.violations)
    (h : part.Reached v.id .resolved) : v.resolvedAt.isSome = true := by
  obtain ⟨later, rfl⟩ := hpart
  obtain ⟨u, hu, hid, hs⟩ := h
  obtain ⟨t, ht⟩ := Option.isSome_iff_exists.1 (ViolationStore.resolvedAt_of_resolved part hu hs)
  have leads := (ViolationStore.numbered_empty.after part).leads later hu
    (by rwa [← ViolationStore.after_append]) hid.symm
  rw [leads.resolved t ht]
  rfl

/-- The time of resolution is that of the first one. -/
theorem firstResolved_of_resolvedAt (d : Docket) {t : Instant} (hv : v ∈ d.violations)
    (ht : v.resolvedAt = some t) : d.FirstResolved v.id t := by
  induction d using List.reverseRecOn generalizing v with
  | nil => cases hv
  | append_singleton d step ih =>
    have hmem := hv
    rw [violations, ViolationStore.after_concat] at hmem
    cases ((ViolationStore.numbered_empty.after d).apply_accounted step.1 step.2).origin v hmem with
    | kept hu => exact (ih hu ht).concat step
    | @moved u hu status hp he =>
      subst he
      rw [Violation.moved_resolvedAt] at ht
      split at ht
      · next hstatus =>
        cases hr : u.resolvedAt with
        | some t' =>
          rw [hr] at ht
          cases ht
          exact (ih hu hr).concat step
        | none =>
          rw [hr] at ht
          cases ht
          -- a part that ends before this motion is a part of `d`, after which there was no time
          refine ⟨d ++ [step], List.prefix_refl _, ⟨_, hv, rfl, hstatus, rfl⟩, ?_⟩
          intro earlier hprefix hne hreached
          have hd : earlier <+: d := (List.prefix_concat_iff.1 hprefix).resolve_left hne
          have := resolvedAt_of_reached hd hu hreached
          rw [hr] at this
          cases this
      · exact (ih hu ht).concat step
    | remedied hu r he =>
      subst he
      exact (ih hu ht).concat step
    | filed fresh =>
      rw [fresh.unresolved] at ht
      cases ht

end

/-- A violation on file has been changed, and no other. -/
structure Changed (d : Docket) (v v' : Violation) (s' : ViolationStore) : Prop where
  onFile : v ∈ d.violations
  id : v'.id = v.id
  later : v.updatedAt < v'.updatedAt
  others : s'.violations = d.violations.map fun u => if u.id = v.id then v' else u

/-- What holds of the violations on file after a docket, and of whatever is done to them next. -/
structure Orderly (d : Docket) : Prop where
  /-- Statuses never move back, and false positive stays. -/
  forward : ∀ later : Docket, ∀ v ∈ d.violations, ∀ v' ∈ violations (d ++ later), v'.id = v.id →
    ¬ v'.status.IsBefore v.status ∧ (v.status = .falsePositive → v'.status = .falsePositive)
  refused : ∀ now id status m, (ViolationStore.empty.after d).setStatus now id status = .error m ↔
    ∃ v ∈ d.violations, v.id = id ∧ v.status.Forbids status ∧ m = ⟨id, v.status, status⟩
  /-- A status update that is refused changes nothing. -/
  unchanged : ∀ now id status m,
    (ViolationStore.empty.after d).setStatus now id status = .error m →
      (Motion.move id status).apply now (ViolationStore.empty.after d) =
        ViolationStore.empty.after d
  /-- A status update of a violation on file that is not refused is made. -/
  accepted : ∀ now status, ∀ v ∈ d.violations, ¬ v.status.Forbids status →
    ∃ s' v', (ViolationStore.empty.after d).setStatus now v.id status = .ok (some (s', v'))
  moved : ∀ now id status s' v',
    (ViolationStore.empty.after d).setStatus now id status = .ok (some (s', v')) →
      ∃ v, v.id = id ∧ d.Changed v v' s' ∧ v'.status = status ∧
        (status = .resolved → v.resolvedAt = none → v'.resolvedAt = some v'.updatedAt)
  /-- A remediation action is added to any violation on file. -/
  added : ∀ now r, ∀ v ∈ d.violations,
    ∃ s' r', (ViolationStore.empty.after d).addRemediation now v.id r = some (s', r')
  remedied : ∀ now id r s' r',
    (ViolationStore.empty.after d).addRemediation now id r = some (s', r') →
      ∃ v v', v.id = id ∧ d.Changed v v' s' ∧ v'.remediation = v.remediation ++ [r'] ∧
        r'.toRemedy = r
  /-- There is a time of resolution if the violation was ever resolved, and only then. -/
  resolved : ∀ v ∈ d.violations, v.resolvedAt.isSome = true ↔
    ∃ part : Docket, part <+: d ∧ part.Reached v.id .resolved
  first : ∀ v ∈ d.violations, ∀ t, v.resolvedAt = some t → d.FirstResolved v.id t
  /-- The time of resolution is never changed or taken away. -/
  kept : ∀ later : Docket, ∀ v ∈ d.violations, ∀ v' ∈ violations (d ++ later), v'.id = v.id →
    ∀ t, v.resolvedAt = some t → v'.resolvedAt = some t

section
variable (d : Docket)

theorem leads {later : Docket} {v v' : Violation} (hv : v ∈ d.violations)
    (hv' : v' ∈ violations (d ++ later)) (hid : v'.id = v.id) : v.Leads v' := by
  rw [violations, ViolationStore.after_append] at hv'
  exact (ViolationStore.numbered_empty.after d).leads later hv hv' hid

theorem changed_of_moved {now : Instant} {id : String} {status : ViolationStatus}
    {s' : ViolationStore} {v' : Violation}
    (h : (ViolationStore.empty.after d).setStatus now id status = .ok (some (s', v'))) :
    ∃ v, v.id = id ∧ d.Changed v v' s' ∧ v'.status = status ∧
      (status = .resolved → v.resolvedAt = none → v'.resolvedAt = some v'.updatedAt) := by
  obtain ⟨v, hv, hid, -, rfl, rfl⟩ := ViolationStore.setStatus_eq h
  refine ⟨v, hid, ⟨hv, rfl, lt_advance now v.updatedAt, rfl⟩, rfl, fun hs hr => ?_⟩
  rw [Violation.moved_resolvedAt, if_pos hs, hr]
  rfl

theorem changed_of_remedied {now : Instant} {id : String} {r : Remedy} {s' : ViolationStore}
    {r' : Remediation}
    (h : (ViolationStore.empty.after d).addRemediation now id r = some (s', r')) :
    ∃ v v', v.id = id ∧ d.Changed v v' s' ∧ v'.remediation = v.remediation ++ [r'] ∧
      r'.toRemedy = r := by
  obtain ⟨v, hv, hid, hr, hviolations, -⟩ := ViolationStore.addRemediation_eq h
  exact ⟨v, v.withRemediation now r', hid,
    ⟨hv, rfl, lt_advance now v.updatedAt, hviolations⟩, rfl, hr⟩

end

/-- **The life of a violation.** Whatever is done to the violations on file, and however the clock
is moved in between: statuses only move forward, exactly the updates that would lead back are
refused, and a violation has a time of resolution from its first resolution on. -/
theorem docket_orderly (d : Docket) : d.Orderly := by
  have numbered := ViolationStore.numbered_empty.after d
  refine ⟨fun later v hv v' hv' hid => ?_, fun _ _ _ _ => numbered.setStatus_error_iff, ?_, ?_,
    fun _ _ _ _ _ => changed_of_moved d,
    fun now r v hv => numbered.addRemediation_of_mem hv now r,
    fun _ _ _ _ _ => changed_of_remedied d, fun v hv => ?_,
    fun v hv t => firstResolved_of_resolvedAt d hv, ?_⟩
  · exact ViolationStatus.forward_of_permits (d.leads hv hv' hid).forward
  · intro now id status m h
    simp only [Motion.apply, h]
  · intro now status v hv hforbids
    have hp := ViolationStatus.permits_iff.2 hforbids
    exact ⟨_, _, numbered.setStatus_of_mem hv rfl hp⟩
  · constructor
    · intro h
      obtain ⟨t, ht⟩ := Option.isSome_iff_exists.1 h
      obtain ⟨part, hpart, ⟨u, hu, hid, hs, -⟩, -⟩ := firstResolved_of_resolvedAt d hv ht
      exact ⟨part, hpart, u, hu, hid, hs⟩
    · rintro ⟨part, hpart, hreached⟩
      exact resolvedAt_of_reached hpart hv hreached
  · intro later v hv v' hv' hid
    exact (d.leads hv hv' hid).resolved

end Docket
end Compliance
