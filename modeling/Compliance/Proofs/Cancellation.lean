import Compliance.Proofs.Isolation

/-!
# Responses that are cancelled from the start

A cancellation is noticed when a step is about to be taken, and then nothing has been done yet. So a
response that is cancelled before it begins leaves the world as it is, and the first playbook that
has a step breaks it off. A playbook without steps notices nothing: its run comes to its end, and
the next playbook gets its turn. Main statement: `respond_cancelled`.
-/
namespace Compliance

open Turn

/-! ## One playbook -/

namespace Playbook

/-- Whether a run of a playbook has a step to take. The limit is looked at before the watch is. -/
def hasStep (limit : Nat) (p : Playbook) : Bool := p.first?.isSome && decide (0 < limit)

/-- How a run ends that is cancelled from the start. -/
def cancelledEnding (limit : Nat) (p : Playbook) : Ending :=
  match p.first?, limit with
  | none, _ => .finished
  | some _, 0 => .failed (.stepLimit 0)
  | some _, _ + 1 => .interrupted .cancelledBefore

/-- The record of a run that is cancelled from the start. -/
def cancelledEntry (limit : Nat) (now : Calendar.Instant) (p : Playbook) : Execution :=
  ⟨p.id, now, (p.cancelledEnding limit).outcome, none⟩

variable {limit : Nat} {p : Playbook}

theorem hasStep_definition : p.definition.hasStep limit = p.hasStep limit := rfl

theorem cancelledEnding_of_hasStep (h : p.hasStep limit = true) :
    p.cancelledEnding limit = .interrupted .cancelledBefore := by
  unfold hasStep at h
  unfold cancelledEnding
  cases hfirst : p.first? with
  | none => simp [hfirst] at h
  | some s =>
    cases limit with
    | zero => simp at h
    | succ left => rfl

/-- A playbook gets by because it has no steps, or because the limit allows it none. -/
theorem cancelledEnding_of_not_hasStep (h : p.hasStep limit = false) :
    (p.steps = [] ∧ p.cancelledEnding limit = .finished) ∨
      (limit = 0 ∧ p.cancelledEnding limit = .failed (.stepLimit 0)) := by
  unfold hasStep at h
  unfold cancelledEnding
  cases hfirst : p.first? with
  | none => exact .inl ⟨List.head?_eq_none_iff.1 hfirst, rfl⟩
  | some s =>
    cases limit with
    | zero => exact .inr ⟨rfl, rfl⟩
    | succ left => simp [hfirst] at h

end Playbook

/-- A run that is cancelled from the start does nothing. -/
theorem Run.start_cancelled {t : Terms} {w : World} (hc : t.watch.isCancelled w.clock = true)
    (p : Playbook) (v : Violation) :
    Run.start t p v w = (⟨w, none⟩, p.cancelledEnding t.limit) := by
  unfold Run.start Playbook.cancelledEnding
  cases p.first? with
  | none => cases t.limit <;> rfl
  | some s =>
    cases hlimit : t.limit with
    | zero => rw [Run.walk, hlimit]
    | succ left => rw [Run.walk, if_pos hc]

/-! ## The turns of a response -/

section
variable {t : Terms} {v : Violation} {p : Playbook} {w : World}

/-- The turn of a playbook that is cancelled from the start. -/
def Turn.cancelled (limit : Nat) (w : World) (s : Violation × Playbook) : Turn :=
  ⟨s.1, s.2, w, ⟨w, none⟩, s.2.cancelledEnding limit⟩

theorem Turn.of_cancelled (hc : t.watch.isCancelled w.clock = true) :
    Turn.of t v p w = .cancelled t.limit w (v, p) := by
  rw [Turn.of, Run.start_cancelled hc]
  rfl

theorem Turn.interruption?_of_hasStep (h : p.hasStep t.limit = true) :
    (Turn.cancelled t.limit w (v, p)).interruption? = some .cancelledBefore := by
  simp only [Turn.cancelled, Turn.interruption?, Playbook.cancelledEnding_of_hasStep h]

theorem Turn.interruption?_of_not_hasStep (h : p.hasStep t.limit = false) :
    (Turn.cancelled t.limit w (v, p)).interruption? = none := by
  rcases Playbook.cancelledEnding_of_not_hasStep h with ⟨-, hending⟩ | ⟨-, hending⟩ <;>
    simp only [Turn.cancelled, Turn.interruption?, hending]

/-- The turns go up to the first playbook with a step, which is the last to get one. -/
theorem turns_cancelled (hc : t.watch.isCancelled w.clock = true) (ss : List (Violation × Playbook)) :
    turns t ss w =
      (ss.takeWhile (fun s => !s.2.hasStep t.limit) ++
        (ss.find? fun s => s.2.hasStep t.limit).toList).map (.cancelled t.limit w) := by
  induction ss with
  | nil => rfl
  | cons s ss ih =>
    obtain ⟨v, p⟩ := s
    have hof : Turn.of t v p w = .cancelled t.limit w (v, p) := Turn.of_cancelled hc
    cases h : p.hasStep t.limit with
    | true =>
      rw [turns_cons_of_some t ss (hof ▸ Turn.interruption?_of_hasStep h), hof]
      simp [h]
    | false =>
      -- the turn leaves the world as it is, so the rest of them find it so
      have hworld : (Turn.of t v p w).run.world = w := by rw [hof]; rfl
      rw [turns_cons_of_none t ss (hof ▸ Turn.interruption?_of_not_hasStep h), hworld, ih, hof]
      simp [h]

theorem worldAfter_cancelled (limit : Nat) (ss : List (Violation × Playbook)) :
    worldAfter (ss.map (.cancelled limit w)) w = w := by
  induction ss with
  | nil => rfl
  | cons s ss ih => exact ih

theorem flatMap_yields_cancelled (limit : Nat) (ss : List (Violation × Playbook)) :
    (ss.map (.cancelled limit w)).flatMap yields = [] := by
  refine List.flatMap_eq_nil_iff.2 fun x hx => ?_
  obtain ⟨s, -, rfl⟩ := List.mem_map.1 hx
  unfold yields
  split <;> rfl

/-- Turns are broken off exactly if there is a playbook with a step. -/
theorem interruption_cancelled (hc : t.watch.isCancelled w.clock = true)
    (ss : List (Violation × Playbook)) :
    interruption (turns t ss w) =
      (ss.find? fun s => s.2.hasStep t.limit).map fun _ => .cancelledBefore := by
  have hpassed : interruption ((ss.takeWhile fun s => !s.2.hasStep t.limit).map
      (.cancelled t.limit w)) = none := by
    refine List.findSome?_eq_none_iff.2 fun x hx => ?_
    obtain ⟨s, hs, rfl⟩ := List.mem_map.1 hx
    have hp := List.all_eq_true.1 List.all_takeWhile s hs
    exact Turn.interruption?_of_not_hasStep (by simpa using hp)
  rw [turns_cancelled hc, List.map_append, interruption_append_of_none _ hpassed]
  cases hfirst : ss.find? fun s => s.2.hasStep t.limit with
  | none => rfl
  | some s =>
    have hs : s.2.hasStep t.limit = true := by simpa using List.find?_some hfirst
    have hx := Turn.interruption?_of_hasStep (v := s.1) (w := w) hs
    simp [interruption, hx]

end

/-! ## A response -/

namespace Desk

/-- The playbooks that respond and get by, because they come before the first one with a step. -/
def passedOver (limit : Nat) (v : Violation) (d : Desk) : List Playbook :=
  (d.playbooksFor v).takeWhile fun p => !p.hasStep limit

/-- The first playbook that responds and has a step. -/
def firstWithStep? (limit : Nat) (v : Violation) (d : Desk) : Option Playbook :=
  (d.playbooksFor v).find? (·.hasStep limit)

/-- What a response leaves behind that is cancelled from the start, and what it gives back. -/
structure Stopped (t : Terms) (v : Violation) (d d' : Desk) (r : Responses) : Prop where
  /-- No incident is opened or changed, nothing is sent out or asked for, and no time passes. -/
  world : d'.world = d.world
  /-- On record come the playbooks that get by, and the one that breaks the response off. -/
  ledger : d'.ledger = d.ledger ++
    (d.passedOver t.limit v).map (·.cancelledEntry t.limit d.world.now) ++
    (d.firstWithStep? t.limit v).toList.map fun p =>
      ⟨p.id, d.world.now, .failure .cancelled, none⟩
  /-- Those that get by have no steps, and their runs succeed. -/
  passed : 0 < t.limit → ∀ p ∈ d.passedOver t.limit v,
    p.steps = [] ∧ p.cancelledEntry t.limit d.world.now = ⟨p.id, d.world.now, .success, none⟩
  /-- The response is broken off exactly if there is a playbook with a step. -/
  interruption : r.interruption =
    (d.firstWithStep? t.limit v).map fun _ => Interruption.cancelledBefore
  returned : r.returned? = if (d.firstWithStep? t.limit v).isSome then none else some []
  collected : ∀ earlier, r.collected earlier = earlier
  /-- A playbook with steps that is the first to respond is the only one on record. -/
  first : 0 < t.limit → ∀ p later, d.playbooksFor v = p :: later → p.steps ≠ [] →
    d'.ledger = d.ledger ++ [⟨p.id, d.world.now, .failure .cancelled, none⟩] ∧
      r.interruption = some .cancelledBefore

variable {t : Terms}

theorem firstWithStep?_of_first {v : Violation} {d : Desk} {p : Playbook} {later : List Playbook}
    {limit : Nat} (hlimit : 0 < limit) (hfirst : d.playbooksFor v = p :: later)
    (hsteps : p.steps ≠ []) :
    d.passedOver limit v = [] ∧ d.firstWithStep? limit v = some p := by
  have hp : p.hasStep limit = true := by
    simpa [Playbook.hasStep, Playbook.first?, hlimit] using hsteps
  simp [passedOver, firstWithStep?, hfirst, hp]

/-- The turns of a response that is cancelled from the start. -/
theorem turns_schedule_cancelled {d : Desk} (hc : t.watch.isCancelled d.world.clock = true)
    (v : Violation) :
    turns t (d.schedule v) d.world =
      (d.passedOver t.limit v ++ (d.firstWithStep? t.limit v).toList).map fun p =>
        .cancelled t.limit d.world (v, p.definition) := by
  rw [turns_cancelled hc]
  unfold schedule passedOver firstWithStep?
  rw [List.takeWhile_map, List.find?_map, Option.toList_map, ← List.map_append, List.map_map]
  rfl

theorem interruption_schedule_cancelled {d : Desk} (hc : t.watch.isCancelled d.world.clock = true)
    (v : Violation) : interruption (turns t (d.schedule v) d.world) =
      (d.firstWithStep? t.limit v).map fun _ => .cancelledBefore := by
  rw [interruption_cancelled hc, schedule, List.find?_map, Option.map_map]
  rfl

/-- On record come the playbooks that get by, and the first one with a step. -/
theorem ledger_cancelled {d : Desk} (hc : t.watch.isCancelled d.world.clock = true)
    (v : Violation) :
    (d.after (turns t (d.schedule v) d.world)).ledger = d.ledger ++
      (d.passedOver t.limit v).map (·.cancelledEntry t.limit d.world.now) ++
      (d.firstWithStep? t.limit v).toList.map fun p =>
        ⟨p.id, d.world.now, .failure .cancelled, none⟩ := by
  rw [after_ledger, turns_schedule_cancelled hc, List.map_map, List.map_append, List.append_assoc]
  congr 2
  refine List.map_congr_left fun p hp => ?_
  have hstep : p.hasStep t.limit = true := List.find?_some (Option.mem_toList.1 hp)
  simp only [Function.comp, Turn.cancelled, entry, Playbook.cancelledEnding_of_hasStep,
    Playbook.hasStep_definition, hstep]
  rfl

theorem steps_of_passedOver {limit : Nat} {v : Violation} {d : Desk} {p : Playbook}
    (hlimit : 0 < limit) (hp : p ∈ d.passedOver limit v) :
    p.steps = [] ∧ p.cancelledEnding limit = .finished := by
  have hstep : p.hasStep limit = false := by
    simpa using List.all_eq_true.1 List.all_takeWhile p hp
  rcases Playbook.cancelledEnding_of_not_hasStep hstep with hidle | ⟨hzero, -⟩
  · exact hidle
  · omega

/-- **A response that is cancelled from the start does nothing**, and the first playbook with a step
breaks it off. -/
theorem respond_cancelled {d : Desk} (hc : t.watch.isCancelled d.world.clock = true)
    (v : Violation) : Stopped t v d (d.respond t v).1 (d.respond t v).2 := by
  have hledger := ledger_cancelled hc v
  have hinterruption := interruption_schedule_cancelled hc v
  have hyields : (turns t (d.schedule v) d.world).flatMap yields = [] := by
    rw [turns_cancelled hc]
    exact flatMap_yields_cancelled t.limit _
  rw [respond_eq]
  refine ⟨?_, hledger, ?_, hinterruption, ?_, ?_, ?_⟩
  · rw [after_world, turns_cancelled hc]
    exact worldAfter_cancelled t.limit _
  · intro hlimit p hp
    obtain ⟨hsteps, hending⟩ := steps_of_passedOver hlimit hp
    exact ⟨hsteps, by rw [Playbook.cancelledEntry, hending]; rfl⟩
  · rw [Responses.returned?, responses, hinterruption, hyields]
    cases d.firstWithStep? t.limit v <;> rfl
  · intro earlier
    rw [Responses.collected, responses, hyields, List.append_nil]
  · intro hlimit p later hfirst hsteps
    obtain ⟨hpassed, hfound⟩ := firstWithStep?_of_first hlimit hfirst hsteps
    exact ⟨by rw [hledger, hpassed, hfound]; simp, by simp [hinterruption, hfound, responses]⟩

/-- Terms on which a response is cancelled before it begins. -/
def cancelledTerms : Terms := ⟨.recording, 100, ⟨true, none, none⟩⟩

theorem respond_cancelled_quiet :
    cancelledTerms.watch.isCancelled Desk.quiet.world.clock = true ∧
      Stopped cancelledTerms .leak .quiet (Desk.quiet.respond cancelledTerms .leak).1
        (Desk.quiet.respond cancelledTerms .leak).2 :=
  ⟨rfl, respond_cancelled rfl .leak⟩

/-- A desk with a playbook that has no steps. -/
def idle : Desk :=
  ⟨.fresh ⟨⟨0⟩, 0, 0⟩ "agent", .only { Playbook.patient with steps := [] } ⟨.text "patient", rfl⟩, []⟩

/-- A playbook without steps succeeds although its response was cancelled before. -/
theorem respond_cancelled_unnoticed :
    (Desk.idle.playbooksFor .leak).length = 1 ∧
      (Desk.idle.respond cancelledTerms .leak).2.returned? = some [] ∧
      (Desk.idle.respond cancelledTerms .leak).1.ledger =
        [⟨.text "patient", Desk.idle.world.now, .success, none⟩] :=
  ⟨by decide, by decide, rfl⟩

end Desk
end Compliance
