import Compliance.Proofs.Echo
import Compliance.Proofs.Isolation

/-!
# Runs are independent of each other

What a response adds to a desk is, up to the time and to ids that are shifted, what each playbook
that responds adds when it is the only one and nothing has happened before, put one after the other.
Main statement: `respond_concatenates`.
-/
namespace Compliance

open Turn

/-- What a run adds to what is there. -/
structure Share where
  incidents : List Incident
  /-- How many incidents it opened. -/
  opened : Nat
  /-- How many events it recorded. -/
  recorded : Nat
  notices : List SentNotice
  requests : List SentRequest
  entry : Execution
  /-- The incident that it gives back. -/
  given : List String

/-- What a turn adds to the world before it. -/
def Turn.share (x : Turn) : Share where
  incidents := x.run.world.incidents.incidents.drop x.before.incidents.incidents.length
  opened := x.run.world.incidents.issued - x.before.incidents.issued
  recorded := x.run.world.incidents.events - x.before.incidents.events
  notices := x.run.world.outbox.notices.drop x.before.outbox.notices.length
  requests := x.run.world.outbox.requests.drop x.before.outbox.requests.length
  entry := x.entry
  given := x.yields

namespace Share

/-- A share is what a response comes to, at some other time, with the ids of incidents shifted by
`n` and those of events by `m`. -/
structure Echoes (n m : Nat) (p : Playbook) (v : Violation) (alone : Desk × Responses)
    (share : Share) : Prop where
  incidents : List.Forall₂ (Incident.Echo n m) alone.1.world.incidents.incidents share.incidents
  opened : share.opened = alone.1.world.incidents.issued
  recorded : share.recorded = alone.1.world.incidents.events
  notices : List.Forall₂ (SentNotice.Echo n p.steps v) alone.1.world.outbox.notices share.notices
  requests : List.Forall₂ SentRequest.Echo alone.1.world.outbox.requests share.requests
  ledger : ∃ e, alone.1.ledger = [e] ∧ share.entry.playbookId = e.playbookId ∧
    share.entry.outcome = e.outcome ∧
    Option.Rel (Shifted "incident" n) e.incidentId share.entry.incidentId
  given : List.Forall₂ (Shifted "incident" n) alone.2.incidentIds share.given

end Share

/-- A desk where nothing has happened. -/
def Desk.fresh (r : Registry) (clock : Calendar.Clock) (actor : String) : Desk :=
  ⟨.fresh clock actor, r, []⟩

/-- Shares are what playbooks do, each when it is the only one that is registered and whatever the
time, with ids that go on from `n` incidents and `m` events. -/
inductive Concatenated (t : Terms) (v : Violation) (actor : String) :
    Nat → Nat → List Playbook → List Share → Prop
  | nil (n m : Nat) : Concatenated t v actor n m [] []
  | cons {n m : Nat} {p : Playbook} {ps : List Playbook} {share : Share} {shares : List Share}
      {r : Registry} (alone : Registry.empty.add p = .ok r)
      (echoes : ∀ clock, share.Echoes n m p v ((Desk.fresh r clock actor).respond t v))
      (rest : Concatenated t v actor (n + share.opened) (m + share.recorded) ps shares) :
    Concatenated t v actor n m (p :: ps) (share :: shares)

/-- Shares are what is added to a world. -/
structure World.Adds (w : World) (shares : List Share) (w' : World) : Prop where
  incidents : w'.incidents.incidents = w.incidents.incidents ++ shares.flatMap (·.incidents)
  notices : w'.outbox.notices = w.outbox.notices ++ shares.flatMap (·.notices)
  requests : w'.outbox.requests = w.outbox.requests ++ shares.flatMap (·.requests)

theorem World.Adds.nil (w : World) : w.Adds [] w := ⟨by simp, by simp, by simp⟩

theorem World.Adds.cons {w w' w'' : World} {share : Share} {shares : List Share}
    (h : w.Adds [share] w') (h' : w'.Adds shares w'') : w.Adds (share :: shares) w'' where
  incidents := by simp [h'.incidents, h.incidents]
  notices := by simp [h'.notices, h.notices]
  requests := by simp [h'.requests, h.requests]

/-! ## One run -/

/-- A response of one playbook alone is its turn. -/
theorem Desk.respond_alone (t : Terms) {p : Playbook} (hk : ∃ k, p.id = .scalar k) {v : Violation}
    (hp : (p.enabled && p.trigger.accepts v) = true) (clock : Calendar.Clock) (actor : String) :
    (Desk.fresh (.only p hk) clock actor).respond t v =
      ((Desk.fresh (.only p hk) clock actor).after
          [Turn.of t v p.definition (.fresh clock actor)],
        responses [Turn.of t v p.definition (.fresh clock actor)]) := by
  have hschedule : (Desk.fresh (.only p hk) clock actor).schedule v = [(v, p.definition)] := by
    rw [Bool.and_eq_true] at hp
    simp [schedule, playbooksFor, Registry.enabled, Desk.fresh, Registry.only, hp]
  have hworld : (Desk.fresh (.only p hk) clock actor).world = .fresh clock actor := rfl
  rw [respond_eq, hschedule, hworld, turns_singleton]

/-- Turns that end alike give back what is bound. -/
theorem Turn.yields_rel {R : String → String → Prop} {x y : Turn} (he : y.ending = x.ending)
    (hb : Option.Rel R y.run.bound x.run.bound) : List.Forall₂ R y.yields x.yields := by
  unfold yields
  rw [he]
  cases x.ending with
  | finished =>
    simp only
    generalize y.run.bound = b', x.run.bound = b at hb ⊢
    cases hb with
    | none => exact .nil
    | some h => exact .cons h .nil
  | failed error => exact .nil
  | interrupted cause => exact .nil

section
variable {t : Terms} (ht : t.watch = .none) {f : Value → Option String}
  (hb : ∀ earlier request, t.backends.refuses? earlier request = f request.script)
include ht hb

theorem Turn.share_adds {p : Playbook} (hfinite : p.DelaysFinite) (v : Violation) (w : World) :
    w.Adds [(Turn.of t v p w).share] (Turn.of t v p w).run.world := by
  obtain ⟨-, echo⟩ := Run.start_echo ht hb hfinite v w w.clock
  refine ⟨?_, ?_, ?_⟩
  · rw [List.flatMap_singleton]
    exact echo.incidents.drop.1
  · rw [List.flatMap_singleton]
    exact echo.notices.drop.1
  · rw [List.flatMap_singleton]
    exact echo.requests.drop.1

/-- The share of a turn echoes the response of its playbook alone. -/
theorem Turn.share_echoes {p : Playbook} (hk : ∃ k, p.id = .scalar k) {v : Violation}
    (hp : (p.enabled && p.trigger.accepts v) = true) (hfinite : p.DelaysFinite) (w : World)
    (clock : Calendar.Clock) :
    (Turn.of t v p.definition w).share.Echoes w.incidents.issued w.incidents.events p v
      ((Desk.fresh (.only p hk) clock w.incidents.actor).respond t v) := by
  have hfinite' : p.definition.DelaysFinite := hfinite
  obtain ⟨hending, echo⟩ := Run.start_echo ht hb hfinite' v w clock
  rw [Desk.respond_alone t hk hp]
  refine ⟨echo.incidents.drop.2, ?_, ?_, echo.notices.drop.2, echo.requests.drop.2, ?_, ?_⟩
  · exact (congrArg (· - w.incidents.issued) echo.issued).trans (Nat.add_sub_cancel_left ..)
  · exact (congrArg (· - w.incidents.events) echo.events).trans (Nat.add_sub_cancel_left ..)
  · exact ⟨_, rfl, rfl, congrArg Ending.outcome hending.symm, echo.bound⟩
  · simp only [responses, List.flatMap_singleton]
    exact yields_rel hending echo.bound

/-! ## A whole response -/

/-- The turns of playbooks add their shares one after the other. -/
theorem turns_concatenated {v : Violation} {ps : List Playbook}
    (hps : ∀ p ∈ ps, (∃ k, p.id = .scalar k) ∧ (p.enabled && p.trigger.accepts v) = true ∧
      p.DelaysFinite) (w : World) :
    let xs := turns t (ps.map fun p => (v, p.definition)) w
    w.Adds (xs.map share) (worldAfter xs w) ∧
      Concatenated t v w.incidents.actor w.incidents.issued w.incidents.events ps
        (xs.map share) := by
  induction ps generalizing w with
  | nil => exact ⟨.nil w, .nil _ _⟩
  | cons p ps ih =>
    obtain ⟨hk, hp, hfinite⟩ := hps p List.mem_cons_self
    have hfinite' : p.definition.DelaysFinite := hfinite
    have hx : (Turn.of t v p.definition w).interruption? = none := by
      have h := Turn.of_unwatched t hfinite' v w
      rwa [Terms.unwatched_of_none ht] at h
    obtain ⟨-, echo⟩ := Run.start_echo ht hb hfinite' v w w.clock
    have hadds := Turn.share_adds ht hb hfinite' v w
    obtain ⟨hrest, hconcatenated⟩ :=
      ih (fun q hq => hps q (List.mem_cons_of_mem p hq)) (Turn.of t v p.definition w).run.world
    rw [List.map_cons, turns_cons_of_none t _ hx]
    -- the ids of the rest go on from those that the first turn took
    have hactor : (Turn.of t v p.definition w).run.world.incidents.actor = w.incidents.actor :=
      echo.actor
    have hissued : w.incidents.issued + (Turn.of t v p.definition w).share.opened =
        (Turn.of t v p.definition w).run.world.incidents.issued :=
      Nat.add_sub_cancel' (echo.issued ▸ Nat.le_add_right ..)
    have hevents : w.incidents.events + (Turn.of t v p.definition w).share.recorded =
        (Turn.of t v p.definition w).run.world.incidents.events :=
      Nat.add_sub_cancel' (echo.events ▸ Nat.le_add_right ..)
    rw [hactor, ← hissued, ← hevents] at hconcatenated
    exact ⟨hadds.cons hrest, .cons (Registry.empty_add hk)
      (Turn.share_echoes ht hb hk hp hfinite w) hconcatenated⟩

/-- **Runs are independent of each other.** A response adds, for every playbook that responds and in
the order of registration, what the playbook does when it is the only one that is registered and
nothing has happened before. -/
theorem Desk.respond_concatenates {d : Desk} (hd : ∀ p ∈ d.registry.playbooks, p.DelaysFinite)
    (v : Violation) :
    ∃ shares, d.world.Adds shares (d.respond t v).1.world ∧
      (d.respond t v).1.ledger = d.ledger ++ shares.map (·.entry) ∧
      (d.respond t v).2.incidentIds = shares.flatMap (·.given) ∧
      Concatenated t v d.world.incidents.actor d.world.incidents.issued d.world.incidents.events
        (d.playbooksFor v) shares := by
  have hps : ∀ p ∈ d.playbooksFor v, (∃ k, p.id = .scalar k) ∧
      (p.enabled && p.trigger.accepts v) = true ∧ p.DelaysFinite := by
    intro p hp
    obtain ⟨hmem, hresponds⟩ := mem_playbooksFor.1 hp
    exact ⟨d.registry.keyed.keys p hmem, hresponds, hd p hmem⟩
  obtain ⟨hadds, hconcatenated⟩ := turns_concatenated ht hb hps d.world
  rw [respond_eq]
  refine ⟨(turns t (d.schedule v) d.world).map share, ?_, ?_, ?_, hconcatenated⟩
  · rwa [after_world]
  · rw [after_ledger, List.map_map]
    rfl
  · rw [List.flatMap_map]
    rfl

end

theorem Desk.respond_concatenates_quiet :
    let t : Terms := ⟨Backends.recording.withoutRemediation, 100, .none⟩
    t.watch = .none ∧
      (∀ earlier request, t.backends.refuses? earlier request =
        some (request.script.toText ++ " failed")) ∧
      (∀ p ∈ Desk.quiet.registry.playbooks, p.DelaysFinite) ∧
      ∃ shares, Desk.quiet.world.Adds shares (Desk.quiet.respond t .leak).1.world ∧
        (Desk.quiet.respond t .leak).1.ledger = [] ++ shares.map (·.entry) ∧
        (Desk.quiet.respond t .leak).2.incidentIds = shares.flatMap (·.given) ∧
        Concatenated t .leak "agent" 0 0 (Desk.quiet.playbooksFor .leak) shares := by
  intro t
  refine ⟨rfl, fun _ _ => rfl, quiet_delaysFinite, ?_⟩
  exact respond_concatenates rfl (f := fun script => some (script.toText ++ " failed"))
    (fun _ _ => rfl) quiet_delaysFinite .leak

end Compliance
