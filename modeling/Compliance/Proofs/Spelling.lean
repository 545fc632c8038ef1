import Compliance.Proofs.Links
import Compliance.Proofs.StepLimit
import Compliance.Proofs.Timeline

/-!
# Types that are spelled out

The type of a step may stand there as a plain text. A text that is no word for a type makes no
difference to the run: the step is passed over, and the run goes on as after a success. A text that
is a word spells a type, and the step is carried out as one of that type; but where such a step
would be done, the run trips over the spelling and fails. `Playbook.typed` puts the types in the
place of their words. A run is the run of the typed playbook, visit by visit, up to the first step
that it trips over (`walk_typed`). Main statement: `ran_spelled`.
-/
namespace Compliance

/-- The member in the place of its word. A text that is no word stays. -/
def Tag.typed {α : Type} [Vocabulary α] (tag : Tag α) : Tag α :=
  match tag.member? with
  | some a => .member a
  | none => tag

theorem Tag.member?_typed {α : Type} [Vocabulary α] {tag : Tag α} {a : α}
    (h : tag.member? = some a) : tag.typed.member? = some a := by
  rw [Tag.typed, h]
  rfl

namespace Step

def typed (s : Step) : Step := { s with type := s.type.typed }

/-- A run trips over a step whose type is spelled: with the type in the place of the word, the step
would be done, and leave the run as `after`. -/
structure Trips (t : Terms) (playbookId : Value) (v : Violation) (s : Step) (r after : Run)
    (success : Bool) : Prop where
  spelled : s.isSpelled = true
  done : r.take t playbookId v s.typed = (after, .done success)

end Step

/-- The playbook with the types of its steps in the place of their words. -/
def Playbook.typed (p : Playbook) : Playbook := { p with steps := p.steps.map (·.typed) }

namespace Visit

def typed (x : Visit) : Visit := { x with step := x.step.typed }

/-- The run trips over the step that is visited. -/
def Trips (t : Terms) (playbookId : Value) (v : Violation) (x : Visit) : Prop :=
  ∃ after success, x.step.Trips t playbookId v x.before after success

end Visit

/-! ## One step -/

namespace Step

variable {t : Terms} {playbookId : Value} {v : Violation} {s : Step} {r after : Run}
  {success : Bool}

/-- With the type in the place of its word, a step is not spelled any more. -/
theorem isSpelled_typed (s : Step) : s.typed.isSpelled = false := by
  obtain ⟨id, name, type, config, onSuccess, onFailure⟩ := s
  cases type with
  | member type => rfl
  | plain text =>
    cases h : member? (α := StepType) text <;> simp [isSpelled, typed, Tag.typed, Tag.member?, h]

theorem typed_of_not_spelled (h : s.isSpelled = false) : s.typed = s := by
  obtain ⟨id, name, type, config, onSuccess, onFailure⟩ := s
  cases type with
  | member type => rfl
  | plain text =>
    have hnone : member? (α := StepType) text = none := by simpa [isSpelled] using h
    simp only [typed, Tag.typed, Tag.member?, hnone]

theorem exists_type_of_spelled (h : s.isSpelled = true) :
    ∃ type, s.type.member? = some type := by
  cases htype : s.type with
  | member type => exact ⟨type, rfl⟩
  | plain text =>
    rw [isSpelled, htype] at h
    exact Option.isSome_iff_exists.1 h

/-- A step that is spelled is taken as the typed one, and then its spelling counts. -/
theorem take_of_spelled (h : s.isSpelled = true) :
    r.take t playbookId v s = s.verdict r (r.take t playbookId v s.typed) := by
  obtain ⟨type, hm⟩ := exists_type_of_spelled h
  have htyped : s.typed.type.member? = some type := Tag.member?_typed hm
  rw [Run.take_of_known hm, Run.take_of_known htyped, verdict_of_not_spelled s.isSpelled_typed]
  rfl

/-- What a step has done that a run trips over stays done, but nothing is bound by it. -/
theorem Trips.take (h : s.Trips t playbookId v r after success) :
    r.take t playbookId v s = ({ after with bound := r.bound }, .failed .unfit) := by
  rw [take_of_spelled h.spelled, h.done, verdict_done h.spelled]

/-- Every other step is taken as the typed one. -/
theorem take_typed (h : ∀ after success, ¬ s.Trips t playbookId v r after success) :
    r.take t playbookId v s.typed = r.take t playbookId v s := by
  cases hs : s.isSpelled with
  | false => rw [typed_of_not_spelled hs]
  | true =>
    rw [take_of_spelled hs]
    rcases verdict_cases s r (r.take t playbookId v s.typed) with
      hv | ⟨-, after, success, htake, -⟩
    · exact hv.symm
    · exact absurd ⟨hs, htake⟩ (h after success)

end Step

/-! ## A whole run -/

namespace Run

section
variable (t : Terms) (p : Playbook) (v : Violation)

/-- How a walk and its end compare with the walk of the typed playbook from the same place. -/
inductive Compares (xs : List Visit) (result : Run × Ending) (typedVisits : List Visit)
    (typedResult : Run × Ending) : Prop
  /-- They are alike, and the walk trips over nothing. -/
  | alike (even : ∀ x ∈ xs, ¬ x.Trips t p.id v) (visits : typedVisits = xs.map (·.typed))
      (walk : typedResult = result)
  /-- The walk trips over its last step, where the other one goes on. -/
  | trips (earlier : List Visit) (x : Visit) {later : List Visit} {after : Run} {success : Bool}
      (even : ∀ y ∈ earlier, ¬ y.Trips t p.id v)
      (trips : x.step.Trips t p.id v x.before after success)
      (visits : xs = earlier ++ [x])
      (walk : result = ({ after with bound := x.before.bound }, .failed .unfit))
      (typed : typedVisits =
        earlier.map (·.typed) ++ ⟨x.step.typed, x.before, .done success⟩ :: later)
      (rest : Walk t p.typed v ((next? p x.step success).map (·.typed)) after later
        typedResult.1 typedResult.2)

/-- How the walk from a step compares with the walk from the typed step. -/
abbrev WalkCompares (left : Nat) (s : Option Step) (r : Run) : Prop :=
  Compares t p v (visits t p v left s r) (walk t p v left s r)
    (visits t p.typed v left (s.map (·.typed)) r) (walk t p.typed v left (s.map (·.typed)) r)

variable {t p v}

/-- Links lead where they led before. -/
theorem next?_typed (s : Step) (success : Bool) :
    next? p.typed s.typed success = (next? p s success).map (·.typed) := by
  change (if (s.link success).truthy then p.typed.step? (s.link success) else none) =
    (if (s.link success).truthy then p.step? (s.link success) else none).map (·.typed)
  split
  · simp only [Playbook.step?, Playbook.typed, List.find?_map]
    rfl
  · rfl

section
variable {s : Step} {r r' : Run} {left : Nat}

/-- A walk that trips over its first step ends there. -/
theorem WalkCompares.trip (hc : t.watch.isCancelled r.world.clock = false) {success : Bool}
    (h : s.Trips t p.id v r r' success) : WalkCompares t p v (left + 1) (some s) r := by
  obtain ⟨hvisits, hwalk⟩ := visits_done (p := p.typed) hc h.done left
  have rest := walk_walk t p.typed v left (next? p.typed s.typed success) r'
  refine .trips [] ⟨s, r, .failed .unfit⟩ (by simp) h (visits_stop hc h.take nofun)
    (walk_of_failed left hc h.take) hvisits ?_
  rw [Option.map_some, hwalk, ← next?_typed]
  exact rest

/-- A walk that stops at its first step, and does not trip over it. -/
theorem WalkCompares.stop (hc : t.watch.isCancelled r.world.clock = false) {e : StepEnd}
    (even : ∀ after success, ¬ s.Trips t p.id v r after success)
    (h : r.take t p.id v s = (r', e)) (he : ∀ success, e ≠ .done success) :
    WalkCompares t p v (left + 1) (some s) r := by
  have htyped : r.take t p.typed.id v s.typed = (r', e) := (Step.take_typed even).trans h
  have hvisits : visits t p v (left + 1) (some s) r = [⟨s, r, e⟩] := visits_stop hc h he
  refine .alike ?_ ?_ ?_
  · rw [hvisits]
    rintro x hx ⟨after, success, htrips⟩
    rw [List.mem_singleton.1 hx] at htrips
    exact even after success htrips
  · rw [hvisits]
    exact visits_stop hc htyped he
  · cases e with
    | done success => exact absurd rfl (he success)
    | failed error => simp only [walk, hc, h, htyped, Option.map_some]
    | interrupted cause => simp only [walk, hc, h, htyped, Option.map_some]

/-- A walk that goes on after its first step compares as the rest of it does. -/
theorem WalkCompares.step (hc : t.watch.isCancelled r.world.clock = false) {success : Bool}
    (even : ∀ after success, ¬ s.Trips t p.id v r after success)
    (h : r.take t p.id v s = (r', .done success))
    (rest : WalkCompares t p v left (next? p s success) r') :
    WalkCompares t p v (left + 1) (some s) r := by
  have htyped : r.take t p.typed.id v s.typed = (r', .done success) :=
    (Step.take_typed even).trans h
  have hfirst : ¬ (⟨s, r, .done success⟩ : Visit).Trips t p.id v := by
    rintro ⟨after, success, htrips⟩
    exact even after success htrips
  obtain ⟨hvisits, hwalk⟩ := visits_done (v := v) hc h left
  obtain ⟨hvisits', hwalk'⟩ := visits_done (v := v) hc htyped left
  rw [next?_typed] at hvisits' hwalk'
  rw [WalkCompares, Option.map_some, hvisits, hwalk, hvisits', hwalk']
  cases rest with
  | alike even visits walk =>
    exact .alike (List.forall_mem_cons.2 ⟨hfirst, even⟩) (congrArg _ visits) walk
  | trips earlier x even trips visits walk typed rest =>
    exact .trips (_ :: earlier) x (List.forall_mem_cons.2 ⟨hfirst, even⟩) trips
      (congrArg _ visits) walk (congrArg _ typed) rest

end

/-- **A walk is the walk of the typed playbook**, up to the first step that it trips over. -/
theorem walk_typed (left : Nat) (s : Option Step) (r : Run) : WalkCompares t p v left s r := by
  induction left generalizing s r with
  | zero => cases s <;> exact .alike (by simp [visits]) rfl rfl
  | succ left ih =>
    cases s with
    | none => exact .alike (by simp [visits]) rfl rfl
    | some s =>
      cases hc : t.watch.isCancelled r.world.clock with
      | true => exact .alike (by simp [visits, hc]) (by simp [visits, hc]) (by simp [walk, hc])
      | false =>
        by_cases htrips : ∃ after success, s.Trips t p.id v r after success
        · obtain ⟨after, success, htrips⟩ := htrips
          exact .trip hc htrips
        · have even : ∀ after success, ¬ s.Trips t p.id v r after success :=
            fun after success h => htrips ⟨after, success, h⟩
          generalize htake : r.take t p.id v s = result
          obtain ⟨r', e⟩ := result
          cases e with
          | done success => exact .step hc even htake (ih (next? p s success) r')
          | failed error => exact .stop hc even htake (by simp)
          | interrupted cause => exact .stop hc even htake (by simp)

end

section
variable (t : Terms) (p : Playbook) (v : Violation) (w : World)

theorem start_typed : Compares t p v (startVisits t p v w) (start t p v w)
    (startVisits t p.typed v w) (start t p.typed v w) := by
  have hfirst : p.typed.first? = p.first?.map (·.typed) := List.head?_map
  unfold startVisits start
  rw [hfirst]
  exact walk_typed t.limit p.first? ⟨w, none⟩

/-- The run of a typed playbook trips over nothing. -/
theorem even_typed : ∀ x ∈ startVisits t p.typed v w, ¬ x.Trips t p.id v := by
  rintro x hx ⟨after, success, htrips⟩
  have hmem := (start_walk t p.typed v w).mem_steps (fun _ => mem_of_first?) hx
  obtain ⟨s, -, hs⟩ := List.mem_map.1 hmem
  have hspelled := htrips.spelled
  rw [← hs, Step.isSpelled_typed] at hspelled
  cases hspelled

end
end Run

/-! ## At the desk -/

namespace Desk

/-- What a run of a playbook comes to at the desk, where types of its steps may be spelled out. -/
structure Spelled (t : Terms) (p : Playbook) (v : Violation) (d : Desk) : Prop where
  /-- A step with a type that is unknown succeeds and leaves the run as it found it, and the run
  goes on with the step that comes after success. -/
  passes : ∀ earlier x later, Run.startVisits t p v d.world = earlier ++ x :: later →
    x.step.type.member? = none → x.ending = .done true ∧
      Run.Walk t p v (Run.next? p x.step true) x.before later (Run.start t p v d.world).1
        (Run.start t p v d.world).2
  /-- With the types in the place of their words, a run trips over nothing. -/
  typed : ∀ x ∈ Run.startVisits t p.typed v d.world, ¬ x.Trips t p.id v
  /-- A run that trips over nothing is the run of the typed playbook: it makes the same visits, has
  the same effects, ends in the same way, is put on record alike and gives the same back. -/
  alike : (∀ x ∈ Run.startVisits t p v d.world, ¬ x.Trips t p.id v) →
    Run.startVisits t p.typed v d.world = (Run.startVisits t p v d.world).map (·.typed) ∧
      Run.start t p.typed v d.world = Run.start t p v d.world ∧
      d.runAll t v [p.typed] = d.runAll t v [p]
  /-- A run that trips over a step is the run of the typed playbook until that step is done, but for
  an incident that the step has bound. There it ends, is put on record as a failure and gives
  nothing back, where the other run goes on. -/
  trips : ∀ x ∈ Run.startVisits t p v d.world, ∀ after success,
    x.step.Trips t p.id v x.before after success → ∃ earlier later,
      Run.startVisits t p v d.world = earlier ++ [x] ∧
      Run.startVisits t p.typed v d.world =
        earlier.map (·.typed) ++ ⟨x.step.typed, x.before, .done success⟩ :: later ∧
      Run.Walk t p.typed v ((Run.next? p x.step success).map (·.typed)) after later
        (Run.start t p.typed v d.world).1 (Run.start t p.typed v d.world).2 ∧
      d.runAll t v [p] =
        (d.conclude p { after with bound := x.before.bound } (.failed .unfit), ⟨[], none⟩) ∧
      (d.runAll t v [p]).1.ledger =
        d.ledger ++ [⟨p.id, after.world.now, .failure .unfit, x.before.bound⟩]

/-- Playbooks with the same id come to the same at the desk if their runs do. -/
theorem runAll_singleton_of_start {t : Terms} {p q : Playbook} {v : Violation} {d : Desk}
    (hid : q.id = p.id) (h : Run.start t q v d.world = Run.start t p v d.world) :
    d.runAll t v [q] = d.runAll t v [p] := by
  unfold runAll conclude
  rw [h, hid]

/-- **A type that is spelled out is as good as the type until its step is done.** Whatever texts
stand in the place of types: one that is no word is passed over, and one that is a word is
understood, but then the run fails. -/
theorem ran_spelled (t : Terms) (p : Playbook) (v : Violation) (d : Desk) : d.Spelled t p v where
  passes earlier x later hx hunknown := by
    obtain ⟨after, htake, next⟩ := (Run.start_walk t p v d.world).at_visit hx
    obtain ⟨hafter, hending⟩ := Prod.mk.inj (htake.symm.trans (Run.take_of_unknown hunknown))
    subst hafter
    exact ⟨hending, next true hending⟩
  typed := Run.even_typed t p v d.world
  alike even := by
    cases Run.start_typed t p v d.world with
    | alike _ visits walk => exact ⟨visits, walk, runAll_singleton_of_start rfl walk⟩
    | trips earlier x _ trips visits =>
      have hx : x ∈ Run.startVisits t p v d.world := by
        rw [visits]
        exact List.mem_concat_self
      exact absurd ⟨_, _, trips⟩ (even x hx)
  trips x hx after success htrips := by
    cases Run.start_typed t p v d.world with
    | alike even => exact absurd ⟨after, success, htrips⟩ (even x hx)
    | trips earlier y even trips visits walk typed rest =>
      -- the run trips over nothing earlier, so this is its last visit
      obtain rfl : x = y := by
        rw [visits] at hx
        rcases List.mem_append.1 hx with hx | hx
        · exact absurd ⟨after, success, htrips⟩ (even x hx)
        · exact List.mem_singleton.1 hx
      cases htrips.done.symm.trans trips.done
      have hran := runAll_singleton_failed walk
      exact ⟨earlier, _, visits, typed, rest, hran, by rw [hran]; rfl⟩

end Desk

/-! ## A type that is spelled out -/

/-- Opens an incident, in a step whose type is spelled out. -/
def Playbook.spelledOut : Playbook :=
  forSeverities "alert" "Alert" "Open an incident" []
    [{ actionStep "open" "Open" .createIncident none with type := .plain "action" }]

/-- **A word is not as good as the type.** With the type of its only step spelled out, a run opens
an incident just as with the type itself, but it fails and does not give the incident back. -/
theorem Desk.ran_spelled_lost :
    let t : Terms := ⟨.recording, 100, .none⟩
    let p := Playbook.spelledOut
    let spelled := Desk.vacant.runAll t .leak [p]
    let typed := Desk.vacant.runAll t .leak [p.typed]
    p.typed.steps = [Playbook.actionStep "open" "Open" .createIncident none] ∧
      typed.2.returned? = some ["incident-1"] ∧
      typed.1.ledger = [⟨p.id, Desk.vacant.world.now, .success, some "incident-1"⟩] ∧
      spelled.1.world = typed.1.world ∧ spelled.2.returned? = some [] ∧
      spelled.1.ledger = [⟨p.id, Desk.vacant.world.now, .failure .unfit, none⟩] :=
  ⟨rfl, by decide, rfl, rfl, rfl, rfl⟩

end Compliance
