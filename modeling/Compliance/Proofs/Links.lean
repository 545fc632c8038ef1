import Compliance.Proofs.Refusals
import Compliance.Proofs.Visits

/-!
# Where links lead

Links are kept as they were written, but ids are turned into texts. A link that was written as the
id of a step therefore leads to that step if it is a text, and a run that takes it goes on there
(`Run.visits_next`). A link that is a number or a truth value leads nowhere, not even to the step
with that very id, and a run that takes it is over (`Run.visits_last`). Main statement:
`read_links`.
-/
namespace Compliance

/-! ## After a visit -/

namespace Run

section
variable {t : Terms} {p : Playbook} {v : Violation} {left k : Nat} {s : Option Step} {r : Run}
  {x : Visit} {success : Bool}

/-- A walk goes on after a step that was done. -/
theorem visits_done {s : Step} {r r' : Run} {success : Bool}
    (hc : t.watch.isCancelled r.world.clock = false) (h : r.take t p.id v s = (r', .done success))
    (left : Nat) :
    visits t p v (left + 1) (some s) r =
        ⟨s, r, .done success⟩ :: visits t p v left (next? p s success) r' ∧
      walk t p v (left + 1) (some s) r = walk t p v left (next? p s success) r' := by
  constructor
  · simp [visits, hc, h]
  · simp [walk, hc, h]

/-- A step that was not done is the last one. -/
theorem visits_stop {s : Step} {r r' : Run} {e : StepEnd}
    (hc : t.watch.isCancelled r.world.clock = false) (h : r.take t p.id v s = (r', e))
    (he : ∀ b, e ≠ .done b) :
    visits t p v (left + 1) (some s) r = [⟨s, r, e⟩] := by
  cases e with
  | done success => exact absurd rfl (he success)
  | failed error => simp [visits, hc, h]
  | interrupted cause => simp [visits, hc, h]

/-- A walk is its visits up to one, and then the walk from the step that comes next. -/
theorem visits_after (hx : (visits t p v left s r)[k]? = some x) (he : x.ending = .done success) :
    k < left ∧ ∃ r',
      (visits t p v left s r).drop (k + 1) =
        visits t p v (left - (k + 1)) (next? p x.step success) r' ∧
      walk t p v left s r = walk t p v (left - (k + 1)) (next? p x.step success) r' := by
  induction left generalizing k s r with
  | zero => cases s <;> simp [visits] at hx
  | succ left ih =>
    cases s with
    | none => simp [visits] at hx
    | some s =>
      cases hc : t.watch.isCancelled r.world.clock with
      | true => simp [visits, hc] at hx
      | false =>
        generalize htake : r.take t p.id v s = result
        obtain ⟨r', e⟩ := result
        have hdone : ¬ ∀ b, e ≠ .done b := by
          intro hne
          rw [visits_stop hc htake hne, List.getElem?_singleton] at hx
          split at hx <;> cases hx
          exact hne success he
        cases e with
        | failed error => exact absurd nofun hdone
        | interrupted cause => exact absurd nofun hdone
        | done first =>
          obtain ⟨hvisits, hwalk⟩ := visits_done (v := v) hc htake left
          rw [hvisits] at hx ⊢
          rw [hwalk]
          cases k with
          | zero =>
            cases hx
            cases he
            exact ⟨Nat.succ_pos left, r', rfl, rfl⟩
          | succ k =>
            obtain ⟨hk, r'', hdrop, hrest⟩ := ih (List.getElem?_cons_succ.symm.trans hx)
            refine ⟨by omega, r'', ?_, ?_⟩
            · rw [List.drop_succ_cons, hdrop, Nat.add_sub_add_right]
            · rw [hrest, Nat.add_sub_add_right]

/-- A walk that may take a step takes it first, unless it is cancelled before. -/
theorem visits_head (left : Nat) (s : Step) (r : Run) :
    (∃ y, (visits t p v (left + 1) (some s) r)[0]? = some y ∧ y.step = s) ∨
      (walk t p v (left + 1) (some s) r).2 = .interrupted .cancelledBefore := by
  unfold visits walk
  split
  · exact .inr rfl
  · left
    split <;> exact ⟨_, rfl, rfl⟩

/-- After a visit comes a visit of the next step, unless the limit has been reached or the walk is
cancelled before. -/
theorem visits_next {s' : Step} (hx : (visits t p v left s r)[k]? = some x)
    (he : x.ending = .done success) (hnext : next? p x.step success = some s')
    (hleft : k + 1 < left) :
    (∃ y, (visits t p v left s r)[k + 1]? = some y ∧ y.step = s') ∨
      (walk t p v left s r).2 = .interrupted .cancelledBefore := by
  obtain ⟨-, r', hdrop, hwalk⟩ := visits_after hx he
  obtain ⟨more, hmore⟩ : ∃ m, left - (k + 1) = m + 1 := ⟨left - (k + 1) - 1, by omega⟩
  rw [hnext, hmore] at hdrop hwalk
  rcases visits_head (t := t) (p := p) (v := v) more s' r' with ⟨y, hy, hstep⟩ | hcancelled
  · refine .inl ⟨y, ?_, hstep⟩
    have hhead := congrArg (·[0]?) hdrop
    simp only [List.getElem?_drop, Nat.add_zero] at hhead
    rw [hhead, hy]
  · exact .inr (hwalk ▸ hcancelled)

/-- Where no step comes next, a visit is the last one, and the walk is finished. -/
theorem visits_last (hx : (visits t p v left s r)[k]? = some x) (he : x.ending = .done success)
    (hnext : next? p x.step success = none) :
    (visits t p v left s r).length = k + 1 ∧ (walk t p v left s r).2 = .finished := by
  obtain ⟨-, r', hdrop, hwalk⟩ := visits_after hx he
  have hnone : ∀ left, visits t p v left none r' = [] := fun left => by cases left <;> rfl
  have hwalk_none : ∀ left, walk t p v left none r' = (r', .finished) :=
    fun left => by cases left <;> rfl
  rw [hnext] at hdrop hwalk
  have hlength := congrArg List.length hdrop
  have hk := (List.getElem?_eq_some_iff.1 hx).1
  rw [hnone, List.length_drop, List.length_nil] at hlength
  refine ⟨by omega, ?_⟩
  rw [hwalk, hwalk_none]

end
end Run

/-! ## Looking up a link -/

/-- A value that a text equals is that text. -/
theorem Value.eq_text_of_text_same {v : Value} {name : String}
    (h : (Value.text name).same v = true) : v = .text name := by
  cases v with
  | scalar a => cases a <;> simp_all [same, Scalar.same, Scalar.number?, Scalar.instant?]
  | _ => simp [same] at h

/-- What comes after a step, as it was given. -/
def Step.link (s : Step) (success : Bool) : Value := if success then s.onSuccess else s.onFailure

namespace Playbook

variable {p : Playbook}

/-- A text leads to the step with that id, where ids are different. -/
theorem step?_text (h : (p.steps.map (·.id)).Nodup) {s : Step} (hs : s ∈ p.steps) :
    p.step? (.text s.id) = some s := by
  rw [step?, ← find?_of_nodup h hs]
  congr 1
  funext s'
  rw [Value.same_text, Bool.eq_iff_iff, beq_iff_eq, decide_eq_true_eq]

/-- Nothing but a text leads anywhere. -/
theorem step?_of_ne_text {link : Value} (h : ∀ name, link ≠ .text name) : p.step? link = none := by
  unfold step?
  rw [List.find?_eq_none]
  intro s _ hsame
  exact h s.id (Value.eq_text_of_text_same hsame)

end Playbook

/-! ## Entries and the steps built from them -/

namespace Definition

/-- What an entry for a step has under a key. -/
def entryField (entry : Value) (key : String) : Value := get (entry.entries?.getD []) key

/-- The key under which an entry says what comes after its step. -/
def linkKey (success : Bool) : String := if success then "on_success" else "on_failure"

/-- An entry refers to another: its link counts as true and equals the id of the other, as both are
written. -/
def Refers (entry other : Value) (success : Bool) : Prop :=
  (entryField entry (linkKey success)).truthy = true ∧
    (entryField entry (linkKey success)).same (entryField other "id") = true

/-- Where the link of a step leads that was written as the id of a step: to that step if it is a
text, and otherwise nowhere. -/
structure LinkOf (p : Playbook) (s target : Step) (success : Bool) : Prop where
  found : ∀ name, s.link success = .text name → p.step? (s.link success) = some target
  /-- A run that takes the link takes the step that it leads to, unless it has come to its limit or
  is cancelled before. -/
  followed : ∀ name, s.link success = .text name → ∀ t v w k x,
    (Run.startVisits t p v w)[k]? = some x → x.step = s → x.ending = .done success →
      k + 1 < t.limit →
        (∃ y, (Run.startVisits t p v w)[k + 1]? = some y ∧ y.step = target) ∨
          (Run.start t p v w).2 = .interrupted .cancelledBefore
  lost : (∀ name, s.link success ≠ .text name) → p.step? (s.link success) = none
  /-- A run that takes the link is over, and has succeeded. -/
  abandoned : (∀ name, s.link success ≠ .text name) → ∀ t v w k x,
    (Run.startVisits t p v w)[k]? = some x → x.step = s → x.ending = .done success →
      (Run.startVisits t p v w).length = k + 1 ∧
        (Run.start t p v w).2.outcome = .success

theorem nodup_of_distinct {ss : List String} (h : distinct ss = true) : ss.Nodup := by
  induction ss with
  | nil => exact List.nodup_nil
  | cons s ss ih =>
    simp only [distinct, Bool.and_eq_true, Bool.not_eq_true', List.contains_eq_mem,
      decide_eq_false_iff_not] at h
    exact List.nodup_cons.2 ⟨h.1, ih h.2⟩

theorem getElem?_of_mapM_eq_ok {ε α β : Type} {f : α → Except ε β} {xs : List α} {ys : List β}
    (h : xs.mapM f = .ok ys) {i : Nat} {x : α} (hx : xs[i]? = some x) :
    ∃ y, ys[i]? = some y ∧ f x = .ok y := by
  induction xs generalizing ys i with
  | nil => simp at hx
  | cons x₀ xs ih =>
    rw [List.mapM_cons] at h
    obtain ⟨y₀, hy₀, h⟩ := bind_eq_ok.1 h
    obtain ⟨ys₀, hys₀, h⟩ := bind_eq_ok.1 h
    cases h
    cases i with
    | zero =>
      cases hx
      exact ⟨y₀, rfl, hy₀⟩
    | succ i => exact ih hys₀ hx

/-- A step keeps the links of its entry, and has its id as text. -/
theorem step_fields {entry : Value} {s : Step} (h : step entry = .ok s) :
    s.id = (entryField entry "id").toText ∧
      ∀ success, s.link success = entryField entry (linkKey success) := by
  obtain ⟨es, hes, h⟩ := bind_eq_ok.1 h
  obtain ⟨type, htype, h⟩ := bind_eq_ok.1 h
  obtain ⟨_, -, h⟩ := bind_eq_ok.1 h
  obtain ⟨_, -, h⟩ := bind_eq_ok.1 h
  obtain ⟨_, -, h⟩ := bind_eq_ok.1 h
  obtain ⟨id, hid, h⟩ := bind_eq_ok.1 h
  obtain ⟨text, htext, h⟩ := bind_eq_ok.1 h
  cases h
  have hentries := entries?_of_mapping hes (require_eq_ok_iff.1 htype)
  have hfield : ∀ key, entryField entry key = get es key := by
    intro key
    simp only [entryField, hentries, Option.getD_some]
  constructor
  · rw [hfield]
    simp only [get, require_eq_ok_iff.1 hid, Option.getD_some]
    exact (written_eq_ok_iff.1 htext).2.symm
  · intro success
    rw [hfield]
    cases success <;> rfl

/-- The link of a step, where its entry refers to that of another step. -/
theorem linkOf_of_refers {p : Playbook} (hp : (p.steps.map (·.id)).Nodup) {entry other : Value}
    {s target : Step} (hs : step entry = .ok s) (htarget : step other = .ok target)
    (hmem : target ∈ p.steps) {success : Bool} (h : Refers entry other success) :
    LinkOf p s target success := by
  obtain ⟨htruthy, hsame⟩ := h
  have hlink := (step_fields hs).2 success
  rw [← hlink] at htruthy hsame
  have hnext : Run.next? p s success = p.step? (s.link success) := if_pos htruthy
  have found : ∀ name, s.link success = .text name → p.step? (s.link success) = some target := by
    intro name hname
    have hid : entryField other "id" = .text name :=
      Value.eq_text_of_text_same (hname ▸ hsame)
    have htext : target.id = name := by
      rw [(step_fields htarget).1, hid]
      rfl
    rw [hname, ← htext]
    exact Playbook.step?_text hp hmem
  have lost : (∀ name, s.link success ≠ .text name) → p.step? (s.link success) = none :=
    Playbook.step?_of_ne_text
  refine ⟨found, ?_, lost, ?_⟩
  · rintro name hname t v w k x hx rfl he hleft
    exact Run.visits_next hx he (hnext.trans (found name hname)) hleft
  · rintro hne t v w k x hx rfl he
    obtain ⟨hlength, hfinished⟩ := Run.visits_last hx he (hnext.trans (lost hne))
    refine ⟨hlength, ?_⟩
    change (Run.start t p v w).2 = .finished at hfinished
    rw [hfinished]
    rfl

/-- The steps of a playbook are built from the entries of its definition, and have different ids. -/
theorem steps_of_read {v : Value} {p : Playbook} (h : read v = .ok p) :
    ∃ es entries, v.entries? = some es ∧ elements (get es "steps") = .ok entries ∧
      entries.mapM step = .ok p.steps ∧ (p.steps.map (·.id)).Nodup := by
  obtain ⟨es, trigger, steps, hes, -, hbody, hdistinct, rfl⟩ := read_eq_ok_iff.1 h
  obtain ⟨_, -, hbody⟩ := bind_eq_ok.1 hbody
  obtain ⟨entries, hentries, hbody⟩ := bind_eq_ok.1 hbody
  obtain ⟨_, hsteps, hbody⟩ := bind_eq_ok.1 hbody
  cases hbody
  exact ⟨es, entries, hes, hentries, hsteps, nodup_of_distinct hdistinct⟩

/-- Wherever an entry of a definition refers to another one, the step built from it has the link as
it was written, which leads to the step built from the other entry or is lost. -/
def Linked (v : Value) (p : Playbook) : Prop :=
  ∃ es entries, v.entries? = some es ∧ elements (get es "steps") = .ok entries ∧
    ∀ (i j : Nat) (entry other : Value) (success : Bool), entries[i]? = some entry →
      entries[j]? = some other → Refers entry other success →
        ∃ s target, p.steps[i]? = some s ∧ step entry = .ok s ∧ p.steps[j]? = some target ∧
          step other = .ok target ∧ s.link success = entryField entry (linkKey success) ∧
          LinkOf p s target success

/-- **Where the links of a definition lead.** In every definition that is accepted: a link that was
written as the id of a step leads to the step built from that entry if it is a text, and leads
nowhere otherwise. -/
theorem read_links {v : Value} {p : Playbook} (h : read v = .ok p) : Linked v p := by
  obtain ⟨es, entries, hes, hentries, hsteps, hnodup⟩ := steps_of_read h
  refine ⟨es, entries, hes, hentries, ?_⟩
  intro i j entry other success hi hj hrefers
  obtain ⟨s, hs, hstep⟩ := getElem?_of_mapM_eq_ok hsteps hi
  obtain ⟨target, htarget, hother⟩ := getElem?_of_mapM_eq_ok hsteps hj
  exact ⟨s, target, hs, hstep, htarget, hother, (step_fields hstep).2 success,
    linkOf_of_refers hnodup hstep hother (List.mem_of_getElem? htarget) hrefers⟩

/-! ## Two steps, the first of which refers to the second -/

/-- An entry for a step that takes an action. -/
def actionEntry (id : Value) (kind : ActionKind) (link : Value) : Value :=
  .record [("id", id), ("type", .text "action"), ("config", .record [("action", .member kind)]),
    ("on_success", link)]

/-- A definition of two steps: an incident is opened, and then escalated. -/
def relay (first second : Value) : Value :=
  .record [("id", .text "relay"),
    ("steps", .list [actionEntry first .createIncident second,
      actionEntry second .escalate .null])]

theorem read_links_relay :
    Refers (actionEntry (.text "a") .createIncident (.text "b"))
        (actionEntry (.text "b") .escalate .null) true ∧
      ∃ p, read (relay (.text "a") (.text "b")) = .ok p ∧
        Linked (relay (.text "a") (.text "b")) p := by
  have hok : (read (relay (.text "a") (.text "b"))).isOk = true := by decide +kernel
  refine ⟨⟨by decide +kernel, by decide +kernel⟩, ?_⟩
  cases h : read (relay (.text "a") (.text "b")) with
  | ok p => exact ⟨p, rfl, read_links h⟩
  | error f =>
    rw [h] at hok
    cases hok

/-- **A link that is a number is lost.** The steps have the numbers 1 and 2 for ids, and the first
one refers to the second. The definition is accepted, but the link leads nowhere: a run is over
after the first step, and counts as a success. -/
theorem read_links_lost :
    let first := actionEntry (.int 1) .createIncident (.int 2)
    let second := actionEntry (.int 2) .escalate .null
    Refers first second true ∧
      ∃ p s target, read (relay (.int 1) (.int 2)) = .ok p ∧ p.steps = [s, target] ∧
        step first = .ok s ∧ step second = .ok target ∧ p.step? (s.link true) = none ∧
        let t : Terms := ⟨.recording, 100, .none⟩
        let w := World.fresh ⟨⟨0⟩, 0, 0⟩ "agent"
        (Run.startVisits t p .leak w).length = 1 ∧
          (Run.start t p .leak w).2.outcome = .success := by
  intro first second
  have hrefers : Refers first second true := ⟨by decide +kernel, by decide +kernel⟩
  have hrun : (match read (relay (.int 1) (.int 2)) with
      | .ok p =>
        (Run.startVisits ⟨.recording, 100, .none⟩ p .leak
          (.fresh ⟨⟨0⟩, 0, 0⟩ "agent")).length == 1 &&
        (match (Run.start ⟨.recording, 100, .none⟩ p .leak (.fresh ⟨⟨0⟩, 0, 0⟩ "agent")).2 with
          | .finished => true
          | _ => false)
      | .error _ => false) = true := by decide +kernel
  split at hrun
  · next p hp =>
    obtain ⟨es, entries, hes, hentries, hsteps, hnodup⟩ := steps_of_read hp
    cases hes
    cases hentries
    obtain ⟨s, hs, hrest⟩ := bind_eq_ok.1 ((List.mapM_cons ..).symm.trans hsteps)
    obtain ⟨rest, hrest, hcons⟩ := bind_eq_ok.1 hrest
    obtain ⟨target, htarget, hnil⟩ := bind_eq_ok.1 ((List.mapM_cons ..).symm.trans hrest)
    cases hnil
    have hlist : [s, target] = p.steps := Except.ok.inj hcons
    rw [Bool.and_eq_true, beq_iff_eq] at hrun
    have hlink : s.link true = .int 2 := (step_fields hs).2 true
    refine ⟨hrefers, p, s, target, hp, hlist.symm, hs, htarget, ?_, hrun.1, ?_⟩
    · exact Playbook.step?_of_ne_text (by simp [hlink])
    · cases hend : (Run.start ⟨.recording, 100, .none⟩ p .leak (.fresh ⟨⟨0⟩, 0, 0⟩ "agent")).2 with
      | finished => rfl
      | failed error => simp [hend] at hrun
      | interrupted cause => simp [hend] at hrun
  · cases hrun

end Definition
end Compliance
