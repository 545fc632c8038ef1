import Compliance.Proofs.Traversal
import Compliance.Proofs.Registration
import Mathlib.Data.List.Induction

/-!
# The playbooks on file are told by their history

An `Edit` adds, switches or deletes a playbook under a text, and a history is a list of edits, the
earliest first. What a history says of an id is read off it without running it: what was last added
since the id was last deleted, how it was last switched, and where it was first added since. The
registry that a history leads to lists just that, in the order of these first additions. Main
statement: `edited_catalogued`.
-/
namespace Compliance

/-- What can be done to the playbooks on file, each under a text. -/
inductive Edit where
  | add (id : String) (p : Playbook) (named : p.id = .text id)
  | toggle (id : String) (enabled : Bool)
  | delete (id : String)

namespace Edit

/-- The id that an edit is about. -/
def id : Edit → String
  | .add id _ _ => id
  | .toggle id _ => id
  | .delete id => id

/-- The playbook that an edit adds under an id. -/
def added? (id : String) : Edit → Option Playbook
  | .add i p _ => if i = id then some p else none
  | _ => none

/-- How an edit leaves the switch of the playbook with an id. -/
def switch? (id : String) : Edit → Option Bool
  | .add i p _ => if i = id then some p.enabled else none
  | .toggle i enabled => if i = id then some enabled else none
  | .delete _ => none

/-- Whether an edit deletes an id. -/
def deletes (id : String) : Edit → Bool
  | .delete i => i = id
  | _ => false

/-- Carries out an edit, and answers whether there was something to switch or to delete. -/
def perform (a : Agent) : Edit → Except ShapeFault (Agent × Bool)
  | .add _ p _ => (a.addPlaybook p).map (·, true)
  | .toggle id enabled =>
    match a.togglePlaybook (.text id) enabled with
    | some a => .ok (a, true)
    | none => .ok (a, false)
  | .delete id =>
    match a.deletePlaybook (.text id) with
    | some a => .ok (a, true)
    | none => .ok (a, false)

end Edit

/-- An agent after a history of edits. -/
def Agent.edited (a : Agent) (h : List Edit) : Except ShapeFault Agent :=
  h.foldlM (fun a e => (e.perform a).map (·.1)) a

/-! ## What a history says -/

namespace History

/-- The edits after the last one that deletes an id. -/
def since (id : String) (h : List Edit) : List Edit :=
  (h.reverse.takeWhile fun e => !e.deletes id).reverse

/-- The playbook that was last added under an id since it was last deleted. -/
def definition? (id : String) (h : List Edit) : Option Playbook :=
  ((since id h).filterMap (·.added? id)).getLast?

/-- How the playbook with an id was last left by an addition or a switch. -/
def switch? (id : String) (h : List Edit) : Option Bool :=
  ((since id h).filterMap (·.switch? id)).getLast?

/-- The playbook that stands under an id. -/
def current? (id : String) (h : List Edit) : Option Playbook :=
  (definition? id h).map fun p => { p with enabled := (switch? id h).getD p.enabled }

/-- The place in the history of the first addition under an id since it was last deleted. -/
def founded (id : String) (h : List Edit) : Nat :=
  h.length - (since id h).length + (since id h).findIdx fun e => (e.added? id).isSome

section
variable {h : List Edit} {e : Edit} {id : String} {p : Playbook}

theorem since_concat : since id (h ++ [e]) = if e.deletes id then [] else since id h ++ [e] := by
  unfold since
  rw [reverse_takeWhile_concat]
  cases e.deletes id <;> rfl

theorem length_since_le (id : String) (h : List Edit) : (since id h).length ≤ h.length := by
  have hsublist : (h.reverse.takeWhile fun e => !e.deletes id).Sublist h.reverse :=
    List.takeWhile_sublist _
  simpa [since] using hsublist.length_le

theorem definition?_concat (hdeletes : e.deletes id = false) :
    definition? id (h ++ [e]) = (e.added? id).or (definition? id h) := by
  unfold definition?
  rw [since_concat, hdeletes, if_neg Bool.false_ne_true, getLast?_filterMap_concat]

theorem switch?_concat (hdeletes : e.deletes id = false) :
    switch? id (h ++ [e]) = (e.switch? id).or (switch? id h) := by
  unfold switch?
  rw [since_concat, hdeletes, if_neg Bool.false_ne_true, getLast?_filterMap_concat]

theorem current?_eq_some (hcurrent : current? id h = some p) :
    ∃ d, definition? id h = some d ∧ p = { d with enabled := (switch? id h).getD d.enabled } := by
  obtain ⟨d, hd, rfl⟩ := Option.map_eq_some_iff.1 hcurrent
  exact ⟨d, hd, rfl⟩

/-- What stands under an id has that id. -/
theorem id_of_current? (hcurrent : current? id h = some p) : p.id = .text id := by
  obtain ⟨d, hd, rfl⟩ := current?_eq_some hcurrent
  obtain ⟨e, -, hadded⟩ := List.mem_filterMap.1 (List.mem_of_getLast? hd)
  cases e with
  | add i d' named =>
    simp only [Edit.added?] at hadded
    split at hadded
    · next hi =>
      cases hadded
      rw [← hi]
      exact named
    · cases hadded
  | toggle i enabled => cases hadded
  | delete i => cases hadded

/-- What stands under an id is switched as it was last left. -/
theorem switch?_of_current? (hcurrent : current? id h = some p) :
    switch? id h = some p.enabled := by
  obtain ⟨d, hd, rfl⟩ := current?_eq_some hcurrent
  obtain ⟨e, he, hadded⟩ := List.mem_filterMap.1 (List.mem_of_getLast? hd)
  have hswitch : e.switch? id = some d.enabled := by
    cases e <;> simp_all [Edit.added?, Edit.switch?]
  have hmem : d.enabled ∈ (since id h).filterMap (·.switch? id) :=
    List.mem_filterMap.2 ⟨e, he, hswitch⟩
  have hlast : (switch? id h).isSome = true :=
    List.getLast?_isSome.2 (List.ne_nil_of_mem hmem)
  obtain ⟨enabled, henabled⟩ := Option.isSome_iff_exists.1 hlast
  simp [henabled]

/-! ### One more edit -/

theorem current?_of_ne (e : Edit) (hid : e.id ≠ id) : current? id (h ++ [e]) = current? id h := by
  have hdeletes : e.deletes id = false := by cases e <;> simp_all [Edit.id, Edit.deletes]
  have hadded : e.added? id = none := by cases e <;> simp_all [Edit.id, Edit.added?]
  have hswitch : e.switch? id = none := by cases e <;> simp_all [Edit.id, Edit.switch?]
  unfold current?
  rw [definition?_concat hdeletes, switch?_concat hdeletes, hadded, hswitch]
  rfl

theorem current?_add (named : p.id = .text id) :
    current? id (h ++ [.add id p named]) = some p := by
  have hdeletes : (Edit.add id p named).deletes id = false := rfl
  unfold current?
  rw [definition?_concat hdeletes, switch?_concat hdeletes]
  simp [Edit.added?, Edit.switch?]

theorem current?_toggle (enabled : Bool) :
    current? id (h ++ [.toggle id enabled]) =
      (current? id h).map fun p => { p with enabled } := by
  have hdeletes : (Edit.toggle id enabled).deletes id = false := rfl
  unfold current?
  rw [definition?_concat hdeletes, switch?_concat hdeletes]
  cases definition? id h <;> simp [Edit.added?, Edit.switch?]

theorem current?_delete : current? id (h ++ [.delete id]) = none := by
  unfold current? definition?
  rw [since_concat]
  simp [Edit.deletes]

/-- Something stands under an id exactly if the id was added since it was last deleted. -/
theorem isSome_current?_iff :
    (current? id h).isSome = true ↔ ∃ e ∈ since id h, (e.added? id).isSome = true := by
  unfold current? definition?
  rw [Option.isSome_map, List.getLast?_isSome]
  simp [List.filterMap_eq_nil_iff, Option.isSome_iff_ne_none]

theorem findIdx_since_lt (hcurrent : (current? id h).isSome = true) :
    ((since id h).findIdx fun e => (e.added? id).isSome) < (since id h).length :=
  List.findIdx_lt_length.2 (isSome_current?_iff.1 hcurrent)

theorem founded_lt (hcurrent : (current? id h).isSome = true) : founded id h < h.length := by
  have hfirst := findIdx_since_lt hcurrent
  have hlength := length_since_le id h
  unfold founded
  omega

/-- An id that stays keeps its place. -/
theorem founded_concat (hcurrent : (current? id h).isSome = true)
    (hdeletes : e.deletes id = false) : founded id (h ++ [e]) = founded id h := by
  unfold founded
  rw [since_concat, hdeletes, if_neg Bool.false_ne_true, List.findIdx_append,
    if_pos (findIdx_since_lt hcurrent), List.length_append, List.length_append,
    List.length_singleton, Nat.add_sub_add_right]

/-- An id that is new, or new since it was deleted, is founded at the end. -/
theorem founded_add (hcurrent : current? id h = none) (named : p.id = .text id) :
    founded id (h ++ [.add id p named]) = h.length := by
  have hnone : ∀ e ∈ since id h, (e.added? id).isSome = false := by
    intro e he
    rw [Bool.eq_false_iff]
    intro hadded
    have hsome := isSome_current?_iff.2 ⟨e, he, hadded⟩
    rw [hcurrent] at hsome
    cases hsome
  have hfirst : ((since id h).findIdx fun e => (e.added? id).isSome) = (since id h).length :=
    List.findIdx_eq_length.2 hnone
  have hself : ((Edit.add id p named).added? id).isSome = true := by simp [Edit.added?]
  have hdeletes : (Edit.add id p named).deletes id = false := rfl
  have hlength := length_since_le id h
  unfold founded
  rw [since_concat, hdeletes, if_neg Bool.false_ne_true, List.findIdx_append, hfirst,
    if_neg (Nat.lt_irrefl _), List.findIdx_singleton, if_pos hself, List.length_append,
    List.length_append]
  omega

end

/-- Whether a text was founded before another. -/
def Precedes (h : List Edit) (u v : Value) : Prop :=
  ∃ i j, u = .text i ∧ v = .text j ∧ founded i h < founded j h

/-- A registry lists what a history says, in the order in which it was founded. -/
structure Lists (h : List Edit) (r : Registry) : Prop where
  members : ∀ p, p ∈ r.playbooks ↔ ∃ id, current? id h = some p
  order : (r.playbooks.map (·.id)).Pairwise (Precedes h)

section
variable {h : List Edit} {e : Edit} {r r' : Registry}

theorem lists_empty : Lists [] .empty :=
  ⟨fun p => ⟨fun hp => absurd hp List.not_mem_nil, fun ⟨id, hid⟩ => by cases hid⟩, .nil⟩

theorem Lists.isSome_of_mem (hr : Lists h r) {p : Playbook} (hp : p ∈ r.playbooks) {id : String}
    (hid : p.id = .text id) : (current? id h).isSome = true := by
  obtain ⟨i, hcurrent⟩ := (hr.members p).1 hp
  have hi := id_of_current? hcurrent
  rw [hid] at hi
  cases hi
  rw [hcurrent]
  rfl

/-- The ids that stay, without the one that is deleted, stay in their order. -/
theorem Lists.order_concat (hr : Lists h r) {ids : List Value}
    (hids : ids.Sublist (r.playbooks.map (·.id)))
    (hdeletes : ∀ id, .text id ∈ ids → e.deletes id = false) :
    ids.Pairwise (Precedes (h ++ [e])) := by
  refine (hr.order.sublist hids).imp_of_mem fun {u v} hu hv huv => ?_
  obtain ⟨i, j, rfl, rfl, hij⟩ := huv
  have hkeeps : ∀ {id}, .text id ∈ ids → founded id (h ++ [e]) = founded id h := by
    intro id hid
    obtain ⟨p, hp, hpid⟩ := List.mem_map.1 (hids.subset hid)
    exact founded_concat (hr.isSome_of_mem hp hpid) (hdeletes id hid)
  exact ⟨i, j, rfl, rfl, by rw [hkeeps hu, hkeeps hv]; exact hij⟩

theorem hasId_text {p : Playbook} {i : String} (hid : p.id = .text i) (j : String) :
    p.hasId (.text j) = (i == j) := by
  rw [Playbook.hasId, hid, Value.alike_scalar, Scalar.alike_text]

/-- The registry is asked by the ids of the history. -/
theorem Lists.get? (hr : Lists h r) (id : String) : r.get? (.text id) = current? id h := by
  cases hcurrent : current? id h with
  | some p =>
    have hp := (hr.members p).2 ⟨id, hcurrent⟩
    rw [← id_of_current? hcurrent]
    exact Registry.get?_of_mem hp
  | none =>
    refine List.find?_eq_none.2 fun p hp hid => ?_
    obtain ⟨i, hi⟩ := (hr.members p).1 hp
    rw [hasId_text (id_of_current? hi), beq_iff_eq] at hid
    rw [← hid, hi] at hcurrent
    cases hcurrent

/-! ### Each edit -/

/-- An edit is about one id: under the others everything stays. -/
theorem Lists.members_concat (hr : Lists h r)
    (hothers : ∀ q : Playbook, q.hasId (.text e.id) = false →
      (q ∈ r'.playbooks ↔ q ∈ r.playbooks))
    (hown : ∀ q : Playbook, q.hasId (.text e.id) = true →
      (q ∈ r'.playbooks ↔ current? e.id (h ++ [e]) = some q)) (q : Playbook) :
    q ∈ r'.playbooks ↔ ∃ id, current? id (h ++ [e]) = some q := by
  constructor
  · intro hq
    cases hid : q.hasId (.text e.id) with
    | true => exact ⟨e.id, (hown q hid).1 hq⟩
    | false =>
      obtain ⟨i, hi⟩ := (hr.members q).1 ((hothers q hid).1 hq)
      rw [hasId_text (id_of_current? hi), beq_eq_false_iff_ne] at hid
      exact ⟨i, by rw [current?_of_ne e hid.symm, hi]⟩
  · rintro ⟨i, hi⟩
    by_cases hid : e.id = i
    · subst hid
      exact (hown q (by rw [hasId_text (id_of_current? hi), beq_self_eq_true])).2 hi
    · have hother : q.hasId (.text e.id) = false := by
        rw [hasId_text (id_of_current? hi), beq_eq_false_iff_ne]
        exact Ne.symm hid
      rw [current?_of_ne e hid] at hi
      exact (hothers q hother).2 ((hr.members q).2 ⟨i, hi⟩)

theorem Lists.add (hr : Lists h r) {id : String} {p : Playbook} (named : p.id = .text id)
    (hadd : r.add p = .ok r') (hregistered : Registered p r r') :
    Lists (h ++ [.add id p named]) r' := by
  have hmem (q : Playbook) : q ∈ r'.playbooks ↔
      q = p ∨ q ∈ r.playbooks ∧ q.hasId (.text id) = false := by
    rw [hregistered.mem_iff, named]
  have hself : p.hasId (.text id) = true := by rw [hasId_text named, beq_self_eq_true]
  refine ⟨hr.members_concat (fun q hid => ?_) fun q hid => ?_, ?_⟩
  · have hne : q ≠ p := by
      rintro rfl
      rw [Edit.id, hself] at hid
      cases hid
    rw [hmem]
    exact ⟨fun hq => (hq.resolve_left hne).1, fun hq => .inr ⟨hq, hid⟩⟩
  · rw [Edit.id] at hid
    rw [hmem, Edit.id, current?_add named, hid]
    simp [eq_comm]
  · have hstay := hr.order_concat (e := .add id p named) (List.Sublist.refl _) fun _ _ => rfl
    rw [Registry.playbooks_of_add hadd]
    rcases Registry.put_eq p r.playbooks with ⟨before, q, after, hplaybooks, hq, -, hput⟩ |
      ⟨hnew, hput⟩
    · -- The playbook takes the place of one with its id.
      obtain ⟨i, hi⟩ := (hr.members q).1 (by rw [hplaybooks]; simp)
      have hqid := id_of_current? hi
      rw [named, hasId_text hqid, beq_iff_eq] at hq
      rw [hplaybooks, List.map_append, List.map_cons, hqid, hq, ← named, ← List.map_cons,
        ← List.map_append, ← hput] at hstay
      exact hstay
    · -- The playbook comes last, and nothing was founded later.
      have hnone : current? id h = none := by
        cases hcurrent : current? id h with
        | none => rfl
        | some q =>
          have hself := hnew q ((hr.members q).2 ⟨id, hcurrent⟩)
          rw [named, hasId_text (id_of_current? hcurrent), beq_self_eq_true] at hself
          cases hself
      rw [hput, List.map_append, List.pairwise_append]
      refine ⟨hstay, List.pairwise_singleton _ _, fun u hu v hv => ?_⟩
      obtain ⟨q, hq, rfl⟩ := List.mem_map.1 hu
      obtain ⟨i, hi⟩ := (hr.members q).1 hq
      have hsome : (current? i h).isSome = true := by rw [hi]; rfl
      rw [List.map_singleton, List.mem_singleton] at hv
      refine ⟨i, id, id_of_current? hi, hv.trans named, ?_⟩
      rw [founded_concat hsome rfl, founded_add hnone named]
      exact founded_lt hsome

theorem Lists.toggle (hr : Lists h r) (id : String) (enabled : Bool) :
    Lists (h ++ [.toggle id enabled]) (r.toggle (.text id) enabled) := by
  have hmem (q : Playbook) : q ∈ (r.toggle (.text id) enabled).playbooks ↔
      ∃ p ∈ r.playbooks, (if p.hasId (.text id) then { p with enabled } else p) = q := by
    change q ∈ r.playbooks.map _ ↔ _
    rw [List.mem_map]
  have hsame (p : Playbook) :
      (if p.hasId (.text id) then { p with enabled } else p).hasId (.text id) =
        p.hasId (.text id) := by split <;> rfl
  refine ⟨hr.members_concat (fun q hid => ?_) fun q hid => ?_, ?_⟩
  · rw [Edit.id] at hid
    rw [hmem]
    constructor
    · rintro ⟨p, hp, rfl⟩
      rw [hsame] at hid
      simpa [hid] using hp
    · exact fun hq => ⟨q, hq, by simp [hid]⟩
  · rw [Edit.id] at hid
    rw [hmem, Edit.id, current?_toggle, Option.map_eq_some_iff]
    constructor
    · rintro ⟨p, hp, rfl⟩
      rw [hsame] at hid
      obtain ⟨i, hi⟩ := (hr.members p).1 hp
      have hi' := hid
      rw [hasId_text (id_of_current? hi), beq_iff_eq] at hi'
      exact ⟨p, hi' ▸ hi, by simp [hid]⟩
    · rintro ⟨p, hp, rfl⟩
      exact ⟨p, (hr.members p).2 ⟨id, hp⟩, by simp [hasId_text (id_of_current? hp)]⟩
  · have hids : (r.toggle (.text id) enabled).playbooks.map (·.id) = r.playbooks.map (·.id) := by
      refine (List.map_map ..).trans (List.map_congr_left fun p _ => ?_)
      simp only [Function.comp]
      split <;> rfl
    exact hr.order_concat (by rw [hids]) fun _ _ => rfl

theorem Lists.delete (hr : Lists h r) (id : String) :
    Lists (h ++ [.delete id]) (r.delete (.text id)) := by
  have hmem (q : Playbook) : q ∈ (r.delete (.text id)).playbooks ↔
      q ∈ r.playbooks ∧ q.hasId (.text id) = false := by simp [Registry.delete]
  refine ⟨hr.members_concat (fun q hid => ?_) fun q hid => ?_, ?_⟩
  · rw [hmem]
    exact and_iff_left hid
  · rw [Edit.id] at hid
    rw [hmem, Edit.id, current?_delete, hid]
    simp
  · refine hr.order_concat (List.filter_sublist.map _) fun i hi => ?_
    obtain ⟨q, hq, hqid⟩ := List.mem_map.1 hi
    have hother := ((hmem q).1 hq).2
    rw [hasId_text hqid, beq_eq_false_iff_ne] at hother
    simpa [Edit.deletes] using hother.symm

/-- Only what is listed counts. -/
theorem Lists.congr (hr : Lists h r) (hplaybooks : r'.playbooks = r.playbooks) : Lists h r' :=
  ⟨by rw [hplaybooks]; exact hr.members, by rw [hplaybooks]; exact hr.order⟩

/-- Where nothing stands under an id, nothing is listed under it. -/
theorem Lists.hasId_of_none (hr : Lists h r) {id : String} (hnone : current? id h = none)
    {p : Playbook} (hp : p ∈ r.playbooks) : p.hasId (.text id) = false := by
  rw [← hr.get? id] at hnone
  exact Bool.eq_false_iff.2 (List.find?_eq_none.1 hnone p hp)

/-- What an edit of an agent does: the registry lists what the longer history says, and a switch or
a deletion is answered by whether there was something to switch or to delete. -/
structure Performs (h : List Edit) (a : Agent) (e : Edit) (a' : Agent) (answer : Bool) : Prop where
  performed : e.perform a = .ok (a', answer)
  lists : Lists (h ++ [e]) a'.desk.registry
  /-- Nothing else changes. -/
  rest : a' = a.withRegistry a'.desk.registry
  answered : (∀ id p named, e ≠ .add id p named) → answer = (current? e.id h).isSome
  idle : answer = false → a' = a

end

variable {h : List Edit} {a : Agent}

theorem Lists.performs (hr : Lists h a.desk.registry) (e : Edit) :
    ∃ a' answer, Performs h a e a' answer := by
  cases e with
  | add id p named =>
    obtain ⟨r', hadd, hregistered⟩ := Registry.add_of_isKey ⟨.text id, named⟩ a.desk.registry
    refine ⟨a.withRegistry r', true, ?_, hr.add named hadd hregistered, rfl,
      fun hne => absurd rfl (hne id p named), fun hanswer => by cases hanswer⟩
    simp only [Edit.perform, Agent.addPlaybook, hadd]
    rfl
  | toggle id enabled =>
    have htoggle := hr.toggle id enabled
    have hfound : a.playbook? (.text id) = current? id h := hr.get? id
    cases hcurrent : current? id h with
    | some p =>
      refine ⟨a.withRegistry (a.desk.registry.toggle (.text id) enabled), true, ?_, htoggle, rfl,
        fun _ => by rw [Edit.id, hcurrent]; rfl, fun hanswer => by cases hanswer⟩
      simp only [Edit.perform, Agent.togglePlaybook, hfound, hcurrent, Option.map_some]
    | none =>
      have hsame : a.desk.registry.playbooks =
          (a.desk.registry.toggle (.text id) enabled).playbooks :=
        ((List.map_congr_left fun p hp => by rw [hr.hasId_of_none hcurrent hp]; rfl).trans
          (List.map_id _)).symm
      refine ⟨a, false, ?_, htoggle.congr hsame, rfl, fun _ => by rw [Edit.id, hcurrent]; rfl,
        fun _ => rfl⟩
      simp only [Edit.perform, Agent.togglePlaybook, hfound, hcurrent, Option.map_none]
  | delete id =>
    have hdelete := hr.delete id
    have hfound : a.playbook? (.text id) = current? id h := hr.get? id
    cases hcurrent : current? id h with
    | some p =>
      refine ⟨a.withRegistry (a.desk.registry.delete (.text id)), true, ?_, hdelete, rfl,
        fun _ => by rw [Edit.id, hcurrent]; rfl, fun hanswer => by cases hanswer⟩
      simp only [Edit.perform, Agent.deletePlaybook, hfound, hcurrent, Option.map_some]
    | none =>
      have hsame : a.desk.registry.playbooks =
          (a.desk.registry.delete (.text id)).playbooks :=
        (List.filter_eq_self.2 fun p hp => by rw [hr.hasId_of_none hcurrent hp]; rfl).symm
      refine ⟨a, false, ?_, hdelete.congr hsame, rfl, fun _ => by rw [Edit.id, hcurrent]; rfl,
        fun _ => rfl⟩
      simp only [Edit.perform, Agent.deletePlaybook, hfound, hcurrent, Option.map_none]

/-- Edits after the first ones. -/
theorem edited_concat (a : Agent) (h : List Edit) (e : Edit) :
    a.edited (h ++ [e]) = a.edited h >>= fun a => (e.perform a).map (·.1) := by
  unfold Agent.edited
  rw [List.foldlM_append]
  congr 1
  funext a
  rw [List.foldlM_cons]
  cases (e.perform a).map (·.1) <;> rfl

theorem edited_lists (a : Agent) (h : List Edit) :
    ∃ r, (a.withRegistry .empty).edited h = .ok (a.withRegistry r) ∧ Lists h r := by
  induction h using List.reverseRecOn with
  | nil => exact ⟨.empty, rfl, lists_empty⟩
  | append_singleton h e ih =>
    obtain ⟨r, hedited, hr⟩ := ih
    obtain ⟨a', answer, performs⟩ := Lists.performs (a := a.withRegistry r) hr e
    refine ⟨a'.desk.registry, ?_, performs.lists⟩
    rw [edited_concat, hedited]
    change (e.perform (a.withRegistry r)).map _ = _
    rw [performs.performed]
    exact congrArg Except.ok performs.rest

end History

/-- One of the counts of a desk. -/
def Desk.count? (d : Desk) (name : String) : Option Value :=
  d.statistics.entries?.bind (·.field? name)

/-- A registry that a history has led to. -/
structure Catalogued (h : List Edit) (r : Registry) : Prop where
  /-- Under each id that was added since it was last deleted stands what was last added, switched as
  it was last left. This is listed, and nothing else is. -/
  listed : ∀ p, p ∈ r.playbooks ↔ ∃ id, History.current? id h = some p
  /-- What was founded earlier is listed earlier. -/
  ordered : (r.playbooks.map (·.id)).Pairwise (History.Precedes h)
  once : (r.playbooks.map (·.id)).Nodup
  found : ∀ id, r.get? (.text id) = History.current? id h
  /-- The playbooks that are switched on are those last left so, in the same order. -/
  enabled : r.enabled.Sublist r.playbooks ∧
    ∀ p, p ∈ r.enabled ↔ ∃ id, History.current? id h = some p ∧ History.switch? id h = some true
  counted : ∀ d : Desk, d.registry = r →
    d.count? "total_playbooks" = some (.int r.playbooks.length) ∧
      d.count? "enabled_playbooks" = some (.int r.enabled.length)
  /-- A further edit is answered by what the history says. -/
  performs : ∀ (a : Agent) (e : Edit), a.desk.registry = r →
    ∃ a' answer, History.Performs h a e a' answer

/-- **The playbooks on file are told by their history.** -/
theorem edited_catalogued (a : Agent) (h : List Edit) :
    ∃ r, (a.withRegistry .empty).edited h = .ok (a.withRegistry r) ∧ Catalogued h r := by
  obtain ⟨r, hedited, hr⟩ := History.edited_lists a h
  refine ⟨r, hedited, hr.members, hr.order, ?_, hr.get?, ⟨List.filter_sublist, ?_⟩, ?_, ?_⟩
  · refine hr.order.imp ?_
    rintro u v ⟨i, j, rfl, rfl, hij⟩ huv
    cases huv
    exact Nat.lt_irrefl _ hij
  · intro p
    change p ∈ r.playbooks.filter _ ↔ _
    rw [List.mem_filter, hr.members]
    constructor
    · rintro ⟨⟨id, hcurrent⟩, henabled⟩
      exact ⟨id, hcurrent, by rw [History.switch?_of_current? hcurrent, henabled]⟩
    · rintro ⟨id, hcurrent, hswitch⟩
      rw [History.switch?_of_current? hcurrent] at hswitch
      exact ⟨⟨id, hcurrent⟩, Option.some.inj hswitch⟩
  · rintro d rfl
    simp [Desk.count?, Desk.statistics, Value.record, Value.entries?, Value.opened]
  · rintro a e rfl
    exact hr.performs e

end Compliance
