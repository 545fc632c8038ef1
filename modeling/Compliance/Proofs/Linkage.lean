import Compliance.Proofs.Amendment
import Mathlib.Data.List.Induction

/-!
# The violations that an incident is linked to

An incident is opened for one violation, and others are linked to it later. As long as no update
writes the field, it lists each of them once, the first one first and the others in the order in
which they were first linked. The timeline tells each of these links, in the same order, between the
events that were reported. A link that is there already changes nothing, not even the time of the
last update. Main statement: `links_toldOnce`.
-/
namespace Compliance

open Calendar

/-! ## What an update says of the links -/

namespace Change

/-- An update that is accepted is read entry by entry. -/
theorem mapM_of_readAll {updates : List (String × Value)} {changes : List Change}
    (h : readAll updates = .ok changes) :
    (updates.mapM fun u => read u.1 u.2) = .ok changes := by
  unfold readAll at h
  simp only at h
  split at h
  · cases h
  · split at h
    · exact h
    · cases h

/-- What a change says, as an entry of an update. -/
def entry : Change → String × Value
  | .title v => ("title", v)
  | .description v => ("description", v)
  | .severity s => ("severity", .member s)
  | .status s => ("status", .member s)
  | .priority p => ("priority", .member p)
  | .assignee v => ("assignee", v)
  | .reporter v => ("reporter", v)
  | .violationIds v => ("violation_ids", v)

theorem entry_of_readWord {α : Type} [Vocabulary α] {name : String} {v : Value} {change : α → Change}
    {c : Change} (hentry : ∀ a, (change a).entry = (name, .member a))
    (h : (readWord α name v).map change = .ok c) : c.entry = (name, v) := by
  obtain ⟨a, ha, rfl⟩ := map_eq_ok.1 h
  rw [hentry, readWord_eq_ok_iff.1 ha]

/-- A change says what it was read from. -/
theorem entry_of_read {name : String} {v : Value} {c : Change} (h : read name v = .ok c) :
    c.entry = (name, v) := by
  by_cases hname : name ∈ fieldNames
  · simp only [fieldNames, List.mem_cons, List.not_mem_nil, or_false] at hname
    rcases hname with rfl | rfl | rfl | rfl | rfl | rfl | rfl | rfl
    case inr.inr.inl | inr.inr.inr.inl | inr.inr.inr.inr.inl =>
      exact entry_of_readWord (fun _ => rfl) h
    all_goals
      cases h
      rfl
  · rw [read_of_not_mem v hname] at h
    cases h

theorem entry_mem {updates : List (String × Value)} {changes : List Change}
    (h : readAll updates = .ok changes) {c : Change} (hc : c ∈ changes) : c.entry ∈ updates := by
  obtain ⟨u, hu, hread⟩ := exists_of_mapM_eq_ok (mapM_of_readAll h) hc
  rw [entry_of_read hread]
  exact hu

/-- The violations that an incident is linked to stay as they are, or a change writes them. -/
theorem foldl_apply_violationIds (changes : List Change) (i : Incident) :
    (changes.foldl apply i).violationIds = i.violationIds ∨
      .violationIds (changes.foldl apply i).violationIds ∈ changes := by
  induction changes generalizing i with
  | nil => exact .inl rfl
  | cons c changes ih =>
    rw [List.foldl_cons]
    rcases ih (c.apply i) with h | h
    · rw [h]
      cases c with
      | violationIds v => exact .inr List.mem_cons_self
      | _ => exact .inl rfl
    · exact .inr (List.mem_cons_of_mem c h)

end Change

/-- After an update an incident is linked to what it was linked to, or to what the update says. -/
theorem Incident.updated_violationIds {updates : List (String × Value)} {changes : List Change}
    (h : Change.readAll updates = .ok changes) (now : Instant) (i : Incident) :
    (i.updated now changes).violationIds = i.violationIds ∨
      ("violation_ids", (i.updated now changes).violationIds) ∈ updates := by
  refine (Change.foldl_apply_violationIds changes i).imp_right fun hc => ?_
  have hentry := Change.entry_mem h hc
  exact hentry

namespace IncidentStore

variable {s s' : IncidentStore} {now : Instant} {id : String} {i : Incident}

/-! ## Operations on an incident on file -/

/-- The event that tells of a link. -/
def linkReport (s : IncidentStore) (violation : String) : Report :=
  ⟨.updated, "Violation linked to incident", s.actor, .record [("violation_id", .text violation)]⟩

/-- The incidents with a further violation linked to one of them. -/
def linked (s : IncidentStore) (now : Instant) (id : String) (vs : List Value)
    (violation : String) : IncidentStore :=
  ((s.modify id (fun i => { i with violationIds := .list (vs ++ [.text violation]) })
    fun _ => rfl).addEvent now id (s.linkReport violation)).1

/-- A violation is linked to an incident that has a list, unless it is in the list. -/
theorem link_of_list (hi : s.find? id = some i) {vs : List Value} (hvs : i.violationIds = .list vs)
    (now : Instant) (violation : String) :
    s.link now id violation =
      .ok (some (if vs.any (·.alike (.text violation)) then s
        else s.linked now id vs violation)) := by
  unfold link
  simp only [hi, hvs, Value.has, bind, Except.bind]
  cases vs.any (·.alike (.text violation)) <;> rfl

theorem find?_linked (hi : s.find? id = some i) (now : Instant) (vs : List Value)
    (violation : String) :
    (s.linked now id vs violation).find? id =
      some (Incident.withEvent now ⟨s.linkReport violation, label "event" (s.events + 1), now⟩
        { i with violationIds := .list (vs ++ [.text violation]) }) := by
  rw [linked, find?_addEvent, find?_modify, hi]
  simp only [Option.map_some, if_true]
  rfl

/-- An incident that an operation does not touch is found as it was. -/
theorem find?_of_untouched {op : Operation} (hop : op.touches now s ≠ some id)
    (hi : s.find? id = some i) : (op.apply now s).find? id = some i := by
  have hmem : i ∈ s.incidents := List.mem_of_find?_eq_some hi
  have hid : i.id = id := by simpa using List.find?_some hi
  obtain ⟨turn, opened, hincidents, hturn, -⟩ := op.apply_moves now s
  have hkept := hturn i hmem
  rw [hid, if_neg hop] at hkept
  have hstays : i ∈ (op.apply now s).incidents := by
    rw [hincidents]
    exact List.mem_append_left opened (List.mem_map.2 ⟨i, hmem, hkept⟩)
  rw [← hid]
  exact find?_of_nodup (op.apply now s).ids_nodup hstays

end IncidentStore

/-! ## First occurrences -/

/-- Texts are listed after a first one, each of them once, in the order in which they first occur.
-/
structure FirstTimes (first : String) (occurring further : List String) : Prop where
  distinct : (first :: further).Nodup
  members : ∀ x, x ∈ first :: further ↔ x = first ∨ x ∈ occurring
  ordered : further.Pairwise fun x y => occurring.idxOf x < occurring.idxOf y

namespace FirstTimes

variable {first x : String} {occurring further : List String}

theorem nil (first : String) : FirstTimes first [] [] :=
  ⟨List.nodup_singleton first, fun x => by simp, .nil⟩

theorem mem_occurring (h : FirstTimes first occurring further) (hx : x ∈ further) :
    x ∈ occurring := by
  rcases (h.members x).1 (List.mem_cons_of_mem first hx) with rfl | hx'
  · exact absurd hx (List.nodup_cons.1 h.distinct).1
  · exact hx'

/-- One more occurrence at the end does not change which came first. -/
theorem ordered_concat (h : FirstTimes first occurring further) (x : String) :
    further.Pairwise fun y z => (occurring ++ [x]).idxOf y < (occurring ++ [x]).idxOf z := by
  refine h.ordered.imp_of_mem fun hy hz hlt => ?_
  rwa [List.idxOf_append_of_mem (h.mem_occurring hy), List.idxOf_append_of_mem (h.mem_occurring hz)]

/-- A text that is listed occurs again. -/
theorem again (h : FirstTimes first occurring further) (hx : x ∈ first :: further) :
    FirstTimes first (occurring ++ [x]) further := by
  refine ⟨h.distinct, fun y => ?_, h.ordered_concat x⟩
  rw [List.mem_append, List.mem_singleton, ← or_assoc, ← h.members]
  exact ⟨.inl, fun hy => hy.elim id fun he => he ▸ hx⟩

/-- A text occurs for the first time. -/
theorem concat (h : FirstTimes first occurring further) (hx : x ∉ first :: further) :
    FirstTimes first (occurring ++ [x]) (further ++ [x]) := by
  refine ⟨?_, fun y => ?_, List.pairwise_append.2 ⟨h.ordered_concat x, List.pairwise_singleton _ _,
    fun y hy z hz => ?_⟩⟩
  · rw [← List.cons_append]
    exact List.nodup_append.2 ⟨h.distinct, List.nodup_singleton x, fun y hy z hz he =>
      hx (List.mem_singleton.1 hz ▸ he ▸ hy)⟩
  · rw [← List.cons_append, List.mem_append, h.members, List.mem_append, or_assoc]
  · have hnew : x ∉ occurring := fun hocc => hx ((h.members x).2 (.inr hocc))
    rw [List.mem_singleton.1 hz, List.idxOf_append_of_mem (h.mem_occurring hy),
      List.idxOf_append_of_notMem hnew]
    exact Nat.lt_add_right _ (List.idxOf_lt_length_of_mem (h.mem_occurring hy))

end FirstTimes

/-! ## Links and reports of a history -/

namespace Operation

/-- The violation that an operation is to link to the incident with an id. -/
def linkTo? (id : String) : Operation → Option String
  | .link id' violation => if id' = id then some violation else none
  | _ => none

/-- The event that an operation reports of the incident with an id. -/
def reportOf? (id : String) : Operation → Option Report
  | .event id' report => if id' = id then some report else none
  | _ => none

/-- Whether an operation is no action of a playbook and writes the links of an incident, if at all,
only by linking. -/
def LeavesLinks : Operation → Prop
  | .update _ updates => ∀ u ∈ updates, u.1 ≠ "violation_ids"
  | .action .. => False
  | _ => True

end Operation

namespace History

/-- The violations that are linked to the incident with an id, one after the other. -/
def linksTo (id : String) (h : History) : List String := h.filterMap (·.2.linkTo? id)

/-- The events that are reported of the incident with an id. -/
def reportsOf (id : String) (h : History) : List Report := h.filterMap (·.2.reportOf? id)

variable (id : String) (h : History) (now : Instant) (op : Operation)

theorem linksTo_concat :
    linksTo id (h ++ [(now, op)]) = linksTo id h ++ (op.linkTo? id).toList := by
  cases hop : op.linkTo? id <;> simp [linksTo, hop]

theorem reportsOf_concat :
    reportsOf id (h ++ [(now, op)]) = reportsOf id h ++ (op.reportOf? id).toList := by
  cases hop : op.reportOf? id <;> simp [reportsOf, hop]

end History

/-- What stands on a timeline after the opening. -/
inductive Entry where
  | reported (report : Report)
  /-- The news of a link. -/
  | linked (violation : String)

namespace Entry

/-- The event for an entry; a link is signed by an actor. -/
def report (actor : String) : Entry → Report
  | .reported report => report
  | .linked violation =>
    ⟨.updated, "Violation linked to incident", actor, .record [("violation_id", .text violation)]⟩

def reported? : Entry → Option Report
  | .reported report => some report
  | .linked _ => none

def linked? : Entry → Option String
  | .reported _ => none
  | .linked violation => some violation

end Entry

/-- The event with which a timeline begins. -/
def Report.opening (actor : String) : Report :=
  ⟨.created, "Incident created from violation", actor, .null⟩

/-- What an incident has become, that was opened for a violation, after a history: what it is linked
to, besides that violation, and what stands on its timeline. -/
structure Incident.Linked (v : Violation) (actor id : String) (h : History)
    (further : List String) (entries : List Entry) (i : Incident) : Prop where
  violations : i.violationIds = .texts (v.id :: further)
  once : FirstTimes v.id (h.linksTo id) further
  timeline : i.timeline.map (·.toReport) = .opening actor :: entries.map (Entry.report actor)
  reported : entries.filterMap Entry.reported? = h.reportsOf id
  told : entries.filterMap Entry.linked? = further

namespace Incident.Linked

variable {v : Violation} {actor id : String} {h : History} {further : List String}
  {entries : List Entry} {i j : Incident} {now : Instant} {op : Operation}

/-- An operation that neither links to the incident nor reports an event of it. -/
theorem keep (linked : i.Linked v actor id h further entries)
    (hviolations : j.violationIds = i.violationIds) (htimeline : j.timeline = i.timeline)
    (hlink : op.linkTo? id = none) (hreport : op.reportOf? id = none) :
    j.Linked v actor id (h ++ [(now, op)]) further entries where
  violations := hviolations.trans linked.violations
  once := by simpa [History.linksTo_concat, hlink] using linked.once
  timeline := htimeline ▸ linked.timeline
  reported := by simpa [History.reportsOf_concat, hreport] using linked.reported
  told := linked.told

/-- An event is reported. -/
theorem report (linked : i.Linked v actor id h further entries) {report : Report} {e : Event}
    (he : e.toReport = report) :
    (i.withEvent now e).Linked v actor id (h ++ [(now, .event id report)]) further
      (entries ++ [.reported report]) where
  violations := linked.violations
  once := by simpa [History.linksTo_concat, Operation.linkTo?] using linked.once
  timeline := by simp [withEvent, linked.timeline, he, Entry.report]
  reported := by
    simp [History.reportsOf_concat, Operation.reportOf?, linked.reported, Entry.reported?]
  told := by simp [linked.told, Entry.linked?]

/-- A violation is linked that was linked before. -/
theorem again (linked : i.Linked v actor id h further entries) {violation : String}
    (hx : violation ∈ v.id :: further) :
    i.Linked v actor id (h ++ [(now, .link id violation)]) further entries where
  violations := linked.violations
  once := by simpa [History.linksTo_concat, Operation.linkTo?] using linked.once.again hx
  timeline := linked.timeline
  reported := by simpa [History.reportsOf_concat, Operation.reportOf?] using linked.reported
  told := linked.told

/-- A violation is linked for the first time. -/
theorem link (linked : i.Linked v actor id h further entries) {violation : String} {e : Event}
    (hx : violation ∉ v.id :: further) (he : e.toReport = (Entry.linked violation).report actor) :
    (Incident.withEvent now e
      { i with violationIds := .texts (v.id :: further ++ [violation]) }).Linked v actor id
        (h ++ [(now, .link id violation)]) (further ++ [violation])
        (entries ++ [.linked violation]) where
  violations := rfl
  once := by simpa [History.linksTo_concat, Operation.linkTo?] using linked.once.concat hx
  timeline := by simp [withEvent, linked.timeline, he]
  reported := by
    simp [History.reportsOf_concat, Operation.reportOf?, linked.reported, Entry.reported?]
  told := by simp [linked.told, Entry.linked?]

end Incident.Linked

namespace IncidentStore

variable {s : IncidentStore} {v : Violation} {id : String} {h : History} {further : List String}
  {entries : List Entry} {i : Incident} {now : Instant}

/-! ## One operation -/

/-- What an operation makes of an incident that has come so far. -/
def Advances (s : IncidentStore) (v : Violation) (id : String) (h : History) (now : Instant)
    (op : Operation) : Prop :=
  ∃ (j : Incident) (further : List String) (entries : List Entry),
    (op.apply now s).find? id = some j ∧
      j.Linked v s.actor id (h ++ [(now, op)]) further entries

/-- An operation on something else. -/
theorem advances_elsewhere (hi : s.find? id = some i)
    (linked : i.Linked v s.actor id h further entries) {op : Operation}
    (hop : op.touches now s ≠ some id) (hlink : op.linkTo? id = none)
    (hreport : op.reportOf? id = none) : s.Advances v id h now op :=
  ⟨i, further, entries, find?_of_untouched hop hi, linked.keep rfl rfl hlink hreport⟩

theorem advances_event (hi : s.find? id = some i)
    (linked : i.Linked v s.actor id h further entries) (report : Report) :
    s.Advances v id h now (.event id report) := by
  have hfind : ((Operation.event id report).apply now s).find? id =
      some (i.withEvent now ⟨report, label "event" (s.events + 1), now⟩) := by
    rw [Operation.apply, find?_addEvent, hi, Option.map_some, if_pos rfl]
  exact ⟨_, _, _, hfind, linked.report rfl⟩

theorem advances_update (hi : s.find? id = some i)
    (linked : i.Linked v s.actor id h further entries) {updates : List (String × Value)}
    (hnames : ∀ u ∈ updates, u.1 ≠ "violation_ids") :
    s.Advances v id h now (.update id updates) := by
  cases hs : Operation.accepted? (s.update now id updates) with
  | none =>
    have hrefused : (Operation.update id updates).apply now s = s := by simp [Operation.apply, hs]
    exact ⟨i, further, entries, by rw [hrefused, hi], linked.keep rfl rfl rfl rfl⟩
  | some s' =>
    obtain ⟨changes, hread, rfl⟩ := Operation.update_eq (Operation.accepted?_eq_some.1 hs)
    have hfind : ((Operation.update id updates).apply now s).find? id =
        some (i.updated now changes) := by
      simp [Operation.apply, hs, find?_change, hi]
    have hviolations : (i.updated now changes).violationIds = i.violationIds :=
      (Incident.updated_violationIds hread now i).resolve_right fun hu => hnames _ hu rfl
    exact ⟨_, further, entries, hfind,
      linked.keep hviolations (Incident.updated_timeline now changes) rfl rfl⟩

/-- A violation that the incident is linked to already changes nothing. -/
theorem link_listed (hi : s.find? id = some i)
    (linked : i.Linked v s.actor id h further entries) (now : Instant) {violation : String}
    (hx : violation ∈ v.id :: further) : s.link now id violation = .ok (some s) := by
  rw [link_of_list hi linked.violations, Value.any_alike_text, List.contains_iff_mem.2 hx]
  rfl

theorem advances_link (hi : s.find? id = some i)
    (linked : i.Linked v s.actor id h further entries) (violation : String) :
    s.Advances v id h now (.link id violation) := by
  by_cases hx : violation ∈ v.id :: further
  · have hsame : (Operation.link id violation).apply now s = s := by
      simp [Operation.apply, link_listed hi linked now hx, Operation.accepted?]
    exact ⟨i, further, entries, by rw [hsame, hi], linked.again hx⟩
  · have hnew : ((v.id :: further).map Value.text).any (·.alike (.text violation)) = false := by
      rw [Value.any_alike_text]
      simpa using hx
    have hlinked : (Operation.link id violation).apply now s =
        s.linked now id ((v.id :: further).map Value.text) violation := by
      rw [Operation.apply, link_of_list hi linked.violations, hnew]
      rfl
    have hfind : ((Operation.link id violation).apply now s).find? id = some (Incident.withEvent now
        ⟨s.linkReport violation, label "event" (s.events + 1), now⟩
        { i with violationIds := .texts (v.id :: further ++ [violation]) }) := by
      rw [hlinked, find?_linked hi, Value.texts, List.map_append]
      rfl
    exact ⟨_, _, _, hfind, linked.link hx rfl⟩

/-- **What one operation preserves.** -/
theorem advances (hi : s.find? id = some i) (linked : i.Linked v s.actor id h further entries)
    {op : Operation} (hop : op.LeavesLinks) : s.Advances v id h now op := by
  cases op with
  | opening w => exact advances_elsewhere hi linked nofun rfl rfl
  | event id' report =>
    by_cases hid : id' = id
    · subst hid
      exact advances_event hi linked report
    · exact advances_elsewhere hi linked (by simpa [Operation.touches] using hid) rfl
        (by simp [Operation.reportOf?, hid])
  | update id' updates =>
    by_cases hid : id' = id
    · subst hid
      exact advances_update hi linked hop
    · exact advances_elsewhere hi linked (by simp [Operation.touches, hid]) rfl rfl
  | link id' violation =>
    by_cases hid : id' = id
    · subst hid
      exact advances_link hi linked violation
    · exact advances_elsewhere hi linked (by simp [Operation.touches, hid])
        (by simp [Operation.linkTo?, hid]) rfl
  | action => exact hop.elim

/-! ## A history -/

/-- The incident that is opened is linked to the violation that it is opened for. -/
theorem linked_openFor (s : IncidentStore) (opened : Instant) (v : Violation) :
    (s.openFor opened v).1.find? s.nextId = some (s.openFor opened v).2 ∧
      (s.openFor opened v).2.Linked v s.actor s.nextId [] [] [] := by
  have hnew : s.find? s.nextId = none :=
    List.find?_eq_none.2 fun i hi => by simpa using id_ne_nextId hi
  refine ⟨by simp [find?_openFor, hnew], rfl, .nil v.id, rfl, rfl, rfl⟩

/-- The incident with an id is linked as a history says, and nothing can be linked to it twice. -/
structure LinksOnce (s : IncidentStore) (v : Violation) (id : String) (h : History) : Prop where
  incident : ∃ (i : Incident) (further : List String) (entries : List Entry),
    s.find? id = some i ∧ i.Linked v s.actor id h further entries ∧
      ∀ (now : Instant) (violation : String), violation ∈ v.id :: further →
        s.link now id violation = .ok (some s)
  /-- There is nothing to link to where there is no incident. -/
  unknown : ∀ id', s.find? id' = none → ∀ (now : Instant) (violation : String),
    s.link now id' violation = .ok none ∧ (Operation.link id' violation).apply now s = s

end IncidentStore

open IncidentStore in
/-- **Every link is kept once, and told once.** -/
theorem links_toldOnce (s : IncidentStore) (opened : Instant) (v : Violation) {h : History}
    (hh : ∀ step ∈ h, step.2.LeavesLinks) :
    ((s.openFor opened v).1.after h).LinksOnce v s.nextId h := by
  have arrives : ∃ (i : Incident) (further : List String) (entries : List Entry),
      ((s.openFor opened v).1.after h).find? s.nextId = some i ∧
        i.Linked v ((s.openFor opened v).1.after h).actor s.nextId h further entries := by
    induction h using List.reverseRecOn with
    | nil => exact ⟨_, [], [], linked_openFor s opened v⟩
    | append_singleton h step ih =>
      obtain ⟨now, op⟩ := step
      obtain ⟨i, further, entries, hi, linked⟩ :=
        ih fun step hstep => hh step (List.mem_append_left _ hstep)
      have hop : op.LeavesLinks := hh (now, op) List.mem_concat_self
      rw [after_concat, Operation.apply_actor]
      exact advances hi linked hop
  obtain ⟨i, further, entries, hi, linked⟩ := arrives
  refine ⟨⟨i, further, entries, hi, linked, fun now _ => link_listed hi linked now⟩, ?_⟩
  intro id' hnone now violation
  have hlink : ((s.openFor opened v).1.after h).link now id' violation = .ok none := by
    rw [link, hnone]
  exact ⟨hlink, by simp [Operation.apply, hlink, Operation.accepted?]⟩

/-- Links to the first incident, some of them again, between an event and an update. -/
def History.relinking : History :=
  [(⟨1⟩, .link (label "incident" 1) "b"), (⟨2⟩, .link (label "incident" 1) "a"),
    (⟨3⟩, .link (label "incident" 1) "b"), (⟨4⟩, .event (label "incident" 1) (.opening "x")),
    (⟨5⟩, .update (label "incident" 1) Incident.closing), (⟨6⟩, .link (label "incident" 2) "c"),
    (⟨7⟩, .link (label "incident" 1) "a")]

theorem links_toldOnce_relinking :
    (∀ step ∈ History.relinking, step.2.LeavesLinks) ∧
      (IncidentStore.leaking.after .relinking).LinksOnce .leak (label "incident" 1) .relinking ∧
        (IncidentStore.leaking.after .relinking).incidents.map
          (fun i => (i.timeline.length, i.updatedAt)) = [(4, ⟨5⟩)] := by
  have hh : ∀ step ∈ History.relinking, step.2.LeavesLinks := by
    simp +contextual [History.relinking, Operation.LeavesLinks, Incident.closing, or_imp]
  exact ⟨hh, links_toldOnce (.empty "agent") ⟨0⟩ .leak hh, by decide +kernel⟩

end Compliance
