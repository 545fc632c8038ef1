import Compliance.Proofs.Chronology
import Compliance.Proofs.Rereading
import Mathlib.Data.List.Nodup

/-!
# An update of an incident is all or nothing

An update says which fields of an incident take which values. If it names a field that does not
exist or may not be written, or gives a field that holds words anything but one of its words, then
it is refused, whoever it is for; if there is no such incident, it comes to nothing. Either way
every incident stays as it is. Otherwise the fields that it names take their values, the times
follow, and all other fields and incidents stay as they are. Main statement: `update_allOrNothing`.
-/
namespace Compliance

open Calendar

/-- The words of a vocabulary. -/
def Vocabulary.words (α : Type) [Vocabulary α] : List String := (members (α := α)).map word

theorem word_mem_words {α : Type} [Vocabulary α] (a : α) : word a ∈ Vocabulary.words α :=
  List.mem_map_of_mem (Vocabulary.mem_members a)

namespace Incident

/-! ## What an update says -/

/-- The names of all fields of an incident. -/
def fieldNames : List String :=
  ["id", "title", "description", "severity", "status", "priority", "assignee", "reporter",
    "violation_ids", "timeline", "created_at", "updated_at", "resolved_at"]

/-- The fields that no update may write. -/
def protectedNames : List String := ["id", "timeline", "created_at", "updated_at", "resolved_at"]

/-- The record of an incident has a field under each of the names. -/
theorem toValue_fieldNames {i : Incident} {v : Value} (h : i.toValue = .ok v) :
    ∃ fields, v = .record fields ∧ fields.map (·.1) = fieldNames := by
  obtain ⟨violations, -, h⟩ := bind_eq_ok.1 h
  cases h
  exact ⟨_, rfl, rfl⟩

/-- The words that a field may hold, if it holds words. -/
def wordsOf? (name : String) : Option (List String) :=
  if name = "severity" then some (Vocabulary.words Severity)
  else if name = "status" then some (Vocabulary.words IncidentStatus)
  else if name = "priority" then some (Vocabulary.words Priority)
  else none

/-- A name and a value that no incident can take: the name is unknown or protected, or the field
holds words and the value is none of them. -/
def Refuses (u : String × Value) : Prop :=
  u.1 ∉ fieldNames ∨ u.1 ∈ protectedNames ∨
    ∃ words, wordsOf? u.1 = some words ∧ ∀ w ∈ words, u.2 ≠ .text w

/-- The fields of an incident that may be written, with what they hold. -/
def writable (i : Incident) : List (String × Value) :=
  [("title", i.title), ("description", i.description), ("severity", .member i.severity),
    ("status", .member i.status), ("priority", .member i.priority), ("assignee", i.assignee),
    ("reporter", i.reporter), ("violation_ids", i.violationIds)]

/-- What becomes of an incident when an update is made: the fields that may be written, and then
those that may not. -/
structure Amended (updates : List (String × Value)) (i i' : Incident) : Prop where
  /-- A field that is named takes its value, and any other one keeps what it holds. -/
  written : i'.writable = i.writable.map fun f => (f.1, (updates.lookup f.1).getD f.2)
  id : i'.id = i.id
  timeline : i'.timeline = i.timeline
  created : i'.createdAt = i.createdAt
  later : i.updatedAt < i'.updatedAt
  resolved : i'.resolvedAt =
    if i'.status = .closed then some (i.resolvedAt.getD i'.updatedAt) else none

end Incident

/-- A fault of what an update says, rather than of how it is addressed. -/
def UpdateFault.IsOfContent : UpdateFault → Prop
  | .addressing _ => False
  | _ => True

namespace Change

variable {updates : List (String × Value)} {changes : List Change}

/-- The fields that may be written are those that are not protected. -/
theorem mem_fieldNames_iff {name : String} :
    name ∈ fieldNames ↔ name ∈ Incident.fieldNames ∧ name ∉ Incident.protectedNames := by
  rw [show fieldNames = Incident.fieldNames.filter (!Incident.protectedNames.contains ·) by decide,
    List.mem_filter]
  simp

/-- A field that may be written can only refuse a value that is none of its words. -/
theorem refuses_iff {name : String} {v : Value} (hname : name ∈ fieldNames) :
    Incident.Refuses (name, v) ↔
      ∃ words, Incident.wordsOf? name = some words ∧ ∀ w ∈ words, v ≠ .text w := by
  obtain ⟨hknown, hfree⟩ := mem_fieldNames_iff.1 hname
  simp [Incident.Refuses, hknown, hfree]

theorem refuses_of_not_mem {name : String} (v : Value) (hname : name ∉ fieldNames) :
    Incident.Refuses (name, v) := by
  rw [mem_fieldNames_iff, not_and_or, not_not] at hname
  exact hname.imp_right .inl

theorem exists_readWord_iff {α : Type} [Vocabulary α] {name : String} {v : Value} :
    (∃ a, readWord α name v = .ok a) ↔ ∃ w ∈ Vocabulary.words α, v = .text w := by
  simp only [readWord_eq_ok_iff]
  constructor
  · rintro ⟨a, rfl⟩
    exact ⟨word a, word_mem_words a, rfl⟩
  · rintro ⟨w, hw, rfl⟩
    obtain ⟨a, -, rfl⟩ := List.mem_map.1 hw
    exact ⟨a, rfl⟩

theorem content_of_readWord {α : Type} [Vocabulary α] {name : String} {v : Value}
    {f : UpdateFault} (h : readWord α name v = .error f) : f.IsOfContent := by
  unfold readWord at h
  split at h
  · cases h
    trivial
  · cases hread : readMember α v with
    | ok a =>
      rw [hread] at h
      cases h
    | error e =>
      rw [hread] at h
      cases h
      trivial

/-- What reading one entry of an update comes to: a change that writes the value into the field and
nothing else, or the refusal of an entry that no incident can take. -/
inductive Reads (name : String) (v : Value) : Except UpdateFault Change → Prop
  | accepted {c : Change} (takes : ¬ Incident.Refuses (name, v))
      (writes : ∀ i, (c.apply i).writable =
        i.writable.map fun f => (f.1, if f.1 = name then v else f.2)) : Reads name v (.ok c)
  | refused {f : UpdateFault} (refuses : Incident.Refuses (name, v)) (content : f.IsOfContent) :
      Reads name v (.error f)

/-- A field that takes any value. -/
theorem reads_free {name : String} {v : Value} {c : Change} (hname : name ∈ fieldNames)
    (hwords : Incident.wordsOf? name = none)
    (hwrites : ∀ i, (c.apply i).writable =
      i.writable.map fun f => (f.1, if f.1 = name then v else f.2)) : Reads name v (.ok c) := by
  refine .accepted ?_ hwrites
  rw [refuses_iff hname, hwords]
  rintro ⟨words, hsome, -⟩
  cases hsome

/-- A field that holds words. -/
theorem reads_word {α : Type} [Vocabulary α] {name : String} (v : Value) {change : α → Change}
    (hname : name ∈ fieldNames) (hwords : Incident.wordsOf? name = some (Vocabulary.words α))
    (hwrites : ∀ a i, ((change a).apply i).writable =
      i.writable.map fun f => (f.1, if f.1 = name then .member a else f.2)) :
    Reads name v ((readWord α name v).map change) := by
  cases hread : readWord α name v with
  | ok a =>
    obtain ⟨w, hw, hv⟩ := exists_readWord_iff.1 ⟨a, hread⟩
    refine .accepted ?_ (readWord_eq_ok_iff.1 hread ▸ hwrites a)
    rw [refuses_iff hname, hwords]
    rintro ⟨words, hsome, hnone⟩
    cases hsome
    exact hnone w hw hv
  | error f =>
    refine .refused ((refuses_iff hname).2 ⟨_, hwords, fun w hw hv => ?_⟩)
      (content_of_readWord hread)
    obtain ⟨a, ha⟩ := exists_readWord_iff.2 ⟨w, hw, hv⟩
    rw [hread] at ha
    cases ha

theorem read_of_not_mem {name : String} (v : Value) (hname : name ∉ fieldNames) :
    read name v = .error (.fields [name]) := by
  simp only [fieldNames, List.mem_cons, List.not_mem_nil, or_false, not_or] at hname
  simp [read, hname]

theorem reads_read (name : String) (v : Value) : Reads name v (read name v) := by
  by_cases hname : name ∈ fieldNames
  · simp only [fieldNames, List.mem_cons, List.not_mem_nil, or_false] at hname
    rcases hname with rfl | rfl | rfl | rfl | rfl | rfl | rfl | rfl
    case inr.inr.inl | inr.inr.inr.inl | inr.inr.inr.inr.inl =>
      exact reads_word v (by decide) (by decide) fun a i => by simp [apply, Incident.writable]
    all_goals
      exact reads_free (by decide) (by decide) fun i => by simp [apply, Incident.writable]
  · rw [read_of_not_mem v hname]
    exact .refused (refuses_of_not_mem v hname) trivial

theorem exists_read_iff {name : String} {v : Value} :
    (∃ c, read name v = .ok c) ↔ ¬ Incident.Refuses (name, v) := by
  have reads := reads_read name v
  generalize read name v = r at reads
  cases reads with
  | accepted takes _ => exact iff_of_true ⟨_, rfl⟩ takes
  | refused refuses _ => exact iff_of_false nofun (not_not_intro refuses)

theorem content_of_read {name : String} {v : Value} {f : UpdateFault}
    (h : read name v = .error f) : f.IsOfContent := by
  have reads := reads_read name v
  rw [h] at reads
  cases reads with
  | refused _ content => exact content

theorem writable_apply {name : String} {v : Value} {c : Change} (h : read name v = .ok c)
    (i : Incident) : (c.apply i).writable =
      i.writable.map fun f => (f.1, if f.1 = name then v else f.2) := by
  have reads := reads_read name v
  rw [h] at reads
  cases reads with
  | accepted _ writes => exact writes i

/-! ## The whole update -/

/-- An update that an incident can take in every entry is read. -/
theorem readAll_accepted (h : ∀ u ∈ updates, ¬ Incident.Refuses u) :
    (∀ u ∈ updates, u.1 ∈ fieldNames) ∧ ∃ changes, readAll updates = .ok changes := by
  have hnames : ∀ u ∈ updates, u.1 ∈ fieldNames := fun u hu =>
    by_contra fun hname => h u hu (refuses_of_not_mem u.2 hname)
  refine ⟨hnames, ?_⟩
  rw [readAll_eq_mapM hnames]
  exact mapM_eq_ok_of_forall fun u hu => exists_read_iff.2 (h u hu)

/-- An update with an entry that no incident can take is refused for what it says. -/
theorem readAll_refused (haddressed : ∀ u ∈ updates, u.1 ≠ "self" ∧ u.1 ≠ "incident_id")
    (h : ∃ u ∈ updates, Incident.Refuses u) :
    ∃ f, readAll updates = .error f ∧ f.IsOfContent := by
  obtain ⟨u, hu, hrefuses⟩ := h
  by_cases hnames : ∀ u ∈ updates, u.1 ∈ fieldNames
  · rw [readAll_eq_mapM hnames]
    cases hread : updates.mapM fun u => read u.1 u.2 with
    | ok changes =>
      exact absurd hrefuses (exists_read_iff.1 (forall_of_mapM_eq_ok hread u hu))
    | error f =>
      obtain ⟨u', -, hf⟩ := exists_of_mapM_eq_error hread
      exact ⟨f, rfl, content_of_read hf⟩
  · -- the names are read first, whatever the values are
    have hnone : (updates.map (·.1)).find? (fun n => n = "self" || n = "incident_id") = none := by
      simpa [List.find?_eq_none] using haddressed
    have hrefused :
        ((updates.map (·.1)).filter fun n => !fieldNames.contains n).isEmpty = false := by
      simpa using hnames
    unfold readAll
    simp only [hnone, hrefused]
    exact ⟨_, rfl, trivial⟩

/-- The fields after all changes of an update, which names no field twice. -/
theorem writable_foldl (hread : (updates.mapM fun u => read u.1 u.2) = .ok changes)
    (hnodup : (updates.map (·.1)).Nodup) (i : Incident) :
    (changes.foldl apply i).writable =
      i.writable.map fun f => (f.1, (updates.lookup f.1).getD f.2) := by
  induction updates generalizing changes i with
  | nil =>
    cases hread
    exact (List.map_id _).symm
  | cons u updates ih =>
    obtain ⟨name, v⟩ := u
    rw [List.mapM_cons] at hread
    obtain ⟨c, hc, hread⟩ := bind_eq_ok.1 hread
    obtain ⟨cs, hcs, hread⟩ := bind_eq_ok.1 hread
    cases hread
    obtain ⟨hnew, hnodup⟩ := List.nodup_cons.1 hnodup
    rw [List.foldl_cons, ih hcs hnodup, writable_apply hc, List.map_map]
    refine List.map_congr_left fun f _ => ?_
    by_cases hf : f.1 = name
    · have hnone : updates.lookup name = none :=
        List.lookup_eq_none_iff.2 fun u hu =>
          bne_iff_ne.2 fun he => hnew (List.mem_map.2 ⟨u, hu, he.symm⟩)
      simp [hf, hnone]
    · simp [hf, beq_false_of_ne hf, List.lookup_cons]

end Change

namespace Incident

variable {updates : List (String × Value)} {changes : List Change}

theorem updated_amended (hread : (updates.mapM fun u => Change.read u.1 u.2) = .ok changes)
    (hnodup : (updates.map (·.1)).Nodup) (now : Instant) (i : Incident) :
    i.Amended updates (i.updated now changes) where
  written := Change.writable_foldl hread hnodup i
  id := updated_id now changes i
  timeline := updated_timeline now changes
  created := updated_createdAt now changes
  later := by
    rw [updated_updatedAt]
    exact lt_advance now i.updatedAt
  resolved := by
    rw [updated_resolvedAt]
    cases i.resolvedAt <;> rfl

end Incident

namespace IncidentStore

/-- What an update of the incident with an id comes to, at an instant. -/
structure AllOrNothing (s : IncidentStore) (now : Instant) (id : String)
    (updates : List (String × Value)) : Prop where
  /-- An update with an entry that no incident can take is refused, whoever it is for. -/
  refused : (∃ u ∈ updates, Incident.Refuses u) →
    (∃ f, s.update now id updates = .error f ∧ f.IsOfContent) ∧
      (Operation.update id updates).apply now s = s
  /-- An update for nobody comes to nothing. -/
  unknown : (∀ u ∈ updates, ¬ Incident.Refuses u) → (∀ i ∈ s.incidents, i.id ≠ id) →
    s.update now id updates = .ok none ∧ (Operation.update id updates).apply now s = s
  /-- Any other update is made, and no other incident is touched. -/
  made : (∀ u ∈ updates, ¬ Incident.Refuses u) → ∀ before i after,
    s.incidents = before ++ i :: after → i.id = id → ∃ s' i',
      s.update now id updates = .ok (some s') ∧ s'.incidents = before ++ i' :: after ∧
        i.Amended updates i' ∧ (Operation.update id updates).apply now s = s'

/-- Changing the incident with an id leaves those before and after it as they are. -/
theorem incidents_modify {s : IncidentStore} {before after : List Incident} {i : Incident}
    (h : s.incidents = before ++ i :: after) (f : Incident → Incident) (hf : ∀ i, (f i).id = i.id) :
    (s.modify i.id f hf).incidents = before ++ f i :: after := by
  have distinct := s.ids_nodup
  rw [h, List.map_append, List.map_cons, List.nodup_middle, List.nodup_cons, List.mem_append,
    not_or] at distinct
  obtain ⟨⟨hbefore, hafter⟩, -⟩ := distinct
  have spared : ∀ js : List Incident, i.id ∉ js.map (·.id) →
      (js.map fun j => if j.id = i.id then f j else j) = js := by
    intro js hjs
    refine (List.map_congr_left fun j hj => if_neg ?_).trans (List.map_id js)
    exact fun he => hjs (he ▸ List.mem_map_of_mem hj)
  change s.incidents.map (fun j => if j.id = i.id then f j else j) = _
  rw [h, List.map_append, List.map_cons, spared before hbefore, spared after hafter, if_pos rfl]

end IncidentStore

/-- **An update is all or nothing, and touches only what it names.** -/
theorem update_allOrNothing (s : IncidentStore) (now : Instant) (id : String)
    {updates : List (String × Value)} (hnodup : (updates.map (·.1)).Nodup)
    (haddressed : ∀ u ∈ updates, u.1 ≠ "self" ∧ u.1 ≠ "incident_id") :
    s.AllOrNothing now id updates where
  refused h := by
    obtain ⟨f, hread, hf⟩ := Change.readAll_refused haddressed h
    have hupdate : s.update now id updates = .error f := by
      rw [IncidentStore.update, hread]
      rfl
    exact ⟨⟨f, hupdate, hf⟩, by simp [Operation.apply, hupdate, Operation.accepted?]⟩
  unknown h hid := by
    obtain ⟨-, changes, hread⟩ := Change.readAll_accepted h
    have hfind : s.find? id = none :=
      List.find?_eq_none.2 fun i hi => by simpa using hid i hi
    have hupdate : s.update now id updates = .ok none := by
      rw [IncidentStore.update, hread, hfind]
      rfl
    exact ⟨hupdate, by simp [Operation.apply, hupdate, Operation.accepted?]⟩
  made h before i after hs hid := by
    obtain ⟨hnames, changes, hread⟩ := Change.readAll_accepted h
    subst hid
    have hi : i ∈ s.incidents := hs ▸ List.mem_append_right before List.mem_cons_self
    have hfind : s.find? i.id = some i := find?_of_nodup s.ids_nodup hi
    have hupdate : s.update now i.id updates = .ok (some (s.change now i.id changes)) := by
      rw [IncidentStore.update, hread, hfind]
      rfl
    rw [Change.readAll_eq_mapM hnames] at hread
    exact ⟨_, _, hupdate, IncidentStore.incidents_modify hs _ _,
      Incident.updated_amended hread hnodup now i,
      by simp [Operation.apply, hupdate, Operation.accepted?]⟩

/-- A store with an incident that has just been opened. -/
def IncidentStore.leaking : IncidentStore := ((empty "agent").openFor ⟨0⟩ .leak).1

/-- An update that closes an incident and makes it urgent. -/
def Incident.closing : List (String × Value) :=
  [("status", .text "closed"), ("priority", .text "P1")]

theorem update_allOrNothing_closing :
    IncidentStore.leaking.AllOrNothing ⟨0⟩ (label "incident" 1) Incident.closing ∧
      ((Operation.update (label "incident" 1) Incident.closing).apply ⟨0⟩ .leaking).incidents.map
        (fun i => (i.status, i.priority, i.updatedAt, i.resolvedAt)) =
          [(.closed, .p1, ⟨1⟩, some ⟨1⟩)] :=
  ⟨update_allOrNothing .leaking ⟨0⟩ (label "incident" 1) (by decide) (by decide), by decide +kernel⟩

end Compliance
