import Compliance.Proofs.Loading

/-!
# The forms of a playbook document

A document holds definitions in one of three forms: as a list, as a list under a key, or as a single
definition by itself. Whatever the form, the definitions are read one after the other, so that
documents with the same definitions are loaded alike. One form does not bear to be empty: a list of
no definitions counts as false, so that it is taken for a mapping without an id and refused
(`emptyList_refused`). Main statement: `forms_interchangeable`.
-/
namespace Compliance

namespace Value

variable {v : Value}

/-- A list counts as true if something is in it, also one that is in itself. -/
theorem truthy_of_opened_list {vs : List Value} (h : v.opened = .list vs) :
    v.truthy = !vs.isEmpty := by
  cases v with
  | list items =>
    cases h
    rfl
  | knot n w =>
    cases w with
    | list items =>
      cases h
      cases items <;> rfl
    | again m =>
      simp only [opened, tied] at h
      split at h <;> cases h
    | _ => cases h
  | _ => cases h

theorem truthy_of_opened_map {es : Entries} (h : v.opened = .map es) :
    v.truthy = !es.isEmpty := by
  cases v with
  | map entries =>
    cases h
    rfl
  | knot n w =>
    cases w with
    | map entries =>
      cases h
      cases entries <;> rfl
    | again m =>
      simp only [opened, tied] at h
      split at h <;> cases h
    | _ => cases h
  | _ => cases h

theorem opened_of_entries? {es : Entries} (h : v.entries? = some es) : v.opened = .map es := by
  unfold entries? at h
  split at h
  · next hopened =>
    cases h
    exact hopened
  · cases h

theorem entries?_of_opened_list {vs : List Value} (h : v.opened = .list vs) :
    v.entries? = none := by
  simp only [entries?, h]

end Value

namespace PlaybookDocument

/-- The forms in which a document holds definitions. -/
inductive Form where
  /-- The document is the list of them. -/
  | list
  /-- The document is a mapping with the list of them under `playbooks`. -/
  | keyed
  /-- The document is a mapping without that key: the only definition. -/
  | bare
  deriving DecidableEq

/-- Whether a document holds just these definitions in a form. -/
def Form.Holds (document : Value) (ds : List Value) : Form → Prop
  | .list => document.opened = .list ds
  | .keyed => ∃ es v, document.entries? = some es ∧ es.field? "playbooks" = some v ∧
      v.opened = .list ds
  | .bare => ∃ es, document.entries? = some es ∧ es.field? "playbooks" = none ∧ ds = [document]

/-- Whether definitions in a form are taken for what they are: a list needs one at least. -/
def Form.Bears (form : Form) (ds : List Value) : Prop := form = .list → ds ≠ []

section
variable {file : String} {document : Value} {ds : List Value}

/-- A list with something in it holds its elements. -/
theorem read_list (h : document.opened = .list ds) (hds : ds ≠ []) :
    read file document = ds.mapM Definition.read := by
  have htruthy : document.truthy = true := by
    rw [Value.truthy_of_opened_list h]
    simpa using hds
  simp only [read, definitions, htruthy, if_true, Value.entries?_of_opened_list h, h]
  rfl

/-- An empty list is taken for an empty mapping, which is a definition without an id. -/
theorem read_emptyList (h : document.opened = .list []) :
    read file document = .error (.refused .missingId) := by
  have hfalse : document.truthy = false := Value.truthy_of_opened_list h
  simp only [read, definitions, hfalse]
  rfl

/-- The list under the key is what counts, whatever else is in the mapping. -/
theorem read_keyed {es : Entries} {v : Value} (h : document.entries? = some es)
    (hkey : es.field? "playbooks" = some v) (hlist : v.opened = .list ds) :
    read file document = ds.mapM Definition.read := by
  have hes : es ≠ [] := by
    rintro rfl
    cases hkey
  have htruthy : document.truthy = true := by
    rw [Value.truthy_of_opened_map (Value.opened_of_entries? h)]
    simpa using hes
  simp only [read, definitions, htruthy, if_true, h, hkey, Option.getD_some, hlist]
  rfl

/-- A mapping without the key is a definition. -/
theorem read_bare {es : Entries} (h : document.entries? = some es)
    (hkey : es.field? "playbooks" = none) :
    read file document = [document].mapM Definition.read := by
  cases htruthy : document.truthy with
  | true =>
    simp only [read, definitions, htruthy, if_true, h, hkey, Option.getD_none]
    rfl
  | false =>
    -- an empty mapping is replaced by one, which is read alike
    have hes : es = [] := by
      rw [Value.truthy_of_opened_map (Value.opened_of_entries? h)] at htruthy
      simpa using htruthy
    have hread : Definition.read document = Definition.read (.map []) := by
      simp only [Definition.read, h, hes]
      rfl
    simp only [read, definitions, htruthy, List.mapM_cons, hread]
    rfl

/-- Definitions are read in turn, whatever the form, unless there are none in a list. -/
theorem read_holds {form : Form} (h : form.Holds document ds) (hbears : form.Bears ds) :
    read file document = ds.mapM Definition.read := by
  cases form with
  | list => exact read_list h (hbears rfl)
  | keyed =>
    obtain ⟨es, v, hes, hkey, hlist⟩ := h
    exact read_keyed hes hkey hlist
  | bare =>
    obtain ⟨es, hes, hkey, rfl⟩ := h
    exact read_bare hes hkey

end
end PlaybookDocument

namespace File

open PlaybookDocument

/-- Whether the document of a file holds just these definitions in a form. -/
def Holds (f : File) (form : Form) (ds : List Value) : Prop :=
  ∃ document, Markup.read f.text = .ok document ∧ form.Holds document ds

theorem playbooks_eq {f : File} {document : Value} (h : Markup.read f.text = .ok document) :
    f.playbooks = (PlaybookDocument.read f.name document).mapError .definition := by
  rw [playbooks, h]
  rfl

theorem playbooks_of_holds {f : File} {form : Form} {ds : List Value} (h : f.Holds form ds)
    (hbears : form.Bears ds) :
    f.playbooks = (ds.mapM Definition.read).mapError .definition := by
  obtain ⟨document, hread, hholds⟩ := h
  rw [playbooks_eq hread, read_holds hholds hbears]

theorem playbooks_emptyList {f : File} (h : f.Holds .list []) :
    f.playbooks = .error (.definition (.refused .missingId)) := by
  obtain ⟨document, hread, hholds⟩ := h
  rw [playbooks_eq hread, read_emptyList hholds]
  rfl

/-- What it comes to that definitions are in a file, in one form or another. -/
structure Interchangeable (ds : List Value) : Prop where
  /-- The file gives the playbook of each definition, in their order, or the fault of the first that
  stands for none. -/
  inTurn : ∀ (f : File) (form : Form), f.Holds form ds → form.Bears ds →
    ∃ r, InTurn Definition.read ds r ∧ f.playbooks = r.mapError .definition
  /-- Whatever the form and the name of the file, the outcome is the same. -/
  alike : ∀ (f g : File) (form form' : Form), f.Holds form ds → g.Holds form' ds →
    form.Bears ds → form'.Bears ds → f.playbooks = g.playbooks
  /-- A list of no definitions is refused for an id that it lacks. -/
  emptyList : ∀ f : File, f.Holds .list ds → ds = [] →
    f.playbooks = .error (.definition (.refused .missingId))

/-- **The forms of a document are interchangeable**, but for a list that is empty. -/
theorem forms_interchangeable (ds : List Value) : Interchangeable ds where
  inTurn f form h hbears :=
    ⟨ds.mapM Definition.read, mapM_inTurn Definition.read ds, playbooks_of_holds h hbears⟩
  alike f g form form' hf hg hbears hbears' := by
    rw [playbooks_of_holds hf hbears, playbooks_of_holds hg hbears']
  emptyList f h hds := playbooks_emptyList (hds ▸ h)

/-- Whether a value is the empty list. -/
def isEmptyList : Value → Bool
  | .list [] => true
  | _ => false

theorem opened_of_isEmptyList {v : Value} (h : isEmptyList v = true) : v.opened = .list [] := by
  unfold isEmptyList at h
  split at h
  · rfl
  · cases h

theorem exists_of_any {ε α : Type} {r : Except ε α} {p : α → Bool} (h : r.toOption.any p = true) :
    ∃ a, r = .ok a ∧ p a = true := by
  cases r with
  | error e => cases h
  | ok a => exact ⟨a, rfl, h⟩

/-- **An empty list is no list of definitions.** Under the key it holds none, and none are loaded;
by itself it is refused. -/
theorem emptyList_refused :
    let f : File := ⟨"list.yaml", "[]"⟩
    let g : File := ⟨"keyed.yaml", "playbooks: []"⟩
    f.Holds .list [] ∧ g.Holds .keyed [] ∧ g.playbooks = .ok [] ∧
      f.playbooks = .error (.definition (.refused .missingId)) := by
  intro f g
  have hf : f.Holds .list [] := by
    have hread : (Markup.read f.text).toOption.any isEmptyList = true := by decide +kernel
    obtain ⟨document, hdocument, hempty⟩ := exists_of_any hread
    exact ⟨document, hdocument, opened_of_isEmptyList hempty⟩
  have hg : g.Holds .keyed [] := by
    have hread : (Markup.read g.text).toOption.any (fun document =>
        (document.entries?.bind (·.field? "playbooks")).any isEmptyList) = true := by decide +kernel
    obtain ⟨document, hdocument, hkeyed⟩ := exists_of_any hread
    obtain ⟨v, hv, hempty⟩ := (Option.any_eq_true _ _).1 hkeyed
    obtain ⟨es, hes, hkey⟩ := Option.bind_eq_some_iff.1 hv
    exact ⟨document, hdocument, es, v, hes, hkey, opened_of_isEmptyList hempty⟩
  exact ⟨hf, hg, playbooks_of_holds hg nofun, playbooks_emptyList hf⟩

end File
end Compliance
