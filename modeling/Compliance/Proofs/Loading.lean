import Compliance.Playbook.Document
import Compliance.Proofs.Rereading
import Mathlib.Data.String.Basic

/-!
# Loading a directory is loading its files

The playbooks of a directory are those of its documents, file after file by their names, and those
of a document are what its definitions stand for, one after the other. Where something cannot be
loaded, it is the first such thing that the fault is about. `InTurn` says this of any reading.
Nothing but the documents counts, nor in what order the directory has them. Main statement:
`directory_inTurn`.
-/
namespace Compliance

/-! ## Reading in turn -/

/-- What it comes to that some things are read in turn: what each of them gives, in their order, or
the fault of the first one that cannot be read. -/
structure InTurn {ε α β : Type} (read : α → Except ε β) (xs : List α)
    (result : Except ε (List β)) : Prop where
  returns : ∀ ys, result = .ok ys ↔ xs.map read = ys.map .ok
  faults : ∀ e, result = .error e ↔ ∃ earlier x later, xs = earlier ++ x :: later ∧
    (∀ y ∈ earlier, ∃ z, read y = .ok z) ∧ read x = .error e

section
variable {ε α β : Type} {read read' : α → Except ε β} {xs : List α}

/-- Reading a list one by one is reading in turn. -/
theorem mapM_inTurn (read : α → Except ε β) (xs : List α) : InTurn read xs (xs.mapM read) :=
  ⟨fun _ => mapM_eq_ok_iff, fun _ => mapM_eq_error_iff⟩

/-- Only how the things themselves are read counts. -/
theorem InTurn.congr {result : Except ε (List β)} (h : InTurn read xs result)
    (hread : ∀ x ∈ xs, read' x = read x) : InTurn read' xs result := by
  refine ⟨fun ys => ?_, fun e => ?_⟩
  · rw [h.returns, List.map_congr_left hread]
  · rw [h.faults]
    refine exists_congr fun earlier => exists_congr fun x => exists_congr fun later => ?_
    refine and_congr_right fun hxs => ?_
    subst hxs
    have hearlier : ∀ y ∈ earlier, read' y = read y :=
      fun y hy => hread y (List.mem_append_left _ hy)
    rw [hread x (List.mem_append_right _ List.mem_cons_self)]
    exact and_congr_left fun _ => forall₂_congr fun y hy => by rw [hearlier y hy]

end

/-! ## Files and their names -/

namespace Text

/-- A text without the separator is one piece. -/
theorem splitAt_of_not_mem {sep : Char} {s : List Char} (h : sep ∉ s) : splitAt sep s = [s] := by
  induction s with
  | nil => rfl
  | cons c cs ih =>
    rw [List.mem_cons, not_or] at h
    rw [splitAt, if_neg (Ne.symm h.1), ih h.2]

end Text

namespace File

/-- The files of a directory: they have different names, each of which can be a step of a path. -/
structure IsDirectory (directory : List File) : Prop where
  different : (directory.map (·.name)).Nodup
  names : ∀ f ∈ directory, '/' ∉ f.name.toList ∧ '\x00' ∉ f.name.toList

instance (directory : List File) : Decidable (IsDirectory directory) :=
  decidable_of_iff ((directory.map (·.name)).Nodup ∧
      ∀ f ∈ directory, '/' ∉ f.name.toList ∧ '\x00' ∉ f.name.toList)
    ⟨fun ⟨different, names⟩ => ⟨different, names⟩, fun h => ⟨h.different, h.names⟩⟩

/-- Whether the name of a file ends in `.yaml` or `.yml`. -/
def HasEnding (f : File) : Prop :=
  ".yaml".toList <:+ f.name.toList ∨ ".yml".toList <:+ f.name.toList

section
variable {directory : List File} {f : File}

theorem isDocument_iff : f.isDocument = true ↔ f.HasEnding := by
  simp [isDocument, HasEnding, List.isSuffixOf_iff_suffix]

theorem mem_documents : f ∈ documents directory ↔ f ∈ directory ∧ f.HasEnding := by
  rw [documents, List.mem_mergeSort, List.mem_filter, isDocument_iff]

/-- The documents of a directory stand in the order of their names. -/
theorem documents_ordered (h : IsDirectory directory) :
    (documents directory).Pairwise (·.name < ·.name) := by
  have sorted : (documents directory).Pairwise fun f g => decide (f.name ≤ g.name) = true := by
    refine List.pairwise_mergeSort (fun f g k hfg hgk => ?_) (fun f g => ?_) _
    · rw [decide_eq_true_eq] at hfg hgk ⊢
      exact le_trans hfg hgk
    · rw [Bool.or_eq_true, decide_eq_true_eq, decide_eq_true_eq]
      exact le_total f.name g.name
  have different : (documents directory).Pairwise fun f g => f.name ≠ g.name := by
    have hfiltered := (List.pairwise_map.1 h.different).filter isDocument
    exact hfiltered.perm (List.mergeSort_perm _ _).symm fun hne => Ne.symm hne
  refine (sorted.and different).imp fun ⟨hle, hne⟩ => ?_
  exact lt_of_le_of_ne (of_decide_eq_true hle) hne

/-- There is one list of the documents in the order of their names. -/
theorem documents_eq (h : IsDirectory directory) {docs : List File}
    (hmem : ∀ f, f ∈ docs ↔ f ∈ directory ∧ f.HasEnding)
    (ordered : docs.Pairwise (·.name < ·.name)) : documents directory = docs := by
  have hnodup : ∀ {ds : List File}, ds.Pairwise (·.name < ·.name) → ds.Nodup :=
    List.Pairwise.imp fun hlt he => ne_of_lt hlt (congrArg File.name he)
  have ordered' := documents_ordered h
  have perm : (documents directory).Perm docs :=
    (List.perm_ext_iff_of_nodup (hnodup ordered') (hnodup ordered)).2 fun f => by
      rw [mem_documents, hmem]
  exact perm.eq_of_pairwise (fun f g _ _ hfg hgf => absurd (lt_trans hfg hgf) (lt_irrefl _))
    ordered' ordered

/-- A document is found under its name. -/
theorem playbooksIn_name (h : IsDirectory directory) (hf : f ∈ directory) (ending : f.HasEnding) :
    playbooksIn directory f.name = f.playbooks := by
  obtain ⟨hslash, hnul⟩ := h.names f hf
  have hempty : f.name ≠ "" := by
    intro he
    rcases ending with ending | ending <;> rw [he] at ending <;> revert ending <;> decide
  have hdot : f.name ≠ "." := by
    intro he
    rcases ending with ending | ending <;> rw [he] at ending <;> revert ending <;> decide
  have hsteps : steps f.name = [f.name] := by
    simp [steps, Text.pieces, Text.splitAt_of_not_mem hslash, hempty, hdot]
  have hrelative : ¬ f.name.toList.head? = some '/' :=
    fun hhead => hslash (List.mem_of_head? hhead)
  unfold playbooksIn
  rw [List.contains_eq_mem, decide_eq_false hnul, if_neg Bool.false_ne_true, if_neg hrelative,
    hsteps]
  simp only [find?_of_nodup h.different hf, List.isEmpty_nil, if_true]

end

/-- The playbooks of several files are those of each of them, joined. -/
theorem allPlaybooks_eq (fs : List File) :
    allPlaybooks fs = (fs.mapM playbooks).map List.flatten := by
  induction fs with
  | nil => rfl
  | cons f fs ih =>
    rw [allPlaybooks, List.mapM_cons, ih]
    cases f.playbooks with
    | error e => rfl
    | ok ps => cases fs.mapM playbooks <;> rfl

/-- The playbooks of a document are what its definitions stand for in turn. -/
theorem playbooks_inTurn {f : File} {document : Value} {ds : List Value}
    (hread : Markup.read f.text = .ok document)
    (hds : PlaybookDocument.definitions f.name document = .ok ds) :
    ∃ r, InTurn Definition.read ds r ∧ f.playbooks = r.mapError .definition := by
  refine ⟨ds.mapM Definition.read, mapM_inTurn Definition.read ds, ?_⟩
  rw [playbooks, hread]
  change (PlaybookDocument.read f.name document).mapError LoadFault.definition = _
  rw [PlaybookDocument.read, hds]
  rfl

/-- What loading a directory comes to. -/
structure Loads (directory docs : List File) : Prop where
  /-- The documents are just the files whose names end in `.yaml` or `.yml`, by their names. -/
  documents : ∀ f, f ∈ docs ↔ f ∈ directory ∧ f.HasEnding
  ordered : docs.Pairwise (·.name < ·.name)
  /-- What each document gives when it is loaded by its name, joined, or the fault of the first one
  that cannot be loaded so. -/
  joined : ∃ r, InTurn (fun f => playbooksIn directory f.name) docs r ∧
    playbooksIn directory "" = r.map List.flatten
  /-- A document gives the playbooks that its definitions stand for, or the fault of the first one
  that stands for none. -/
  entries : ∀ f ∈ docs, ∀ document ds, Markup.read f.text = .ok document →
    PlaybookDocument.definitions f.name document = .ok ds →
      ∃ r, InTurn Definition.read ds r ∧ playbooksIn directory f.name = r.mapError .definition
  /-- Other files make no difference, nor does the order of the files. -/
  alone : ∀ directory', IsDirectory directory' →
    (∀ f : File, f.HasEnding → (f ∈ directory' ↔ f ∈ directory)) →
      playbooksIn directory' "" = playbooksIn directory ""

/-- **Loading a directory is loading its documents in turn.** -/
theorem directory_inTurn {directory : List File} (h : IsDirectory directory) :
    ∃ docs, Loads directory docs := by
  have whole : ∀ directory, playbooksIn directory "" = allPlaybooks (File.documents directory) :=
    fun _ => rfl
  have named : ∀ f ∈ File.documents directory, playbooksIn directory f.name = f.playbooks := by
    intro f hf
    obtain ⟨hmem, ending⟩ := mem_documents.1 hf
    exact playbooksIn_name h hmem ending
  refine ⟨File.documents directory, fun _ => mem_documents, documents_ordered h,
    ⟨_, (mapM_inTurn playbooks _).congr named, ?_⟩, fun f hf document ds hread hds => ?_,
    fun directory' h' same => ?_⟩
  · rw [whole, allPlaybooks_eq]
  · rw [named f hf]
    exact playbooks_inTurn hread hds
  · have hmem : ∀ f, f ∈ File.documents directory ↔ f ∈ directory' ∧ f.HasEnding := fun f =>
      mem_documents.trans (and_congr_left fun ending => (same f ending).symm)
    rw [whole, whole, documents_eq h' hmem (documents_ordered h)]

/-- Documents with either ending, and a file that is none. -/
def mixedDirectory : List File :=
  [⟨"b.yaml", "id: second"⟩, ⟨"notes.txt", "ignored"⟩, ⟨"a.yml", "id: first"⟩]

theorem directory_inTurn_mixed :
    IsDirectory mixedDirectory ∧ (∃ docs, Loads mixedDirectory docs) ∧
      (playbooksIn mixedDirectory "").toOption.map (·.map (·.id.toText)) =
        some ["first", "second"] := by
  have h : IsDirectory mixedDirectory := by decide
  have hperm : [⟨"a.yml", "id: first"⟩, ⟨"b.yaml", "id: second"⟩].Perm
      (mixedDirectory.filter isDocument) := .swap ..
  have hdocuments : documents mixedDirectory =
      [⟨"a.yml", "id: first"⟩, ⟨"b.yaml", "id: second"⟩] :=
    documents_eq h (fun f => by rw [hperm.mem_iff, List.mem_filter, isDocument_iff]) (by decide)
  have hload : playbooksIn mixedDirectory "" =
      allPlaybooks [⟨"a.yml", "id: first"⟩, ⟨"b.yaml", "id: second"⟩] :=
    congrArg allPlaybooks hdocuments
  refine ⟨h, directory_inTurn h, ?_⟩
  rw [hload]
  decide +kernel

end File
end Compliance
