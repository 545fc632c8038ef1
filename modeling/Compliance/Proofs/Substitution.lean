import Compliance.Proofs.Visits
import Mathlib.Data.List.Infix

/-!
# Filling templates

A template is read once from the left into pieces, which are names between double braces and single
characters (`Reads`). To fill it is to write a value for each name and to copy the characters;
nothing that is written is read again (`fill`).

A message is made by four replacements in a row, which come to the same as long as a placeholder,
when its turn comes, stands only where the template has it (`Clean`). That is so for every template
if the title and the description are ordinary text (`clean_of_plain`). Otherwise a placeholder can
come with a value, or come about where a value meets the text around it, and is then replaced too.
Main statement: `render_fills`.
-/
namespace Compliance.Template

/-! ## Reading a template -/

/-- What a template can name. -/
inductive Name where
  | title
  | description
  | severity
  | incident
  deriving DecidableEq

namespace Name

/-- The names in the order of their turns. -/
def all : List Name := [.title, .description, .severity, .incident]

/-- The placeholder of a name. -/
def mark : Name → List Char
  | .title => (placeholder "violation.title").toList
  | .description => (placeholder "violation.description").toList
  | .severity => (placeholder "violation.severity").toList
  | .incident => (placeholder "incident.id").toList

/-- What a name stands for. -/
def value (v : Violation) (incident : Option String) : Name → String
  | .title => v.title
  | .description => v.description
  | .severity => word v.severity
  | .incident => incident.getD noIncident

theorem mem_all (n : Name) : n ∈ all := by
  cases n <;> decide

theorem mark_ne_nil (n : Name) : n.mark ≠ [] := by
  cases n <;> decide +kernel

/-- A placeholder begins with a brace and ends with one. -/
theorem mark_ends (n : Name) : n.mark.head? = some '\x7b' ∧ n.mark.getLast? = some '\x7d' := by
  cases n <;> decide +kernel

theorem tails_apart : ∀ m ∈ all, ∀ n ∈ all, ∀ y ∈ m.mark.tails, y ≠ [] →
    (y.isPrefixOf n.mark || n.mark.isPrefixOf y) = true → m = n := by
  decide +kernel

/-- No placeholder begins inside another one. -/
theorem eq_of_begins {m n : Name} {x y w z : List Char} (hm : m.mark = x ++ y) (hy : y ≠ [])
    (h : y ++ w = n.mark ++ z) : m = n := by
  have htail : y ∈ m.mark.tails := (List.mem_tails y m.mark).2 ⟨x, hm.symm⟩
  have hprefix : y <+: n.mark ∨ n.mark <+: y :=
    List.prefix_or_prefix_of_prefix (List.prefix_append y w) ⟨z, h.symm⟩
  refine tails_apart m m.mem_all n n.mem_all y htail hy ?_
  simpa using hprefix

end Name

/-- A piece of a template. -/
inductive Piece where
  | char (c : Char)
  | name (n : Name)

/-- The pieces of a template; `skip` characters are still part of the last one. -/
def pieces : Nat → List Char → List Piece
  | _, [] => []
  | skip + 1, _ :: cs => pieces skip cs
  | 0, c :: cs =>
    match Name.all.find? fun n => n.mark.isPrefixOf (c :: cs) with
    | some n => .name n :: pieces (n.mark.length - 1) cs
    | none => .char c :: pieces 0 cs

/-- What is written for a piece. -/
def Piece.written (writes : Name → List Char) : Piece → List Char
  | .char c => [c]
  | .name n => writes n

/-- What is written for pieces, one after the other. -/
def written (writes : Name → List Char) (ps : List Piece) : List Char :=
  ps.flatMap (·.written writes)

/-- A template with a value in the place of each name. -/
def fill (value : Name → String) (template : String) : String :=
  String.ofList (written (fun n => (value n).toList) (pieces 0 template.toList))

/-- Reading from the left: a placeholder is a name, and where none begins there is a character. -/
inductive Reads : List Char → List Piece → Prop
  | nil : Reads [] []
  | char {c : Char} {cs : List Char} {ps : List Piece} (hc : ∀ n : Name, ¬ n.mark <+: c :: cs)
      (h : Reads cs ps) : Reads (c :: cs) (.char c :: ps)
  | name (n : Name) {cs : List Char} {ps : List Piece} (h : Reads cs ps) :
      Reads (n.mark ++ cs) (.name n :: ps)

theorem pieces_skip (skip : Nat) (s : List Char) : pieces skip s = pieces 0 (s.drop skip) := by
  induction s generalizing skip with
  | nil => cases skip <;> rfl
  | cons c cs ih =>
    cases skip with
    | zero => rfl
    | succ skip => exact ih skip

theorem reads_pieces (s : List Char) : Reads s (pieces 0 s) := by
  induction hlength : s.length using Nat.strongRecOn generalizing s with
  | ind k ih =>
    cases s with
    | nil => exact .nil
    | cons c cs =>
      rw [pieces]
      split
      · next n hn =>
        have hprefix : n.mark.isPrefixOf (c :: cs) = true := by simpa using List.find?_some hn
        obtain ⟨rest, hrest⟩ := List.isPrefixOf_iff_prefix.1 hprefix
        have hdrop : cs.drop (n.mark.length - 1) = rest := by
          obtain ⟨b, bs, hmark⟩ := List.exists_cons_of_ne_nil n.mark_ne_nil
          rw [hmark] at hrest ⊢
          cases hrest
          simp
        have hpos := List.length_pos_of_ne_nil n.mark_ne_nil
        have hlt : rest.length < k := by
          rw [← hlength, ← hrest, List.length_append]
          omega
        rw [pieces_skip, hdrop, ← hrest]
        exact .name n (ih _ hlt rest rfl)
      · next hnone =>
        have hc : ∀ n : Name, ¬ n.mark <+: c :: cs := by
          intro n hprefix
          have hno := List.find?_eq_none.1 hnone n n.mem_all
          exact hno (List.isPrefixOf_iff_prefix.2 hprefix)
        have hlt : cs.length < k := by simp [← hlength]
        exact .char hc (ih _ hlt cs rfl)

/-- Placeholders written back are the template. -/
theorem Reads.written_mark {s : List Char} {ps : List Piece} (h : Reads s ps) :
    written Name.mark ps = s := by
  induction h with
  | nil => rfl
  | char hc h ih => exact congrArg _ ih
  | name n h ih => exact congrArg _ ih

/-! ## One replacement -/

/-- The placeholder of a name stands where the template has another piece: it begins in what is
written for that piece. -/
def Strays (writes : Name → List Char) (n : Name) (ps : List Piece) : Prop :=
  ∃ before p after x y z, ps = before ++ p :: after ∧ p ≠ .name n ∧ p.written writes = x ++ y ∧
    y ≠ [] ∧ y ++ written writes after = n.mark ++ z

section
variable {writes : Name → List Char} {n : Name} {p : Piece} {ps : List Piece}

theorem Strays.cons (h : Strays writes n ps) : Strays writes n (p :: ps) := by
  obtain ⟨before, p', after, x, y, z, rfl, h⟩ := h
  exact ⟨p :: before, p', after, x, y, z, rfl, h⟩

theorem Strays.head_or_tail (h : Strays writes n (p :: ps)) :
    (p ≠ .name n ∧ ∃ x y z, p.written writes = x ++ y ∧ y ≠ [] ∧
      y ++ written writes ps = n.mark ++ z) ∨ Strays writes n ps := by
  obtain ⟨before, p', after, x, y, z, hps, hp, hxy, hy, hz⟩ := h
  cases before with
  | nil =>
    cases hps
    exact .inl ⟨hp, x, y, z, hxy, hy, hz⟩
  | cons q before =>
    cases hps
    exact .inr ⟨before, p', after, x, y, z, rfl, hp, hxy, hy, hz⟩

/-- **One replacement** of a placeholder that does not stray writes its value for the name. -/
theorem replaceFrom_written (new : List Char) (hn : writes n = n.mark)
    (h : ¬ Strays writes n ps) :
    Text.replaceFrom n.mark new 0 (written writes ps) =
      written (Function.update writes n new) ps := by
  induction ps with
  | nil => rfl
  | cons p ps ih =>
    have hrest := ih fun hps => h hps.cons
    have hcons : ∀ writes, written writes (p :: ps) = p.written writes ++ written writes ps :=
      fun _ => rfl
    rw [hcons, hcons]
    by_cases hp : p = .name n
    · subst hp
      simp only [Piece.written, hn, Function.update_self]
      rw [Text.replaceFrom_append new n.mark_ne_nil, hrest]
    · have hcopied : ∀ x y, p.written writes = x ++ y → y ≠ [] →
          ¬ n.mark <+: y ++ written writes ps := by
        rintro x y hxy hy ⟨z, hz⟩
        exact h ⟨[], p, ps, x, y, z, rfl, hp, hxy, hy, hz.symm⟩
      have hsame : p.written (Function.update writes n new) = p.written writes := by
        cases p with
        | char c => rfl
        | name m =>
          have hm : m ≠ n := fun hm => hp (congrArg Piece.name hm)
          exact Function.update_of_ne hm new writes
      rw [Text.replaceFrom_copy new hcopied, hrest, hsame]

end

/-! ## All replacements -/

section
variable (value : Name → String)

/-- What is written when the turn of some names is over: their values, and for the other names
their placeholders. -/
def stage (done : List Name) (n : Name) : List Char :=
  if n ∈ done then (value n).toList else n.mark

/-- Whenever the turn of a name comes, its placeholder stands only where the template has it. -/
def Clean (template : String) : Prop :=
  ∀ done n rest, Name.all = done ++ n :: rest →
    ¬ Strays (stage value done) n (pieces 0 template.toList)

/-- The names in a list are replaced, one after the other. -/
def replaceAll (ns : List Name) (s : List Char) : List Char :=
  ns.foldl (fun s n => Text.replaceFrom n.mark (value n).toList 0 s) s

theorem update_stage (done : List Name) (n : Name) :
    Function.update (stage value done) n (value n).toList = stage value (done ++ [n]) := by
  funext m
  by_cases hm : m = n
  · subst hm
    simp [stage]
  · simp [stage, hm]

theorem replaceAll_stage {ps : List Piece} (done ns : List Name)
    (hnodup : (done ++ ns).Nodup)
    (h : ∀ earlier n later, ns = earlier ++ n :: later →
      ¬ Strays (stage value (done ++ earlier)) n ps) :
    replaceAll value ns (written (stage value done) ps) =
      written (stage value (done ++ ns)) ps := by
  induction ns generalizing done with
  | nil => rw [List.append_nil]; rfl
  | cons n ns ih =>
    have hn : n ∉ done := by
      intro hmem
      exact (List.nodup_append.1 hnodup).2.2 n hmem n List.mem_cons_self rfl
    have hmark : stage value done n = n.mark := if_neg hn
    have hfirst : ¬ Strays (stage value done) n ps := by
      simpa using h [] n ns rfl
    have hassoc : done ++ n :: ns = done ++ [n] ++ ns := List.append_cons done n ns
    rw [replaceAll, List.foldl_cons, replaceFrom_written _ hmark hfirst, update_stage, hassoc]
    refine ih (done ++ [n]) (hassoc ▸ hnodup) fun earlier m later hns => ?_
    have hlater := h (n :: earlier) m later (by rw [hns]; rfl)
    rwa [List.append_cons] at hlater

end

theorem render_eq_replaceAll (template : String) (v : Violation) (incident : Option String) :
    render template v incident =
      String.ofList (replaceAll (Name.value v incident) Name.all template.toList) := by
  simp [render, Text.replace, replaceAll, Name.all, Name.mark, Name.value]

/-- **A message is its template, filled once.** Whatever the title and the description are, and
whether an incident is bound or not: as long as no placeholder stands, when its turn comes, where
the template has none. -/
theorem render_fills {template : String} {v : Violation} {incident : Option String}
    (h : Clean (Name.value v incident) template) :
    render template v incident = fill (Name.value v incident) template := by
  have hstart : written (stage (Name.value v incident) []) (pieces 0 template.toList) =
      template.toList := by
    have hmark : stage (Name.value v incident) [] = Name.mark := by
      funext n
      simp [stage]
    rw [hmark]
    exact (reads_pieces template.toList).written_mark
  have hend : stage (Name.value v incident) ([] ++ Name.all) =
      fun n => (Name.value v incident n).toList := by
    funext n
    exact if_pos n.mem_all
  have hall := replaceAll_stage (Name.value v incident) [] Name.all (by decide) h
  rw [render_eq_replaceAll, fill, ← hend, ← hall, hstart]

/-! ## Ordinary values -/

/-- A text without braces that is no part of a placeholder. -/
def Plain (s : String) : Prop :=
  '\x7b' ∉ s.toList ∧ '\x7d' ∉ s.toList ∧ ∀ n ∈ Name.all, ¬ s.toList <:+: n.mark

instance (s : String) : Decidable (Plain s) := inferInstanceAs (Decidable (_ ∧ _ ∧ _))

section
variable {value : Name → String} {done : List Name} {n : Name}

/-- Where plain values are filled in, the rest of a placeholder that has begun is a piece of the
template. -/
theorem Reads.prefix_of_written (hplain : ∀ m ∈ done, Plain (value m)) {s : List Char}
    {ps : List Piece} (h : Reads s ps) {u w z : List Char} (hmark : n.mark = u ++ w)
    (hw : written (stage value done) ps = w ++ z) : w <+: s := by
  induction h generalizing u w with
  | nil =>
    obtain ⟨rfl, -⟩ := List.append_eq_nil_iff.1 hw.symm
    exact List.nil_prefix
  | @char c cs ps hc h ih =>
    cases w with
    | nil => exact List.nil_prefix
    | cons b w =>
      obtain ⟨hb, htail⟩ := List.cons.inj
        (hw : c :: written (stage value done) ps = b :: (w ++ z))
      have hrest := ih (u := u ++ [b]) (by rw [hmark]; simp) htail
      exact List.cons_prefix_cons.2 ⟨hb.symm, hrest⟩
  | @name m cs ps h ih =>
    have hw : stage value done m ++ written (stage value done) ps = w ++ z := hw
    by_cases hm : m ∈ done
    · -- a plain value is not part of the placeholder, and the placeholder does not end in it
      obtain ⟨-, hbrace, hpart⟩ := hplain m hm
      rw [stage, if_pos hm] at hw
      rcases List.append_eq_append_iff.1 hw with ⟨a, rfl, -⟩ | ⟨a, ha, -⟩
      · exact absurd ⟨u, a, by rw [hmark]; simp⟩ (hpart n n.mem_all)
      · rcases List.eq_nil_or_concat w with rfl | ⟨w, b, rfl⟩
        · exact List.nil_prefix
        · have hlast := n.mark_ends.2
          rw [hmark] at hlast
          simp only [List.concat_eq_append, ← List.append_assoc, List.getLast?_concat,
            Option.some.injEq] at hlast
          exact absurd (by simp [ha, hlast]) hbrace
    · rw [stage, if_neg hm] at hw
      rcases List.append_eq_append_iff.1 hw with ⟨a, rfl, ha⟩ | ⟨a, ha, -⟩
      · have hrest := ih (u := u ++ m.mark) (by rw [hmark]; simp) ha
        exact (List.prefix_append_right_inj m.mark).2 hrest
      · exact ⟨a ++ cs, by rw [ha]; simp⟩

theorem Reads.not_strays (hplain : ∀ m ∈ done, Plain (value m)) {s : List Char} {ps : List Piece}
    (h : Reads s ps) : ¬ Strays (stage value done) n ps := by
  induction h with
  | nil =>
    rintro ⟨before, p, after, -, -, -, hps, -⟩
    simp at hps
  | @char c cs ps hc h ih =>
    intro hstrays
    rcases hstrays.head_or_tail with ⟨-, x, y, z, hxy, hy, hz⟩ | hstrays
    · obtain ⟨b, w, hmark⟩ := List.exists_cons_of_ne_nil n.mark_ne_nil
      have hyc : y = [c] := by
        rcases List.singleton_eq_append_iff.1 hxy with ⟨-, rfl⟩ | ⟨-, rfl⟩
        · rfl
        · exact absurd rfl hy
      rw [hyc, hmark] at hz
      obtain ⟨rfl, hw⟩ := List.cons.inj
        (hz : c :: written (stage value done) ps = b :: (w ++ z))
      have hrest := h.prefix_of_written hplain (u := [c]) hmark hw
      exact hc n (hmark ▸ List.cons_prefix_cons.2 ⟨rfl, hrest⟩)
    · exact ih hstrays
  | @name m cs ps h ih =>
    intro hstrays
    rcases hstrays.head_or_tail with ⟨hne, x, y, z, hxy, hy, hz⟩ | hstrays
    · have hxy : stage value done m = x ++ y := hxy
      by_cases hm : m ∈ done
      · -- the placeholder would begin with a brace of the value
        rw [stage, if_pos hm] at hxy
        obtain ⟨b, y, rfl⟩ := List.exists_cons_of_ne_nil hy
        have hhead := congrArg List.head? hz
        rw [List.cons_append, List.head?_cons, List.head?_append_of_ne_nil _ n.mark_ne_nil,
          n.mark_ends.1, Option.some.injEq] at hhead
        exact (hplain m hm).1 (by simp [hxy, hhead])
      · rw [stage, if_neg hm] at hxy
        exact hne (Name.eq_of_begins hxy hy hz ▸ rfl)
    · exact ih hstrays

end

/-- Every template is clean for plain values; the words for severities are plain. -/
theorem clean_of_plain {v : Violation} (htitle : Plain v.title)
    (hdescription : Plain v.description) (incident : Option String) (template : String) :
    Clean (Name.value v incident) template := by
  intro done n rest hall
  refine (reads_pieces template.toList).not_strays fun m hm => ?_
  have hlater : m ∈ Name.all.dropLast := by
    have hrest : n :: rest ≠ [] := List.cons_ne_nil n rest
    rw [hall, List.dropLast_append_of_ne_nil hrest]
    exact List.mem_append_left _ hm
  cases m with
  | title => exact htitle
  | description => exact hdescription
  | severity =>
    have hwords : ∀ s ∈ Vocabulary.members (α := Severity), Plain (word s) := by decide +kernel
    exact hwords v.severity (Vocabulary.mem_members v.severity)
  | incident => exact absurd hlater (by decide)

/-- The braces around a placeholder are copied. -/
theorem render_fills_braces :
    let template := "\x7b" ++ placeholder "violation.title" ++ "\x7d \x7b\x7b" ++
      placeholder "incident.id"
    Clean (Name.value .leak none) template ∧
      render template .leak none = fill (Name.value .leak none) template ∧
      fill (Name.value .leak none) template = "\x7bLeak\x7d \x7b\x7bN/A" := by
  have hclean := clean_of_plain (v := .leak) (by decide +kernel) (by decide +kernel) none
  exact ⟨hclean _, render_fills (hclean _), by decide +kernel⟩

/-- **A title that is a placeholder is filled in itself.** -/
theorem render_title_refilled :
    let v := { Violation.leak with title := placeholder "incident.id" }
    let template := placeholder "violation.title"
    fill (Name.value v (some "incident-1")) template = placeholder "incident.id" ∧
      render template v (some "incident-1") = "incident-1" := by
  decide +kernel

end Compliance.Template
