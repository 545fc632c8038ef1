import Compliance.Proofs.Traversal
import Compliance.Proofs.Locality

/-!
# The inventory and its history

What the inventory holds is told by the changes that were made to it. There is one asset for a
`Subject` at most, it stands in the place where it was first registered since it was last taken out
(`Founded`), and the facts for a subject are those that were taken in last (`learned?`), whether or
not an asset was there at the time. Main statement: `after_kept`.
-/
namespace Compliance

open Calendar

/-- What an asset or facts are about. -/
structure Subject where
  type : AssetType
  identifier : String
  deriving DecidableEq

def Asset.subject (a : Asset) : Subject := ⟨a.type, a.identifier⟩

def Facts.subject (f : Facts) : Subject := ⟨f.type, f.identifier⟩

theorem Asset.isFor_iff {a : Asset} {u : Subject} :
    a.isFor u.type u.identifier = true ↔ a.subject = u := by
  cases u
  simp [Asset.isFor, Asset.subject]

namespace Inventory

/-! ## Single changes -/

theorem find?_replaceFacts_self (f : Facts) (fs : List Facts) :
    (replaceFacts f fs).find? (fun g => g.type = f.type && g.identifier = f.identifier) =
      some f := by
  induction fs with
  | nil => simp [replaceFacts]
  | cons g fs ih =>
    unfold replaceFacts
    split
    · simp
    · next hg =>
      rw [List.find?_cons_of_neg (by simpa using hg), ih]

section
variable {inv : Inventory} {u : Subject} {a : Asset}

/-- No two assets are about the same. -/
def IsDistinct (inv : Inventory) : Prop := (inv.assets.map (·.subject)).Nodup

theorem assetFor?_eq_none : inv.assetFor? u.type u.identifier = none ↔
    ∀ a ∈ inv.assets, a.subject ≠ u := by
  unfold assetFor?
  rw [List.find?_eq_none]
  exact forall₂_congr fun a _ => Asset.isFor_iff.not

theorem mem_of_assetFor? (h : inv.assetFor? u.type u.identifier = some a) :
    a ∈ inv.assets ∧ a.subject = u := by
  have hfor := List.find?_some h
  exact ⟨List.mem_of_find?_eq_some h, Asset.isFor_iff.1 hfor⟩

theorem IsDistinct.eq_of_subject (h : inv.IsDistinct) {b : Asset} (ha : a ∈ inv.assets)
    (hb : b ∈ inv.assets) (hab : a.subject = b.subject) : a = b :=
  List.inj_on_of_nodup_map h ha hb hab

/-- What is registered is found, and nothing is added; what is not is added at the end, with the
next number and unchecked. -/
theorem add_cases (inv : Inventory) (type : AssetType) (identifier organization : String)
    (metadata : Value) :
    (∃ a ∈ inv.assets, a.subject = ⟨type, identifier⟩ ∧
      inv.add type identifier organization metadata = (inv, a)) ∨
    ((∀ a ∈ inv.assets, a.subject ≠ ⟨type, identifier⟩) ∧
      ∃ a : Asset, a.id = label "asset" (inv.issued + 1) ∧ a.subject = ⟨type, identifier⟩ ∧
        a.lastChecked = none ∧ a.status = .unknown ∧
        inv.add type identifier organization metadata =
          ({ inv with assets := inv.assets ++ [a], issued := inv.issued + 1 }, a)) := by
  unfold add
  cases hfind : inv.assetFor? type identifier with
  | some a =>
    obtain ⟨ha, hsubject⟩ := mem_of_assetFor? (u := ⟨type, identifier⟩) hfind
    exact .inl ⟨a, ha, hsubject, rfl⟩
  | none =>
    have hne := (assetFor?_eq_none (u := ⟨type, identifier⟩)).1 hfind
    exact .inr ⟨hne, _, rfl, rfl, rfl, rfl, rfl⟩

/-- An asset is given back as it is where its subject is registered again. -/
theorem IsDistinct.add_of_mem (h : inv.IsDistinct) (ha : a ∈ inv.assets) (organization : String)
    (metadata : Value) : inv.add a.type a.identifier organization metadata = (inv, a) := by
  rcases inv.add_cases a.type a.identifier organization metadata with
    ⟨b, hb, hsubject, hadd⟩ | ⟨hne, -⟩
  · rwa [h.eq_of_subject hb ha hsubject] at hadd
  · exact absurd rfl (hne a ha)

/-- Facts change the assets that they are about. -/
theorem setFacts_assets (now : Instant) (f : Facts) (inv : Inventory) :
    (inv.setFacts now f).assets =
      inv.assets.map fun a => if a.subject = f.subject then a.checked now else a := by
  refine List.map_congr_left fun a _ => ?_
  have hfor := Asset.isFor_iff (a := a) (u := f.subject)
  by_cases hs : a.subject = f.subject
  · rw [if_pos hs]
    exact if_pos (hfor.2 hs)
  · rw [if_neg hs]
    exact if_neg fun ha => hs (hfor.1 ha)

theorem setFacts_subjects (now : Instant) (f : Facts) (inv : Inventory) :
    (inv.setFacts now f).assets.map (·.subject) = inv.assets.map (·.subject) := by
  rw [setFacts_assets, List.map_map]
  refine List.map_congr_left fun a _ => ?_
  rw [Function.comp_apply]
  split <;> rfl

/-- Facts change one asset at most. -/
theorem IsDistinct.setFacts_cases (h : inv.IsDistinct) (now : Instant) (f : Facts) :
    ((∀ a ∈ inv.assets, a.subject ≠ f.subject) ∧ (inv.setFacts now f).assets = inv.assets) ∨
      ∃ before a after, inv.assets = before ++ a :: after ∧ a.subject = f.subject ∧
        (inv.setFacts now f).assets = before ++ a.checked now :: after := by
  rw [setFacts_assets]
  have hkeep : ∀ as : List Asset, (∀ a ∈ as, a.subject ≠ f.subject) →
      as.map (fun a => if a.subject = f.subject then a.checked now else a) = as := fun as has =>
    (List.map_congr_left fun a ha => if_neg (has a ha)).trans (List.map_id as)
  by_cases hnone : ∀ a ∈ inv.assets, a.subject ≠ f.subject
  · exact .inl ⟨hnone, hkeep inv.assets hnone⟩
  · simp only [not_forall, not_not] at hnone
    obtain ⟨a, ha, hsubject⟩ := hnone
    obtain ⟨before, after, hassets⟩ := List.append_of_mem ha
    have hothers : (∀ b ∈ before, b.subject ≠ f.subject) ∧ ∀ b ∈ after, b.subject ≠ f.subject := by
      unfold IsDistinct at h
      rw [hassets, List.map_append, List.map_cons, List.nodup_middle, List.nodup_cons,
        List.mem_append, not_or] at h
      exact ⟨fun b hb he => h.1.1 (List.mem_map.2 ⟨b, hb, he.trans hsubject.symm⟩),
        fun b hb he => h.1.2 (List.mem_map.2 ⟨b, hb, he.trans hsubject.symm⟩)⟩
    refine .inr ⟨before, a, after, hassets, hsubject, ?_⟩
    rw [hassets, List.map_append, List.map_cons, hkeep before hothers.1, hkeep after hothers.2,
      if_pos hsubject]

/-- Facts are found under their subject, and hide none under another. -/
theorem factsFor?_setFacts (now : Instant) (f : Facts) (inv : Inventory) (u : Subject) :
    (inv.setFacts now f).factsFor? u.type u.identifier =
      if f.subject = u then some f else inv.factsFor? u.type u.identifier := by
  split
  · next hu =>
    subst hu
    exact find?_replaceFacts_self f inv.facts
  · next hu => exact find?_replaceFacts (fun h => hu (by cases u; simpa [Facts.subject] using h)) _

end

/-! ## Histories -/

/-- What a change registers, if it registers anything. -/
def Change.registers? : Change → Option Subject
  | .add type identifier .. => some ⟨type, identifier⟩
  | _ => none

/-- The facts about a subject that a change takes in. -/
def Change.learned? (u : Subject) : Change → Option Facts
  | .learn _ f => if f.subject = u then some f else none
  | _ => none

/-- A change takes out the asset that is about a subject. -/
def Change.TakesOut (inv : Inventory) (u : Subject) (c : Change) : Prop :=
  ∃ a ∈ inv.assets, a.subject = u ∧ c = .remove a.id

section
variable {h : List Change} {c : Change} {u v : Subject} {j k : Nat}

/-- A subject is registered, whether or not for the first time, at a place of a history. -/
def RegisteredAt (h : List Change) (u : Subject) (k : Nat) : Prop :=
  ∃ c, h[k]? = some c ∧ c.registers? = some u

/-- The asset that is about a subject is taken out at a place of a history. -/
def TakenOutAt (h : List Change) (u : Subject) (k : Nat) : Prop :=
  ∃ c, h[k]? = some c ∧ c.TakesOut (empty.after (h.take k)) u

/-- The place where a subject was first registered since its asset was last taken out. -/
structure Founded (h : List Change) (u : Subject) (k : Nat) : Prop where
  registered : RegisteredAt h u k
  stays : ∀ i, k < i → ¬ TakenOutAt h u i
  first : ∀ j < k, RegisteredAt h u j → ∃ i, j < i ∧ i < k ∧ TakenOutAt h u i

/-- A subject was founded before another. -/
def Precedes (h : List Change) (u v : Subject) : Prop :=
  ∃ j k, Founded h u j ∧ Founded h v k ∧ j < k

/-- The facts about a subject that were taken in last. -/
def learned? (u : Subject) (h : List Change) : Option Facts :=
  (h.filterMap (·.learned? u)).getLast?

theorem after_concat : empty.after (h ++ [c]) = c.apply (empty.after h) := by
  rw [after, List.foldl_concat]
  rfl

theorem getElem?_concat_eq_some {d : Change} :
    (h ++ [c])[k]? = some d ↔ h[k]? = some d ∨ k = h.length ∧ c = d := by
  rcases Nat.lt_trichotomy k h.length with hk | rfl | hk
  · simp [List.getElem?_append_left hk, Nat.ne_of_lt hk]
  · simp
  · have hout : (h ++ [c]).length ≤ k := by
      rw [List.length_append, List.length_singleton]
      exact hk
    simp [List.getElem?_eq_none hout, List.getElem?_eq_none (Nat.le_of_lt hk), Nat.ne_of_gt hk]

theorem RegisteredAt.lt_length (hk : RegisteredAt h u k) : k < h.length := by
  obtain ⟨c, hc, -⟩ := hk
  exact (List.getElem?_eq_some_iff.1 hc).1

theorem TakenOutAt.lt_length (hk : TakenOutAt h u k) : k < h.length := by
  obtain ⟨c, hc, -⟩ := hk
  exact (List.getElem?_eq_some_iff.1 hc).1

/-- Nothing is registered where an asset is taken out. -/
theorem TakenOutAt.not_registeredAt (hk : TakenOutAt h u k) : ¬ RegisteredAt h v k := by
  rintro ⟨d, hd, hregisters⟩
  obtain ⟨c, hc, a, -, -, rfl⟩ := hk
  cases hc.symm.trans hd
  cases hregisters

theorem registeredAt_concat : RegisteredAt (h ++ [c]) u k ↔
    RegisteredAt h u k ∨ k = h.length ∧ c.registers? = some u := by
  constructor
  · rintro ⟨d, hd, hregisters⟩
    rcases getElem?_concat_eq_some.1 hd with hd | ⟨hk, rfl⟩
    · exact .inl ⟨d, hd, hregisters⟩
    · exact .inr ⟨hk, hregisters⟩
  · rintro (⟨d, hd, hregisters⟩ | ⟨hk, hregisters⟩)
    · exact ⟨d, getElem?_concat_eq_some.2 (.inl hd), hregisters⟩
    · exact ⟨c, getElem?_concat_eq_some.2 (.inr ⟨hk, rfl⟩), hregisters⟩

theorem takenOutAt_concat : TakenOutAt (h ++ [c]) u k ↔
    TakenOutAt h u k ∨ k = h.length ∧ c.TakesOut (empty.after h) u := by
  have htake : ∀ {d}, h[k]? = some d → (h ++ [c]).take k = h.take k := fun hd =>
    List.take_append_of_le_length (Nat.le_of_lt (List.getElem?_eq_some_iff.1 hd).1)
  constructor
  · rintro ⟨d, hd, htakes⟩
    rcases getElem?_concat_eq_some.1 hd with hd | ⟨rfl, rfl⟩
    · exact .inl ⟨d, hd, htake hd ▸ htakes⟩
    · rw [List.take_left] at htakes
      exact .inr ⟨rfl, htakes⟩
  · rintro (⟨d, hd, htakes⟩ | ⟨rfl, htakes⟩)
    · exact ⟨d, getElem?_concat_eq_some.2 (.inl hd), (htake hd).symm ▸ htakes⟩
    · exact ⟨c, getElem?_concat_eq_some.2 (.inr ⟨rfl, rfl⟩), by rwa [List.take_left]⟩

theorem RegisteredAt.of_lt (hk : RegisteredAt (h ++ [c]) u k) (hlt : k < h.length) :
    RegisteredAt h u k :=
  (registeredAt_concat.1 hk).resolve_right fun hlast => Nat.ne_of_lt hlt hlast.1

theorem TakenOutAt.of_lt (hk : TakenOutAt (h ++ [c]) u k) (hlt : k < h.length) :
    TakenOutAt h u k :=
  (takenOutAt_concat.1 hk).resolve_right fun hlast => Nat.ne_of_lt hlt hlast.1

/-- There is only one such place. -/
theorem Founded.unique (hj : Founded h u j) (hk : Founded h u k) : j = k := by
  rcases Nat.lt_trichotomy j k with hlt | heq | hlt
  · obtain ⟨i, hji, -, htaken⟩ := hk.first j hlt hj.registered
    exact absurd htaken (hj.stays i hji)
  · exact heq
  · obtain ⟨i, hki, -, htaken⟩ := hj.first k hlt hk.registered
    exact absurd htaken (hk.stays i hki)

/-- What was registered and has not been taken out since was founded somewhere. -/
theorem exists_founded (hj : RegisteredAt h u j) (hstays : ∀ i, j < i → ¬ TakenOutAt h u i) :
    ∃ k, Founded h u k := by
  induction j using Nat.strongRecOn with
  | ind j ih =>
    by_cases hfirst : ∀ i < j, RegisteredAt h u i → ∃ l, i < l ∧ l < j ∧ TakenOutAt h u l
    · exact ⟨j, hj, hstays, hfirst⟩
    · -- an earlier registration has not ended either
      simp only [not_forall, not_exists, not_and] at hfirst
      obtain ⟨i, hij, hi, hkept⟩ := hfirst
      refine ih i hij hi fun l hil htaken => ?_
      rcases Nat.lt_trichotomy l j with hlt | rfl | hlt
      · exact hkept l hil hlt htaken
      · exact htaken.not_registeredAt hj
      · exact hstays l hlt htaken

/-! ### One more change -/

/-- A subject stays where it was founded, unless its asset is taken out. -/
theorem Founded.concat (hk : Founded h u k) (hstays : ¬ c.TakesOut (empty.after h) u) :
    Founded (h ++ [c]) u k := by
  refine ⟨registeredAt_concat.2 (.inl hk.registered), fun i hi htaken => ?_, fun j hj hreg => ?_⟩
  · rcases takenOutAt_concat.1 htaken with htaken | ⟨-, htakes⟩
    · exact hk.stays i hi htaken
    · exact hstays htakes
  · have hlt := hk.registered.lt_length
    obtain ⟨i, hji, hik, htaken⟩ := hk.first j hj (hreg.of_lt (Nat.lt_trans hj hlt))
    exact ⟨i, hji, hik, takenOutAt_concat.2 (.inl htaken)⟩

/-- A subject that is not founded anywhere is founded where it is registered next. -/
theorem founded_last (hregisters : c.registers? = some u) (hnone : ¬ ∃ j, Founded h u j) :
    Founded (h ++ [c]) u h.length := by
  refine ⟨registeredAt_concat.2 (.inr ⟨rfl, hregisters⟩), fun i hi htaken => ?_,
    fun j hj hreg => ?_⟩
  · have hlt := htaken.lt_length
    rw [List.length_append, List.length_singleton] at hlt
    omega
  · by_contra hkept
    simp only [not_exists, not_and] at hkept
    refine hnone (exists_founded (hreg.of_lt hj) fun i hji htaken => ?_)
    exact hkept i hji htaken.lt_length (takenOutAt_concat.2 (.inl htaken))

/-- A subject is founded nowhere else. -/
theorem Founded.of_concat (hk : Founded (h ++ [c]) u k) :
    Founded h u k ∧ ¬ c.TakesOut (empty.after h) u ∨
      k = h.length ∧ c.registers? = some u ∧ ¬ ∃ j, Founded h u j := by
  have hlength := hk.registered.lt_length
  rw [List.length_append, List.length_singleton] at hlength
  have hbefore : ∀ {i}, i < k → TakenOutAt (h ++ [c]) u i → TakenOutAt h u i :=
    fun hi htaken => htaken.of_lt (Nat.lt_of_lt_of_le hi (Nat.le_of_lt_succ hlength))
  rcases registeredAt_concat.1 hk.registered with hregistered | ⟨rfl, hregisters⟩
  · refine .inl ⟨⟨hregistered, fun i hi htaken => ?_, fun j hj hreg => ?_⟩, fun htakes => ?_⟩
    · exact hk.stays i hi (takenOutAt_concat.2 (.inl htaken))
    · obtain ⟨i, hji, hik, htaken⟩ := hk.first j hj (registeredAt_concat.2 (.inl hreg))
      exact ⟨i, hji, hik, hbefore hik htaken⟩
    · exact hk.stays h.length hregistered.lt_length (takenOutAt_concat.2 (.inr ⟨rfl, htakes⟩))
  · refine .inr ⟨rfl, hregisters, fun ⟨j, hj⟩ => ?_⟩
    have hlt := hj.registered.lt_length
    obtain ⟨i, hji, hik, htaken⟩ := hk.first j hlt (registeredAt_concat.2 (.inl hj.registered))
    exact hj.stays i hji (hbefore hik htaken)

/-! ## What stands in the inventory -/

/-- The subjects of the assets are those that were founded, in the order of their places. -/
structure Lists (h : List Change) : Prop where
  founded : ∀ u, u ∈ (empty.after h).assets.map (·.subject) ↔ ∃ k, Founded h u k
  order : ((empty.after h).assets.map (·.subject)).Pairwise (Precedes h)

theorem lists_nil : Lists [] := by
  refine ⟨fun u => ⟨fun hu => absurd hu List.not_mem_nil, fun ⟨k, hk⟩ => ?_⟩, .nil⟩
  exact absurd hk.registered.lt_length (Nat.not_lt_zero k)

theorem Lists.distinct (hl : Lists h) : (empty.after h).IsDistinct := by
  refine hl.order.imp ?_
  rintro u v ⟨j, k, hj, hk, hlt⟩ rfl
  exact Nat.ne_of_lt hlt (hj.unique hk)

theorem Precedes.concat (huv : Precedes h u v) (hu : ¬ c.TakesOut (empty.after h) u)
    (hv : ¬ c.TakesOut (empty.after h) v) : Precedes (h ++ [c]) u v := by
  obtain ⟨j, k, hj, hk, hlt⟩ := huv
  exact ⟨j, k, hj.concat hu, hk.concat hv, hlt⟩

/-- A change that takes nothing out and registers nothing new leaves the list of subjects. -/
theorem Lists.same (hl : Lists h) (htakes : ∀ u, ¬ c.TakesOut (empty.after h) u)
    (hregisters : ∀ u, c.registers? = some u → ∃ j, Founded h u j)
    (hsubjects : (c.apply (empty.after h)).assets.map (·.subject) =
      (empty.after h).assets.map (·.subject)) : Lists (h ++ [c]) := by
  refine ⟨fun u => ?_, ?_⟩
  · rw [after_concat, hsubjects, hl.founded]
    constructor
    · rintro ⟨k, hk⟩
      exact ⟨k, hk.concat (htakes u)⟩
    · rintro ⟨k, hk⟩
      rcases hk.of_concat with ⟨hk, -⟩ | ⟨-, hreg, -⟩
      · exact ⟨k, hk⟩
      · exact hregisters u hreg
  · rw [after_concat, hsubjects]
    exact hl.order.imp fun huv => huv.concat (htakes _) (htakes _)

theorem Lists.add (hl : Lists h) (type : AssetType) (identifier organization : String)
    (metadata : Value) : Lists (h ++ [.add type identifier organization metadata]) := by
  have htakes : ∀ u, ¬ (Change.add type identifier organization metadata).TakesOut
      (empty.after h) u := fun u ⟨_, _, _, he⟩ => by cases he
  rcases (empty.after h).add_cases type identifier organization metadata with
    ⟨a, ha, hsubject, hadd⟩ | ⟨hne, a, -, hsubject, -, -, hadd⟩
  · refine hl.same htakes (fun u hu => ?_) (by rw [Change.apply, hadd])
    cases hu
    exact (hl.founded _).1 (hsubject ▸ List.mem_map_of_mem ha)
  · have hnone : ¬ ∃ j, Founded h ⟨type, identifier⟩ j := by
      rw [← hl.founded]
      rintro hmem
      obtain ⟨b, hb, hsame⟩ := List.mem_map.1 hmem
      exact hne b hb hsame
    have hlast : Founded (h ++ [.add type identifier organization metadata]) ⟨type, identifier⟩
        h.length := founded_last rfl hnone
    have hsubjects : (empty.after (h ++ [.add type identifier organization metadata])).assets.map
        (·.subject) = (empty.after h).assets.map (·.subject) ++ [⟨type, identifier⟩] := by
      rw [after_concat, Change.apply, hadd]
      simp [hsubject]
    refine ⟨fun u => ?_, ?_⟩
    · rw [hsubjects, List.mem_append, hl.founded, List.mem_singleton]
      constructor
      · rintro (⟨k, hk⟩ | rfl)
        · exact ⟨k, hk.concat (htakes u)⟩
        · exact ⟨_, hlast⟩
      · rintro ⟨k, hk⟩
        rcases hk.of_concat with ⟨hk, -⟩ | ⟨-, hreg, -⟩
        · exact .inl ⟨k, hk⟩
        · exact .inr (Option.some.inj hreg).symm
    · rw [hsubjects, List.pairwise_append]
      refine ⟨hl.order.imp fun huv => huv.concat (htakes _) (htakes _), List.pairwise_singleton _ _,
        fun u hu v hv => ?_⟩
      rw [List.mem_singleton.1 hv]
      obtain ⟨k, hk⟩ := (hl.founded u).1 hu
      exact ⟨k, _, hk.concat (htakes u), hlast, hk.registered.lt_length⟩

/-- An asset that is left was not taken out. -/
theorem IsDistinct.not_takesOut {inv : Inventory} (hd : inv.IsDistinct) {id : String} {a : Asset}
    (ha : a ∈ (inv.remove id).assets) : ¬ (Change.remove id).TakesOut inv a.subject := by
  rintro ⟨b, hb, hsubject, he⟩
  obtain ⟨hmem, hid⟩ := List.mem_filter.1 ha
  cases he
  rw [hd.eq_of_subject hb hmem hsubject] at hid
  exact of_decide_eq_true hid rfl

theorem Lists.remove (hl : Lists h) (id : String) : Lists (h ++ [.remove id]) := by
  have hafter : empty.after (h ++ [.remove id]) = (empty.after h).remove id := after_concat
  have hstays : ∀ u ∈ ((empty.after h).remove id).assets.map (·.subject),
      ¬ (Change.remove id).TakesOut (empty.after h) u :=
    List.forall_mem_map.2 fun a ha => hl.distinct.not_takesOut ha
  have hsublist : (((empty.after h).remove id).assets.map (·.subject)).Sublist
      ((empty.after h).assets.map (·.subject)) := List.filter_sublist.map _
  refine ⟨fun u => ?_, ?_⟩
  · rw [hafter]
    constructor
    · intro hu
      obtain ⟨k, hk⟩ := (hl.founded u).1 (hsublist.subset hu)
      exact ⟨k, hk.concat (hstays u hu)⟩
    · rintro ⟨k, hk⟩
      obtain ⟨hk, hstays⟩ := hk.of_concat.resolve_right fun hlast => by cases hlast.2.1
      obtain ⟨a, ha, rfl⟩ := List.mem_map.1 ((hl.founded u).2 ⟨k, hk⟩)
      refine List.mem_map_of_mem (List.mem_filter.2 ⟨ha, decide_eq_true fun hid => ?_⟩)
      exact hstays ⟨a, ha, rfl, congrArg Change.remove hid.symm⟩
  · rw [hafter]
    exact (hl.order.sublist hsublist).imp_of_mem fun hu hv huv =>
      huv.concat (hstays _ hu) (hstays _ hv)

theorem Lists.learn (hl : Lists h) (now : Instant) (f : Facts) : Lists (h ++ [.learn now f]) :=
  hl.same (fun u ⟨_, _, _, he⟩ => by cases he) (fun u hu => by cases hu)
    (setFacts_subjects now f (empty.after h))

/-- **The assets are listed in the order in which they were founded**, whatever the history. -/
theorem after_lists (h : List Change) : Lists h := by
  induction h using List.reverseRecOn with
  | nil => exact lists_nil
  | append_singleton h c ih =>
    cases c with
    | add type identifier organization metadata =>
      exact ih.add type identifier organization metadata
    | remove id => exact ih.remove id
    | learn now f => exact ih.learn now f

end

/-! ## What is known about the assets -/

/-- The assets that are active are those that were checked, and facts about them are there. -/
structure Checks (inv : Inventory) : Prop where
  active : ∀ a ∈ inv.assets, a.status = .active ↔ a.lastChecked.isSome = true
  known : ∀ a ∈ inv.assets, a.lastChecked.isSome = true → (inv.factsOf? a).isSome = true

/-- Ids are numbers up to the last one issued, and different. -/
structure Numbered (inv : Inventory) : Prop where
  ids : (inv.assets.map (·.id)).Nodup
  issued : ∀ a ∈ inv.assets, ∃ n ≤ inv.issued, a.id = label "asset" n

section
variable {inv : Inventory} {h : List Change}

theorem Checks.apply (hc : Checks inv) (c : Change) : Checks (c.apply inv) := by
  cases c with
  | add type identifier organization metadata =>
    rw [Change.apply]
    rcases inv.add_cases type identifier organization metadata with
      ⟨a, -, -, hadd⟩ | ⟨-, a, -, -, hchecked, hstatus, hadd⟩
    · rwa [hadd]
    · rw [hadd]
      refine ⟨fun b hb => ?_, fun b hb hb' => ?_⟩
      · rcases List.mem_append.1 hb with hb | hb
        · exact hc.active b hb
        · rw [List.mem_singleton.1 hb, hchecked, hstatus]
          decide
      · rcases List.mem_append.1 hb with hb | hb
        · exact hc.known b hb hb'
        · rw [List.mem_singleton.1 hb, hchecked] at hb'
          cases hb'
  | remove id =>
    exact ⟨fun a ha => hc.active a (List.mem_of_mem_filter ha),
      fun a ha => hc.known a (List.mem_of_mem_filter ha)⟩
  | learn now f =>
    have hmem : ∀ a ∈ (inv.setFacts now f).assets, ∃ b ∈ inv.assets,
        (if b.subject = f.subject then b.checked now else b) = a := by
      intro a ha
      rw [setFacts_assets] at ha
      exact List.mem_map.1 ha
    refine ⟨fun a ha => ?_, fun a ha ha' => ?_⟩
    · obtain ⟨b, hb, rfl⟩ := hmem a ha
      split
      · simp [Asset.checked]
      · exact hc.active b hb
    · obtain ⟨b, hb, rfl⟩ := hmem a ha
      have hfacts := factsFor?_setFacts now f inv b.subject
      by_cases hs : b.subject = f.subject
      · rw [if_pos hs.symm] at hfacts
        rw [if_pos hs]
        exact Option.isSome_iff_exists.2 ⟨f, hfacts⟩
      · rw [if_neg (Ne.symm hs)] at hfacts
        rw [if_neg hs] at ha' ⊢
        exact (congrArg Option.isSome hfacts).trans (hc.known b hb ha')

theorem Numbered.apply (hn : Numbered inv) (c : Change) : Numbered (c.apply inv) := by
  cases c with
  | add type identifier organization metadata =>
    rw [Change.apply]
    rcases inv.add_cases type identifier organization metadata with
      ⟨a, -, -, hadd⟩ | ⟨-, a, hid, -, -, -, hadd⟩
    · rwa [hadd]
    · rw [hadd]
      have hissued : ∀ b ∈ inv.assets ++ [a], ∃ n ≤ inv.issued + 1, b.id = label "asset" n := by
        intro b hb
        rcases List.mem_append.1 hb with hb | hb
        · obtain ⟨n, hle, hb⟩ := hn.issued b hb
          exact ⟨n, Nat.le_succ_of_le hle, hb⟩
        · exact ⟨_, Nat.le_refl _, List.mem_singleton.1 hb ▸ hid⟩
      refine ⟨?_, hissued⟩
      rw [List.map_append, List.map_singleton, List.nodup_append]
      refine ⟨hn.ids, List.nodup_singleton _, fun i hi j hj hij => ?_⟩
      obtain ⟨b, hb, rfl⟩ := List.mem_map.1 hi
      obtain ⟨n, hle, hb⟩ := hn.issued b hb
      rw [List.mem_singleton.1 hj, hid, hb, label_inj] at hij
      omega
  | remove id =>
    exact ⟨hn.ids.sublist (List.filter_sublist.map _),
      fun a ha => hn.issued a (List.mem_of_mem_filter ha)⟩
  | learn now f =>
    have hids : (inv.setFacts now f).assets.map (·.id) = inv.assets.map (·.id) := by
      rw [setFacts_assets, List.map_map]
      refine List.map_congr_left fun a _ => ?_
      rw [Function.comp_apply]
      split <;> rfl
    refine ⟨hids ▸ hn.ids, fun a ha => ?_⟩
    have hmem : a.id ∈ inv.assets.map (·.id) := hids ▸ List.mem_map_of_mem ha
    obtain ⟨b, hb, hba⟩ := List.mem_map.1 hmem
    exact hba ▸ hn.issued b hb

theorem after_checks (h : List Change) : Checks (empty.after h) := by
  induction h using List.reverseRecOn with
  | nil => exact ⟨nofun, nofun⟩
  | append_singleton h c ih => exact after_concat ▸ ih.apply c

theorem after_numbered (h : List Change) : Numbered (empty.after h) := by
  induction h using List.reverseRecOn with
  | nil => exact ⟨.nil, nofun⟩
  | append_singleton h c ih => exact after_concat ▸ ih.apply c

/-- The facts about a subject are those that were taken in last. -/
theorem factsFor?_after (h : List Change) (u : Subject) :
    (empty.after h).factsFor? u.type u.identifier = learned? u h := by
  induction h using List.reverseRecOn with
  | nil => rfl
  | append_singleton h c ih =>
    have hlearned : learned? u (h ++ [c]) = (c.learned? u).or (learned? u h) :=
      getLast?_filterMap_concat _ h c
    rw [after_concat, hlearned, ← ih]
    cases c with
    | add type identifier organization metadata =>
      rw [Change.apply]
      rcases (empty.after h).add_cases type identifier organization metadata with
        ⟨a, -, -, hadd⟩ | ⟨-, a, -, -, -, -, hadd⟩
      · rw [hadd]
        rfl
      · rw [hadd]
        rfl
    | remove id => rfl
    | learn now f =>
      refine (factsFor?_setFacts now f (empty.after h) u).trans ?_
      by_cases hf : f.subject = u
      · simp [Change.learned?, hf]
      · simp [Change.learned?, hf]

theorem learned?_eq_none {u : Subject} :
    learned? u h = none ↔ ∀ c ∈ h, c.learned? u = none := by
  rw [learned?, List.getLast?_eq_none_iff, List.filterMap_eq_nil_iff]

/-- There are no facts about the resources of a cloud. -/
theorem learned?_cloudResource (identifier : String) (h : List Change) :
    learned? ⟨.cloudResource, identifier⟩ h = none := by
  refine learned?_eq_none.2 fun c _ => ?_
  cases c with
  | learn now f =>
    refine if_neg fun hf => ?_
    have htype : f.type = .cloudResource := congrArg Subject.type hf
    cases f <;> cases htype
  | _ => rfl

end

/-- What holds of an inventory that a history has led to. -/
structure Kept (h : List Change) (inv : Inventory) : Prop where
  /-- No two assets have the same type and identifier. -/
  distinct : (inv.assets.map fun a => (a.type, a.identifier)).Nodup
  ids : (inv.assets.map (·.id)).Nodup
  /-- Registering an asset again gives it back as it is and changes nothing. -/
  readded : ∀ a ∈ inv.assets, ∀ organization metadata,
    inv.add a.type a.identifier organization metadata = (inv, a)
  /-- What is listed was registered and not taken out since. -/
  listed : ∀ u : Subject, (∃ a ∈ inv.assets, a.subject = u) ↔ ∃ k, Founded h u k
  /-- What was founded earlier is listed earlier. -/
  ordered : inv.assets.Pairwise fun a b => Precedes h a.subject b.subject
  active : ∀ a ∈ inv.assets, a.status = .active ↔ a.lastChecked.isSome = true
  known : ∀ a ∈ inv.assets, a.status = .active → (inv.factsOf? a).isSome = true
  cloud : ∀ a ∈ inv.assets, a.type = .cloudResource → a.status ≠ .active
  /-- Facts change one asset at most, and facts under one subject only. -/
  learns : ∀ now (f : Facts),
    ((∀ a ∈ inv.assets, a.subject ≠ f.subject) ∧ (inv.setFacts now f).assets = inv.assets ∨
      ∃ before a after, inv.assets = before ++ a :: after ∧ a.subject = f.subject ∧
        (inv.setFacts now f).assets = before ++ a.checked now :: after) ∧
    ∀ a : Asset, a.subject ≠ f.subject → (inv.setFacts now f).factsOf? a = inv.factsOf? a
  /-- The facts for an asset, listed or not, are those that were taken in last. -/
  facts : ∀ a : Asset, inv.factsOf? a = learned? a.subject h
  unknown : ∀ a : Asset, inv.factsOf? a = none ↔ ∀ c ∈ h, c.learned? a.subject = none

/-- **The inventory is told by its history**, whatever is registered, taken out and taken in, in
whatever order and at whatever time. -/
theorem after_kept (h : List Change) : Kept h (empty.after h) := by
  have lists := after_lists h
  have checks := after_checks h
  have facts : ∀ a : Asset, (empty.after h).factsOf? a = learned? a.subject h :=
    fun a => factsFor?_after h a.subject
  have known : ∀ a ∈ (empty.after h).assets, a.status = .active →
      ((empty.after h).factsOf? a).isSome = true :=
    fun a ha hactive => checks.known a ha ((checks.active a ha).1 hactive)
  exact {
    distinct := by
      refine List.pairwise_map.2 ((List.pairwise_map.1 lists.distinct).imp fun hne he => hne ?_)
      obtain ⟨htype, hidentifier⟩ := Prod.mk.inj he
      rw [Asset.subject, Asset.subject, htype, hidentifier]
    ids := (after_numbered h).ids
    readded := fun a ha => lists.distinct.add_of_mem ha
    listed := fun u => by rw [← lists.founded, List.mem_map]
    ordered := List.pairwise_map.1 lists.order
    active := checks.active
    known
    cloud := fun a ha htype hactive => by
      have hsome := known a ha hactive
      rw [facts, Asset.subject, htype, learned?_cloudResource] at hsome
      cases hsome
    learns := fun now f => ⟨lists.distinct.setFacts_cases now f, fun a hne =>
      (factsFor?_setFacts now f _ a.subject).trans (if_neg hne.symm)⟩
    facts
    unknown := fun a => by rw [facts, learned?_eq_none] }

/-- What is registered again after it was taken out stands at the end. -/
example :
    let inv := empty.after [.add .ip "a" "x" .null, .add .ip "b" "x" .null,
      .add .ip "a" "y" .null, .remove "asset-1", .add .ip "a" "z" .null]
    inv.assets.map (fun a => (a.identifier, a.organization)) = [("b", "x"), ("a", "z")] := by
  decide +kernel

end Inventory
end Compliance
