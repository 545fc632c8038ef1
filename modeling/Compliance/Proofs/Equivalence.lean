import Compliance.Value.Comparison
import Mathlib.Data.List.Perm.Subperm

/-!
# Equality of simple values

A simple value is made of null, truth values, integers and texts by lists and mappings. On simple
values equality is an equivalence, although it crosses types and pays no heed to the order in a
mapping. The keys of a mapping are counted: two mappings of one length have the same keys if each
key of the one is a key of the other. Main statements: `Value.same_refl`, `Value.same_symm` and
`Value.same_trans`.
-/
namespace Compliance

namespace Scalar

/-- Null, truth values, integers and texts. -/
inductive Simple : Scalar → Prop
  | null : Simple .null
  | bool (b : Bool) : Simple (.bool b)
  | int (n : Int) : Simple (.int n)
  | text (s : String) : Simple (.text s)

/-- A truth value as the integer that it equals. -/
def counted : Scalar → Scalar
  | .bool b => .int (if b then 1 else 0)
  | a => a

variable {a b : Scalar}

theorem isUndefined_of_simple (ha : a.Simple) : a.isUndefined = false := by
  cases ha <;> rfl

theorem alike_eq_same (ha : a.Simple) : a.alike b = a.same b := by
  simp [alike, isUndefined_of_simple ha]

theorem instant?_of_simple (ha : a.Simple) : a.instant? = none := by
  cases ha <;> rfl

/-- A simple scalar is counted as an integer, or stands for itself and for no number. -/
theorem counted_cases (ha : a.Simple) :
    (∃ n : Int, a.counted = .int n ∧ a.number? = some (.finite n)) ∨
      (a.counted = a ∧ a.number? = none) := by
  cases ha with
  | bool b => exact .inl ⟨if b then 1 else 0, rfl, by cases b <;> rfl⟩
  | int n => exact .inl ⟨n, rfl, rfl⟩
  | null => exact .inr ⟨rfl, rfl⟩
  | text s => exact .inr ⟨rfl, rfl⟩

/-- Simple scalars are equal when they are the same but for truth values. -/
theorem same_iff (ha : a.Simple) (hb : b.Simple) : a.same b = true ↔ a.counted = b.counted := by
  rw [← alike_eq_same ha, alike_iff, instant?_of_simple ha]
  rcases counted_cases ha with ⟨m, hm, ham⟩ | ⟨hm, ham⟩ <;>
    rcases counted_cases hb with ⟨n, hn, hbn⟩ | ⟨hn, hbn⟩
  · have hab : a = b → m = n := by
      rintro rfl
      simpa [hm] using hn
    simpa [ham, hbn, hm, hn, eq_comm] using hab
  · have hab : a ≠ b := by
      rintro rfl
      simp [ham] at hbn
    have hne : Scalar.int m ≠ b := by
      rintro rfl
      simp [number?] at hbn
    simp [ham, hbn, hm, hn, hab, hne]
  · have hab : a ≠ b := by
      rintro rfl
      simp [ham] at hbn
    have hne : a ≠ Scalar.int n := by
      rintro rfl
      simp [number?] at ham
    simp [ham, hbn, hm, hn, hab, hne]
  · simp [ham, hm, hn]

end Scalar

/-! ## Keys -/

namespace Entries

/-- Simple keys, none of which equals another. -/
structure Keyed (es : Entries) : Prop where
  simple : ∀ e ∈ es, e.1.Simple
  distinct : es.Pairwise fun e f => e.1.alike f.1 = false

variable {es fs : Entries} {k l : Scalar} {v : Value}

theorem exists_of_find? (h : find? k es = some v) : ∃ e ∈ es, e.1.alike k = true ∧ e.2 = v := by
  induction es with
  | nil => cases h
  | cons e es ih =>
    obtain ⟨j, w⟩ := e
    unfold find? at h
    split at h
    · next hj =>
      cases h
      exact ⟨(j, v), by simp, hj, rfl⟩
    · obtain ⟨e, he, hek⟩ := ih h
      exact ⟨e, by simp [he], hek⟩

theorem find?_congr (h : k.alike l = true) : find? k es = find? l es := by
  induction es with
  | nil => rfl
  | cons e es ih =>
    obtain ⟨j, w⟩ := e
    have hj : j.alike k = j.alike l := by
      rw [Bool.eq_iff_iff]
      exact ⟨fun hjk => Scalar.alike_trans hjk h,
        fun hjl => Scalar.alike_trans hjl (Scalar.alike_comm h)⟩
    rw [find?, find?, hj, ih]

/-- Where keys are distinct, every entry is found under its key. -/
theorem Keyed.find? (hes : es.Keyed) {e : Scalar × Value} (he : e ∈ es) :
    find? e.1 es = some e.2 := by
  obtain ⟨-, hdistinct⟩ := hes
  induction es with
  | nil => cases he
  | cons f es ih =>
    obtain ⟨j, w⟩ := f
    rw [List.pairwise_cons] at hdistinct
    rcases List.mem_cons.1 he with rfl | he
    · simp [Entries.find?, Scalar.alike_self]
    · have hj : j.alike e.1 = false := hdistinct.1 e he
      simpa [Entries.find?, hj] using ih he hdistinct.2

theorem Keyed.nodup (hes : es.Keyed) : (es.map fun e => e.1.counted).Nodup := by
  rw [List.Nodup, List.pairwise_map]
  refine hes.distinct.imp_of_mem ?_
  intro e f he hf hdistinct heq
  have hsame := (Scalar.same_iff (hes.simple e he) (hes.simple f hf)).2 heq
  rw [← Scalar.alike_eq_same (hes.simple e he), hdistinct] at hsame
  cases hsame

/-- Of two mappings of one length, if all keys of the one are keys of the other, it has them all. -/
theorem Keyed.covers (hes : es.Keyed) (hfs : fs.Keyed) (hlength : es.length = fs.length)
    (h : ∀ e ∈ es, ∃ f ∈ fs, f.1.alike e.1 = true) {f : Scalar × Value} (hf : f ∈ fs) :
    ∃ e ∈ es, e.1.alike f.1 = true := by
  have hsubset : (es.map fun e => e.1.counted) ⊆ fs.map fun f => f.1.counted := by
    intro k hk
    obtain ⟨e, he, rfl⟩ := List.mem_map.1 hk
    obtain ⟨g, hg, hge⟩ := h e he
    rw [Scalar.alike_eq_same (hfs.simple g hg),
      Scalar.same_iff (hfs.simple g hg) (hes.simple e he)] at hge
    exact List.mem_map.2 ⟨g, hg, hge⟩
  -- distinct keys that are as many as all keys are all of them
  have hperm : (es.map fun e => e.1.counted).Perm (fs.map fun f => f.1.counted) :=
    (hes.nodup.subperm hsubset).perm_of_length_le (by simp [hlength])
  obtain ⟨e, he, hef⟩ := List.mem_map.1 (hperm.mem_iff.2 (List.mem_map_of_mem hf))
  refine ⟨e, he, ?_⟩
  rw [Scalar.alike_eq_same (hes.simple e he)]
  exact (Scalar.same_iff (hes.simple e he) (hfs.simple f hf)).2 hef

end Entries

/-! ## Values -/

namespace Value

/-- Simple scalars, and lists and mappings of simple values. -/
inductive Simple : Value → Prop
  | scalar {a : Scalar} (simple : a.Simple) : Simple (.scalar a)
  | nil : Simple (.list [])
  | cons {x : Value} {xs : List Value} (first : Simple x) (rest : Simple (.list xs)) :
    Simple (.list (x :: xs))
  | map {es : Entries} (keyed : es.Keyed) (values : ∀ e ∈ es, Simple e.2) : Simple (.map es)

variable {a b c x y : Value} {xs ys : List Value}

theorem simple_list_iff : (Value.list xs).Simple ↔ ∀ x ∈ xs, x.Simple := by
  induction xs with
  | nil => exact iff_of_true .nil (by simp)
  | cons x xs ih =>
    rw [List.forall_mem_cons, ← ih]
    constructor
    · intro h
      cases h with
      | cons first rest => exact ⟨first, rest⟩
    · rintro ⟨first, rest⟩
      exact .cons first rest

theorem same_or_undefined (ha : a.Simple) : (a.same b || areUndefined a b) = a.same b := by
  cases ha with
  | scalar ha =>
    cases b with
    | scalar b => simp [areUndefined, Scalar.isUndefined_of_simple ha]
    | _ => simp [areUndefined]
  | _ => simp [areUndefined]

/-! ### What equals what -/

theorem same_scalar_iff {a : Scalar} :
    (Value.scalar a).same b = true ↔ ∃ s, b = .scalar s ∧ a.same s = true := by
  cases b <;> simp [same]

theorem same_nil_iff : (Value.list []).same b = true ↔ b = .list [] := by
  cases b with
  | list ys => cases ys <;> simp [same, sameItems]
  | _ => simp [same]

theorem same_cons (hx : x.Simple) :
    (Value.list (x :: xs)).same (.list (y :: ys)) =
      (x.same y && (Value.list xs).same (.list ys)) := by
  rw [same, sameItems, same, same_or_undefined hx]

theorem same_cons_iff (hx : x.Simple) :
    (Value.list (x :: xs)).same b = true ↔ ∃ y ys, b = .list (y :: ys) ∧ x.same y = true ∧
      (Value.list xs).same (.list ys) = true := by
  cases b with
  | list ys =>
    cases ys with
    | nil => simp [same, sameItems]
    | cons y ys => simp [same_cons hx]
  | _ => simp [same]

theorem sameEntries_iff {es fs : Entries} (hes : ∀ e ∈ es, e.2.Simple) :
    sameEntries es fs = true ↔ ∀ e ∈ es, ∃ w, fs.find? e.1 = some w ∧ e.2.same w = true := by
  induction es with
  | nil => simp [sameEntries]
  | cons e es ih =>
    obtain ⟨k, v⟩ := e
    obtain ⟨hv, hes⟩ := List.forall_mem_cons.1 hes
    rw [sameEntries, Bool.and_eq_true, ih hes, List.forall_mem_cons]
    refine and_congr_left' ?_
    cases Entries.find? k fs with
    | none => simp
    | some w =>
      simp [same_or_undefined hv]

/-- Mappings are equal when they have as many entries, and each of the one is found in the other. -/
theorem same_map_iff {es : Entries} (hes : ∀ e ∈ es, e.2.Simple) :
    (Value.map es).same b = true ↔ ∃ fs : Entries, b = .map fs ∧ es.length = fs.length ∧
      ∀ e ∈ es, ∃ w, fs.find? e.1 = some w ∧ e.2.same w = true := by
  cases b <;> simp [same, sameEntries_iff hes]

/-! ### Equality is an equivalence -/

theorem same_refl (ha : a.Simple) : a.same a = true := by
  induction ha with
  | scalar ha => exact same_scalar_iff.2 ⟨_, rfl, (Scalar.same_iff ha ha).2 rfl⟩
  | nil => exact same_nil_iff.2 rfl
  | cons hx _ ihx ihxs => exact (same_cons_iff hx).2 ⟨_, _, rfl, ihx, ihxs⟩
  | map keyed values ih =>
    exact (same_map_iff values).2 ⟨_, rfl, rfl, fun e he => ⟨e.2, keyed.find? he, ih e he⟩⟩

theorem same_symm (ha : a.Simple) (hb : b.Simple) (h : a.same b = true) : b.same a = true := by
  induction ha generalizing b with
  | scalar ha =>
    obtain ⟨s, rfl, hsame⟩ := same_scalar_iff.1 h
    exact same_scalar_iff.2 ⟨_, rfl, (Scalar.same_comm _ _).trans hsame⟩
  | nil =>
    obtain rfl := same_nil_iff.1 h
    exact h
  | cons hx _ ihx ihxs =>
    obtain ⟨y, ys, rfl, hxy, hxys⟩ := (same_cons_iff hx).1 h
    cases hb with
    | cons hy hys => exact (same_cons_iff hy).2 ⟨_, _, rfl, ihx hy hxy, ihxs hys hxys⟩
  | @map es keyed values ih =>
    obtain ⟨fs, rfl, hlength, hsame⟩ := (same_map_iff values).1 h
    cases hb with
    | map keyed' values' =>
      refine (same_map_iff values').2 ⟨es, rfl, hlength.symm, ?_⟩
      intro f hf
      have hkeys : ∀ e ∈ es, ∃ f ∈ fs, f.1.alike e.1 = true := by
        intro e he
        obtain ⟨w, hw, -⟩ := hsame e he
        obtain ⟨f, hf, hfe, -⟩ := Entries.exists_of_find? hw
        exact ⟨f, hf, hfe⟩
      obtain ⟨e, he, hef⟩ := keyed.covers keyed' hlength hkeys hf
      obtain ⟨w, hw, hew⟩ := hsame e he
      rw [Entries.find?_congr hef, keyed'.find? hf] at hw
      cases hw
      have hfind : es.find? f.1 = some e.2 := by
        rw [← Entries.find?_congr hef, keyed.find? he]
      exact ⟨e.2, hfind, ih e he (values' f hf) hew⟩

theorem same_comm (ha : a.Simple) (hb : b.Simple) : a.same b = b.same a := by
  rw [Bool.eq_iff_iff]
  exact ⟨same_symm ha hb, same_symm hb ha⟩

theorem same_trans (ha : a.Simple) (hb : b.Simple) (hc : c.Simple) (hab : a.same b = true)
    (hbc : b.same c = true) : a.same c = true := by
  induction ha generalizing b c with
  | scalar ha =>
    obtain ⟨s, rfl, hs⟩ := same_scalar_iff.1 hab
    obtain ⟨t, rfl, ht⟩ := same_scalar_iff.1 hbc
    cases hb with
    | scalar hb =>
      cases hc with
      | scalar hc =>
        rw [Scalar.same_iff ha hb] at hs
        rw [Scalar.same_iff hb hc] at ht
        exact same_scalar_iff.2 ⟨t, rfl, (Scalar.same_iff ha hc).2 (hs.trans ht)⟩
  | nil =>
    obtain rfl := same_nil_iff.1 hab
    exact hbc
  | cons hx _ ihx ihxs =>
    obtain ⟨y, ys, rfl, hxy, hxys⟩ := (same_cons_iff hx).1 hab
    cases hb with
    | cons hy hys =>
      obtain ⟨z, zs, rfl, hyz, hyzs⟩ := (same_cons_iff hy).1 hbc
      cases hc with
      | cons hz hzs =>
        exact (same_cons_iff hx).2 ⟨z, zs, rfl, ihx hy hz hxy hyz, ihxs hys hzs hxys hyzs⟩
  | @map es keyed values ih =>
    obtain ⟨fs, rfl, hlength, hfs⟩ := (same_map_iff values).1 hab
    cases hb with
    | map keyed' values' =>
      obtain ⟨gs, rfl, hlength', hgs⟩ := (same_map_iff values').1 hbc
      cases hc with
      | map keyed'' values'' =>
        refine (same_map_iff values).2 ⟨gs, rfl, hlength.trans hlength', ?_⟩
        intro e he
        obtain ⟨w, hw, hew⟩ := hfs e he
        obtain ⟨f, hf, hfe, rfl⟩ := Entries.exists_of_find? hw
        obtain ⟨u, hu, hfu⟩ := hgs f hf
        obtain ⟨g, hg, -, rfl⟩ := Entries.exists_of_find? hu
        rw [Entries.find?_congr hfe] at hu
        exact ⟨g.2, hu, ih e he (values' f hf) (values'' g hg) hew hfu⟩

/-- Equality does not tell equal values apart. -/
theorem same_congr_left (ha : a.Simple) (hb : b.Simple) (hc : c.Simple) (h : a.same b = true) :
    a.same c = b.same c := by
  rw [Bool.eq_iff_iff]
  exact ⟨same_trans hb ha hc (same_symm ha hb h), same_trans ha hb hc h⟩

theorem same_congr_right (ha : a.Simple) (hb : b.Simple) (hc : c.Simple) (h : a.same b = true) :
    c.same a = c.same b := by
  rw [same_comm hc ha, same_comm hc hb, same_congr_left ha hb hc h]

end Value
end Compliance
