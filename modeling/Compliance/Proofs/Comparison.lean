import Compliance.Proofs.Agreement
import Compliance.Proofs.Equivalence

/-!
# Comparisons form one order

Of two simple values at most one is below the other, and then they are not equal; to be below is
transitive, and equal values are below the same and above the same. Lists are compared by the first
elements that are not equal, and a comparison comes down to what is met there: where that cannot be
ordered, neither list is below the other. Main statement: `comparisons_coherent`.
-/
namespace Compliance

/-! ## Scalars -/

namespace Scalar

variable {a b c : Scalar}

theorem less?_int (m n : Int) : (Scalar.int m).less? (.int n) = some (decide (m < n)) := by
  simp only [less?, number?, Number.Exact.below_finite, Rat.intCast_lt_intCast]

theorem less?_text (s t : String) : (Scalar.text s).less? (.text t) = some (decide (s < t)) := rfl

/-- Order does not tell a truth value from the integer that it equals. -/
theorem less?_counted (ha : a.Simple) (hb : b.Simple) :
    a.less? b = a.counted.less? b.counted := by
  cases ha with
  | bool x =>
    cases hb with
    | bool y => cases x <;> cases y <;> rfl
    | _ => cases x <;> rfl
  | _ =>
    cases hb with
    | bool y => cases y <;> rfl
    | _ => rfl

theorem less?_congr_left (ha : a.Simple) (hb : b.Simple) (hc : c.Simple) (h : a.same b = true) :
    a.less? c = b.less? c := by
  rw [less?_counted ha hc, less?_counted hb hc, (same_iff ha hb).1 h]

/-- What a simple scalar is counted as. -/
inductive Counted : Scalar → Prop
  | null : Counted .null
  | int (n : Int) : Counted (.int n)
  | text (s : String) : Counted (.text s)

theorem counted_of_simple (ha : a.Simple) : Counted a.counted := by
  cases ha with
  | null => exact .null
  | bool b => exact .int _
  | int n => exact .int n
  | text s => exact .text s

theorem Counted.less?_converse (ha : Counted a) (hb : Counted b) (hne : a ≠ b) :
    b.less? a = (a.less? b).map (!·) := by
  cases ha with
  | null => cases hb <;> rfl
  | int m =>
    cases hb with
    | int n =>
      have hmn : m ≠ n := fun h => hne (h ▸ rfl)
      have hdecide : decide (n < m) = !decide (m < n) := by
        by_cases h : m < n
        · simp [h]
          omega
        · simp [h]
          omega
      rw [less?_int, less?_int, hdecide]
      rfl
    | _ => rfl
  | text s =>
    cases hb with
    | text t =>
      have hst : s ≠ t := fun h => hne (h ▸ rfl)
      have hdecide : decide (t < s) = !decide (s < t) := by grind
      rw [less?_text, less?_text, hdecide]
      rfl
    | _ => rfl

theorem Counted.less?_self (ha : Counted a) : a.less? a ≠ some true := by
  cases ha with
  | null => simp [less?, number?]
  | int n => simp [less?_int]
  | text s => simp [less?_text]

theorem Counted.less?_trans (ha : Counted a) (hb : Counted b) (hc : Counted c)
    (hab : a.less? b = some true) (hbc : b.less? c = some true) : a.less? c = some true := by
  cases ha with
  | null => cases hb <;> cases hab
  | int m =>
    cases hb with
    | int n =>
      cases hc with
      | int k =>
        simp only [less?_int, Option.some.injEq, decide_eq_true_eq] at hab hbc ⊢
        omega
      | _ => cases hbc
    | _ => cases hab
  | text s =>
    cases hb with
    | text t =>
      cases hc with
      | text u =>
        simp only [less?_text, Option.some.injEq, decide_eq_true_eq] at hab hbc ⊢
        exact String.lt_trans hab hbc
      | _ => cases hbc
    | _ => cases hab

/-- The order of scalars turns around, but for equal ones. -/
theorem less?_converse (ha : a.Simple) (hb : b.Simple) :
    b.less? a = if a.same b then a.less? b else (a.less? b).map (!·) := by
  rw [less?_counted ha hb, less?_counted hb ha]
  split
  · next hsame => rw [(same_iff ha hb).1 hsame]
  · next hsame =>
    have hne : a.counted ≠ b.counted := fun heq => hsame ((same_iff ha hb).2 heq)
    exact (counted_of_simple ha).less?_converse (counted_of_simple hb) hne

theorem less?_of_same (ha : a.Simple) (hb : b.Simple) (h : a.same b = true) :
    a.less? b ≠ some true := by
  rw [less?_counted ha hb, ← (same_iff ha hb).1 h]
  exact (counted_of_simple ha).less?_self

theorem less?_trans (ha : a.Simple) (hb : b.Simple) (hc : c.Simple) (hab : a.less? b = some true)
    (hbc : b.less? c = some true) : a.less? c = some true := by
  rw [less?_counted ha hb] at hab
  rw [less?_counted hb hc] at hbc
  rw [less?_counted ha hc]
  exact (counted_of_simple ha).less?_trans (counted_of_simple hb) (counted_of_simple hc) hab hbc

end Scalar

/-! ## Values -/

namespace Value

variable {a b c x y : Value} {xs ys : List Value}

/-- Lists with equal first elements are ordered as their rests are, and other lists as their first
elements. -/
theorem less?_cons (hx : x.Simple) :
    (Value.list (x :: xs)).less? (.list (y :: ys)) =
      if x.same y then (Value.list xs).less? (.list ys) else x.less? y := by
  rw [less?, lessItems?, alike, same_or_undefined hx, less?]

/-- **The order of values turns around**, but for equal ones. -/
theorem less?_converse (ha : a.Simple) (hb : b.Simple) :
    b.less? a = if a.same b then a.less? b else (a.less? b).map (!·) := by
  induction ha generalizing b with
  | scalar ha =>
    cases hb with
    | scalar hb => exact Scalar.less?_converse ha hb
    | _ => simp [same, less?]
  | nil => cases hb <;> simp [same, sameItems, less?, lessItems?]
  | @cons x xs hx _ ihx ihxs =>
    cases hb with
    | @cons y ys hy hys =>
      rw [less?_cons hx, less?_cons hy, same_cons hx, same_comm hy hx, ihx hy, ihxs hys]
      cases x.same y <;> rfl
    | _ => simp [same, sameItems, less?, lessItems?]
  | map _ _ _ => cases hb <;> simp [same, less?]

/-- Equal values are not below each other. -/
theorem less?_of_same (ha : a.Simple) (hb : b.Simple) (h : a.same b = true) :
    a.less? b ≠ some true := by
  induction ha generalizing b with
  | scalar ha =>
    obtain ⟨s, rfl, hs⟩ := same_scalar_iff.1 h
    cases hb with
    | scalar hb => exact Scalar.less?_of_same ha hb hs
  | nil =>
    obtain rfl := same_nil_iff.1 h
    simp [less?, lessItems?]
  | cons hx _ _ ihxs =>
    obtain ⟨y, ys, rfl, hxy, hxys⟩ := (same_cons_iff hx).1 h
    cases hb with
    | cons _ hys =>
      rw [less?_cons hx, if_pos hxy]
      exact ihxs hys hxys
  | map _ _ _ => cases b <;> simp [less?]

theorem differ_of_less? (ha : a.Simple) (hb : b.Simple) (h : a.less? b = some true) :
    a.same b = false :=
  Bool.eq_false_iff.2 fun hsame => less?_of_same ha hb hsame h

/-- Equal values are below the same values. -/
theorem less?_congr_left (ha : a.Simple) (hb : b.Simple) (hc : c.Simple) (h : a.same b = true) :
    a.less? c = b.less? c := by
  induction ha generalizing b c with
  | scalar ha =>
    obtain ⟨s, rfl, hs⟩ := same_scalar_iff.1 h
    cases hb with
    | scalar hb =>
      cases hc with
      | scalar hc => exact Scalar.less?_congr_left ha hb hc hs
      | _ => rfl
  | nil =>
    obtain rfl := same_nil_iff.1 h
    rfl
  | cons hx _ ihx ihxs =>
    obtain ⟨y, ys, rfl, hxy, hxys⟩ := (same_cons_iff hx).1 h
    cases hb with
    | cons hy hys =>
      cases hc with
      | cons hz hzs =>
        rw [less?_cons hx, less?_cons hy, same_congr_left hx hy hz hxy, ihx hy hz hxy,
          ihxs hys hzs hxys]
      | _ => rfl
  | map _ values _ =>
    obtain ⟨fs, rfl, -⟩ := (same_map_iff values).1 h
    rfl

/-- Equal values are above the same values. -/
theorem less?_congr_right (ha : a.Simple) (hb : b.Simple) (hc : c.Simple) (h : a.same b = true) :
    c.less? a = c.less? b := by
  rw [less?_converse ha hc, less?_converse hb hc, less?_congr_left ha hb hc h,
    same_congr_left ha hb hc h]

theorem less?_trans (ha : a.Simple) (hb : b.Simple) (hc : c.Simple) (hab : a.less? b = some true)
    (hbc : b.less? c = some true) : a.less? c = some true := by
  induction ha generalizing b c with
  | scalar ha =>
    cases hb with
    | scalar hb =>
      cases hc with
      | scalar hc => exact Scalar.less?_trans ha hb hc hab hbc
      | _ => cases hbc
    | _ => cases hab
  | nil =>
    cases hb with
    | cons _ _ =>
      cases hc with
      | cons _ _ => rfl
      | _ => cases hbc
    | _ => cases hab
  | @cons x xs hx hxs ihx ihxs =>
    cases hb with
    | @cons y ys hy hys =>
      cases hc with
      | @cons z zs hz hzs =>
        rw [less?_cons hx] at hab ⊢
        rw [less?_cons hy] at hbc
        -- the first of the two places where neighbours differ decides, or both do at once
        cases hxy : x.same y with
        | true =>
          rw [hxy, if_pos rfl] at hab
          rw [same_congr_left hx hy hz hxy]
          cases hyz : y.same z with
          | true =>
            rw [hyz, if_pos rfl] at hbc
            exact ihxs hys hzs hab hbc
          | false =>
            rw [hyz] at hbc
            exact (less?_congr_left hx hy hz hxy).trans hbc
        | false =>
          rw [hxy] at hab
          cases hyz : y.same z with
          | true =>
            rw [← same_congr_right hy hz hx hyz, hxy, ← less?_congr_right hy hz hx hyz]
            exact hab
          | false =>
            rw [hyz] at hbc
            have hxz : x.less? z = some true := ihx hy hz hab hbc
            rw [differ_of_less? hx hz hxz]
            exact hxz
      | _ => cases hbc
    | _ => cases hab
  | map _ _ _ => cases hb <;> cases hab

/-! ### What a comparison comes down to -/

/-- The pairs that the comparison of two values meets: these themselves, and of two lists what the
comparison of the first elements that are not equal meets. -/
inductive Meets : Value → Value → Value → Value → Prop
  | here (a b : Value) : Meets a b a b
  | first {x y u v : Value} {xs ys : List Value} (differ : x.same y = false)
    (deeper : Meets x y u v) : Meets (.list (x :: xs)) (.list (y :: ys)) u v
  | later {x y u v : Value} {xs ys : List Value} (equal : x.same y = true)
    (rest : Meets (.list xs) (.list ys) u v) : Meets (.list (x :: xs)) (.list (y :: ys)) u v

/-- Values of kinds that can be ordered. -/
inductive Orderable : Value → Value → Prop
  | numbers {a b : Scalar} (ha : a.number?.isSome = true) (hb : b.number?.isSome = true) :
    Orderable (.scalar a) (.scalar b)
  | texts (s t : String) : Orderable (.text s) (.text t)
  | bytes (bs cs : List Nat) : Orderable (.scalar (.bytes bs)) (.scalar (.bytes cs))
  | lists (xs ys : List Value) : Orderable (.list xs) (.list ys)

theorem orderable_of_less? {a b : Scalar} (h : (a.less? b).isSome = true) :
    Orderable (.scalar a) (.scalar b) := by
  unfold Scalar.less? at h
  split at h
  · next hx hy => exact .numbers (by simp [hx]) (by simp [hy])
  · split at h
    · exact .texts _ _
    · exact .bytes _ _
    · cases h

theorem less?_of_orderable {a b : Scalar} (h : Orderable (.scalar a) (.scalar b)) :
    (a.less? b).isSome = true := by
  cases h with
  | numbers ha hb =>
    obtain ⟨x, hx⟩ := Option.isSome_iff_exists.1 ha
    obtain ⟨y, hy⟩ := Option.isSome_iff_exists.1 hb
    simp [Scalar.less?, hx, hy]
  | texts s t => rfl
  | bytes bs cs => rfl

theorem less?_of_not_orderable (h : ¬ Orderable a b) : a.less? b = none := by
  cases a with
  | scalar a =>
    cases b with
    | scalar b =>
      rw [less?, ← Option.not_isSome_iff_eq_none]
      exact fun hsome => h (orderable_of_less? hsome)
    | _ => rfl
  | list xs =>
    cases b with
    | list ys => exact absurd (.lists xs ys) h
    | _ => rfl
  | _ => cases b <;> rfl

theorem not_orderable_null (b : Value) : ¬ Orderable .null b ∧ ¬ Orderable b .null := by
  constructor <;> intro h <;> cases h with
  | numbers ha hb => simp [Scalar.number?] at ha hb

theorem null_iff_of_same (ha : a.Simple) (hb : b.Simple) (h : a.same b = true) :
    a = .null ↔ b = .null := by
  have heq_null {v : Value} (hv : Value.null.same v = true) : v = .null := by
    obtain ⟨s, rfl, hs⟩ := same_scalar_iff.1 hv
    cases s <;> simp_all [Scalar.same, Scalar.number?, Scalar.instant?]
  constructor
  · rintro rfl
    exact heq_null h
  · rintro rfl
    exact heq_null (same_symm ha hb h)

/-- A comparison gives what the comparison gives that it comes down to. -/
theorem Meets.less? {u v : Value} (h : Meets a b u v) (ha : a.Simple) (hb : b.Simple) :
    a.less? b = u.less? v := by
  induction h with
  | here a b => rfl
  | first differ _ ih =>
    cases ha with
    | cons hx _ =>
      cases hb with
      | cons hy _ =>
        rw [less?_cons hx, differ]
        exact ih hx hy
  | later equal _ ih =>
    cases ha with
    | cons hx hxs =>
      cases hb with
      | cons _ hys =>
        rw [less?_cons hx, equal, if_pos rfl]
        exact ih hxs hys

/-- A comparison that cannot be made comes down to values that cannot be ordered. -/
theorem exists_meets (ha : a.Simple) (hb : b.Simple) (h : a.less? b = none) :
    ∃ u v, Meets a b u v ∧ ¬ Orderable u v := by
  induction ha generalizing b with
  | @scalar a _ =>
    refine ⟨_, _, .here _ _, ?_⟩
    intro horderable
    cases b with
    | scalar b =>
      rw [Value.less?, ← Option.not_isSome_iff_eq_none] at h
      exact h (less?_of_orderable horderable)
    | _ => cases horderable
  | nil =>
    cases hb with
    | nil => cases h
    | cons _ _ => cases h
    | _ => exact ⟨_, _, .here _ _, fun horderable => by cases horderable⟩
  | @cons x xs hx _ ihx ihxs =>
    cases hb with
    | nil => cases h
    | @cons y ys hy hys =>
      rw [less?_cons hx] at h
      cases hxy : x.same y with
      | true =>
        rw [hxy] at h
        obtain ⟨u, v, hmeets, hnot⟩ := ihxs hys h
        exact ⟨u, v, .later hxy hmeets, hnot⟩
      | false =>
        rw [hxy] at h
        obtain ⟨u, v, hmeets, hnot⟩ := ihx hy h
        exact ⟨u, v, .first hxy hmeets, hnot⟩
    | _ => exact ⟨_, _, .here _ _, fun horderable => by cases horderable⟩
  | map _ _ _ => exact ⟨_, _, .here _ _, fun horderable => by cases horderable⟩

end Value

/-! ## Conditions -/

namespace Operator

/-- What a condition with an operator comes to whose field holds a value. -/
def answers (op : Operator) (a b : Value) : Bool :=
  (Condition.mk .ip op "value" b).holds (.record [("value", a)]) matches .ok true

/-- The operators that compare. -/
def comparisons : List Operator := [.lessThan, .equals, .greaterThan]

variable {a b c : Value}

theorem answers_null (op : Operator) (b : Value) : op.answers .null b = false := by
  have hpath : Text.pieces '.' "value" = ["value"] := by decide
  have hat : (Value.record [("value", .null)]).at? "value" = none := by
    simp [Value.at?, hpath, Value.record, Value.follow]
  simp only [answers, Condition.holds, hat]

theorem answers_of_ne_null (op : Operator) (b : Value) (ha : a ≠ .null) :
    op.answers a b = (op.holds a b matches .ok true) := by
  have hholds : (Condition.mk .ip op "value" b).holds (.record [("value", a)]) = op.holds a b :=
    Condition.holds_map (by decide) (by simp) ha
  rw [answers, hholds]

/-- A condition that compares gives one answer to what is found, wherever that is. -/
theorem answers_of_at? {facts : Value} {field : String} (h : facts.at? field = some a)
    (type : AssetType) {op : Operator} (hop : op ∈ comparisons) :
    (Condition.mk type op field b).holds facts = .ok (op.answers a b) := by
  have ha : a ≠ .null := by
    rintro rfl
    unfold Value.at? at h
    split at h
    · cases h
    · next hne => exact hne h
  rw [Condition.holds_of_at? h, answers_of_ne_null op b ha]
  simp only [comparisons, List.mem_cons, List.not_mem_nil, or_false] at hop
  rcases hop with rfl | rfl | rfl
  · cases hr : a.precedes b <;> simp [holds, hr]
  · cases hr : a.same b <;> simp [holds, hr]
  · cases hr : b.precedes a <;> simp [holds, hr]

theorem lessThan_answers : lessThan.answers a b = (a.less? b).getD false := by
  by_cases ha : a = .null
  · rw [ha, answers_null, Value.less?_of_not_orderable (Value.not_orderable_null b).1]
    rfl
  · rw [answers_of_ne_null _ _ ha, holds, Value.precedes]
    cases (a.less? b).getD false <;> rfl

theorem greaterThan_answers : greaterThan.answers a b = (b.less? a).getD false := by
  by_cases ha : a = .null
  · rw [ha, answers_null, Value.less?_of_not_orderable (Value.not_orderable_null b).2]
    rfl
  · rw [answers_of_ne_null _ _ ha, holds, Value.precedes]
    cases (b.less? a).getD false <;> rfl

theorem equals_answers_iff : equals.answers a b = true ↔ a ≠ .null ∧ a.same b = true := by
  by_cases ha : a = .null
  · subst ha
    simp [answers_null]
  · rw [answers_of_ne_null _ _ ha, holds]
    cases hsame : a.same b <;> simp [ha]

theorem lessThan_answers_iff : lessThan.answers a b = true ↔ a.less? b = some true := by
  rw [lessThan_answers]
  cases a.less? b <;> simp

theorem equals_answers_of_differ (h : a.same b = false) : equals.answers a b = false := by
  rw [← Bool.not_eq_true, equals_answers_iff, h]
  simp

theorem equals_answers_congr {a' b' : Value} (hnull : a = .null ↔ a' = .null)
    (hsame : a.same b = a'.same b') : equals.answers a b = equals.answers a' b' := by
  rw [Bool.eq_iff_iff, equals_answers_iff, equals_answers_iff, hsame]
  exact and_congr_left' (not_congr hnull)

theorem equals_answers_comm (ha : a.Simple) (hb : b.Simple) :
    equals.answers a b = equals.answers b a := by
  cases hsame : a.same b with
  | true => exact equals_answers_congr (Value.null_iff_of_same ha hb hsame) (Value.same_comm ha hb)
  | false =>
    have hsame' : b.same a = false := (Value.same_comm hb ha).trans hsame
    rw [equals_answers_of_differ hsame, equals_answers_of_differ hsame']

/-- What is found can be replaced by an equal value. -/
theorem answers_congr_left (ha : a.Simple) (hb : b.Simple) (hc : c.Simple) (h : a.same b = true)
    {op : Operator} (hop : op ∈ comparisons) : op.answers a c = op.answers b c := by
  simp only [comparisons, List.mem_cons, List.not_mem_nil, or_false] at hop
  rcases hop with rfl | rfl | rfl
  · rw [lessThan_answers, lessThan_answers, Value.less?_congr_left ha hb hc h]
  · exact equals_answers_congr (Value.null_iff_of_same ha hb h) (Value.same_congr_left ha hb hc h)
  · rw [greaterThan_answers, greaterThan_answers, Value.less?_congr_right ha hb hc h]

/-- What is expected can be replaced by an equal value. -/
theorem answers_congr_right (ha : a.Simple) (hb : b.Simple) (hc : c.Simple) (h : a.same b = true)
    {op : Operator} (hop : op ∈ comparisons) : op.answers c a = op.answers c b := by
  simp only [comparisons, List.mem_cons, List.not_mem_nil, or_false] at hop
  rcases hop with rfl | rfl | rfl
  · rw [lessThan_answers, lessThan_answers, Value.less?_congr_right ha hb hc h]
  · exact equals_answers_congr Iff.rfl (Value.same_congr_right ha hb hc h)
  · rw [greaterThan_answers, greaterThan_answers, Value.less?_congr_left ha hb hc h]

/-- How many of the comparisons are true. -/
def holding (a b : Value) : Nat := (comparisons.map fun op => op.answers a b).count true

theorem holding_eq (a b : Value) :
    holding a b = [(a.less? b).getD false, equals.answers a b, (b.less? a).getD false].count true := by
  simp only [holding, comparisons, List.map_cons, List.map_nil, lessThan_answers,
    greaterThan_answers]

theorem holding_le_one (ha : a.Simple) (hb : b.Simple) : holding a b ≤ 1 := by
  rw [holding_eq, Value.less?_converse ha hb]
  cases hsame : a.same b with
  | true =>
    cases hless : a.less? b with
    | none => cases equals.answers a b <;> simp
    | some r =>
      cases r with
      | true => exact absurd hless (Value.less?_of_same ha hb hsame)
      | false => cases equals.answers a b <;> simp
  | false =>
    rw [equals_answers_of_differ hsame]
    cases a.less? b with
    | none => simp
    | some r => cases r <;> simp

theorem holding_eq_one (ha : a.Simple) (hb : b.Simple) (h : (a.less? b).isSome = true) :
    holding a b = 1 := by
  have hnull : a ≠ .null := by
    rintro rfl
    rw [Value.less?_of_not_orderable (Value.not_orderable_null b).1] at h
    cases h
  obtain ⟨r, hr⟩ := Option.isSome_iff_exists.1 h
  rw [holding_eq, Value.less?_converse ha hb, hr]
  cases hsame : a.same b with
  | true =>
    have hequals : equals.answers a b = true := equals_answers_iff.2 ⟨hnull, hsame⟩
    cases r with
    | true => exact absurd hr (Value.less?_of_same ha hb hsame)
    | false => simp [hequals]
  | false =>
    have hequals := equals_answers_of_differ hsame
    cases r <;> simp [hequals]

end Operator

open Operator

/-- What the comparisons of three values have to do with each other. -/
structure Coherent (a b c : Value) : Prop where
  /-- Wherever a value is found, a condition gives one answer about it. -/
  answered : ∀ type field facts, facts.at? field = some a → ∀ op ∈ comparisons,
    (Condition.mk type op field b).holds facts = .ok (op.answers a b)
  exclusive : holding a b ≤ 1
  converse : lessThan.answers a b = greaterThan.answers b a
  symmetric : equals.answers a b = equals.answers b a
  lessThan_trans : lessThan.answers a b = true → lessThan.answers b c = true →
    lessThan.answers a c = true
  equals_trans : equals.answers a b = true → equals.answers b c = true →
    equals.answers a c = true
  /-- Either value can be replaced by an equal one. -/
  replaced_left : a.same c = true → ∀ op ∈ comparisons, op.answers a b = op.answers c b
  replaced_right : b.same c = true → ∀ op ∈ comparisons, op.answers a b = op.answers a c
  /-- Exactly one comparison of two numbers is true, and of two texts, -/
  numbers : ∀ s t : Scalar, s.number?.isSome = true → t.number?.isSome = true → a = .scalar s →
    b = .scalar t → holding a b = 1
  texts : ∀ s t, a = .text s → b = .text t → holding a b = 1
  /-- and wherever no values are met that cannot be ordered. -/
  total : (∀ u v, Value.Meets a b u v → Value.Orderable u v) → holding a b = 1
  unordered : ∀ u v, Value.Meets a b u v → ¬ Value.Orderable u v →
    lessThan.answers a b = false ∧ greaterThan.answers a b = false

/-- **The comparisons form one order.** -/
theorem comparisons_coherent {a b c : Value} (ha : a.Simple) (hb : b.Simple) (hc : c.Simple) :
    Coherent a b c where
  answered := by
    intro type field facts hat op hop
    exact answers_of_at? hat type hop
  exclusive := holding_le_one ha hb
  converse := by rw [lessThan_answers, greaterThan_answers]
  symmetric := equals_answers_comm ha hb
  lessThan_trans := by
    rw [lessThan_answers_iff, lessThan_answers_iff, lessThan_answers_iff]
    exact Value.less?_trans ha hb hc
  equals_trans := by
    rw [equals_answers_iff, equals_answers_iff, equals_answers_iff]
    rintro ⟨hnull, hab⟩ ⟨-, hbc⟩
    exact ⟨hnull, Value.same_trans ha hb hc hab hbc⟩
  replaced_left := by
    intro hac op hop
    exact answers_congr_left ha hc hb hac hop
  replaced_right := by
    intro hbc op hop
    exact answers_congr_right hb hc ha hbc hop
  numbers := by
    rintro s t hs ht rfl rfl
    exact holding_eq_one ha hb (Value.less?_of_orderable (.numbers hs ht))
  texts := by
    rintro s t rfl rfl
    exact holding_eq_one ha hb (Value.less?_of_orderable (.texts s t))
  total := by
    intro horderable
    refine holding_eq_one ha hb (Option.isSome_iff_ne_none.2 ?_)
    intro hnone
    obtain ⟨u, v, hmeets, hnot⟩ := Value.exists_meets ha hb hnone
    exact hnot (horderable u v hmeets)
  unordered := by
    intro u v hmeets hnot
    have hnone : a.less? b = none :=
      (hmeets.less? ha hb).trans (Value.less?_of_not_orderable hnot)
    have hnone' : b.less? a = none := by
      rw [Value.less?_converse ha hb, hnone]
      cases a.same b <;> rfl
    rw [lessThan_answers, greaterThan_answers, hnone, hnone']
    exact ⟨rfl, rfl⟩

/-- Lists that differ in the second place only, with a truth value for a number in the first. -/
theorem comparisons_coherent_mixed :
    let a : Value := .list [.bool true, .text "a"]
    let b : Value := .list [.int 1, .text "b"]
    let c : Value := .list [.int 1, .text "b", .map [(.bool false, .null)]]
    a.Simple ∧ b.Simple ∧ c.Simple ∧ Coherent a b c := by
  have htext : ∀ s, (Value.text s).Simple := fun s => .scalar (.text s)
  have hint : (Value.int 1).Simple := .scalar (.int 1)
  have hmap : (Value.map [(.bool false, .null)]).Simple :=
    .map ⟨by simpa using .bool false, List.pairwise_singleton _ _⟩ (by simpa using .scalar .null)
  have ha : (Value.list [.bool true, .text "a"]).Simple :=
    Value.simple_list_iff.2 (by simpa using ⟨.scalar (.bool true), htext "a"⟩)
  have hb : (Value.list [.int 1, .text "b"]).Simple :=
    Value.simple_list_iff.2 (by simpa using ⟨hint, htext "b"⟩)
  have hc : (Value.list [.int 1, .text "b", .map [(.bool false, .null)]]).Simple :=
    Value.simple_list_iff.2 (by simpa using ⟨hint, htext "b", hmap⟩)
  exact ⟨ha, hb, hc, comparisons_coherent ha hb hc⟩

end Compliance
