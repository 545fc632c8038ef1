import Compliance.Proofs.Agreement

/-!
# Conditions on what is in a list

A condition that a value is in a list asks whether the value as a whole equals an element, and one
that it is not in the list denies just that, unless the value is a list itself. Of a list it denies
that an element of the one equals an element of the other, and that is another question: both
conditions can be false of a list, and both can be true. Main statement: `Condition.membership`.
-/
namespace Compliance

namespace Value

/-- Whether a value as a whole equals an element of a list. -/
def isAmong (ws : List Value) (v : Value) : Bool := ws.any (·.alike v)

/-- Whether an element of one list equals an element of another. -/
def meet (vs ws : List Value) : Bool := ws.any fun w => vs.any (·.alike w)

/-- Only a list equals a list. -/
theorem alike_list_of_ne {w : Value} (vs : List Value) (h : ∀ us, w ≠ .list us) :
    w.alike (.list vs) = false := by
  cases w with
  | list us => exact absurd rfl (h us)
  | _ => simp [alike, same, areUndefined]

/-- A list is not among values that are no lists. -/
theorem isAmong_list {ws : List Value} (vs : List Value) (h : ∀ w ∈ ws, ∀ us, w ≠ .list us) :
    isAmong ws (.list vs) = false :=
  List.any_eq_false.2 fun w hw => by simp [alike_list_of_ne vs (h w hw)]

theorem meet_texts (ss ts : List String) :
    meet (ss.map .text) (ts.map .text) = ts.any ss.contains := by
  unfold meet
  rw [List.any_map]
  exact congrArg ts.any (funext fun t => any_alike_text ss t)

end Value

namespace Operator

/-- Whether a value is in a list is one question for all kinds of values. -/
theorem isIn_list (v : Value) (ws : List Value) :
    isIn.holds v (.list ws) = .ok (Value.isAmong ws v) := rfl

theorem notIn_scalar (a : Scalar) (ws : List Value) :
    notIn.holds (.scalar a) (.list ws) = .ok !(Value.isAmong ws (.scalar a)) := rfl

theorem notIn_map (es : Entries) (ws : List Value) :
    notIn.holds (.map es) (.list ws) = .ok !(Value.isAmong ws (.map es)) := rfl

theorem notIn_list (vs ws : List Value) :
    notIn.holds (.list vs) (.list ws) = .ok !(Value.meet vs ws) := rfl

end Operator

/-- How far it is the opposite that a value is in a list and that it is not. -/
structure Opposed (v : Value) (ws : List Value) (within without : Bool) : Prop where
  within_eq : within = Value.isAmong ws v
  /-- Of a scalar or a mapping exactly one of them is true. -/
  scalar : ∀ a, v = .scalar a → without = !within
  map : ∀ es, v = .map es → without = !within
  /-- That a list is not in the other is true exactly if the two do not meet, -/
  list : ∀ vs, v = .list vs → without = !Value.meet vs ws
  /-- so that exactly one of them is true if the list both is an element and meets the other, or
  neither; -/
  exclusive : ∀ vs, v = .list vs →
    (without = !within ↔ Value.isAmong ws (.list vs) = Value.meet vs ws)
  /-- and where no element is a list itself, exactly one of them is true if the lists do not meet.
  -/
  flat : ∀ vs, v = .list vs → (∀ w ∈ ws, ∀ us, w ≠ .list us) →
    within = false ∧ (without = !within ↔ Value.meet vs ws = false)

namespace Condition

variable {facts : Value} {field : String}

theorem opposed_of {v : Value} {ws : List Value} {without : Bool}
    (hscalar : ∀ a, v = .scalar a → without = !Value.isAmong ws v)
    (hmap : ∀ es, v = .map es → without = !Value.isAmong ws v)
    (hlist : ∀ vs, v = .list vs → without = !Value.meet vs ws) :
    Opposed v ws (Value.isAmong ws v) without := by
  refine ⟨rfl, hscalar, hmap, hlist, ?_, ?_⟩
  · rintro vs rfl
    rw [hlist vs rfl, Bool.not_inj_iff]
    exact eq_comm
  · rintro vs rfl hflat
    have hwhole := Value.isAmong_list vs hflat
    refine ⟨hwhole, ?_⟩
    rw [hlist vs rfl, hwhole, Bool.not_inj_iff]

/-- **What is in a list, and what is not.** Both conditions come to an answer about any value that
is found in a record, and they deny each other unless the value is a list. -/
theorem membership {v : Value} (h : facts.at? field = some v) (type type' : AssetType)
    (ws : List Value) :
    ∃ within without,
      (Condition.mk type .isIn field (.list ws)).holds facts = .ok within ∧
      (Condition.mk type' .notIn field (.list ws)).holds facts = .ok without ∧
      Opposed v ws within without := by
  refine ⟨Value.isAmong ws v, isYes (Operator.excluded v (.list ws)), ?_, ?_, ?_⟩
  · rw [holds_of_at? h, Operator.isIn_list]
  · rw [holds_of_at? h, Operator.holds]
  · refine opposed_of ?_ ?_ ?_
    · rintro a rfl
      exact Except.ok.inj (Operator.notIn_scalar a ws)
    · rintro es rfl
      exact Except.ok.inj (Operator.notIn_map es ws)
    · rintro vs rfl
      exact Except.ok.inj (Operator.notIn_list vs ws)

/-- The record of a domain that names its protections. -/
def guarded : Value := .record [("security", .texts ["spf", "dmarc"])]

theorem membership_guarded :
    guarded.at? "security" = some (.texts ["spf", "dmarc"]) ∧ ∃ within without,
      (Condition.mk .domain .isIn "security" (.texts ["dkim"])).holds guarded = .ok within ∧
      (Condition.mk .domain .notIn "security" (.texts ["dkim"])).holds guarded = .ok without ∧
      Opposed (.texts ["spf", "dmarc"]) [.text "dkim"] within without := by
  have h : guarded.at? "security" = some (.texts ["spf", "dmarc"]) :=
    Value.at?_map (by decide) (by simp) (by simp [Value.texts])
  exact ⟨h, membership h .domain .domain [.text "dkim"]⟩

/-- Both conditions are false of a list that meets the other without being an element of it, and
true of one that is an element without meeting it. -/
theorem membership_both :
    (Condition.mk .domain .isIn "security" (.texts ["spf"])).holds guarded = .ok false ∧
    (Condition.mk .domain .notIn "security" (.texts ["spf"])).holds guarded = .ok false ∧
    (Condition.mk .domain .isIn "security" (.list [.texts ["spf", "dmarc"]])).holds guarded =
      .ok true ∧
    (Condition.mk .domain .notIn "security" (.list [.texts ["spf", "dmarc"]])).holds guarded =
      .ok true :=
  ⟨rfl, rfl, rfl, rfl⟩

/-- A condition that texts are in a list of texts is never true, and one that they are not is true
exactly if none of them is. -/
theorem membership_texts {ss : List String} (h : facts.at? field = some (.texts ss))
    (type : AssetType) (ts : List String) :
    (Condition.mk type .isIn field (.texts ts)).holds facts = .ok false ∧
    (Condition.mk type .notIn field (.texts ts)).holds facts = .ok !(ts.any ss.contains) := by
  have hflat : ∀ w ∈ ts.map Value.text, ∀ us, w ≠ .list us := by
    intro w hw us
    obtain ⟨t, -, rfl⟩ := List.mem_map.1 hw
    simp
  rw [holds_of_at? h, holds_of_at? h, Value.texts, Value.texts, Operator.isIn_list,
    Operator.notIn_list, Value.isAmong_list _ hflat, Value.meet_texts]
  exact ⟨rfl, rfl⟩

end Condition
end Compliance
