import Compliance.Calendar.Clock
import Compliance.Number.Exact

/-!
# Values

The data of facts, rules, playbook definitions and updates: scalars, lists and mappings, and now and
then pairs and sets. A mapping keeps its entries in the order in which their keys were first
written; its keys are scalars. A list or mapping may occur inside itself: it is then a knot with a
number, and `Value.opened` puts the knot back where it occurs. Two values are alike if they are one
key of a mapping.
-/
namespace Compliance

open Calendar Number

inductive Scalar where
  | null
  | bool (b : Bool)
  | int (n : Int)
  | float (x : Float)
  | text (s : String)
  | date (d : Date)
  | moment (m : Moment)
  | bytes (bs : List Nat)
  deriving DecidableEq

inductive Value where
  | scalar (s : Scalar)
  | list (items : List Value)
  | map (entries : List (Scalar × Value))
  | pair (first second : Value)
  /-- Scalars that are all different. -/
  | set (members : List Scalar)
  /-- A collection that occurs inside itself, where its number stands for it. -/
  | knot (number : Nat) (collection : Value)
  /-- The knot with a number, inside itself. -/
  | again (number : Nat)

/-- The number that a scalar stands for: a truth value counts as zero or one. -/
def Scalar.number? : Scalar → Option Exact
  | .bool b => some (.finite (if b then 1 else 0))
  | .int n => some (.finite n)
  | .float x => some (exact x)
  | _ => none

/-- The instant that a scalar stands for: a moment whose offset is known. -/
def Scalar.instant? : Scalar → Option Instant
  | .moment m => m.offset.map fun _ => m.instant
  | _ => none

/-- Equality of scalars: numbers by value whatever their type, moments by the instant where it is
known, all else by kind and content. -/
def Scalar.same (a b : Scalar) : Bool :=
  match a.number?, b.number? with
  | some x, some y => x.same y
  | _, _ =>
    match a.instant?, b.instant? with
    | some t, some u => t == u
    | _, _ => a == b

/-- Whether a scalar is the number that is not equal to itself. -/
def Scalar.isUndefined (a : Scalar) : Bool := a.number?.any (· == .undefined)

/-- Equality of keys and elements: the number that is not equal to itself counts as one key. -/
def Scalar.alike (a b : Scalar) : Bool := a.same b || (a.isUndefined && b.isUndefined)

/-- The entries of a mapping. -/
abbrev Entries := List (Scalar × Value)

/-- The value under a key. -/
def Entries.find? (key : Scalar) : Entries → Option Value
  | [] => none
  | (k, v) :: rest => if k.alike key then some v else find? key rest

/-- Writes a value under a key: in place if an equal key is there, which then stays as it is, and
otherwise at the end. -/
def Entries.put (key : Scalar) (value : Value) : Entries → Entries
  | [] => [(key, value)]
  | (k, v) :: rest => if k.alike key then (k, value) :: rest else (k, v) :: put key value rest

/-- The mapping that writing entries one after the other gives. -/
def Entries.ofList (es : List (Scalar × Value)) : Entries :=
  es.foldl (fun acc e => Entries.put e.1 e.2 acc) []

/-- The value under a text key. -/
def Entries.field? (es : Entries) (key : String) : Option Value := es.find? (.text key)

namespace Value

@[match_pattern] abbrev null : Value := .scalar .null
@[match_pattern] abbrev bool (b : Bool) : Value := .scalar (.bool b)
@[match_pattern] abbrev int (n : Int) : Value := .scalar (.int n)
@[match_pattern] abbrev float (x : Float) : Value := .scalar (.float x)
@[match_pattern] abbrev text (s : String) : Value := .scalar (.text s)

/-- A list of texts. -/
def texts (ss : List String) : Value := .list (ss.map .text)

/-- A text that may be missing. -/
def text? : Option String → Value
  | some s => .text s
  | none => .null

/-- A mapping with text keys, all different. -/
def record (fields : List (String × Value)) : Value :=
  .map (fields.map fun f => (.text f.1, f.2))

/-- Whether a value counts as true: not null, false, zero or empty. -/
def truthy : Value → Bool
  | .scalar .null => false
  | .scalar (.bool b) => b
  | .scalar (.int n) => n != 0
  | .scalar (.float x) => !(exact x).same (.finite 0)
  | .scalar (.text s) => s != ""
  | .scalar (.date _) => true
  | .scalar (.moment _) => true
  | .scalar (.bytes bs) => !bs.isEmpty
  | .list items => !items.isEmpty
  | .map entries => !entries.isEmpty
  | .pair .. => true
  | .set members => !members.isEmpty
  | .knot _ v => truthy v
  | .again _ => true

/-- The name of a value's type in messages. -/
def typeName : Value → String
  | .scalar .null => "NoneType"
  | .scalar (.bool _) => "bool"
  | .scalar (.int _) => "int"
  | .scalar (.float _) => "float"
  | .scalar (.text _) => "str"
  | .scalar (.date _) => "date"
  | .scalar (.moment _) => "datetime"
  | .scalar (.bytes _) => "bytes"
  | .list _ => "list"
  | .map _ => "dict"
  | .pair .. => "tuple"
  | .set _ => "set"
  | .knot _ v => typeName v
  | .again _ => "list"

mutual

/-- A value with a knot put in wherever its number stands for it. -/
def tied (number : Nat) (knot : Value) : Value → Value
  | .again n => if n = number then knot else .again n
  | .list items => .list (tiedItems number knot items)
  | .map entries => .map (tiedEntries number knot entries)
  | .pair a b => .pair (tied number knot a) (tied number knot b)
  | .knot n v => .knot n (tied number knot v)
  | v => v

def tiedItems (number : Nat) (knot : Value) : List Value → List Value
  | [] => []
  | v :: rest => tied number knot v :: tiedItems number knot rest

def tiedEntries (number : Nat) (knot : Value) : List (Scalar × Value) → List (Scalar × Value)
  | [] => []
  | (k, v) :: rest => (k, tied number knot v) :: tiedEntries number knot rest

end

/-- A value that is no knot: of a knot, the collection with the knot put in where it occurs. -/
def opened : Value → Value
  | .knot n v => tied n (.knot n v) v
  | v => v

mutual

/-- The numbers in a value that stand for knots outside it. -/
def loose : Value → List Nat
  | .again n => [n]
  | .list items => looseItems items
  | .map entries => looseEntries entries
  | .pair a b => loose a ++ loose b
  | .knot n v => (loose v).filter (· != n)
  | .scalar _ => []
  | .set _ => []

def looseItems : List Value → List Nat
  | [] => []
  | v :: rest => loose v ++ looseItems rest

def looseEntries : List (Scalar × Value) → List Nat
  | [] => []
  | (_, v) :: rest => loose v ++ looseEntries rest

end

mutual

/-- Whether no knot is in a value. -/
def isPlain : Value → Bool
  | .scalar _ => true
  | .list items => arePlain items
  | .map entries => arePlainEntries entries
  | .pair a b => isPlain a && isPlain b
  | .set _ => true
  | .knot .. => false
  | .again _ => false

def arePlain : List Value → Bool
  | [] => true
  | v :: rest => isPlain v && arePlain rest

def arePlainEntries : List (Scalar × Value) → Bool
  | [] => true
  | (_, v) :: rest => isPlain v && arePlainEntries rest

end

end Value

theorem Scalar.same_comm (a b : Scalar) : a.same b = b.same a := by
  unfold Scalar.same
  cases a.number? <;> cases b.number? <;> cases a.instant? <;> cases b.instant? <;>
    simp [Exact.same_comm, BEq.comm]

theorem Scalar.same_text (s t : String) : (Scalar.text s).same (.text t) = (s == t) := by
  rw [Bool.eq_iff_iff]
  simp [Scalar.same, Scalar.number?, Scalar.instant?]

/-- No scalar stands for both a number and an instant. -/
theorem Scalar.number?_of_instant? {a : Scalar} {t : Instant} (h : a.instant? = some t) :
    a.number? = none := by
  cases a <;> first | rfl | cases h

theorem Scalar.alike_self (a : Scalar) : a.alike a = true := by
  unfold Scalar.alike Scalar.isUndefined Scalar.same
  cases h : a.number? with
  | none => cases a.instant? <;> simp
  | some x => cases x <;> simp [Exact.same]

/-- Scalars are the same key when they stand for the same number or the same instant, and otherwise
when they are the same. -/
theorem Scalar.alike_iff {a b : Scalar} :
    a.alike b = true ↔ (∃ x, a.number? = some x ∧ b.number? = some x) ∨
      (∃ t, a.instant? = some t ∧ b.instant? = some t) ∨ a = b := by
  constructor
  · intro h
    unfold Scalar.alike Scalar.isUndefined Scalar.same at h
    cases ha : a.number? with
    | none => cases ht : a.instant? <;> cases hu : b.instant? <;> simp_all
    | some x =>
      cases hb : b.number? with
      | none => cases ht : a.instant? <;> cases hu : b.instant? <;> simp_all
      | some y => cases x <;> cases y <;> simp_all [Exact.same]
  · rintro (⟨x, ha, hb⟩ | ⟨t, ha, hb⟩ | rfl)
    · cases x <;> simp [Scalar.alike, Scalar.isUndefined, Scalar.same, ha, hb, Exact.same]
    · simp [Scalar.alike, Scalar.same, number?_of_instant? ha, ha, hb]
    · exact Scalar.alike_self a

theorem Scalar.alike_comm {a b : Scalar} (h : a.alike b = true) : b.alike a = true := by
  rcases Scalar.alike_iff.1 h with ⟨x, ha, hb⟩ | ⟨t, ha, hb⟩ | rfl
  · exact Scalar.alike_iff.2 (.inl ⟨x, hb, ha⟩)
  · exact Scalar.alike_iff.2 (.inr (.inl ⟨t, hb, ha⟩))
  · exact h

theorem Scalar.alike_trans {a b c : Scalar} (hab : a.alike b = true) (hbc : b.alike c = true) :
    a.alike c = true := by
  rcases Scalar.alike_iff.1 hab with ⟨x, ha, hb⟩ | ⟨t, ha, hb⟩ | rfl
  · rcases Scalar.alike_iff.1 hbc with ⟨y, hb', hc⟩ | ⟨u, hb', -⟩ | rfl
    · rw [hb] at hb'
      cases hb'
      exact Scalar.alike_iff.2 (.inl ⟨x, ha, hc⟩)
    · rw [number?_of_instant? hb'] at hb
      cases hb
    · exact hab
  · rcases Scalar.alike_iff.1 hbc with ⟨y, hb', -⟩ | ⟨u, hb', hc⟩ | rfl
    · rw [number?_of_instant? hb] at hb'
      cases hb'
    · rw [hb] at hb'
      cases hb'
      exact Scalar.alike_iff.2 (.inr (.inl ⟨t, ha, hc⟩))
    · exact hab
  · exact hbc

theorem Scalar.alike_text (s t : String) : (Scalar.text s).alike (.text t) = (s == t) := by
  simp [Scalar.alike, Scalar.same_text, Scalar.isUndefined, Scalar.number?]

@[simp] theorem Entries.field?_nil (key : String) : Entries.field? [] key = none := rfl

@[simp] theorem Entries.field?_cons (name key : String) (v : Value) (es : Entries) :
    Entries.field? ((.text name, v) :: es) key = if name = key then some v else es.field? key := by
  simp only [Entries.field?, Entries.find?, Scalar.alike_text, beq_iff_eq]

@[simp] theorem Entries.field?_append (es es' : Entries) (key : String) :
    Entries.field? (es ++ es') key = (es.field? key).or (es'.field? key) := by
  unfold Entries.field?
  induction es with
  | nil => rfl
  | cons e es ih =>
    obtain ⟨k, v⟩ := e
    simp only [List.cons_append, Entries.find?, ih]
    by_cases h : k.alike (.text key) = true <;> simp [h]

end Compliance
