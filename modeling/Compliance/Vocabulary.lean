import Compliance.Value.Text

/-!
# Closed vocabularies

A type with finitely many members, each of which has a word (the enumerations of the program). Words
read back as their members, and any other value is refused by naming the vocabulary.
-/
namespace Compliance

/-- A finite type whose members are written as words. -/
class Vocabulary (α : Type) where
  /-- The name of the vocabulary in messages. -/
  name : String
  members : List α
  word : α → String
  /-- Every member is listed, and no two members have the same word. -/
  find_word : ∀ a, members.find? (fun b => word b == word a) = some a := by
    intro a; cases a <;> decide

export Vocabulary (word)

/-- A value that is no word of a vocabulary. -/
structure NotMember where
  value : Value
  vocabulary : String

/-- The words for a refusal. -/
def NotMember.message (f : NotMember) : String :=
  f.value.quoted ++ " is not a valid " ++ f.vocabulary

/-- The member that a word names. -/
def member? {α : Type} [Vocabulary α] (s : String) : Option α :=
  (Vocabulary.members (α := α)).find? fun a => word a == s

/-- Reads a member of a vocabulary. -/
def readMember (α : Type) [Vocabulary α] : Value → Except NotMember α
  | .text s =>
    match member? (α := α) s with
    | some a => .ok a
    | none => .error ⟨.text s, Vocabulary.name α⟩
  | v => .error ⟨v, Vocabulary.name α⟩

theorem member?_word {α : Type} [Vocabulary α] (a : α) : member? (word a) = some a :=
  Vocabulary.find_word a

theorem Vocabulary.mem_members {α : Type} [Vocabulary α] (a : α) : a ∈ members (α := α) :=
  List.mem_of_find?_eq_some (find_word a)

theorem word_of_member? {α : Type} [Vocabulary α] {s : String} {a : α} (h : member? s = some a) :
    word a = s := by
  unfold member? at h
  simpa using List.find?_some h

/-- A member as a value: its word. -/
def Value.member {α : Type} [Vocabulary α] (a : α) : Value := .text (word a)

/-- Words read back. -/
theorem readMember_member {α : Type} [Vocabulary α] (a : α) :
    readMember α (.member a) = .ok a := by
  simp [readMember, Value.member, member?_word]

/-- Only words are read as members. -/
theorem readMember_eq_ok_iff {α : Type} [Vocabulary α] {v : Value} {a : α} :
    readMember α v = .ok a ↔ v = .member a := by
  refine ⟨fun h => ?_, fun h => h ▸ readMember_member a⟩
  unfold readMember at h
  split at h
  · split at h
    · next hs =>
      cases h
      rw [Value.member, word_of_member? hs]
    · cases h
  · cases h

/-!
## Severity and priority

How bad a violation is, and how urgent the incident opened for it.
-/

inductive Severity where
  | critical
  | high
  | medium
  | low
  | info
  deriving DecidableEq

instance : Vocabulary Severity where
  name := "Severity"
  members := [.critical, .high, .medium, .low, .info]
  word
    | .critical => "critical"
    | .high => "high"
    | .medium => "medium"
    | .low => "low"
    | .info => "info"

/-- `p1` is the most urgent. -/
inductive Priority where
  | p1
  | p2
  | p3
  | p4
  deriving DecidableEq

instance : Vocabulary Priority where
  name := "Priority"
  members := [.p1, .p2, .p3, .p4]
  word
    | .p1 => "P1"
    | .p2 => "P2"
    | .p3 => "P3"
    | .p4 => "P4"

/-- The priority of an incident opened for a violation (`severity_to_priority`). -/
def Severity.priority : Severity → Priority
  | .critical => .p1
  | .high => .p2
  | .medium => .p3
  | .low => .p4
  | .info => .p4

end Compliance
