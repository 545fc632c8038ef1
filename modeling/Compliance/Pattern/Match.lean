import Compliance.Pattern.Basic

/-!
# Matching

`Pattern.run` tries the ways in which a pattern can match from a place on, in order, and gives each
of them to what comes after until that succeeds. What comes after is a function, so an alternative
is tried again only if the rest of the pattern fails. `Pattern.search` begins at every place
(`re.search`).
-/
namespace Compliance.Pattern

/-- A place in a text, and what groups have matched so far, the latest first. -/
structure State where
  place : Nat
  groups : List (Nat × Nat × Nat)

/-- What comes after a pattern. -/
abbrev Next := State → Option State

/-- The ends of what a group has matched. -/
def State.group? (s : State) (number : Nat) : Option (Nat × Nat) := s.groups.lookup number

/-- Whether a condition holds at a place. -/
def Anchor.holds (cs : Array Char) (i : Nat) : Anchor → Bool
  | .textStart => i == 0
  | .lineStart => i == 0 || cs[i - 1]? == some '\n'
  | .textEnd => i == cs.size
  | .lastLineEnd => i == cs.size || (i + 1 == cs.size && cs[i]? == some '\n')
  | .lineEnd => i == cs.size || cs[i]? == some '\n'
  | .wordBoundary wanted ascii =>
    let before := 0 < i && cs[i - 1]?.any (Kind.has ascii · .word)
    let after := cs[i]?.any (Kind.has ascii · .word)
    !cs.isEmpty && (before != after) == wanted

/-- Whether two characters are the same under a rule. -/
def CaseRule.same (rule : CaseRule) (a b : Char) : Bool := rule.fold a.toNat == rule.fold b.toNat

/-- Whether the part of a text from `i` up to `n` characters on also stands at `j`. -/
def repeats (cs : Array Char) (rule : CaseRule) (i j : Nat) : Nat → Bool
  | 0 => true
  | n + 1 =>
    match cs[i]?, cs[j]? with
    | some a, some b => rule.same a b && repeats cs rule (i + 1) (j + 1) n
    | _, _ => false

/-- How many characters of a set stand at a place, up to a bound. -/
def runLength (cs : Array Char) (set : CharSet) (i : Nat) : Nat → Nat
  | 0 => 0
  | n + 1 => if cs[i]?.any set.has then runLength cs set (i + 1) n + 1 else 0

/-- Tries places one after the other, back from one that is `extra` places on. -/
def downFrom (k : Next) (s : State) (base : Nat) : Nat → Option State
  | 0 => k { s with place := base }
  | extra + 1 =>
    match k { s with place := base + (extra + 1) } with
    | some r => some r
    | none => downFrom k s base extra

/-- Tries places one after the other, on from one. -/
def upFrom (k : Next) (s : State) (base : Nat) : Nat → Option State
  | 0 => k { s with place := base }
  | extra + 1 =>
    match k { s with place := base } with
    | some r => some r
    | none => upFrom k s (base + 1) extra

/-- Copies of a single character. -/
def runOfOne (cs : Array Char) (set : CharSet) (least : Nat) (most : Option Nat) (greed : Greed)
    (s : State) (k : Next) : Option State :=
  let room := cs.size - s.place
  let n := runLength cs set s.place (match most with | some m => min m room | none => room)
  if n < least then none
  else
    match greed with
    | .greedy => downFrom k s (s.place + least) (n - least)
    | .lazy => upFrom k s (s.place + least) (n - least)
    | .possessive => k { s with place := s.place + n }

/-- A way to match a pattern. -/
abbrev Body := State → Next → Option State

/-- A fixed number of copies. -/
def times (body : Body) : Nat → Body
  | 0, s, k => k s
  | n + 1, s, k => body s fun s' => times body n s' k

/-- Up to a bound of further copies, many first. A copy that takes up nothing is the last. -/
def manyMore (body : Body) : Nat → Body
  | 0, s, k => k s
  | n + 1, s, k =>
    match body s (fun s' => if s'.place = s.place then k s' else manyMore body n s' k) with
    | some r => some r
    | none => k s

/-- Up to a bound of further copies, few first. -/
def fewMore (body : Body) : Nat → Body
  | 0, s, k => k s
  | n + 1, s, k =>
    match k s with
    | some r => some r
    | none => body s fun s' => if s'.place = s.place then k s' else fewMore body n s' k

/-- As many further copies as can be had, up to a bound. -/
def allMore (body : Body) : Nat → State → State
  | 0, s => s
  | n + 1, s =>
    match body s some with
    | some s' => if s'.place = s.place then s' else allMore body n s'
    | none => s

/-- Copies that are never taken back. -/
def allTimes (body : Body) : Nat → State → Option State
  | 0, s => some s
  | n + 1, s =>
    match body s some with
    | some s' => allTimes body n s'
    | none => none

/-- Tries the matches of a pattern from a place on, until what comes after succeeds. -/
def run (cs : Array Char) : Pattern → Body
  | .empty, s, k => k s
  | .one set, s, k => if cs[s.place]?.any set.has then k { s with place := s.place + 1 } else none
  | .anchor a, s, k => if a.holds cs s.place then k s else none
  | .seq first second, s, k => first.run cs s fun s' => second.run cs s' k
  | .alt left right, s, k =>
    match left.run cs s k with
    | some r => some r
    | none => right.run cs s k
  | .copies (.one set) least most greed, s, k => runOfOne cs set least most greed s k
  | .copies p least most greed, s, k =>
    let room := cs.size + 1
    let more := match most with | some m => min (m - least) room | none => room
    match greed with
    | .greedy => times (p.run cs) least s fun s' => manyMore (p.run cs) more s' k
    | .lazy => times (p.run cs) least s fun s' => fewMore (p.run cs) more s' k
    | .possessive =>
      match allTimes (p.run cs) least s with
      | some s' => k (allMore (p.run cs) more s')
      | none => none
  | .group number p, s, k =>
    p.run cs s fun s' => k { s' with groups := (number, s.place, s'.place) :: s'.groups }
  | .again number rule, s, k =>
    match s.group? number with
    | some (i, j) =>
      if repeats cs rule i s.place (j - i) then k { s with place := s.place + (j - i) } else none
    | none => none
  | .ifGroup number yes no, s, k =>
    if (s.group? number).isSome then yes.run cs s k else no.run cs s k
  | .atomic p, s, k =>
    match p.run cs s some with
    | some s' => k s'
    | none => none
  | .look back p wanted, s, k =>
    let found := if back ≤ s.place then p.run cs { s with place := s.place - back } some else none
    match found, wanted with
    | some s', true => k { s' with place := s.place }
    | none, false => k s
    | _, _ => none

/-- Whether a pattern matches from a place or one of the `n` places after it. -/
def searchFrom (p : Pattern) (cs : Array Char) (i : Nat) : Nat → Bool
  | 0 => (p.run cs ⟨i, []⟩ some).isSome
  | n + 1 => (p.run cs ⟨i, []⟩ some).isSome || searchFrom p cs (i + 1) n

/-- Whether a pattern matches somewhere in a text. -/
def search (p : Pattern) (s : String) : Bool :=
  let cs := s.toList.toArray
  searchFrom p cs 0 cs.size

end Pattern
end Compliance
