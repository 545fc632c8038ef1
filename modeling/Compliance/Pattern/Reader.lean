import Compliance.Pattern.Reading

/-!
# The written form of a search pattern

Characters stand for themselves, except `.`, `^`, `$`, the brackets, the backslash, `|` and the
repetition marks. A brace that does not hold a count stands for itself. Alternatives that begin
alike are put together, and alternatives of single characters become one set; both leave the texts
that match as they are, but for letters outside the first plane, which a set of several does not
hold in their other case. This is what `re.compile` does with a pattern.
-/
namespace Compliance.Pattern

/-- A part of a sequence. What stands in a group without a purpose of its own is loose: it becomes
part of the sequence around it. -/
inductive Element where
  | item (p : Pattern)
  | loose (ps : List Pattern)

/-- Patterns one after the other. -/
def sequence : List Pattern → Pattern
  | [] => .empty
  | [p] => p
  | p :: ps => .seq p (sequence ps)

/-- A sequence that is one part of another, whatever its own parts are. -/
def apart (ps : List Pattern) : Pattern := .seq (sequence ps) .empty

/-- The patterns of a sequence whose parts were read last one first. -/
def finished (done : List Element) : List Pattern :=
  done.reverse.flatMap fun e =>
    match e with
    | .item p => [p]
    | .loose ps => ps

/-- Whether two parts of alternatives are the same. Parts with parts of their own never are. -/
def isShared : Pattern → Pattern → Bool
  | .one a, .one b => a == b
  | .anchor a, .anchor b => a == b
  | .again a r, .again b s => a == b && r == s
  | _, _ => false

/-- The part that all alternatives begin with. -/
def commonHead? : List (List Pattern) → Option Pattern
  | (p :: _) :: rest =>
    if rest.all fun ps => ps.head?.any (isShared p) then
      if isShared p p then some p else none
    else none
  | _ => none

/-- The set that alternatives of single characters come to. -/
def commonSet? : List (List Pattern) → Option CharSet
  | [] => none
  | [[.one set]] => if set.negated then none else some set
  | [.one set] :: rest =>
    match commonSet? rest with
    | some more =>
      if set.negated then none else some { set with items := (set.items ++ more.items).eraseDups }
    | none => none
  | _ => none

/-- Alternatives, tried in order. -/
def choice : List (List Pattern) → Pattern
  | [] => .empty
  | [ps] => sequence ps
  | ps :: rest => .alt (sequence ps) (choice rest)

/-- What alternatives come to. -/
def joinedBranches : Nat → List (List Pattern) → List Pattern
  | 0, bs => [choice bs]
  | fuel + 1, bs =>
    match commonHead? bs with
    | some p => p :: joinedBranches fuel (bs.map List.tail)
    | none =>
      match commonSet? bs with
      | some set => [.one set]
      | none => [choice bs]

/-- The patterns that alternatives come to; a single one stays as it is. -/
def joined : List (List Pattern) → List Pattern
  | [ps] => ps
  | bs => joinedBranches ((bs.headD []).length + 1) bs

/-- The mark after a number of copies. -/
def greed : Read Greed := do
  if ← accept '?' then return .lazy
  else if ← accept '+' then return .possessive
  else return .greedy

/-- Repeats the last part. -/
def repeated (done : List Element) (least : Nat) (most : Option Nat) : Read (List Element) := do
  match done with
  | [] => malformed
  | .item (.anchor _) :: _ => malformed
  | .item (.copies ..) :: _ => malformed
  | e :: done =>
    let p := match e with
      | .item p => p
      | .loose ps => sequence ps
    let greed ← greed
    modify fun r => { r with repeating := true }
    return .item (.copies p least most greed) :: done

/-! ## Modes -/

/-- Whether a letter is the name of a mode. -/
def isModeLetter (c : Char) : Bool := "iLmsxatu".toList.contains c

/-- Whether a letter names a kind of classes. -/
def isClassLetter (c : Char) : Bool := c == 'a' || c == 'u' || c == 'L'

/-- Switches a mode by its letter. -/
def Mode.switch (on : Bool) (m : Mode) (c : Char) : Mode :=
  match c with
  | 'i' => { m with anyCase := on }
  | 'm' => { m with lines := on }
  | 's' => { m with dotAll := on }
  | 'x' => { m with verbose := on }
  | 'a' => { m with ascii := on }
  | 'u' => { m with ascii := !on }
  | _ => m

/-- Letters to switch on, the first one given, up to the mark that ends them. -/
def lettersOn : Nat → List Char → Char → Read (List Char × Char)
  | 0, _, _ => malformed
  | fuel + 1, acc, c => do
    let acc := acc ++ [c]
    if c = 'L' ∨ (isClassLetter c ∧ acc.any fun d => isClassLetter d && d != c) then malformed
    else
      let mark ← takeMark
      if mark.escaped then malformed
      else if mark.char = ')' ∨ mark.char = ':' ∨ mark.char = '-' then return (acc, mark.char)
      else if isModeLetter mark.char then lettersOn fuel acc mark.char
      else malformed

/-- Letters to switch off, up to a colon; there is at least one. -/
def lettersOff : Nat → List Char → Read (List Char)
  | 0, _ => malformed
  | fuel + 1, acc => do
    let mark ← takeMark
    if mark = ⟨':', false⟩ ∧ !acc.isEmpty then return acc
    else if !mark.escaped ∧ isModeLetter mark.char ∧ !isClassLetter mark.char then
      lettersOff fuel (acc ++ [mark.char])
    else malformed

/-- The mode inside a group that begins with letters, the first mark given; none if they are for the
whole pattern. -/
def groupMode? (m : Mode) (first : Char) : Read (Option Mode) := do
  let fuel := (← get).rest.length + 1
  let (on, stop) ← if first = '-' then pure ([], '-') else lettersOn fuel [] first
  if stop = ')' then
    modify fun r =>
      { r with letters := r.letters ++ on, mode := on.foldl (Mode.switch true) r.mode }
    return none
  else if on.contains 't' then malformed
  else
    let off ← if stop = '-' then lettersOff fuel [] else pure []
    if off.contains 't' ∨ off.any on.contains then malformed
    else return some (off.foldl (Mode.switch false) (on.foldl (Mode.switch true) m))

/-! ## Groups -/

/-- Begins a group that remembers what it matches. -/
def openGroup (name : Option (List Char)) : Read Nat := do
  let r ← get
  let number := r.groups
  match name with
  | none => modify fun r => { r with widths := r.widths.push none }
  | some name =>
    if (r.names.lookup name).isSome then malformed
    else modify fun r => { r with widths := r.widths.push none, names := (name, number) :: r.names }
  return number

/-- Ends a group. -/
def closeGroup (number : Nat) (p : Pattern) : Read Unit :=
  modify fun r => { r with widths := r.widths.setIfInBounds (number - 1) (some (width r.widths p)) }

/-- The number of the group that a condition asks for, by name or by number. -/
def testedGroup (name : List Char) : Read Nat := do
  if Text.isIdentifier name then
    match (← get).names.lookup name with
    | some number => return number
    | none => malformed
  else
    match Number.readWhole? 10 name with
    | some n =>
      if 0 < n ∧ n < 1073741823 then
        modify fun r => { r with tested := n.toNat :: r.tested }
        return n.toNat
      else malformed
    | none => malformed

/-- Passes over a comment, up to the parenthesis that ends it. -/
def skipComment : Nat → Read Unit
  | 0 => malformed
  | fuel + 1 => do
    if (← takeMark) = ⟨')', false⟩ then return () else skipComment fuel

/-- Passes over the rest of a line. -/
def skipLine : Nat → Read Unit
  | 0 => return ()
  | fuel + 1 => do
    match ← take? with
    | none => return ()
    | some mark => if mark = ⟨'\n', false⟩ then return () else skipLine fuel

/-- Whether a character is passed over in the verbose mode. -/
def isFiller (c : Char) : Bool := c == ' ' || (9 ≤ c.toNat && c.toNat ≤ 13)

/-- How deeply parts may be nested; a group is two levels deep. -/
def depthLimit : Nat := 980

mutual

/-- Alternatives, up to a closing parenthesis or the end. -/
def alternatives : Nat → Nat → Mode → Read (List Pattern)
  | 0, _, _ => malformed
  | fuel + 1, depth, m => do return joined (← branches fuel depth m true)

/-- The alternatives one by one. -/
def branches : Nat → Nat → Mode → Bool → Read (List (List Pattern))
  | 0, _, _, _ => malformed
  | fuel + 1, depth, m, isFirst => do
    let ps ← elements fuel (depth + 1) m (isFirst && depth == 0) []
    if ← accept '|' then
      let m ← if depth = 0 then pure (← get).mode else pure m
      return ps :: (← branches fuel depth m false)
    else return [ps]

/-- The parts of one alternative. At the start of a pattern, letters can be switched on for all of
it. -/
def elements : Nat → Nat → Mode → Bool → List Element → Read (List Pattern)
  | 0, _, _, _, _ => malformed
  | fuel + 1, depth, m, atStart, done => do
    if depthLimit < depth then throw .tooDeep
    match ← peek with
    | none => return finished done
    | some mark =>
      if mark = ⟨'|', false⟩ ∨ mark = ⟨')', false⟩ then return finished done
      let _ ← take?
      let add := fun (p : Pattern) => elements fuel depth m atStart (.item p :: done)
      if mark.escaped then add (← escape m mark.char)
      else if m.verbose ∧ isFiller mark.char then elements fuel depth m atStart done
      else if m.verbose ∧ mark.char = '#' then
        skipLine ((← get).rest.length + 1)
        elements fuel depth m atStart done
      else
        match mark.char with
        | '.' => add (.one ⟨if m.dotAll then [] else [.literal 10], true, .exact⟩)
        | '^' => add (.anchor (if m.lines then .lineStart else .textStart))
        | '$' => add (.anchor (if m.lines then .lineEnd else .lastLineEnd))
        | '[' => add (← charSet m)
        | '*' => do elements fuel depth m atStart (← repeated done 0 none)
        | '+' => do elements fuel depth m atStart (← repeated done 1 none)
        | '?' => do elements fuel depth m atStart (← repeated done 0 (some 1))
        | '{' =>
          match ← count? with
          | some (least, most) => do elements fuel depth m atStart (← repeated done least most)
          | none => add (single m '{'.toNat)
        | '(' => do
          let (e, m) ← parenthesis fuel depth m (atStart && done.isEmpty)
          elements fuel depth m atStart (e.toList ++ done)
        | c => add (single m c.toNat)

/-- What stands between parentheses, after the opening one, and the mode after it. -/
def parenthesis : Nat → Nat → Mode → Bool → Read (Option Element × Mode)
  | 0, _, _, _ => malformed
  | fuel + 1, depth, m, atStart => do
    let item := fun (p : Pattern) => return (some (.item p), m)
    let inner := fun (m : Mode) => do
      let ps ← alternatives fuel (depth + 1) m
      expect ')'
      return ps
    let capture := fun (name : Option (List Char)) => do
      let number ← openGroup name
      let p := sequence (← inner m)
      closeGroup number p
      item (.group number p)
    if !(← accept '?') then capture none
    else
      let mark ← takeMark
      if mark.escaped then malformed
      else
        match mark.char with
        | 'P' => do
          if ← accept '<' then
            let name ← takeName '>'
            if Text.isIdentifier name then capture (some name) else malformed
          else if ← accept '=' then
            match (← get).names.lookup (← takeName ')') with
            | some number => item (← groupAgain m number)
            | none => malformed
          else malformed
        | ':' => do return (some (.loose (← inner m)), m)
        | '#' => do
          skipComment ((← get).rest.length + 1)
          return (none, m)
        | '=' => do item (.look 0 (sequence (← inner m)) true)
        | '!' => do item (.look 0 (sequence (← inner m)) false)
        | '<' => do
          let wanted ← if ← accept '=' then pure true else do expect '!'; pure false
          let outer := (← get).behind
          modify fun r => { r with behind := r.behind <|> some r.groups }
          let ps ← alternatives fuel (depth + 1) m
          modify fun r => { r with behind := outer }
          expect ')'
          let p := sequence ps
          let w := width (← get).widths p
          if w.least ≠ w.most ∨ countLimit < w.least then
            modify fun r => { r with looseBehind := true }
          item (.look w.least p wanted)
        | '(' => do
          let number ← testedGroup (← takeName ')')
          checkBehind number
          let yes ← elements fuel (depth + 1) m false []
          let no ← if ← accept '|' then elements fuel (depth + 1) m false [] else pure []
          expect ')'
          item (.ifGroup number (sequence yes) (sequence no))
        | '>' => do item (.atomic (sequence (← inner m)))
        | c =>
          if isModeLetter c ∨ c = '-' then
            match ← groupMode? m c with
            | some m' => item (apart (← inner m'))
            | none => if atStart then return (none, (← get).mode) else malformed
          else malformed

end

/-- Reads a pattern. -/
def read (s : String) : Except Fault Pattern :=
  let cs := s.toList
  if cs = ['\\'] then .error .malformed
  else
    match (alternatives (4 * cs.length + 8) 0 .none).run
      ⟨cs, .none, [], false, [], #[], none, [], false⟩ with
    | .error f => .error f
    | .ok (ps, r) =>
      if r.letters.contains 'a' ∧ r.letters.contains 'u' then .error .modesConflict
      else if !r.rest.isEmpty ∨ r.tested.any (r.groups ≤ ·) ∨ r.looseBehind ∨
          (r.letters.contains 't' ∧ r.repeating) then .error .malformed
      else .ok (sequence ps)

end Compliance.Pattern
