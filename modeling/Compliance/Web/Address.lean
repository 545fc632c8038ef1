import Compliance.Number.Literal
import Compliance.Text.Basic
import Compliance.Text.Bytes
import Compliance.Text.Quoted
import Compliance.Value.Text
import Compliance.Web.HostName

/-!
# Addresses

An address names a scheme, a host with a port, a path, a query and a fragment. `Address.read?` takes
it apart and writes its parts in one way: the scheme and the host in small letters, characters that
may not stand in a part escaped, a port that the scheme implies left out, and steps to the same or
the upper directory taken. An address without a host is completed by the one it is used under. The
client that notifications are posted with reads addresses so (`httpx.URL`).
-/
namespace Compliance.Web

/-!
## What keeps a message from being sent

A message needs an address that can be read, and a body whose numbers all have digits. An answer is
of use only if the address says how it was reached.
-/

inductive Fault where
  /-- The address cannot be read. -/
  | unreadable
  /-- A number in the body is infinite or undefined. -/
  | endlessNumber
  /-- A number in the body has too many digits to be written. -/
  | overlongNumber
  /-- The answer came from an address without a scheme. -/
  | noScheme (address : String)
  deriving DecidableEq

/-- The words for a fault. -/
def Fault.message? : Fault → Option String
  | .unreadable => none
  | .endlessNumber => some "Out of range float values are not JSON compliant"
  | .overlongNumber => some Number.tooManyDigitsToWrite
  | .noScheme address => some ("unknown url type: " ++ Text.quoted address)

/-- What keeps a body from being written, if anything does. -/
def Fault.ofBody? (body : Value) : Option Fault :=
  if !body.isFinite then some .endlessNumber
  else if !body.isWritable then some .overlongNumber
  else none

/-!
## Percent signs in addresses

A character that may not stand in a part of an address is written byte by byte, each byte as a
percent sign and two digits. What is already written so stays.
-/

/-- A byte as a percent sign and two digits. -/
def escapedByte (b : Nat) : List Char :=
  let digit := fun n => (Nat.digitChar n).toUpper
  ['%', digit (b / 16), digit (b % 16)]

/-- Whether a character never has to be escaped. -/
def isUnreserved (c : Char) : Bool := c.isAlphanum || "-._~".toList.contains c

/-- Escapes the characters of a text that are not safe. -/
def escaped (isSafe : Char → Bool) : List Char → List Char
  | '%' :: a :: b :: cs =>
    if (Text.hexDigit? a).isSome && (Text.hexDigit? b).isSome then
      '%' :: a :: b :: escaped isSafe cs
    else escapedChar '%' ++ escaped isSafe (a :: b :: cs)
  | c :: cs => escapedChar c ++ escaped isSafe cs
  | [] => []
where
  escapedChar (c : Char) : List Char :=
    if isUnreserved c || isSafe c then [c] else (Text.utf8 [c]).flatMap escapedByte

/-- The bytes of a text in which bytes may be escaped. -/
def unescapedBytes : List Char → List Nat
  | '%' :: a :: b :: cs =>
    match Text.hexDigit? a, Text.hexDigit? b with
    | some high, some low => (16 * high + low) :: unescapedBytes cs
    | _, _ => 37 :: unescapedBytes (a :: b :: cs)
  | c :: cs => Text.utf8 [c] ++ unescapedBytes cs
  | [] => []

/-- A text without escapes. -/
def unescaped (cs : List Char) : List Char := Text.ofUtf8 (unescapedBytes cs)

/-!
## Hosts named by number

Four numbers up to 255 with points between them, or eight groups of hexadecimal digits with colons
between them. One run of zero groups may be left out, the last two groups may be written as four
numbers, and a zone may follow.
-/

open Text

/-- Whether a text is one of the four numbers: digits without a needless zero. -/
def isOctet (cs : List Char) : Bool :=
  !cs.isEmpty && cs.length ≤ 3 && cs.all Char.isDigit && (cs == ['0'] || cs.head? != some '0') &&
    cs.foldl (fun n c => 10 * n + (c.toNat - 48)) 0 ≤ 255

/-- Whether a text is four numbers. -/
def isFourNumbers (cs : List Char) : Bool :=
  let parts := splitAt '.' cs
  parts.length == 4 && parts.all isOctet

/-- Whether a text is a group of hexadecimal digits. -/
def isGroup (cs : List Char) : Bool :=
  !cs.isEmpty && cs.length ≤ 4 && cs.all fun c => (hexDigit? c).isSome

/-- The groups, the last two of which may be written as four numbers. -/
def groups? (cs : List Char) : Option (List (List Char)) :=
  let parts := splitAt ':' cs
  let last := parts.getLast?.getD []
  if parts.length < 3 then none
  else if last.contains '.' then
    if isFourNumbers last then some (parts.dropLast ++ [['0'], ['0']]) else none
  else some parts

/-- Whether groups are eight in number, or fewer with one run left out. What is left out shows as an
empty group, and at an end of the text as two. -/
def areEightGroups (parts : List (List Char)) : Bool :=
  let inner := (parts.drop 1).dropLast
  let gaps := inner.countP List.isEmpty
  if gaps = 0 then parts.length == 8 && parts.all isGroup
  else if gaps = 1 then
    let high := parts.take (inner.takeWhile (!·.isEmpty)).length.succ
    let low := parts.drop (high.length + 1)
    let high := if high = [[]] then [] else high
    let low := if low = [[]] then [] else low
    high.all isGroup && low.all isGroup && high.length + low.length ≤ 7
  else false

/-- Whether a text is eight groups, with a zone or without. -/
def isGroupedHost (cs : List Char) : Bool :=
  let number := cs.takeWhile (· != '%')
  let zone := cs.drop number.length
  (zone.isEmpty || (2 ≤ zone.length && !(zone.drop 1).contains '%')) && !cs.contains '/' &&
    (groups? number).any areEightGroups

/-! ## Addresses -/

/-- An address with all parts written in one way. -/
structure Address where
  scheme : List Char
  /-- Who asks. -/
  user : List Char
  host : List Char
  port : Option Int
  path : List Char
  query : Option (List Char)
  fragment : Option (List Char)
  deriving DecidableEq

/-! ## Safe characters -/

/-- Whether a character is printable ASCII and not one of the others. -/
def isSafeBut (others : String) (c : Char) : Bool :=
  0x20 < c.toNat && c.toNat < 0x7f && !others.toList.contains c

def safeInPath : Char → Bool := isSafeBut "\"#<>?\x60\x7b\x7d"
def safeInQuery : Char → Bool := isSafeBut "\"#<>"
def safeInFragment : Char → Bool := isSafeBut "\"<>\x60"
def safeInUser : Char → Bool := isSafeBut "\"#<>?\x60\x7b\x7d/;=@[\\]^|"

/-- What may stand in the name of a host, besides letters and digits. -/
def safeInHost (c : Char) : Bool := "!$&\x27()*+,;=\"\x60\x7b\x7d%|\\".toList.contains c

/-! ## Parts -/

/-- The rest of a text after a character, if it begins with it. -/
def after? (c : Char) : List Char → Option (List Char)
  | [] => none
  | d :: ds => if d = c then some ds else none

/-- Divides a text before the first of some characters. -/
def spanUntil (stops : List Char) (cs : List Char) : List Char × List Char :=
  (cs.takeWhile (!stops.contains ·), cs.dropWhile (!stops.contains ·))

/-- The scheme at the head of an address, and the rest. -/
def schemeSpan (cs : List Char) : List Char × List Char :=
  let isPart := fun (c : Char) => c.isAlphanum || c == '+' || c == '.' || c == '-'
  let name := if cs.head?.any Char.isAlpha then cs.takeWhile isPart else []
  match after? ':' (cs.drop name.length) with
  | some rest => (name, rest)
  | none => ([], cs)

/-- The user, host and port, and the rest. -/
def authoritySpan (cs : List Char) : List Char × List Char :=
  match cs with
  | '/' :: '/' :: rest => spanUntil ['/', '?', '#'] rest
  | _ => ([], cs)

/-- The beginning of a text up to the last occurrence of a character. -/
def beforeLast? (c : Char) (cs : List Char) : Option (List Char) :=
  if cs.contains c then some (cs.reverse.dropWhile (· != c)).reverse.dropLast else none

/-- The user, the host and the port. -/
def authorityParts (cs : List Char) : List Char × List Char × List Char :=
  let user? := beforeLast? '@' cs
  let rest := match user? with
    | some user => cs.drop (user.length + 1)
    | none => cs
  let host :=
    if rest.head? = some '[' then
      match beforeLast? ']' rest with
      | some inner => inner ++ [']']
      | none => rest.takeWhile (· != ':')
    else rest.takeWhile (· != ':')
  let port := rest.drop host.length
  (user?.getD [], host, (after? ':' port).getD port)

/-- The port that a scheme implies. -/
def impliedPort (scheme : List Char) : Option Int :=
  [("ftp", 21), ("http", 80), ("https", 443), ("ws", 80), ("wss", 443)].lookup
    (String.ofList scheme)

/-- Reads a port; one that is implied is left out. -/
def port? (scheme cs : List Char) : Option (Option Int) :=
  if cs = [] then some none
  else (Number.readWhole? 10 cs).map fun n => if impliedPort scheme = some n then none else some n

/-- The lengths of the runs of digits between other characters. -/
def digitRuns : List Char → List Nat
  | [] => [0]
  | c :: cs =>
    match digitRuns cs with
    | [] => []
    | n :: ns => if c.isDigit then (n + 1) :: ns else 0 :: n :: ns

/-- Whether a text is four runs of digits with a character between each two, which may be a digit as
well. -/
def looksNumeric (cs : List Char) : Bool :=
  let runs := digitRuns cs
  runs.length ≤ 4 && !runs.contains 0 && 4 ≤ runs.foldl (fun k n => k + (n + 1) / 2) 0

/-- A host in one way of writing; one in brackets is kept without them. -/
def host? (cs : List Char) : Option (List Char) :=
  if cs = [] then some []
  else if looksNumeric cs then if isFourNumbers cs then some cs else none
  else if cs.head? = some '[' && cs.getLast? = some ']' then
    let inner := (cs.drop 1).dropLast
    if isGroupedHost inner then some inner else none
  else if cs.all (·.toNat < 128) then some (escaped safeInHost (cs.map Char.toLower))
  else hostName? (lowered [] cs)

/-! ## Paths -/

/-- Takes the steps of a path: `.` stays where it is, and `..` leads back to the directory above.
What has been taken is given last step first. -/
def stepsTaken : List (List Char) → List (List Char) → List (List Char)
  | taken, [] => taken.reverse
  | taken, ['.'] :: steps => stepsTaken taken steps
  | taken, ['.', '.'] :: steps => stepsTaken (if taken = [[]] then taken else taken.drop 1) steps
  | taken, step :: steps => stepsTaken (step :: taken) steps

/-- A path with the steps in it taken. -/
def straightened (path : List Char) : List Char :=
  ['/'].intercalate (stepsTaken [] (splitAt '/' path))

namespace Address

/-- The longest text that is read as an address. -/
def lengthLimit : Nat := 65536

/-- An address of given parts. -/
def ofParts? (scheme authority path : List Char) (query fragment : Option (List Char)) :
    Option Address := do
  let (user, host, port) := authorityParts authority
  let user := escaped safeInUser user
  let host ← host? host
  let port ← port? scheme port
  let isBare := scheme = [] ∧ user = [] ∧ host = [] ∧ port = none
  if isBare ∧ (path.take 2 = ['/', '/'] ∨ path.head? = some ':') then none
  else
    let path := if isBare then path else straightened path
    some ⟨scheme.map Char.toLower, user, host, port, escaped safeInPath path,
      query.map (escaped safeInQuery), fragment.map (escaped safeInFragment)⟩

/-- Reads an address. -/
def read? (cs : List Char) : Option Address :=
  if lengthLimit < cs.length || cs.any fun c => c.toNat < 0x20 || c.toNat = 0x7f then none
  else
    let (scheme, cs) := schemeSpan cs
    let (authority, cs) := authoritySpan cs
    let (path, cs) := spanUntil ['?', '#'] cs
    let query := after? '?' (cs.takeWhile (· != '#'))
    ofParts? scheme authority path query (after? '#' (cs.dropWhile (· != '#')))

/-- Whether an address names a host by itself. -/
def isComplete (a : Address) : Bool := a.scheme ≠ [] && a.host ≠ []

/-- The path that is asked for. -/
def target (a : Address) : List Char := if a.path = [] then ['/'] else a.path

/-- The part of an address that names the host. -/
def authority (a : Address) : List Char :=
  (if a.user = [] then [] else a.user ++ ['@']) ++
    (if a.host.contains ':' then '[' :: a.host ++ [']'] else a.host) ++
    (match a.port with | some n => ':' :: (toString n).toList | none => [])

/-- An address as text. -/
def text (a : Address) : List Char :=
  (if a.scheme = [] then [] else a.scheme ++ [':']) ++
    (if a.authority = [] then [] else '/' :: '/' :: a.authority) ++ a.path ++
    (match a.query with | some q => '?' :: q | none => []) ++
    (match a.fragment with | some f => '#' :: f | none => [])

/-- An address as it is used under another one, which completes it if it names no host. -/
def under? (base a : Address) : Option Address :=
  if a.isComplete then some a
  else
    let path := '/' :: a.target.dropWhile (· = '/')
    if lengthLimit < path.length ∨ a.query.any (lengthLimit < ·.length) then none
    else
      some { base with
        path := if base.scheme = [] then path else straightened path, query := a.query }

end Address

end Compliance.Web
