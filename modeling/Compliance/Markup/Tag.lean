import Compliance.Pattern.Reader

/-!
# Tags

A tag says what a node is taken as. A plain scalar without a tag is given one by its form: a truth
value, a number, null, a date, or else a text (`Resolver`).
-/
namespace Compliance.Markup

inductive Tag where
  | text
  | int
  | float
  | bool
  | null
  | timestamp
  | binary
  /-- The key of a mapping that is to be merged into the one around it. -/
  | merge
  /-- The key of the default value of a mapping. -/
  | default
  | sequence
  | mapping
  | set
  /-- A sequence of mappings with one entry each. -/
  | pairs
  | unknown
  deriving DecidableEq

namespace Tag

/-- The tag with a full name. -/
def ofName (name : List Char) : Tag :=
  let lead := "tag:yaml.org,2002:".toList
  if lead.isPrefixOf name then
    match String.ofList (name.drop lead.length) with
    | "str" => .text
    | "int" => .int
    | "float" => .float
    | "bool" => .bool
    | "null" => .null
    | "timestamp" => .timestamp
    | "binary" => .binary
    | "merge" => .merge
    | "value" => .default
    | "seq" => .sequence
    | "map" => .mapping
    | "set" => .set
    | "omap" => .pairs
    | "pairs" => .pairs
    | _ => .unknown
  else .unknown

/-! ## Forms of plain scalars -/

/-- The pattern for a form. -/
def form (pattern : String) : Option Pattern := (Pattern.read pattern).toOption

/-- Words for truth values, each in three spellings. -/
def boolForm : Option Pattern :=
  form ("^(?:yes|Yes|YES|no|No|NO|true|True|TRUE|false|False|FALSE" ++
    "|on|On|ON|off|Off|OFF)$")

def floatForm : Option Pattern :=
  form ("^(?:[-+]?(?:[0-9][0-9_]*)\\.[0-9_]*(?:[eE][-+][0-9]+)?" ++
    "|\\.[0-9][0-9_]*(?:[eE][-+][0-9]+)?" ++
    "|[-+]?[0-9][0-9_]*(?::[0-5]?[0-9])+\\.[0-9_]*" ++
    "|[-+]?\\.(?:inf|Inf|INF)|\\.(?:nan|NaN|NAN))$")

/-- Binary, octal, decimal, hexadecimal and sexagesimal whole numbers. -/
def intForm : Option Pattern :=
  form ("^(?:[-+]?0b[0-1_]+|[-+]?0[0-7_]+|[-+]?(?:0|[1-9][0-9_]*)" ++
    "|[-+]?0x[0-9a-fA-F_]+|[-+]?[1-9][0-9_]*(?::[0-5]?[0-9])+)$")

def nullForm : Option Pattern := form "^(?:~|null|Null|NULL|)$"

/-- A date, or a date with a time of day and perhaps an offset. -/
def timestampForm : Option Pattern :=
  form ("^(?:[0-9][0-9][0-9][0-9]-[0-9][0-9]-[0-9][0-9]" ++
    "|[0-9][0-9][0-9][0-9]-[0-9][0-9]?-[0-9][0-9]?(?:[Tt]|[ \\t]+)[0-9][0-9]?" ++
    ":[0-9][0-9]:[0-9][0-9](?:\\.[0-9]*)?(?:[ \\t]*(?:Z|[-+][0-9][0-9]?(?::[0-9][0-9])?))?)$")

def mergeForm : Option Pattern := form "^(?:<<)$"

def defaultForm : Option Pattern := form "^(?:=)$"

/-- A mark that begins a node otherwise. -/
def markForm : Option Pattern := form "^(?:!|&|\\*)$"

/-- A date with or without a time of day, as a tag demands it. -/
def taggedTimestampForm : Option Pattern :=
  form ("^[0-9][0-9][0-9][0-9]-[0-9][0-9]?-[0-9][0-9]?(?:(?:[Tt]|[ \\t]+)[0-9][0-9]?" ++
    ":[0-9][0-9]:[0-9][0-9](?:\\.[0-9]*)?(?:[ \\t]*(?:Z|[-+][0-9][0-9]?(?::[0-9][0-9])?))?)?$")

/-- Whether a text has a form. -/
def hasForm (form : Option Pattern) (s : String) : Bool := form.any (·.search s)

/-- The forms in the order in which they are tried. A text has one of them only if it begins with
one of the characters that are given with it; no character stands for the empty text. -/
def forms : List (String × Option Pattern × Tag) :=
  [("yYnNtTfFoO", boolForm, .bool), ("-+0123456789.", floatForm, .float),
    ("-+0123456789", intForm, .int), ("<", mergeForm, .merge), ("~nN", nullForm, .null),
    ("0123456789", timestampForm, .timestamp), ("=", defaultForm, .default),
    ("!&*", markForm, .unknown)]

/-- The tag that the form of a plain scalar gives it. -/
def ofForm (s : String) : Tag :=
  match s.toList with
  | [] => .null
  | c :: _ =>
    match forms.find? fun f => f.1.toList.contains c && hasForm f.2.1 s with
    | some (_, _, tag) => tag
    | none => .text

end Tag
end Compliance.Markup
