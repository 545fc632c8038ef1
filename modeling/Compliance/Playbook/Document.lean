import Compliance.Markup.Document
import Compliance.Playbook.Definition

/-!
# Playbook documents

A document holds one definition, a list of definitions, or a list of them under `playbooks`
(`load_playbooks`). A directory is read file by file in the order of the names. Files lie in one
directory, so that a path leads to it, to a file in it, or nowhere.
-/
namespace Compliance

/-- Why playbooks cannot be loaded. -/
inductive LoadFault where
  | noFile
  /-- A path goes on after a file. -/
  | notDirectory
  /-- A path holds a character that no path holds. -/
  | noPath
  | markup (f : Markup.Fault)
  | definition (f : DefinitionFailure)

namespace PlaybookDocument

/-- The definitions in a document; one that counts as false is an empty mapping. -/
def definitions (file : String) (document : Value) : Except Refusal (List Value) :=
  let document := if document.truthy then document else .map []
  let ds := match document.entries? with
    | some es => (es.field? "playbooks").getD (.list [document])
    | none => document
  match ds.opened with
  | .list ds => .ok ds
  | _ => .error (.unrecognized file)

/-- The playbooks in a document. -/
def read (file : String) (document : Value) : Except DefinitionFailure (List Playbook) := do
  let ds ← (definitions file document).mapError .refused
  ds.mapM Definition.read

end PlaybookDocument

/-- A file with its name. -/
structure File where
  name : String
  text : String

namespace File

/-- Reads the playbooks in a file. -/
def playbooks (f : File) : Except LoadFault (List Playbook) := do
  let document ← (Markup.read f.text).mapError .markup
  (PlaybookDocument.read f.name document).mapError .definition

/-- Whether a file of a directory is a playbook document. -/
def isDocument (f : File) : Bool :=
  ".yaml".toList.isSuffixOf f.name.toList || ".yml".toList.isSuffixOf f.name.toList

/-- The playbook documents of a directory, by their names. -/
def documents (directory : List File) : List File :=
  (directory.filter isDocument).mergeSort fun f g => decide (f.name ≤ g.name)

/-- Reads the playbooks of several files. -/
def allPlaybooks : List File → Except LoadFault (List Playbook)
  | [] => .ok []
  | f :: rest => do
    let ps ← f.playbooks
    return ps ++ (← allPlaybooks rest)

/-- Reads the playbooks of a directory. -/
def directoryPlaybooks (directory : List File) : Except LoadFault (List Playbook) :=
  allPlaybooks (documents directory)

/-- The steps of a path. -/
def steps (path : String) : List String :=
  (Text.pieces '/' path).filter fun step => step != "" && step != "."

/-- Reads the playbooks that a path in a directory leads to. -/
def playbooksIn (directory : List File) (path : String) : Except LoadFault (List Playbook) :=
  if path.toList.contains '\x00' then .error .noPath
  else if path.toList.head? = some '/' then .error .noFile
  else
    match steps path with
    | [] => directoryPlaybooks directory
    | name :: more =>
      match directory.find? (·.name = name) with
      | none => .error .noFile
      | some f => if more.isEmpty then f.playbooks else .error .notDirectory

end File
end Compliance
