import ClientGen.Loading.Error
import ClientGen.Schema.Project
import ClientGen.Solution
import ClientGen.Yaml.Document

/-!
# Snapshots

A snapshot is a document that holds the projects of a solution with their declarations already
read: a mapping with a list under `projects`.
-/

namespace ClientGen.Snapshot

/-- The projects of a snapshot. -/
def projects : Schema.Check (List Project) :=
  Schema.object fun fields => Schema.required "projects" (Schema.list Schema.project) fields

/-- Is a value a text? -/
def isText : Yaml.Value → Bool
  | .text _ => true
  | _ => false

/-- The solution in a document. -/
def ofValue : Yaml.Value → Except LoadFault Solution
  | .map entries => do
    if !entries.all fun (key, _) => isText key then throw .keyNotText
    match (projects (.map entries)).toExcept with
    | .ok projects => return Solution.ofProjects projects
    | .error issues => throw (.refused (.invalidSnapshot issues))
  | _ => throw (.refused .snapshotShape)

/-- The solution in the text of a snapshot. -/
def parse (text : String) : Except LoadFault Solution :=
  match Yaml.readDocument text with
  | .ok value => ofValue value
  | .error .malformed => .error (.refused .malformedSnapshot)
  | .error fault => .error (.scalar fault)

end ClientGen.Snapshot
