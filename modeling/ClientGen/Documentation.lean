import ClientGen.Project
import ClientGen.Text.Blank

/-!
# Documentation of a service

What a client module says about a service: a summary on one line, and the descriptions of
parameters as they were written. The summary is the text of the first `summary` element, and a
method without one has no documentation.
-/

namespace ClientGen

/-- The summary of a method and the descriptions of its parameters. -/
structure Documentation where
  /-- The summary, on one line. -/
  summary : String
  /-- Names of parameters with their descriptions, in the order of the comment. -/
  parameters : List (String × String) := []
deriving Repr, DecidableEq, Inhabited

namespace Documentation

/-- The description of a parameter: the first one under its name. -/
def descriptionFor (documentation : Documentation) (name : String) : Option String :=
  documentation.parameters.lookup name

/-- The descriptions that the `param` elements give, in order. -/
def descriptions (elements : List DocElement) : List (String × String) :=
  (elements.filter (·.tag == "param")).map fun e => ((e.value? "name").getD "", e.text)

/-- The documentation in a list of elements, if there is a summary. -/
def ofElements? (elements : List DocElement) : Option Documentation :=
  (elements.find? (·.tag == "summary")).map fun summary =>
    ⟨Text.collapse summary.text, descriptions elements⟩

end Documentation

end ClientGen
