import ClientGen.GenerationError
import ClientGen.Service.Mapping
import ClientGen.Solution

/-!
# Controllers

The methods of a controller that clients can call: its own, then those of its base controllers up
to a given depth. The walk over base classes ends at the classes of the framework. A base class
that the solution does not declare is an error, since methods might be missing.
-/

namespace ClientGen

/-- The classes of the framework that controllers derive from. -/
def rootControllers : List String := ["Controller", "ControllerBase"]

/-- The attributes that take a method out of routing. -/
def nonActionAttributes : List String := ["NonAction", "NonActionAttribute"]

namespace Method

/-- Can a client call the method? It has to be public and not taken out of routing. -/
def isAction (method : Method) : Bool :=
  method.modifiers.contains "public" &&
    !method.attributes.any fun a => nonActionAttributes.contains a.shortName

end Method

namespace ClassDecl

/-- The base class to go on with, if the walk does not end at this class. -/
def nextBase? (c : ClassDecl) : Option TypeRef :=
  c.baseType.filter fun base => !rootControllers.contains base.name

/-- The classes above a class, at most `depth` of them; the name is the controller to report. -/
def ancestors (solution : Solution) (controller : String) :
    (depth : Nat) → ClassDecl → Except GenerationError (List ClassDecl)
  | 0, _ => .ok []
  | depth + 1, c =>
    match c.nextBase? with
    | none => .ok []
    | some base =>
      match solution.findClass base with
      | none => .error (.unresolvableBase controller base.text)
      | some above => do
        let others ← ancestors solution controller depth above
        return above :: others

/-- How many levels of base controllers count. -/
def inheritanceDepth : Nat := 1

/-- The methods of a controller that clients can call, its own first. -/
def actions (solution : Solution) (controller : ClassDecl) (depth : Nat := inheritanceDepth) :
    Except GenerationError (List Method) := do
  let above ← controller.ancestors solution controller.name depth
  return ((controller :: above).flatMap (·.methods)).filter (·.isAction)

/-- The services of a controller, in the order of its methods. -/
def services (solution : Solution) (controller : ClassDecl) :
    Except GenerationError (List Service) := do
  let methods ← controller.actions solution
  let found ← methods.mapM (·.toService solution)
  return found.filterMap id

end ClassDecl

end ClientGen
