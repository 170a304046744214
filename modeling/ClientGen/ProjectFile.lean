import ClientGen.Markup.Document
import ClientGen.Text.Blank

/-!
# Project files

The name of the assembly that a project is built into, as its project file gives it: the text of
the first element `AssemblyName`, in whatever namespace, that has any text before its first child.
-/

namespace ClientGen.ProjectFile

/-- The name of an element without its namespace. -/
def localName (tag : String) : String :=
  Text.afterLast '\x7d' tag

/-- The name of the assembly in a document, if it gives one. -/
def assemblyNameIn? (root : Markup.Node) : Option String :=
  (root.elements.find? fun (tag, content) =>
    localName tag == "AssemblyName" && Markup.Node.leadingText content != "").map
      fun (_, content) => Text.trim (Markup.Node.leadingText content)

/-- The name of the assembly in a project file, or the default when the file gives none. -/
def assemblyName (content : ByteArray) (default : String) : Except Markup.DocumentFault String :=
  (Markup.Document.ofBytes content.toList).map fun root =>
    (assemblyNameIn? root).getD default

end ClientGen.ProjectFile
