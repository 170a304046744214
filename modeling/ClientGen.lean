import ClientGen.Main
import ClientGen.Schema.Service
import ClientGen.Proofs.Route.Pieces
import ClientGen.Proofs.Route.Placeholders
import ClientGen.Proofs.Route.Grammar
import ClientGen.Proofs.Text.Cutting
import ClientGen.Proofs.Text.Words
import ClientGen.Proofs.Failure
import ClientGen.Proofs.Service.Outcome
import ClientGen.Proofs.TypeScript.Call
import ClientGen.Proofs.TypeScript.Imports
import ClientGen.Proofs.TypeScript.ImportedNames
import ClientGen.Proofs.Controller.Endpoints
import ClientGen.Proofs.Controller.ExportedNames
import ClientGen.Proofs.TypeRef
import ClientGen.Proofs.TypeScript.Spelling
import ClientGen.Proofs.FileTree.Location
import ClientGen.Proofs.FileTree.Saving
import ClientGen.Proofs.FileTree.Reaching
import ClientGen.Proofs.FileTree.Repeating
import ClientGen.Proofs.Path
import ClientGen.Proofs.ModulePath
import ClientGen.Proofs.Service.Parameters
import ClientGen.Proofs.Generation.Attempts
import ClientGen.Proofs.Generation.Accounting
import ClientGen.Proofs.Generation.Recorded
import ClientGen.Proofs.Generation.Overwriting
import ClientGen.Proofs.Generation.FilesLeft
import ClientGen.Proofs.Generation.Rerun
import ClientGen.Proofs.Solution.Symbols
import ClientGen.Proofs.TypeScript.Address
import ClientGen.Proofs.Loading.BreakingOff
import ClientGen.Proofs.CommandLine.Outcome
import ClientGen.Proofs.TypeScript.Comment
import ClientGen.Proofs.FileTree.Climbing
import ClientGen.Proofs.Generation.Confinement
import ClientGen.Proofs.Route.Decorations
import ClientGen.Proofs.Solution.Agreement
import ClientGen.Proofs.Generation.UnrelatedProjects
import ClientGen.Proofs.FileTree.NulPaths
import ClientGen.Proofs.Generation.Completion
import ClientGen.Proofs.Controller.Inheritance
import ClientGen.Proofs.Solution.Trimming
import ClientGen.Proofs.Generation.UnseenMethods
import ClientGen.Proofs.Generation.ApplicationRoot
import ClientGen.Proofs.TypeScript.DeclaredNames
import ClientGen.Proofs.TypeScript.Signature
import ClientGen.Proofs.DocComment.Fragments
import ClientGen.Proofs.Markup.Writing
import ClientGen.Proofs.Markup.Tree
import ClientGen.Proofs.DocComment.Ampersands
import ClientGen.Proofs.DocComment.RoundTrip
import ClientGen.Proofs.DocComment.Summary
import ClientGen.Proofs.DocComment.CrossReferences
import ClientGen.Proofs.CSharp.Literals
import ClientGen.Proofs.TypeScript.ArrayTypes
import ClientGen.Proofs.Service.QualifiedNames
import ClientGen.Proofs.TypeScript.CommentLines
import ClientGen.Proofs.TypeScript.CanonicalImports
import ClientGen.Proofs.Text.LetterCase
import ClientGen.Proofs.SolutionFile
import ClientGen.Proofs.Loading.SourceFiles
import ClientGen.Proofs.Generation.DocumentKeys
import ClientGen.Proofs.DashCase.Dashes
import ClientGen.Proofs.CSharp.Namespaces
