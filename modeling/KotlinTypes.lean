import KotlinTypes.Text.CodeRange
import KotlinTypes.Text.Uppercase
import KotlinTypes.Text.Invisible
import KotlinTypes.Text.Dotted
import KotlinTypes.Text.Quoted
import KotlinTypes.Modifier
import KotlinTypes.Rejection
import KotlinTypes.Log
import KotlinTypes.Variance
import KotlinTypes.QualifiedName
import KotlinTypes.ClassRef
import KotlinTypes.Style
import KotlinTypes.Printer
import KotlinTypes.TypeRef.Basic
import KotlinTypes.TypeRef.Equality
import KotlinTypes.TypeRef.Text
import KotlinTypes.TypeRef.Bounds
import KotlinTypes.TypeParameter
import KotlinTypes.TypeRef.Build
import KotlinTypes.Generics
import KotlinTypes.Memo
import KotlinTypes.Generics.Memo
import KotlinTypes.Json.Basic
import KotlinTypes.Json.Printer
import KotlinTypes.Json.Reader
import KotlinTypes.Json.Settings
import KotlinTypes.Proofs.Ledger
import KotlinTypes.Proofs.Parts
import KotlinTypes.Proofs.Adding
import KotlinTypes.Proofs.Written
import KotlinTypes.Proofs.Appending
import KotlinTypes.Proofs.Visible
import KotlinTypes.Proofs.Names
import KotlinTypes.Proofs.Reading
import KotlinTypes.Proofs.Legible
import KotlinTypes.Proofs.Markings
import KotlinTypes.Proofs.Layout
import KotlinTypes.Proofs.Entries
import KotlinTypes.Proofs.Remarks
import KotlinTypes.Proofs.Obtainable
import KotlinTypes.Proofs.Histories
import KotlinTypes.Proofs.WellFormed
import KotlinTypes.Proofs.BoundForms
import KotlinTypes.Proofs.Rebuilding
import KotlinTypes.Proofs.Renaming
import KotlinTypes.Proofs.PackageErasure
import KotlinTypes.Proofs.Remembering
import KotlinTypes.Proofs.RenderHistory
import KotlinTypes.Proofs.FirstCalls
import KotlinTypes.Proofs.Readability
import KotlinTypes.Proofs.Composition
import KotlinTypes.Proofs.Brackets
import KotlinTypes.Proofs.DeclaredBounds
import KotlinTypes.Proofs.DefiniteForm
import KotlinTypes.Proofs.CanonicalNames
import KotlinTypes.Proofs.Receivers
import KotlinTypes.Proofs.Keywords
import KotlinTypes.Proofs.StyleMembers
import KotlinTypes.Proofs.Quoting
import KotlinTypes.Proofs.Sentences
