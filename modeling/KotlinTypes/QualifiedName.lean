import KotlinTypes.Rejection
import KotlinTypes.Text.Dotted
import KotlinTypes.Text.Uppercase

/-!
# Qualified names

A class is found by its package and by the path of simple names that leads to
it from a top-level class: `Map.Entry` in `kotlin.collections` is the class
`Entry` nested in `Map`. The path is never empty, so its first name is a field
of its own.

Written in full, a qualified name no longer shows where the package ends.
`QualifiedName.ofCanonical` reads it back by convention: packages are written small,
and the first capitalised segment starts the path.
-/

namespace KotlinTypes

/-- **The name of a class**, nested or not. -/
structure QualifiedName where
  /-- The package, segments separated by dots; empty for the root package. -/
  package : String
  /-- The simple name of the top-level class. -/
  outermost : String
  /-- The simple names below it, outermost first. -/
  inner : List String
  deriving DecidableEq

namespace QualifiedName

/-- The name of a top-level class. -/
def topLevel (package name : String) : QualifiedName :=
  ⟨package, name, []⟩

/-- **The path of simple names**, outermost first. -/
def path (q : QualifiedName) : List String :=
  q.outermost :: q.inner

@[simp] theorem path_topLevel (package name : String) :
    (topLevel package name).path = [name] := rfl

/-- A path holds at least one name. -/
theorem path_ne_nil (q : QualifiedName) : q.path ≠ [] :=
  List.cons_ne_nil _ _

/-- The name of the class itself, the last of its path. -/
def simpleName (q : QualifiedName) : String :=
  q.path.getLast q.path_ne_nil

/-- The name of a class nested in this one. -/
def nest (q : QualifiedName) (name : String) : QualifiedName :=
  { q with inner := q.inner ++ [name] }

@[simp] theorem path_nest (q : QualifiedName) (name : String) :
    (q.nest name).path = q.path ++ [name] := rfl

@[simp] theorem package_nest (q : QualifiedName) (name : String) :
    (q.nest name).package = q.package := rfl

/-- **The relative name**: the path without the package, such as `Map.Entry`. -/
def relative (q : QualifiedName) : String :=
  Dotted.join q.path

/-- **The canonical name**: the package and the path. The root package leaves
no dot behind. -/
def canonical (q : QualifiedName) : String :=
  if q.package.isEmpty then q.relative else q.package ++ "." ++ q.relative

/-! ## Default imports -/

/-- The packages that every Kotlin file imports without saying so. -/
def defaultPackages : List String :=
  ["kotlin", "kotlin.annotation", "kotlin.collections", "kotlin.comparisons", "kotlin.io",
   "kotlin.ranges", "kotlin.sequences", "kotlin.text"]

/-- Whether the class is in scope in every file: its package is one of the
default imports, and a package below one of them is not. -/
def isImportedByDefault (q : QualifiedName) : Bool :=
  defaultPackages.contains q.package

/-! ## Reading a canonical name -/

/-- Whether a segment starts with a capital. -/
def isCapitalized (segment : String) : Bool :=
  segment.toList.head?.any isCapital

/-- **The qualified name a text most likely stands for.** No segment may be
empty. The segments before the first capitalised one are the package; that one
and all after it, whatever their case, are the path. A text without a
capitalised segment names no class. -/
def ofCanonical (text : String) : Except Rejection QualifiedName :=
  let segments := Dotted.segments text
  if segments.contains "" then
    .error (.notAClassName text)
  else
    match segments.dropWhile (fun s => !isCapitalized s) with
    | [] => .error (.notAClassName text)
    | outermost :: inner =>
        .ok ⟨Dotted.join (segments.takeWhile (fun s => !isCapitalized s)), outermost, inner⟩

end QualifiedName

end KotlinTypes
