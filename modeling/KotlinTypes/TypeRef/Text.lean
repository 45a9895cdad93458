import KotlinTypes.Printer
import KotlinTypes.TypeRef.Basic

/-!
# The text of types

Every kind of type is written the same way round: its annotations, its body,
and a question mark if it is nullable. A function type puts its body in
parentheses before the question mark, since that would otherwise go to the
result.

Each kind with parts is written over parts that are writers already, so
`FunctionType.write` says how function types look and nothing about types at
large. `TypeRef.write` then replaces the parts by their writers, innermost
first.
-/

namespace KotlinTypes

/-- **How a class is referred to**: by its relative name where the style wants
that or where no import is needed, and by its canonical name otherwise. -/
def QualifiedName.reference (q : QualifiedName) (style : Style) : String :=
  if style.relativeNames || q.isImportedByDefault then q.relative else q.canonical

/-- Writes the reference to a class. -/
def QualifiedName.write (q : QualifiedName) : Writer := fun p =>
  p.put (q.reference p.style)

namespace AnnotationUse

/-- Writes an annotation: an at sign and the reference to its class. -/
def write (a : AnnotationUse) : Writer := fun p =>
  p.putChar '@' |> a.name.write

/-- Writes annotations, a space after each of them. -/
def writeAll (annotations : List AnnotationUse) : Writer := fun p =>
  annotations.foldl (fun p a => (a.write p).space) p

end AnnotationUse

/-- Writes the question mark of a nullable type. -/
def Printer.questionMark (nullable : Bool) : Writer := fun p =>
  if nullable then p.putChar '?' else p

/-! ## One kind at a time -/

/-- Writes a reference to a class. -/
def ClassRef.write (c : ClassRef) : Writer := fun p =>
  p |> AnnotationUse.writeAll c.annotations |> c.name.write |> Printer.questionMark c.nullable

/-- Writes an applied class: the reference to the class, then its arguments in
angle brackets. -/
def Applied.write (a : Applied Writer) : Writer := fun p =>
  p |> AnnotationUse.writeAll a.annotations |> a.base.write |> Printer.angled a.arguments id
    |> Printer.questionMark a.nullable

/-- Writes a reference to a type parameter: its name, with `& Any` after it in
the definite form. -/
def TypeParameter.write {τ : Type} (v : TypeParameter τ) : Writer := fun p =>
  let named := (AnnotationUse.writeAll v.annotations p).put v.name
  match v.nullness with
  | .plain => named
  | .nullable => named.putChar '?'
  | .definite => named.put " & " |> (ClassRef.kotlin "Any").write

/-- Writes a projection: a star, or the keyword and the type. -/
def Projected.write (w : Projected Writer) : Writer := fun p =>
  let noted := AnnotationUse.writeAll w.annotations p
  match w.projection with
  | .star => noted.putChar '*'
  | .producer type => noted.put "out " |> type
  | .consumer type => noted.put "in " |> type

/-- **Writes a function type.** The receiver, if there is one, is followed by a
dot, and stands in parentheses where `enclosed` says so. -/
def FunctionType.write (f : FunctionType Writer) (enclosed : Bool) : Writer := fun p =>
  let p := AnnotationUse.writeAll f.annotations p
  let p := if f.nullable then p.putChar '(' else p
  let p := if f.suspending then p.put "suspend " else p
  let p :=
    match f.receiver with
    | none => p
    | some receiver =>
        let p := if enclosed then (p.putChar '(' |> receiver).putChar ')' else receiver p
        p.putChar '.'
  let p := Printer.separated ", " f.parameters id (p.putChar '(')
  let p := f.result (p.put ") -> ")
  if f.nullable then p.put ")?" else p

namespace TypeRef

/-- **Whether a receiver needs parentheses**: a function type would swallow the
dot, and an annotation would read as one of the whole type. -/
def needsParentheses : TypeRef → Bool
  | .ofFunction _ => true
  | t => !t.annotations.isEmpty

/-! ## All kinds -/

mutual
/-- **Writes a type.** -/
def write : TypeRef → Writer
  | .ofClass c => c.write
  | .ofApplied ⟨base, arguments, nullable, annotations⟩ =>
      Applied.write ⟨base, writers arguments, nullable, annotations⟩
  | .ofParameter v => v.write
  | .ofProjected ⟨.star, annotations⟩ => Projected.write ⟨.star, annotations⟩
  | .ofProjected ⟨.producer t, annotations⟩ => Projected.write ⟨.producer t.write, annotations⟩
  | .ofProjected ⟨.consumer t, annotations⟩ => Projected.write ⟨.consumer t.write, annotations⟩
  | .ofFunction ⟨none, parameters, result, suspending, nullable, annotations⟩ =>
      FunctionType.write
        ⟨none, writers parameters, result.write, suspending, nullable, annotations⟩ false
  | .ofFunction ⟨some receiver, parameters, result, suspending, nullable, annotations⟩ =>
      FunctionType.write
        ⟨some receiver.write, writers parameters, result.write, suspending, nullable, annotations⟩
        receiver.needsParentheses
  | .dynamic => fun p => p.put "dynamic"
  termination_by structural t => t
/-- The writers of several types. -/
def writers : List TypeRef → List Writer
  | [] => []
  | t :: ts => t.write :: writers ts
  termination_by structural ts => ts
end

/-- The writers of several types are the writer of each. -/
@[simp] theorem writers_eq_map (ts : List TypeRef) : writers ts = ts.map write := by
  induction ts with
  | nil => rfl
  | cons t ts ih => simp [writers, ih]

/-- **The text of a type** in a style. -/
def textIn (t : TypeRef) (style : Style) : String :=
  Writer.textIn t.write style

/-- The text of a type in the standard style. -/
def text (t : TypeRef) : String :=
  t.textIn .standard

end TypeRef

namespace AnnotationUse

/-- **The text of an annotation** in a style. -/
def textIn (a : AnnotationUse) (style : Style) : String :=
  Writer.textIn a.write style

/-- The text of an annotation in the standard style. -/
def text (a : AnnotationUse) : String :=
  a.textIn .standard

end AnnotationUse

end KotlinTypes
