import KotlinTypes.Proofs.Markings
import KotlinTypes.Proofs.Written

/-!
# Entries and references

A type parameter is written in two places by two writers that share nothing but
the printer: once where it is declared, as an entry between angle brackets, and
then wherever a type refers to it. The two have to say the same of its name and
of the definite form. They do, and the entry is the reference to the core of
the parameter with modifiers before it and its only bound after it
(`TypeParameter.entry_eq_reference`).

The entry is not the place for a question mark, so the nullability of a
parameter is of no consequence to a declaration; neither are its bounds in the
definite form. Both are facts of a declaration as a whole, with its constraints
and its remarks, and wherever among other parameters the parameter stands
(`Generics.parameterList_eq_reference`).
-/

namespace KotlinTypes

namespace TypeParameter

variable {v w : TypeParameter TypeRef}

/-! ## One entry -/

/-- What an entry says on bounds: the only bound of a parameter that is not
definite. -/
def boundText (v : TypeParameter TypeRef) (style : Style) : String :=
  if v.isDefinite then ""
  else
    match v.bounds with
    | [bound] => " : " ++ bound.textIn style
    | _ => ""

/-- The reference to the core of a parameter is its name, with `& Any` in the
definite form. -/
theorem textIn_core (v : TypeParameter TypeRef) (style : Style) :
    (TypeRef.ofParameter v).core.textIn style
      = v.name ++ (if v.isDefinite then " & Any" else "") := by
  rw [TypeRef.textIn_eq_textOver]
  unfold TypeRef.textOver
  rw [TypeRef.annotations_core, AnnotationUse.textsIn_nil, String.empty_append]
  show v.name ++ (v.nullness.marked false).suffix = _
  unfold isDefinite
  cases v.nullness <;> rfl

/-- **An entry is a reference** to the core of the parameter, between its
annotations and modifiers and its only bound. -/
theorem entry_eq_reference (v : TypeParameter TypeRef) (style : Style) :
    v.headText style ++ v.tailText style
      = AnnotationUse.textsIn v.annotations style ++ (if v.reified then "reified " else "")
        ++ v.variance.keywordText ++ (TypeRef.ofParameter v).core.textIn style
        ++ v.boundText style := by
  have htail : v.tailText style = (if v.isDefinite then " & Any" else "") ++ v.boundText style := by
    unfold tailText boundText
    cases v.isDefinite with
    | true => rfl
    | false => exact String.empty_append.symm
  rw [htail, textIn_core]
  unfold headText
  simp only [String.append_assoc]

/-! ## Parameters that cannot be told apart -/

/-- **Parameters are declared alike** when a declaration cannot tell one from
the other, neither by its text nor by what is noted. -/
structure DeclaredAlike (v w : TypeParameter TypeRef) : Prop where
  /-- They have the same entry. -/
  entry_eq (style : Style) :
    v.headText style ++ v.tailText style = w.headText style ++ w.tailText style
  /-- They have the same constraints. -/
  constraints_eq : v.constraints = w.constraints
  /-- They give the same remarks. -/
  remarks_eq : v.remarks = w.remarks

/-- **Declarations do not tell apart parameters that are declared alike**,
wherever they stand. -/
theorem DeclaredAlike.renderLogged_eq (h : v.DeclaredAlike w)
    (earlier later : List (TypeParameter TypeRef)) (style : Style) :
    Generics.renderLogged (earlier ++ v :: later) style
      = Generics.renderLogged (earlier ++ w :: later) style := by
  have hlist : (Generics.render (earlier ++ v :: later) style).parameterList
      = (Generics.render (earlier ++ w :: later) style).parameterList := by
    rw [Generics.parameterList_render, Generics.parameterList_render, List.map_append,
      List.map_append, List.map_cons, List.map_cons, h.entry_eq]
  have hconstraints : (Generics.render (earlier ++ v :: later) style).constraints
      = (Generics.render (earlier ++ w :: later) style).constraints := by
    rw [Generics.constraints_render, Generics.constraints_render, List.flatMap_append,
      List.flatMap_append, List.flatMap_cons, List.flatMap_cons, h.constraints_eq]
  have hremarks : Generics.remarks (earlier ++ v :: later)
      = Generics.remarks (earlier ++ w :: later) := by
    unfold Generics.remarks
    rw [List.flatMap_append, List.flatMap_append, List.flatMap_cons, List.flatMap_cons,
      h.remarks_eq]
  have hrender : Generics.render (earlier ++ v :: later) style
      = Generics.render (earlier ++ w :: later) style :=
    (Generics.mk.injEq ..).mpr ⟨hlist, hconstraints⟩
  exact (Logged.mk.injEq ..).mpr ⟨hrender, hremarks⟩

/-- **What a reference says about `null`** is not declared, the definite form
apart. -/
theorem declaredAlike_nullness (v : TypeParameter TypeRef) {nullness : Nullness}
    (h : nullness = .definite ↔ v.nullness = .definite) :
    DeclaredAlike { v with nullness } v := by
  have hdefinite : isDefinite { v with nullness } = v.isDefinite := decide_eq_decide.mpr h
  refine ⟨fun style => ?_, ?_, ?_⟩
  · unfold tailText
    rw [hdefinite]
    rfl
  · unfold constraints needsWhere
    rw [hdefinite]
    rfl
  · unfold remarks
    rw [hdefinite]

/-- **Bounds of the definite form** are not declared. -/
theorem declaredAlike_bounds (h : v.isDefinite = true) (bounds : List TypeRef) :
    DeclaredAlike { v with bounds } v := by
  have hdefinite : isDefinite { v with bounds } = true := h
  refine ⟨fun style => ?_, ?_, ?_⟩
  · unfold tailText
    rw [hdefinite, h]
    rfl
  · unfold constraints needsWhere
    rw [hdefinite, h]
    rfl
  · unfold remarks
    rw [hdefinite, h]
    rfl

end TypeParameter

namespace Generics

/-- **What is declared is what is referred to.** The declaration of a parameter
is its annotations, a space after each, `reified` and its variance, where it
has them, and the reference to its core, with its only bound after it unless it
is definite. Parameters that differ in nullability alone are declared alike,
and so are definite ones that differ in their bounds alone: in a declaration
with any other parameters they leave the same texts and the same remarks. -/
theorem parameterList_eq_reference (v : TypeParameter TypeRef) (style : Style) :
    (render [v] style).parameterList
        = "<" ++ (String.join (v.annotations.map (fun a => a.textIn style ++ " "))
          ++ (if v.reified then "reified " else "") ++ v.variance.keywordText
          ++ (TypeRef.ofParameter v).core.textIn style ++ v.boundText style) ++ ">"
      ∧ (∀ nullness, (nullness = .definite ↔ v.nullness = .definite) →
        ∀ earlier later, renderLogged (earlier ++ { v with nullness } :: later) style
          = renderLogged (earlier ++ v :: later) style)
      ∧ (v.isDefinite = true →
        ∀ bounds earlier later, renderLogged (earlier ++ { v with bounds } :: later) style
          = renderLogged (earlier ++ v :: later) style) := by
  refine ⟨?_, fun nullness h earlier later => ?_, fun h bounds earlier later => ?_⟩
  · rw [parameterList_render, List.map_singleton, v.entry_eq_reference,
      Printer.angledText_of_ne_nil (List.cons_ne_nil _ _), String.intercalate_singleton]
    rfl
  · exact (v.declaredAlike_nullness h).renderLogged_eq earlier later style
  · exact (TypeParameter.declaredAlike_bounds h bounds).renderLogged_eq earlier later style

/-- The parameter `@Deprecated reified out T : CharSequence`. -/
def reifiedOut : TypeParameter TypeRef :=
  ⟨"T", [.charSequence], .covariant, .plain, true, [.of (.kotlin "Deprecated")]⟩

/-- It is declared as itself if it is nullable, and in the definite form even
without its bound. -/
theorem parameterList_eq_reference_reifiedOut :
    (Nullness.nullable = .definite ↔ reifiedOut.nullness = .definite)
      ∧ (render [{ reifiedOut with nullness := .nullable }] .standard).parameterList
        = "<@Deprecated reified out T : CharSequence>"
      ∧ TypeParameter.isDefinite { reifiedOut with nullness := .definite } = true
      ∧ renderLogged [{ reifiedOut with nullness := .definite, bounds := [] }] .standard
        = renderLogged [{ reifiedOut with nullness := .definite }] .standard := by
  have hnullable : Nullness.nullable = .definite ↔ reifiedOut.nullness = .definite := by decide
  have hdefinite : TypeParameter.isDefinite { reifiedOut with nullness := .definite } = true := rfl
  obtain ⟨hlist, hsame, -⟩ := parameterList_eq_reference reifiedOut .standard
  obtain ⟨-, -, hbounds⟩ :=
    parameterList_eq_reference { reifiedOut with nullness := .definite } .standard
  refine ⟨hnullable, ?_, hdefinite, hbounds hdefinite [] [] []⟩
  have hrender := congrArg (fun g => g.value.parameterList) (hsame .nullable hnullable [] [])
  exact hrender.trans (hlist.trans (by decide))

end Generics

end KotlinTypes
