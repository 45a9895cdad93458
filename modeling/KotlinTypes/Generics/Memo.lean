import KotlinTypes.Generics
import KotlinTypes.Memo

/-!
# Remembered renders

The generics of a declaration depend on its parameters and on the style alone,
and both are compared by structure. So a render can be remembered under the
two of them, and a declaration that comes again is not rendered again.
-/

namespace KotlinTypes.Generics

/-- **A memo table of renders.** -/
abbrev RenderMemo := Memo (List (TypeParameter TypeRef) × Style) Generics

/-- A render that says it is one, and then notes what rendering notes. -/
def renderAnnounced (parameters : List (TypeParameter TypeRef)) (style : Style) :
    Logged Generics := do
  Logged.note .debug
    ("Rendering clause for " ++ Nat.repr parameters.length ++ " type variable(s)")
  renderLogged parameters style

/-- **The generics of a list of parameters**, from memory where they have been
rendered before. Only a render that is really done notes anything. -/
def remembered (memo : RenderMemo) (parameters : List (TypeParameter TypeRef)) (style : Style) :
    Logged (Generics × RenderMemo) :=
  memo.remember (parameters, style) (renderAnnounced parameters style)

end KotlinTypes.Generics
