import KotlinTypes.Proofs.Composition
import KotlinTypes.TypeRef.Build

/-!
# Commas outside brackets

The list of type parameters and the constraints of a `where` block are lists
with commas in their texts, and so are arguments and function parameters
inside the items of these. What keeps the commas apart is the brackets: a list
is **cut** at the commas that stand outside all of them (`pieces`). The arrow
of a function type ends in a character that looks like a bracket and is none.

A text is **sealed** at a depth of brackets when cutting goes through it
without a cut and comes out at the same depth. Texts without marks are sealed,
texts made of sealed ones are, and a list in brackets is sealed as soon as its
items are. So all texts of types are (`TypeRef.sealed_textIn`), and the list
of type parameters and the constraints fall apart into exactly the pieces they
were made of (`Generics.pieces_render`).
-/

namespace KotlinTypes

/-! ## Cutting -/

/-- How a character changes the depth of brackets. -/
def shift (c : Char) (depth : Nat) : Nat :=
  if c = '(' ∨ c = '<' then depth + 1
  else if c = ')' ∨ c = '>' then depth - 1
  else depth

/-- The same pieces, with a text before the first one. -/
def before (s : List Char) (pieces : List (List Char)) : List (List Char) :=
  pieces.modifyHead (s ++ ·)

/-- **Cuts a text at its outer commas**, those with a blank after them and no
bracket open around them. The number is how many brackets are open already,
and an arrow closes none. -/
def cut : Nat → List Char → List (List Char)
  | _, [] => [[]]
  | depth, '-' :: '>' :: rest => before "->".toList (cut depth rest)
  | 0, ',' :: ' ' :: rest => [] :: cut 0 rest
  | depth, c :: rest => before [c] (cut (shift c depth) rest)

/-- **The pieces of a text** between its outer commas. -/
def pieces (s : String) : List String :=
  (cut 0 s.toList).map String.ofList

@[simp] theorem before_nil (pieces : List (List Char)) : before [] pieces = pieces := by
  cases pieces <;> rfl

@[simp] theorem before_before (s t : List Char) (pieces : List (List Char)) :
    before s (before t pieces) = before (s ++ t) pieces := by
  cases pieces with
  | nil => rfl
  | cons piece pieces => exact congrArg (· :: pieces) (List.append_assoc s t piece).symm

/-- A character that is no dash, and at the outermost depth no comma, is passed
over. -/
theorem cut_cons {depth : Nat} {c : Char} (hdash : c ≠ '-') (hcomma : depth = 0 → c ≠ ',')
    (rest : List Char) : cut depth (c :: rest) = before [c] (cut (shift c depth) rest) :=
  cut.eq_4 depth c rest (fun _ h _ => hdash h) (fun _ hd h _ => hcomma hd h)

/-- **A text is sealed at a depth** when no outer comma can stand in it there,
and further in neither, and all brackets it opens are closed in it. -/
def SealedAt (depth : Nat) (s : List Char) : Prop :=
  ∀ d, depth ≤ d → ∀ rest, cut d (s ++ rest) = before s (cut d rest)

/-- A text that is sealed at every depth. -/
abbrev Sealed (s : List Char) : Prop :=
  SealedAt 0 s

namespace SealedAt

variable {depth : Nat} {s t : List Char}

theorem nil (depth : Nat) : SealedAt depth [] :=
  fun _ _ _ => (before_nil _).symm

/-- What is sealed one after the other is sealed together. -/
theorem append (hs : SealedAt depth s) (ht : SealedAt depth t) : SealedAt depth (s ++ t) := by
  intro d hd rest
  rw [List.append_assoc, hs d hd, ht d hd, before_before]

/-- What is sealed at every depth is sealed further in. -/
theorem of_sealed (hs : Sealed s) : SealedAt depth s :=
  fun d _ rest => hs d (Nat.zero_le d) rest

/-- Between brackets a list with its commas is sealed, and so it is with its
brackets at every depth. -/
theorem enclosed {opening closing : Char} (hopening : opening = '(' ∨ opening = '<')
    (hclosing : closing = ')' ∨ closing = '>') (hs : SealedAt 1 s) :
    Sealed (opening :: (s ++ [closing])) := by
  intro d _ rest
  have hopen : ∀ u, cut d (opening :: u) = before [opening] (cut (d + 1) u) := by
    intro u
    obtain rfl | rfl := hopening <;> exact cut_cons (by decide) (fun _ => by decide) u
  have hclose : ∀ u, cut (d + 1) (closing :: u) = before [closing] (cut d u) := by
    intro u
    obtain rfl | rfl := hclosing <;> exact cut_cons (by decide) (fun _ => by decide) u
  -- inside, at least this bracket is open, and that is all the list asks for
  rw [List.cons_append, hopen, List.append_assoc, hs (d + 1) (Nat.le_add_left 1 d),
    List.singleton_append, hclose, before_before, before_before]
  rfl

end SealedAt

/-! ## Sealed texts -/

/-- Texts that are sealed at a depth make one that is sealed there. -/
theorem sealed_append {depth : Nat} {s t : String} (hs : SealedAt depth s.toList)
    (ht : SealedAt depth t.toList) : SealedAt depth (s ++ t).toList := by
  rw [String.toList_append]
  exact hs.append ht

/-- A text without marks is sealed. -/
theorem IsUnmarked.sealed {s : String} (h : IsUnmarked s) : Sealed s.toList := by
  unfold IsUnmarked at h
  generalize s.toList = cs at h ⊢
  induction cs with
  | nil => exact SealedAt.nil 0
  | cons c cs ih =>
    intro d _ rest
    have hc : c ∉ ['(', ')', '<', '>', ',', '-'] := h c List.mem_cons_self
    have hrest := ih (fun e he => h e (List.mem_cons_of_mem c he)) d (Nat.zero_le d) rest
    simp only [List.mem_cons, List.not_mem_nil, or_false, not_or] at hc
    obtain ⟨hopen, hclose, hless, hgreater, hcomma, hdash⟩ := hc
    -- a character that is no mark leaves the depth as it is
    have hshift : shift c d = d := by
      rw [shift, if_neg (not_or.mpr ⟨hopen, hless⟩), if_neg (not_or.mpr ⟨hclose, hgreater⟩)]
    rw [List.cons_append, cut_cons hdash (fun _ => hcomma), hshift, hrest, before_before]
    rfl

/-- The fixed texts of type syntax are sealed, brackets, commas and arrows
apart. -/
theorem sealed_text (s : String) (h : IsUnmarked s := by decide) : Sealed s.toList :=
  h.sealed

/-- The arrow of a function type is sealed, though it ends in a bracket. -/
theorem sealed_arrow : Sealed " -> ".toList := by
  have harrow : Sealed "->".toList := fun d _ rest => cut.eq_2 d rest
  exact (sealed_text " ").append (harrow.append (sealed_text " "))

/-- Inside brackets a comma is sealed. -/
theorem sealedAt_comma : SealedAt 1 ", ".toList := by
  intro d hd rest
  have hne : d ≠ 0 := Nat.ne_of_gt hd
  show cut d (',' :: ' ' :: rest) = _
  rw [cut_cons (by decide) (fun h => absurd h hne)]
  show before [','] (cut d (' ' :: rest)) = _
  rw [cut_cons (by decide) (fun h => absurd h hne)]
  exact before_before _ _ _

/-- **A list of sealed texts is sealed inside brackets.** -/
theorem sealedAt_intercalate {texts : List String} (h : ∀ text ∈ texts, Sealed text.toList) :
    SealedAt 1 (", ".intercalate texts).toList := by
  cases texts with
  | nil => exact SealedAt.nil 1
  | cons text texts =>
    exact intercalate_of_append (P := fun s => SealedAt 1 s.toList) sealed_append sealedAt_comma
      (fun t ht => .of_sealed (h t ht))

/-! ## Cutting lists of sealed texts -/

/-- **A list of sealed texts falls apart** into these texts. -/
theorem pieces_intercalate {texts : List String} (hne : texts ≠ [])
    (h : ∀ text ∈ texts, Sealed text.toList) : pieces (", ".intercalate texts) = texts := by
  induction texts with
  | nil => exact absurd rfl hne
  | cons text texts ih =>
    have htext : Sealed text.toList := h text List.mem_cons_self
    cases texts with
    | nil =>
      have hcut : cut 0 text.toList = [text.toList] := by
        have hend := htext 0 (Nat.le_refl 0) []
        rw [List.append_nil] at hend
        rw [hend]
        show [text.toList ++ []] = _
        rw [List.append_nil]
      rw [String.intercalate_singleton, pieces, hcut, List.map_singleton, String.ofList_toList]
    | cons t texts =>
      have hrest := ih (List.cons_ne_nil t texts) (fun u hu => h u (List.mem_cons_of_mem _ hu))
      -- the text is passed over, the comma cuts, and the rest is cut from the outside again
      have hcut : ∀ s : List Char,
          cut 0 (text.toList ++ (", ".toList ++ s)) = text.toList :: cut 0 s := by
        intro s
        rw [htext 0 (Nat.le_refl 0)]
        show (text.toList ++ []) :: cut 0 s = _
        rw [List.append_nil]
      rw [String.intercalate_cons_cons, pieces, String.toList_append, String.toList_append,
        List.append_assoc, hcut, List.map_cons, String.ofList_toList]
      exact congrArg (text :: ·) hrest

example : pieces "K, V : (K, Map<K, V>) -> V" = ["K", "V : (K, Map<K, V>) -> V"] := by decide

/-! ## The texts of types -/

/-- **A type without marks in its names**, at any depth. -/
abbrev TypeRef.Unmarked : TypeRef → Prop :=
  Everywhere (fun t => ∀ name ∈ t.names, IsUnmarked name)

/-- **Composing keeps texts sealed.** A list needs its brackets for that. -/
theorem compositional_sealed : Compositional (fun s => Sealed s.toList) where
  unmarked h := h.sealed
  arrow := sealed_arrow
  append hs ht := sealed_append hs ht
  round h := by
    have henclosed := SealedAt.enclosed (.inl rfl) (.inl rfl) (sealedAt_intercalate h)
    rw [String.toList_append, String.toList_append]
    exact henclosed
  angle h := by
    have henclosed := SealedAt.enclosed (.inr rfl) (.inr rfl) (sealedAt_intercalate h)
    rw [String.toList_append, String.toList_append]
    exact henclosed

/-- **The text of a type is sealed**, whatever it is made of, as long as its
names hold no marks. -/
theorem TypeRef.sealed_textIn {t : TypeRef} (h : t.Unmarked) (style : Style) :
    Sealed (t.textIn style).toList :=
  compositional_sealed.textIn (h.imp (fun _ hu name hname => (hu name hname).sealed)) style

/-! ## The generics of a declaration -/

namespace TypeParameter

variable {v : TypeParameter TypeRef} {style : Style}

/-- The bounds of a parameter without marks in its names are sealed. -/
theorem sealed_bound (h : (TypeRef.ofParameter v).Unmarked) {bound : TypeRef}
    (hbound : bound ∈ v.bounds) : Sealed (bound.textIn style).toList :=
  TypeRef.sealed_textIn (h.inPart hbound) style

/-- **The entry of a parameter is sealed.** -/
theorem sealed_entry (h : (TypeRef.ofParameter v).Unmarked) :
    Sealed (v.headText style ++ v.tailText style).toList := by
  have hown : ∀ name ∈ (TypeRef.ofParameter v).names, IsUnmarked name := h.here
  have hname : Sealed v.name.toList :=
    (hown v.name (List.mem_append_right _ List.mem_cons_self)).sealed
  have hnotes : Sealed (AnnotationUse.textsIn v.annotations style).toList := by
    refine compositional_sealed.textsIn (fun a ha name hname => (hown name ?_).sealed) style
    exact List.mem_append_left _ (List.mem_flatMap.mpr ⟨a, ha, hname⟩)
  have hreified : Sealed (if v.reified then "reified " else "").toList := by
    cases v.reified with
    | true => exact sealed_text "reified "
    | false => exact SealedAt.nil 0
  have hkeyword : Sealed v.variance.keywordText.toList := by
    cases v.variance with
    | invariant => exact SealedAt.nil 0
    | covariant => exact sealed_text "out "
    | contravariant => exact sealed_text "in "
  have htail : Sealed (v.tailText style).toList := by
    unfold tailText
    split
    · exact sealed_text " & Any"
    · split
      · next bound hbounds =>
        exact sealed_append (sealed_text " : ") (sealed_bound h (hbounds ▸ List.mem_cons_self))
      · exact SealedAt.nil 0
  exact sealed_append
    (sealed_append (sealed_append (sealed_append hnotes hreified) hkeyword) hname) htail

end TypeParameter

namespace Generics

/-- The constraints are those of the parameters whose bounds are hoisted. -/
theorem flatMap_constraints (parameters : List (TypeParameter TypeRef)) :
    parameters.flatMap TypeParameter.constraints
      = (parameters.filter TypeParameter.needsWhere).flatMap
          (fun v => v.bounds.map (fun bound => (v.name, bound))) := by
  induction parameters with
  | nil => rfl
  | cons v parameters ih =>
    rw [List.flatMap_cons, ih, TypeParameter.constraints]
    by_cases hwhere : v.needsWhere = true
    · rw [if_pos hwhere, List.filter_cons_of_pos hwhere, List.flatMap_cons]
    · rw [if_neg hwhere, List.filter_cons_of_neg hwhere, List.nil_append]

/-- The texts of the constraints of all parameters, one for each hoisted
bound. -/
theorem map_constraintText (parameters : List (TypeParameter TypeRef)) (style : Style) :
    (parameters.flatMap TypeParameter.constraints).map (constraintText style)
      = (parameters.filter TypeParameter.needsWhere).flatMap
          (fun v => v.bounds.map (fun bound => v.name ++ " : " ++ bound.textIn style)) := by
  rw [flatMap_constraints, List.map_flatMap]
  refine congrArg (fun f => List.flatMap f _) (funext fun v => ?_)
  rw [List.map_map]
  rfl

/-- Bounds are hoisted when there are several, unless the parameter is
definite. -/
theorem needsWhere_iff (v : TypeParameter TypeRef) :
    v.needsWhere = true ↔ v.isDefinite = false ∧ 2 ≤ v.bounds.length := by
  unfold TypeParameter.needsWhere TypeParameter.hasSeveralBounds
  rw [Bool.and_eq_true, Bool.not_eq_true', decide_eq_true_iff]
  rfl

/-- There are no constraints exactly when no parameter has its bounds
hoisted. -/
theorem flatMap_constraints_eq_nil_iff (parameters : List (TypeParameter TypeRef)) :
    parameters.flatMap TypeParameter.constraints = []
      ↔ ∀ v ∈ parameters, ¬ (v.isDefinite = false ∧ 2 ≤ v.bounds.length) := by
  rw [List.flatMap_eq_nil_iff]
  refine forall₂_congr (fun v _ => ?_)
  rw [← needsWhere_iff, TypeParameter.constraints]
  by_cases hwhere : v.needsWhere = true
  · rw [if_pos hwhere, List.map_eq_nil_iff]
    refine ⟨fun hnil => ?_, fun h => absurd hwhere h⟩
    have hseveral := ((needsWhere_iff v).mp hwhere).2
    rw [hnil] at hseveral
    exact absurd hseveral (by decide)
  · rw [if_neg hwhere]
    exact ⟨fun _ => hwhere, fun _ => rfl⟩

section

variable {parameters : List (TypeParameter TypeRef)}
  (h : ∀ v ∈ parameters, (TypeRef.ofParameter v).Unmarked) (style : Style)

include h

/-- The list in angle brackets falls apart into the entries, which are those
that the parameters have in lists of their own. -/
theorem exists_pieces_parameterList (hne : parameters ≠ []) :
    ∃ inside, (render parameters style).parameterList = "<" ++ inside ++ ">"
      ∧ (pieces inside).map (fun piece => "<" ++ piece ++ ">")
          = parameters.map (fun v => (render [v] style).parameterList) := by
  have hentries : ∀ text ∈ parameters.map (fun v => v.headText style ++ v.tailText style),
      Sealed text.toList := by
    intro text htext
    obtain ⟨v, hv, rfl⟩ := List.mem_map.mp htext
    exact TypeParameter.sealed_entry (h v hv)
  have hentriesNe : parameters.map (fun v => v.headText style ++ v.tailText style) ≠ [] :=
    fun hnil => hne (List.map_eq_nil_iff.mp hnil)
  refine ⟨", ".intercalate (parameters.map (fun v => v.headText style ++ v.tailText style)), ?_, ?_⟩
  · rw [parameterList_render, Printer.angledText_of_ne_nil hentriesNe]
  · rw [pieces_intercalate hentriesNe hentries, List.map_map]
    refine List.map_congr_left (fun v _ => ?_)
    rw [parameterList_render, List.map_singleton,
      Printer.angledText_of_ne_nil (List.cons_ne_nil _ []), String.intercalate_singleton]
    rfl

/-- The constraints fall apart into the texts of the single ones. -/
theorem pieces_constraints (hne : parameters.flatMap TypeParameter.constraints ≠ []) :
    pieces (render parameters style).constraints
      = (parameters.flatMap TypeParameter.constraints).map (constraintText style) := by
  rw [constraints_render]
  refine pieces_intercalate (fun hnil => hne (List.map_eq_nil_iff.mp hnil)) (fun text htext => ?_)
  rw [map_constraintText] at htext
  obtain ⟨v, hv, hmem⟩ := List.mem_flatMap.mp htext
  obtain ⟨bound, hbound, rfl⟩ := List.mem_map.mp hmem
  have hunmarked := h v (List.mem_filter.mp hv).1
  have hname : Sealed v.name.toList :=
    (hunmarked.here v.name (List.mem_append_right _ List.mem_cons_self)).sealed
  exact sealed_append (sealed_append hname (sealed_text " : "))
    (TypeParameter.sealed_bound hunmarked hbound)

/-- The constraints are empty exactly when there are none. -/
theorem constraints_eq_empty_iff :
    (render parameters style).constraints = ""
      ↔ parameters.flatMap TypeParameter.constraints = [] := by
  refine ⟨fun hempty => ?_, fun hnil => ?_⟩
  · by_cases hnil : parameters.flatMap TypeParameter.constraints = []
    · exact hnil
    · have hpieces := pieces_constraints h style hnil
      rw [hempty] at hpieces
      -- the empty text has one piece, which holds no colon
      have hmem : constraintText style ((parameters.flatMap TypeParameter.constraints).head hnil)
          ∈ pieces "" := hpieces ▸ List.mem_map_of_mem (List.head_mem hnil)
      have hlength : " : ".length = 3 := rfl
      have htext := congrArg String.length (List.mem_singleton.mp hmem)
      unfold constraintText at htext
      rw [String.length_append, String.length_append, hlength] at htext
      exact absurd htext (by simp)
  · rw [constraints_render, hnil]
    exact String.intercalate_nil

end

/-- **The generics of a declaration can be taken apart again.** Between its
brackets the list of parameters has one piece for each, which is the entry the
parameter has in a list of its own. The constraints are empty exactly when no
parameter has two bounds or more without being definite. Otherwise their
pieces are the bounds of these parameters, one by one and in order. -/
theorem pieces_render {parameters : List (TypeParameter TypeRef)}
    (h : ∀ v ∈ parameters, (TypeRef.ofParameter v).Unmarked) (style : Style) :
    (parameters = [] → render parameters style = ⟨"", ""⟩)
      ∧ (parameters ≠ [] → ∃ inside,
          (render parameters style).parameterList = "<" ++ inside ++ ">"
            ∧ (pieces inside).map (fun piece => "<" ++ piece ++ ">")
                = parameters.map (fun v => (render [v] style).parameterList))
      ∧ ((render parameters style).constraints = ""
          ↔ ∀ v ∈ parameters, ¬ (v.isDefinite = false ∧ 2 ≤ v.bounds.length))
      ∧ ((render parameters style).constraints ≠ "" →
          pieces (render parameters style).constraints
            = (parameters.filter (fun v => !v.isDefinite && decide (2 ≤ v.bounds.length))).flatMap
                (fun v => v.bounds.map (fun bound => v.name ++ " : " ++ bound.textIn style))) := by
  refine ⟨?_, exists_pieces_parameterList h style, ?_, fun hne => ?_⟩
  · rintro rfl
    rfl
  · rw [constraints_eq_empty_iff h, flatMap_constraints_eq_nil_iff]
  · rw [pieces_constraints h style (fun hnil => hne ((constraints_eq_empty_iff h style).mpr hnil))]
    exact map_constraintText parameters style

/-- Two bounds, one of them with a comma and an arrow of its own. -/
theorem pieces_render_two_bounds :
    (∀ v ∈ [TypeParameter.ofBounds "T" [.ofFunction (.of [.int, .int] .unit), .charSequence]],
        (TypeRef.ofParameter v).Unmarked)
      ∧ pieces (render [.ofBounds "T" [.ofFunction (.of [.int, .int] .unit), .charSequence]]
          .standard).constraints = ["T : (Int, Int) -> Unit", "T : CharSequence"] := by
  have hclass : ∀ c : ClassRef, (∀ name ∈ (TypeRef.ofClass c).names, IsUnmarked name) →
      (TypeRef.ofClass c).Unmarked :=
    fun c h => .intro h (fun _ hu => absurd hu List.not_mem_nil)
  have hint : TypeRef.int.Unmarked := hclass _ (by decide)
  have hunit : TypeRef.unit.Unmarked := hclass _ (by decide)
  have hchars : TypeRef.charSequence.Unmarked := hclass _ (by decide)
  have hfunction : (TypeRef.ofFunction (.of [.int, .int] .unit)).Unmarked :=
    .intro (by decide) (List.forall_mem_cons.mpr ⟨hint,
      List.forall_mem_cons.mpr ⟨hint, List.forall_mem_singleton.mpr hunit⟩⟩)
  have hunmarked : ∀ v ∈ [TypeParameter.ofBounds "T"
      [.ofFunction (.of [.int, .int] .unit), .charSequence]], (TypeRef.ofParameter v).Unmarked :=
    List.forall_mem_singleton.mpr (.intro (by decide)
      (List.forall_mem_cons.mpr ⟨hfunction, List.forall_mem_singleton.mpr hchars⟩))
  exact ⟨hunmarked, ((pieces_render hunmarked .standard).2.2.2 (by decide)).trans (by decide)⟩

end Generics

end KotlinTypes
