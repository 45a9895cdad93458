import KotlinTypes.TypeRef.Text

/-!
# Dotted names in a text

In a text a name stands between marks: a blank, a comma, a bracket, a question
mark. A dot can be either. In `kotlin.io.Path` it belongs to the name, in
`Path.() -> Unit` it ends one. What tells the two apart is the next character,
since no segment of a name is empty: a dot belongs to the name exactly when a
word goes on after it.

`takeName` takes the longest name at the front of a text by that rule, and a
text is a name (`IsName`) when that is all of it. A name is therefore found
again in front of anything that does not go on with one (`takeName_append`).
Classes of legible names are referred to by names in every style
(`QualifiedName.Legible.isName_reference`).
-/

namespace KotlinTypes

/-- **The characters of words**: all but the marks of type syntax. Letters,
digits and underscores are no marks. -/
def isWordChar (c : Char) : Bool :=
  !" .,()<>?*@".toList.contains c

/-- Whether a text goes on with a name: with a word, or with a dot and a
word. -/
def goesOn : List Char → Bool
  | [] => false
  | c :: rest => isWordChar c || (c == '.' && rest.head?.any isWordChar)

/-- **The longest name at the front of a text**, and what follows it. -/
def takeName : List Char → List Char × List Char
  | [] => ([], [])
  | c :: rest =>
      if goesOn (c :: rest) then (c :: (takeName rest).1, (takeName rest).2) else ([], c :: rest)

/-- **A name**: words with single dots between them. -/
def IsName (s : List Char) : Prop :=
  s.head?.any isWordChar = true ∧ takeName s = (s, [])

/-- Nothing is taken from a text that does not go on with a name. -/
theorem takeName_of_not_goesOn {s : List Char} (h : goesOn s = false) : takeName s = ([], s) := by
  cases s with
  | nil => rfl
  | cons c rest => rw [takeName, h, if_neg Bool.false_ne_true]

/-- A text that is taken whole goes on at every place. -/
theorem takeName_cons_eq_self {c : Char} {s : List Char} (h : takeName (c :: s) = (c :: s, [])) :
    goesOn (c :: s) = true ∧ takeName s = (s, []) := by
  rw [takeName] at h
  split at h
  · next hgo =>
    obtain ⟨hs, hrest⟩ := Prod.mk.inj h
    exact ⟨hgo, Prod.ext (List.cons.inj hs).2 hrest⟩
  · exact absurd (Prod.mk.inj h).1 (List.cons_ne_nil c s).symm

/-- A text that goes on does so whatever is put after it. -/
theorem goesOn_append {s : List Char} (h : goesOn s = true) (rest : List Char) :
    goesOn (s ++ rest) = true := by
  match s with
  | [] => exact absurd h Bool.false_ne_true
  | [c] =>
    have hc : isWordChar c = true := by simpa [goesOn] using h
    simp [goesOn, hc]
  | c :: d :: s => exact h

/-- After a text that is taken whole, taking goes on with what follows. -/
theorem takeName_append_of_whole {s : List Char} (hs : takeName s = (s, [])) (rest : List Char) :
    takeName (s ++ rest) = (s ++ (takeName rest).1, (takeName rest).2) := by
  induction s with
  | nil => rfl
  | cons c s ih =>
    obtain ⟨hgo, hs'⟩ := takeName_cons_eq_self hs
    have hgo' : goesOn (c :: (s ++ rest)) = true := goesOn_append hgo rest
    rw [List.cons_append, takeName, if_pos hgo', ih hs']
    rfl

/-- **A name is found again** in front of anything that does not go on with
one. -/
theorem IsName.takeName_append {s rest : List Char} (hs : IsName s) (hrest : goesOn rest = false) :
    takeName (s ++ rest) = (s, rest) := by
  rw [takeName_append_of_whole hs.2, takeName_of_not_goesOn hrest, List.append_nil]

/-- A name is not empty. -/
theorem IsName.exists_cons {s : List Char} (hs : IsName s) :
    ∃ c rest, s = c :: rest ∧ isWordChar c = true := by
  match s, hs.1 with
  | c :: rest, h => exact ⟨c, rest, rfl, h⟩

/-- **Two names make a name** with a dot between them. -/
theorem IsName.append_dot {s t : List Char} (hs : IsName s) (ht : IsName t) :
    IsName (s ++ '.' :: t) := by
  obtain ⟨c, rest, rfl, hc⟩ := hs.exists_cons
  refine ⟨hc, ?_⟩
  have hdot : goesOn ('.' :: t) = true := by
    rw [goesOn, ht.1]
    rfl
  rw [takeName_append_of_whole hs.2, takeName, if_pos hdot, ht.2]

/-- **A word**: characters of words, and one at least. -/
def IsWord (s : String) : Prop :=
  s ≠ "" ∧ ∀ c ∈ s.toList, isWordChar c = true

instance (s : String) : Decidable (IsWord s) :=
  @instDecidableAnd _ _ inferInstance (List.decidableBAll (fun c => isWordChar c = true) s.toList)

/-- A text of characters of words is taken whole. -/
theorem takeName_of_forall {s : List Char} (h : ∀ c ∈ s, isWordChar c = true) :
    takeName s = (s, []) := by
  induction s with
  | nil => rfl
  | cons c s ih =>
    have hgo : goesOn (c :: s) = true := by
      rw [goesOn, h c List.mem_cons_self]
      rfl
    rw [takeName, if_pos hgo, ih (fun d hd => h d (List.mem_cons_of_mem c hd))]

/-- A word is a name. -/
theorem IsWord.isName {s : String} (h : IsWord s) : IsName s.toList := by
  refine ⟨?_, takeName_of_forall h.2⟩
  match hs : s.toList with
  | [] => exact absurd (String.toList_eq_nil_iff.mp hs) h.1
  | c :: rest =>
    have hc : isWordChar c = true := h.2 c (by rw [hs]; exact List.mem_cons_self)
    exact hc

/-- **Names with dots between them make a name.** -/
theorem isName_join {names : List String} (hne : names ≠ [])
    (h : ∀ s ∈ names, IsName s.toList) : IsName (Dotted.join names).toList := by
  match names with
  | [] => exact absurd rfl hne
  | [s] => rw [Dotted.join_singleton]; exact h s List.mem_cons_self
  | s :: t :: rest =>
    have hrest : IsName (Dotted.join (t :: rest)).toList :=
      isName_join (List.cons_ne_nil t rest) (fun u hu => h u (List.mem_cons_of_mem s hu))
    rw [Dotted.join_cons_cons, String.toList_append, String.toList_append, List.append_assoc]
    exact (h s List.mem_cons_self).append_dot hrest

/-- **The words of type syntax** that look like names. -/
def syntaxWords : List String :=
  ["dynamic", "in", "out", "suspend"]

/-- A name that no word of the syntax can be taken for. -/
def IsPlainName (s : String) : Prop :=
  IsName s.toList ∧ s ∉ syntaxWords

/-! ## Classes of legible names -/

/-- **A legible dotted text**: all its segments are words. -/
def IsDotted (s : String) : Prop :=
  ∀ segment ∈ Dotted.segments s, IsWord segment

/-- A legible dotted text is a name. -/
theorem IsDotted.isName {s : String} (h : IsDotted s) : IsName s.toList := by
  rw [← Dotted.join_segments s]
  exact isName_join (Dotted.segments_ne_nil s) (fun segment hs => (h segment hs).isName)

/-- A word is a dotted text of one segment. -/
theorem IsWord.isDotted {s : String} (h : IsWord s) : IsDotted s := by
  have hdotless : ∀ t ∈ [s], '.' ∉ t.toList := by
    intro t ht hdot
    exact Bool.noConfusion (h.2 '.' (List.mem_singleton.mp ht ▸ hdot))
  have hsegments := Dotted.segments_join (List.cons_ne_nil s []) hdotless
  rw [Dotted.join_singleton] at hsegments
  intro segment hsegment
  rw [hsegments] at hsegment
  exact List.mem_singleton.mp hsegment ▸ h

namespace QualifiedName

/-- **A class of legible names**: every segment of its package and of its
simple names is a word. The root package has no segments. -/
def Legible (q : QualifiedName) : Prop :=
  (q.package ≠ "" → IsDotted q.package) ∧ ∀ name ∈ q.path, IsDotted name

/-- A top-level class that is named by words is of legible names. -/
theorem legible_topLevel {package name : String} (hpackage : package ≠ "" → IsWord package)
    (hname : IsWord name) : (topLevel package name).Legible :=
  ⟨fun hne => (hpackage hne).isDotted, fun _ hmem => List.mem_singleton.mp hmem ▸ hname.isDotted⟩

/-- The relative name of a class of legible names is a name. -/
theorem Legible.isName_relative {q : QualifiedName} (h : q.Legible) : IsName q.relative.toList :=
  isName_join q.path_ne_nil (fun name hname => (h.2 name hname).isName)

/-- **The reference to such a class is a name**, in every style. -/
theorem Legible.isName_reference {q : QualifiedName} (h : q.Legible) (style : Style) :
    IsName (q.reference style).toList := by
  unfold reference canonical
  split
  · exact h.isName_relative
  · split
    · exact h.isName_relative
    · next hpackage =>
      have hne : q.package ≠ "" := fun hempty => hpackage (by rw [hempty]; rfl)
      rw [String.toList_append, String.toList_append, List.append_assoc]
      exact (h.1 hne).isName.append_dot h.isName_relative

end QualifiedName

end KotlinTypes
