import Mathlib.Data.List.TakeWhile
import KotlinTypes.ClassRef

/-!
# Reading canonical names

A canonical name does not show where the package ends, so it is read by a
convention: no segment is empty, the segments of a package are small, and the
first name of a path is capitalised. What `QualifiedName.ofCanonical` does is
then no guess. It undoes writing for all names that keep to the convention and
yields no other ones (`QualifiedName.ofCanonical_eq_ok_iff`), so no two of them
are written alike.

Segments are where the two meet: those of the text are those of the package
followed by the path, and the first capitalised one among them tells where the
path starts. The root package takes part without a segment of its own.
-/

namespace KotlinTypes

/-! ## Segments -/

namespace Dotted

/-- No piece of a split list holds what it was split at. -/
theorem notMem_of_mem_splitOn {c : Char} {s piece : List Char} (h : piece ∈ s.splitOn c) :
    c ∉ piece := by
  induction s generalizing piece with
  | nil =>
    rw [List.splitOn_nil, List.mem_singleton] at h
    rw [h]
    exact List.not_mem_nil
  | cons d s ih =>
    rw [List.splitOn_cons_eq_if_modifyHead] at h
    split at h
    · obtain rfl | hmem := List.mem_cons.mp h
      · exact List.not_mem_nil
      · exact ih hmem
    · next hd =>
      obtain ⟨first, rest, hsplit⟩ := List.exists_cons_of_ne_nil (List.splitOn_ne_nil c s)
      rw [hsplit, List.modifyHead_cons] at h
      rw [hsplit] at ih
      obtain rfl | hmem := List.mem_cons.mp h
      · -- the character went before the first piece, and it is another one
        refine fun hc => (List.mem_cons.mp hc).elim (fun heq => hd ?_) (ih List.mem_cons_self)
        rw [heq]
        exact beq_self_eq_true d
      · exact ih (List.mem_cons_of_mem first hmem)

/-- A segment holds no dot. -/
theorem dot_notMem_of_mem_segments {text segment : String} (h : segment ∈ segments text) :
    '.' ∉ segment.toList := by
  obtain ⟨piece, hpiece, rfl⟩ := List.mem_map.mp h
  rw [String.toList_ofList]
  exact notMem_of_mem_splitOn hpiece

/-- Segments that are not empty make a text that is not empty. -/
theorem join_cons_ne_empty {s : String} (h : s ≠ "") (rest : List String) :
    join (s :: rest) ≠ "" := by
  match rest with
  | [] =>
    rw [join_singleton]
    exact h
  | t :: rest =>
    rw [join_cons_cons]
    simp [h]

end Dotted

namespace QualifiedName

variable {text : String} {q : QualifiedName} {small : List String}

/-- **The canonical name is made of segments**: those of the package, if they
are not empty, and the path. -/
theorem canonical_eq_join (hpackage : q.package = Dotted.join small) (hne : "" ∉ small) :
    q.canonical = Dotted.join (small ++ q.path) := by
  unfold canonical
  match small with
  | [] =>
    rw [hpackage]
    rfl
  | s :: rest =>
    have hs : s ≠ "" := fun h => hne (h ▸ List.mem_cons_self)
    have hfull : q.package.isEmpty = false := by
      rw [hpackage]
      simpa using Dotted.join_cons_ne_empty hs rest
    rw [hfull, hpackage]
    exact (String.intercalate_append_of_ne_nil (List.cons_ne_nil s rest) q.path_ne_nil).symm

/-! ## Reading -/

/-- **What reading does**: the segments of the text are small ones, which make
the package, and a path that starts with a capital. -/
theorem ofCanonical_eq_ok_iff_segments :
    ofCanonical text = .ok q
      ↔ "" ∉ Dotted.segments text ∧ ∃ small, Dotted.segments text = small ++ q.path
        ∧ (∀ s ∈ small, isCapitalized s = false) ∧ isCapitalized q.outermost = true
        ∧ q.package = Dotted.join small := by
  obtain ⟨package, outermost, inner⟩ := q
  unfold ofCanonical
  by_cases hempty : (Dotted.segments text).contains "" = true
  · rw [if_pos hempty]
    exact iff_of_false nofun (fun h => h.1 (List.contains_iff_mem.mp hempty))
  · rw [if_neg hempty]
    refine Iff.trans ?_ (and_iff_right (fun h => hempty (List.contains_iff_mem.mpr h))).symm
    constructor
    · intro h
      split at h
      · exact nomatch h
      · next first rest hdrop =>
        obtain ⟨rfl, rfl, rfl⟩ := QualifiedName.mk.inj (Except.ok.inj h)
        refine ⟨_, ?_, fun s hs => ?_, ?_, rfl⟩
        · rw [path, ← hdrop, List.takeWhile_append_dropWhile]
        · simpa using List.mem_takeWhile_imp hs
        · have hhead := List.head?_dropWhile_not (fun s => !isCapitalized s) (Dotted.segments text)
          rw [hdrop] at hhead
          simpa using hhead
    · rintro ⟨small, hsegments, hsmall, hcapital, rfl⟩
      have hpass : ∀ s ∈ small, (!isCapitalized s) = true := fun s hs => by rw [hsmall s hs]; rfl
      have hstop : (!isCapitalized outermost) = false := congrArg not hcapital
      have hdrop : (small ++ outermost :: inner).dropWhile (fun s => !isCapitalized s)
          = outermost :: inner := by
        rw [List.dropWhile_append_of_pos hpass, List.dropWhile_cons, hstop]
        rfl
      have htake : (small ++ outermost :: inner).takeWhile (fun s => !isCapitalized s) = small := by
        rw [List.takeWhile_append_of_pos hpass, List.takeWhile_cons, hstop]
        exact List.append_nil small
      rw [show Dotted.segments text = small ++ outermost :: inner from hsegments, hdrop, htake]

/-- **A text that names a class**: no segment is empty, and one at least is
capitalised. -/
def NamesClass (text : String) : Prop :=
  (∀ s ∈ Dotted.segments text, s ≠ "") ∧ ∃ s ∈ Dotted.segments text, isCapitalized s = true

instance (text : String) : Decidable (NamesClass text) :=
  inferInstanceAs (Decidable ((∀ s ∈ Dotted.segments text, s ≠ "")
    ∧ ∃ s ∈ Dotted.segments text, isCapitalized s = true))

/-- A text that names a class is read. -/
theorem NamesClass.exists_ofCanonical (h : NamesClass text) : ∃ q, ofCanonical text = .ok q := by
  have hne : ¬ (Dotted.segments text).contains "" = true :=
    fun hempty => h.1 "" (List.contains_iff_mem.mp hempty) rfl
  unfold ofCanonical
  rw [if_neg hne]
  split
  · next hnil =>
    obtain ⟨s, hs, hcapital⟩ := h.2
    have hsmall := List.dropWhile_eq_nil_iff.mp hnil s hs
    rw [hcapital] at hsmall
    exact nomatch hsmall
  · exact ⟨_, rfl⟩

/-- **Reading is refused in one way**, with the text it was to read. -/
theorem ofCanonical_cases (text : String) :
    (∃ q, ofCanonical text = .ok q) ∨ ofCanonical text = .error (.notAClassName text) := by
  unfold ofCanonical
  by_cases hempty : (Dotted.segments text).contains "" = true
  · rw [if_pos hempty]
    exact .inr rfl
  · rw [if_neg hempty]
    split
    · exact .inr rfl
    · exact .inl ⟨_, rfl⟩

/-- A text that is read names a class. -/
theorem namesClass_of_ofCanonical (h : ofCanonical text = .ok q) : NamesClass text := by
  obtain ⟨hne, small, hsegments, -, hcapital, -⟩ := ofCanonical_eq_ok_iff_segments.mp h
  refine ⟨fun s hs hempty => hne (hempty ▸ hs), q.outermost, ?_, hcapital⟩
  rw [hsegments]
  exact List.mem_append_right small List.mem_cons_self

/-! ## Reading and writing -/

/-- **A name that keeps to the convention**: the package is the root or made of
segments that are small and not empty, the names of the path are not empty and
hold no dot, and the first of them is capitalised. -/
structure Conventional (q : QualifiedName) : Prop where
  /-- The package is the root, or its segments are small. -/
  package : q.package = "" ∨ ∀ s ∈ Dotted.segments q.package, s ≠ "" ∧ isCapitalized s = false
  /-- The path is made of segments. -/
  path : ∀ s ∈ q.path, s ≠ "" ∧ '.' ∉ s.toList
  /-- The path starts with a capital. -/
  outermost : isCapitalized q.outermost = true

/-- **Names that keep to the convention are read back.** -/
theorem Conventional.ofCanonical_canonical (h : q.Conventional) :
    ofCanonical q.canonical = .ok q := by
  obtain ⟨small, hpackage, hsmall, hdotless⟩ : ∃ small, q.package = Dotted.join small
      ∧ (∀ s ∈ small, s ≠ "" ∧ isCapitalized s = false) ∧ ∀ s ∈ small, '.' ∉ s.toList := by
    obtain hroot | hsegments := h.package
    · exact ⟨[], hroot, nofun, nofun⟩
    · exact ⟨_, (Dotted.join_segments q.package).symm, hsegments,
        fun s hs => Dotted.dot_notMem_of_mem_segments hs⟩
  have hcanonical := canonical_eq_join hpackage (fun hmem => (hsmall "" hmem).1 rfl)
  have hsegments : Dotted.segments q.canonical = small ++ q.path := by
    rw [hcanonical]
    refine Dotted.segments_join (List.append_ne_nil_of_right_ne_nil small q.path_ne_nil)
      (fun s hs => ?_)
    exact (List.mem_append.mp hs).elim (hdotless s) (fun hs => (h.path s hs).2)
  refine ofCanonical_eq_ok_iff_segments.mpr
    ⟨fun hmem => ?_, small, hsegments, fun s hs => (hsmall s hs).2, h.outermost, hpackage⟩
  rw [hsegments] at hmem
  exact (List.mem_append.mp hmem).elim (fun hs => (hsmall "" hs).1 rfl)
    (fun hs => (h.path "" hs).1 rfl)

/-- **Reading inverts writing** and yields only names that keep to the
convention. -/
theorem ofCanonical_eq_ok_iff :
    ofCanonical text = .ok q ↔ q.Conventional ∧ q.canonical = text := by
  refine ⟨fun h => ?_, fun ⟨hq, htext⟩ => htext ▸ hq.ofCanonical_canonical⟩
  obtain ⟨hne, small, hsegments, hsmall, hcapital, hpackage⟩ := ofCanonical_eq_ok_iff_segments.mp h
  have hmem : ∀ s, s ∈ small ∨ s ∈ q.path → s ∈ Dotted.segments text := by
    intro s hs
    rw [hsegments]
    exact List.mem_append.mpr hs
  have hfull : ∀ s, s ∈ small ∨ s ∈ q.path → s ≠ "" := fun s hs hempty => hne (hempty ▸ hmem s hs)
  have hdotless : ∀ s, s ∈ small ∨ s ∈ q.path → '.' ∉ s.toList :=
    fun s hs => Dotted.dot_notMem_of_mem_segments (hmem s hs)
  refine ⟨⟨?_, fun s hs => ⟨hfull s (.inr hs), hdotless s (.inr hs)⟩, hcapital⟩, ?_⟩
  · by_cases hnil : small = []
    · rw [hpackage, hnil]
      exact .inl rfl
    · rw [hpackage, Dotted.segments_join hnil (fun s hs => hdotless s (.inl hs))]
      exact .inr (fun s hs => ⟨hfull s (.inl hs), hsmall s hs⟩)
  · rw [canonical_eq_join hpackage (fun hs => hfull "" (.inl hs) rfl), ← hsegments,
      Dotted.join_segments]

/-- No segment of the package of such a name is capitalised; the root package
counts as one empty segment here. -/
theorem Conventional.isCapitalized_package (h : q.Conventional) :
    ∀ s ∈ Dotted.segments q.package, isCapitalized s = false := by
  obtain hroot | hsegments := h.package
  · rw [hroot]
    decide
  · exact fun s hs => (hsegments s hs).2

end QualifiedName

namespace ClassRef

/-- A plain reference is read exactly if its name is. -/
theorem ofCanonical_eq_ok_iff {text : String} {c : ClassRef} :
    ofCanonical text = .ok c
      ↔ QualifiedName.ofCanonical text = .ok c.name ∧ c.nullable = false ∧ c.annotations = [] := by
  obtain ⟨name, nullable, annotations⟩ := c
  unfold ofCanonical
  match QualifiedName.ofCanonical text with
  | .error r => exact iff_of_false nofun (fun h => nomatch h.1)
  | .ok q =>
    show Except.ok (plain q) = Except.ok _ ↔ Except.ok q = Except.ok name ∧ _
    rw [Except.ok.injEq, Except.ok.injEq, plain, ClassRef.mk.injEq]
    exact and_congr_right (fun _ => and_congr eq_comm eq_comm)

/-- **Reading a canonical name and writing one undo each other.** A text is
read exactly if it names a class, and otherwise refused as it is. What is read
is written as the text, is a plain reference, and has small segments for its
package and a path that starts with a capital. A plain reference whose name
keeps to the convention is read back; so no two of them have the same canonical
name. -/
theorem ofCanonical_inverts_canonical :
    (∀ text : String, ((∃ c, ofCanonical text = .ok c) ↔ QualifiedName.NamesClass text)
        ∧ (¬ QualifiedName.NamesClass text → ofCanonical text = .error (.notAClassName text)))
      ∧ (∀ (text : String) (c : ClassRef), ofCanonical text = .ok c →
        c.name.canonical = text ∧ c.nullable = false ∧ c.annotations = []
          ∧ (∀ s ∈ Dotted.segments c.name.package, QualifiedName.isCapitalized s = false)
          ∧ c.name.path ≠ [] ∧ QualifiedName.isCapitalized c.name.outermost = true)
      ∧ (∀ c : ClassRef, c.name.Conventional → c.nullable = false → c.annotations = [] →
        ofCanonical c.name.canonical = .ok c)
      ∧ ∀ c c' : ClassRef, c.name.Conventional → c.nullable = false → c.annotations = [] →
        c'.name.Conventional → c'.nullable = false → c'.annotations = [] →
        c.name.canonical = c'.name.canonical → c = c' := by
  have hread : ∀ c : ClassRef, c.name.Conventional → c.nullable = false → c.annotations = [] →
      ofCanonical c.name.canonical = .ok c := fun c hname hnullable hannotations =>
    ofCanonical_eq_ok_iff.mpr ⟨hname.ofCanonical_canonical, hnullable, hannotations⟩
  refine ⟨fun text => ⟨⟨?_, fun h => ?_⟩, fun h => ?_⟩, fun text c h => ?_, hread, ?_⟩
  · rintro ⟨c, hc⟩
    exact QualifiedName.namesClass_of_ofCanonical (ofCanonical_eq_ok_iff.mp hc).1
  · obtain ⟨q, hq⟩ := h.exists_ofCanonical
    exact ⟨plain q, ofCanonical_eq_ok_iff.mpr ⟨hq, rfl, rfl⟩⟩
  · obtain ⟨q, hq⟩ | hrefused := QualifiedName.ofCanonical_cases text
    · exact absurd (QualifiedName.namesClass_of_ofCanonical hq) h
    · unfold ofCanonical
      rw [hrefused]
      rfl
  · obtain ⟨hname, hnullable, hannotations⟩ := ofCanonical_eq_ok_iff.mp h
    obtain ⟨hconventional, htext⟩ := QualifiedName.ofCanonical_eq_ok_iff.mp hname
    exact ⟨htext, hnullable, hannotations, hconventional.isCapitalized_package,
      c.name.path_ne_nil, hconventional.outermost⟩
  · intro c c' hname hnullable hannotations hname' hnullable' hannotations' heq
    have hc := hread c hname hnullable hannotations
    rw [heq, hread c' hname' hnullable' hannotations'] at hc
    exact (Except.ok.inj hc).symm

/-- `Map.Entry` of the package `java.util`, as it is read and as it is nested,
and the package alone. -/
theorem ofCanonical_inverts_canonical_entry :
    (∃ c, ofCanonical "java.util.Map.Entry" = .ok c)
      ∧ (plain ⟨"java.util", "Map", ["Entry"]⟩).name.Conventional
      ∧ ofCanonical "java.util.Map.Entry" = .ok (plain ⟨"java.util", "Map", ["Entry"]⟩)
      ∧ (∀ s ∈ Dotted.segments "java.util", QualifiedName.isCapitalized s = false)
      ∧ (topLevel "java.util" "Map").nest "Entry" = plain ⟨"java.util", "Map", ["Entry"]⟩
      ∧ ¬ QualifiedName.NamesClass "java.util"
      ∧ ofCanonical "java.util" = .error (.notAClassName "java.util") := by
  have hentry : (plain ⟨"java.util", "Map", ["Entry"]⟩).name.Conventional :=
    ⟨.inr (by decide), by decide, by decide⟩
  have hpackage : ¬ QualifiedName.NamesClass "java.util" := by decide
  obtain ⟨htexts, hread, hclasses, hinjective⟩ := ofCanonical_inverts_canonical
  have heq := hclasses _ hentry rfl rfl
  exact ⟨⟨_, heq⟩, hentry, heq, (hread _ _ heq).2.2.2.1,
    hinjective _ _ hentry rfl rfl hentry rfl rfl rfl, hpackage, (htexts "java.util").2 hpackage⟩

end ClassRef

end KotlinTypes
