import KotlinTypes.Proofs.Reading

/-!
# Legible structures are read back

A visible structure is **legible** when nothing in it can be taken for
something else: its names are names, none of them is a word of the syntax, an
applied class has arguments, and no receiver is a bare projection. The reader
of `KotlinTypes.Proofs.Reading` finds a legible structure again in its text
(`Visible.Legible.reads`), so two of them with one text are the same
(`Visible.Legible.text_injective`).

The proof goes by the number the reader is given, which bounds the length of
the text. What a type is read by is not always a part of it – a nullable
function type is read as the same type without the question mark, in
parentheses – but its text is always shorter, and that is all the step
`Reading.ReadsBelow.succ` asks for.
-/

namespace KotlinTypes

/-! ## Legible structures -/

/-- Whether the visible structure is an `out` or `in` projection without
annotations. -/
def Visible.isBareProjection : Visible → Bool
  | ⟨[], .producer _⟩ | ⟨[], .consumer _⟩ => true
  | _ => false

/-- **A legible shape**, as far as its parts do not matter: its name is plain,
an applied class has arguments, and no receiver is a bare projection. -/
def Shape.Legible : Shape Visible → Prop
  | .named name _ | .definite name => IsPlainName name
  | .applied base arguments _ => IsPlainName base ∧ arguments ≠ []
  | .function (some receiver) _ _ _ _ => receiver.isBareProjection = false
  | _ => True

/-- **A legible visible structure**: at every depth, annotations refer by
names and the shape is legible. -/
def Visible.Legible : Visible → Prop :=
  Throughout (fun v => v.shape.parts)
    (fun v => (∀ note ∈ v.notes, IsName note.toList) ∧ v.shape.Legible)

/-- Whether a shape is written from a name or a star on. -/
def Shape.isAtom {τ : Type} : Shape τ → Bool
  | .named .. | .definite _ | .applied .. | .star | .dynamic => true
  | .producer _ | .consumer _ | .function .. => false

namespace Visible

section

variable {notes : List String} {r : Option Visible} {u v : Visible} {vs : List Visible}
  {suspending nullable : Bool}

/-- The receiver of a legible function type is legible. -/
theorem Legible.receiver (h : Legible ⟨notes, .function (some u) vs v suspending nullable⟩) :
    u.Legible :=
  h.inPart List.mem_cons_self

/-- The parameters of a legible function type are legible. -/
theorem Legible.parameter (h : Legible ⟨notes, .function r vs v suspending nullable⟩)
    (hu : u ∈ vs) : u.Legible :=
  h.inPart (List.mem_append_left _ (List.mem_append_right _ hu))

/-- The result of a legible function type is legible. -/
theorem Legible.result (h : Legible ⟨notes, .function r vs v suspending nullable⟩) : v.Legible :=
  h.inPart (List.mem_append_right _ List.mem_cons_self)

/-- Whether a function type is suspending or nullable does not matter. -/
theorem Legible.flags (h : Legible ⟨notes, .function r vs v suspending nullable⟩)
    (suspending' nullable' : Bool) :
    Legible ⟨notes, .function r vs v suspending' nullable'⟩ := by
  refine .intro ⟨h.here.1, ?_⟩ (fun _ hu => h.inPart hu)
  match r with
  | none => trivial
  | some _ => exact h.here.2

end

/-- A receiver that needs no parentheses is an atom without annotations. -/
theorem eq_atom_of_not_needsParentheses {v : Visible} (h : v.needsParentheses = false)
    (hbare : v.isBareProjection = false) : ∃ shape, v = ⟨[], shape⟩ ∧ shape.isAtom = true := by
  obtain ⟨notes, shape⟩ := v
  match notes, shape with
  | _, .function .. => exact absurd h Bool.noConfusion
  | [], .producer _ | [], .consumer _ => exact absurd hbare Bool.noConfusion
  | [], .named .. | [], .definite _ | [], .applied .. | [], .star | [], .dynamic =>
    exact ⟨_, rfl, rfl⟩
  | _ :: _, .named .. | _ :: _, .definite _ | _ :: _, .applied .. | _ :: _, .star
  | _ :: _, .dynamic | _ :: _, .producer _ | _ :: _, .consumer _ => exact absurd h Bool.noConfusion

end Visible

/-! ## Atoms -/

/-- A question mark does not go on with a name. -/
theorem goesOn_questionText {rest : List Char} (hrest : goesOn rest = false) (nullable : Bool) :
    goesOn ((Printer.questionText nullable).toList ++ rest) = false := by
  cases nullable with
  | true => rfl
  | false => exact hrest

namespace Shape

variable {shape : Shape Visible}

/-- **The text of an atom** is a star, or a name that is no keyword and a tail
that does not go on with it. -/
theorem text_of_isAtom (hatom : shape.isAtom = true) (hshape : shape.Legible) :
    shape = .star ∨ ∃ name tail, (Visible.shapeText shape).toList = name.toList ++ tail
      ∧ IsName name.toList ∧ name ∉ ["in", "out", "suspend"]
      ∧ ∀ rest, goesOn rest = false → goesOn (tail ++ rest) = false := by
  have hkeyword : ∀ {name : String}, name ∉ syntaxWords → name ∉ ["in", "out", "suspend"] :=
    fun hplain hmem => hplain (List.mem_cons_of_mem _ hmem)
  match shape with
  | .named name nullable =>
    refine .inr ⟨name, _, String.toList_append, hshape.1, hkeyword hshape.2, ?_⟩
    exact fun rest hrest => goesOn_questionText hrest nullable
  | .definite name =>
    exact .inr ⟨name, _, String.toList_append, hshape.1, hkeyword hshape.2, fun _ _ => rfl⟩
  | .applied base arguments nullable =>
    obtain ⟨hbase, hne⟩ := hshape
    refine .inr ⟨base, (Printer.angledText (Visible.texts arguments)
      ++ Printer.questionText nullable).toList, ?_, hbase.1, hkeyword hbase.2, ?_⟩
    · rw [← String.toList_append, ← String.append_assoc]
      rfl
    · intro rest _
      -- there are arguments, so an angle bracket follows the name
      have htexts : arguments.map Visible.text ≠ [] := fun h => hne (List.map_eq_nil_iff.mp h)
      rw [Visible.texts_eq_map, Printer.angledText_of_ne_nil htexts]
      simp only [String.toList_append, List.append_assoc]
      rfl
  | .star => exact .inl rfl
  | .dynamic =>
    refine .inr ⟨"dynamic", [], (List.append_nil _).symm, ⟨rfl, rfl⟩, by decide, ?_⟩
    exact fun rest hrest => hrest

end Shape

namespace Reading

/-- **What can follow an atom**: nothing that would belong to it. -/
structure EndsAtom (rest : List Char) : Prop where
  goesOn_eq_false : goesOn rest = false
  angle_eq_none : after "<" rest = none
  question_eq_none : after "?" rest = none
  definite_eq_none : after " & Any" rest = none

/-- What can follow a type can follow an atom. -/
theorem Closed.endsAtom {rest : List Char} (h : Closed rest) : EndsAtom rest where
  goesOn_eq_false := h.goesOn_eq_false
  angle_eq_none := h.after_eq_none rfl (by decide)
  question_eq_none := h.after_eq_none rfl (by decide)
  definite_eq_none := h.after_eq_none rfl (by decide)

/-- The parameters of an extension function can follow an atom. -/
theorem endsAtom_extension (rest : List Char) : EndsAtom (".(".toList ++ rest) :=
  ⟨rfl, rfl, rfl, rfl⟩

variable {shape : Shape Visible} {rest : List Char}

/-- **Atoms are read** in front of what can follow them, as soon as their
arguments are. -/
theorem atom_eq_some {arguments : Reader (List Visible)} (hatom : shape.isAtom = true)
    (hshape : shape.Legible)
    (harguments : ∀ rest, arguments ((", ".intercalate (shape.parts.map Visible.text)).toList
      ++ '>' :: rest) = some (shape.parts, rest))
    (hrest : EndsAtom rest) :
    atom arguments ((Visible.shapeText shape).toList ++ rest) = some (shape, rest) := by
  match shape with
  | .named name nullable =>
    show atom arguments ((name ++ Printer.questionText nullable).toList ++ rest) = _
    have htail := goesOn_questionText hrest.goesOn_eq_false nullable
    rw [String.toList_append, List.append_assoc, atom_name hshape.1 htail]
    cases nullable with
    | true => rfl
    | false =>
      have hdynamic : name ≠ "dynamic" := fun h => hshape.2 (h ▸ List.mem_cons_self)
      show named arguments name rest = _
      simp only [named, hrest.angle_eq_none, hrest.question_eq_none, hrest.definite_eq_none,
        if_neg hdynamic]
  | .definite name =>
    show atom arguments ((name ++ " & Any").toList ++ rest) = _
    rw [String.toList_append, List.append_assoc, atom_name hshape.1 rfl]
    rfl
  | .applied base vs nullable =>
    obtain ⟨hbase, hne⟩ := hshape
    have htexts : vs.map Visible.text ≠ [] := fun h => hne (List.map_eq_nil_iff.mp h)
    show atom arguments ((base ++ Printer.angledText (Visible.texts vs)
      ++ Printer.questionText nullable).toList ++ rest) = _
    rw [Visible.texts_eq_map, Printer.angledText_of_ne_nil htexts]
    simp only [String.toList_append, List.append_assoc]
    have hread : arguments ((", ".intercalate (vs.map Visible.text)).toList
        ++ (">".toList ++ ((Printer.questionText nullable).toList ++ rest)))
          = some (vs, (Printer.questionText nullable).toList ++ rest) := harguments _
    rw [atom_name hbase.1 rfl]
    simp only [named, after_append, hread, Option.bind_some]
    cases nullable with
    | true => rfl
    | false =>
      have hquestion : after "?" ((Printer.questionText false).toList ++ rest) = none :=
        hrest.question_eq_none
      simp only [hquestion]
      rfl
  | .star => rfl
  | .dynamic =>
    have hname : IsName "dynamic".toList := ⟨rfl, rfl⟩
    show atom arguments ("dynamic".toList ++ rest) = _
    rw [atom_name hname hrest.goesOn_eq_false]
    simp only [named, hrest.angle_eq_none, hrest.question_eq_none, hrest.definite_eq_none, if_pos]

/-- An atom is read by its own reader. -/
theorem read_atom (hatom : shape.isAtom = true) (hshape : shape.Legible)
    (hrest : goesOn rest = false) (n : Nat) :
    read (n + 1) ((Visible.shapeText shape).toList ++ rest)
      = atomOrExtension (read n) (group (read n) ')' n) (group (read n) '>' n)
          ((Visible.shapeText shape).toList ++ rest) := by
  obtain rfl | ⟨name, tail, htext, hname, hword, htail⟩ := shape.text_of_isAtom hatom hshape
  · exact read_star n rest
  · rw [htext, List.append_assoc]
    exact read_name hname hword (htail rest hrest) n

end Reading

namespace Visible

/-- An atom does not start like what can follow a type. -/
theorem not_closed_atom {shape : Shape Visible} (hatom : shape.isAtom = true)
    (hshape : shape.Legible) (rest : List Char) :
    ¬ Reading.Closed ((shapeText shape).toList ++ rest) := by
  obtain rfl | ⟨name, tail, htext, hname, -, -⟩ := shape.text_of_isAtom hatom hshape
  · exact fun h => absurd (h '*' rfl) (by decide)
  · obtain ⟨c, cs, hc, hword⟩ := hname.exists_cons
    rw [htext, hc]
    intro h
    have hmem : c ∈ [',', ')', '>'] := h c rfl
    rw [List.mem_cons, List.mem_cons, List.mem_singleton] at hmem
    obtain rfl | rfl | rfl := hmem <;> exact Bool.noConfusion hword

/-- **No text starts like what can follow one.** -/
theorem Legible.not_closed {v : Visible} (h : v.Legible) : ¬ Reading.Closed v.text.toList := by
  have hmark : ∀ {mark : String} {m : Char} {s : String}, mark.toList.head? = some m →
      m ∉ [',', ')', '>'] → ¬ Reading.Closed (mark ++ s).toList := by
    intro mark m s hm hother hclosed
    refine hother (hclosed m ?_)
    rw [String.toList_append, List.head?_append, hm]
    rfl
  match v with
  | ⟨note :: notes, shape⟩ =>
    rw [text_cons]
    exact hmark rfl (by decide)
  | ⟨[], shape⟩ =>
    rw [text_bare]
    match shape with
    | .producer v =>
      show ¬ Reading.Closed ("out " ++ v.text).toList
      exact hmark rfl (by decide)
    | .consumer v =>
      show ¬ Reading.Closed ("in " ++ v.text).toList
      exact hmark rfl (by decide)
    | .function receiver parameters result suspending true =>
      rw [shapeText_nullable]
      exact hmark rfl (by decide)
    | .function receiver parameters result true false =>
      rw [shapeText_suspending]
      exact hmark rfl (by decide)
    | .function none parameters result false false =>
      rw [shapeText_function]
      exact hmark rfl (by decide)
    | .function (some receiver) parameters result false false =>
      by_cases henclosed : receiver.needsParentheses = true
      · rw [shapeText_enclosed _ _ _ henclosed]
        exact hmark rfl (by decide)
      · have hbare : receiver.needsParentheses = false := Bool.not_eq_true _ ▸ henclosed
        obtain ⟨shape, rfl, hatom⟩ := eq_atom_of_not_needsParentheses hbare h.here.2
        have hshape : shape.Legible := h.receiver.here.2
        rw [shapeText_extension _ _ _ hbare, text_bare, String.toList_append]
        exact not_closed_atom hatom hshape _
    | .named .. | .definite _ | .applied .. | .star | .dynamic =>
      rw [← List.append_nil (shapeText _).toList]
      exact not_closed_atom rfl h.here.2 []

end Visible

namespace Reading

/-! ## Reading what was written -/

variable {item : Reader Visible} {u v : Visible} {vs : List Visible} {n : Nat} {rest : List Char}

/-- An annotation is read before what it stands before. -/
theorem noted_eq_some {note : String} (hnote : IsName note.toList) {s : List Char}
    (h : item s = some (v, rest)) :
    noted item (note.toList ++ (" ".toList ++ s)) = some (⟨note :: v.notes, v.shape⟩, rest) := by
  unfold noted
  rw [hnote.takeName_append rfl, after_append, Option.bind_some, h, String.ofList_toList]
  rfl

/-- The arrow and the result are read. -/
theorem result_eq_some (hitem : Reads item v) (hrest : Closed rest) (receiver : Option Visible) :
    result item receiver vs (" -> ".toList ++ (v.text.toList ++ rest))
      = some (⟨[], .function receiver vs v false false⟩, rest) := by
  unfold result
  rw [after_append, Option.bind_some, hitem rest hrest]
  rfl

/-- The parameters of a signature are read, up to its arrow. -/
theorem group_signature (hitem : ∀ u ∈ vs, Reads item u) (hlegible : ∀ u ∈ vs, u.Legible)
    (hn : vs.length ≤ n) (s : List Char) :
    group item ')' n ((Visible.signatureText vs v).toList ++ s)
      = some (vs, " -> ".toList ++ (v.text.toList ++ s)) := by
  have hgroup := group_eq_some List.mem_cons_self hitem (fun u hu => (hlegible u hu).not_closed)
    hn (" -> ".toList ++ (v.text.toList ++ s))
  unfold Visible.signatureText
  simp only [String.toList_append, List.append_assoc]
  exact hgroup

/-- A receiver in parentheses is read as a group of one. -/
theorem group_receiver (hitem : Reads item u) (hlegible : u.Legible) (hn : 0 < n) (s : List Char) :
    group item ')' n (u.text.toList ++ ')' :: s) = some ([u], s) := by
  have hgroup : group item ')' n ((", ".intercalate ([u].map Visible.text)).toList ++ ')' :: s)
      = some ([u], s) :=
    group_eq_some List.mem_cons_self (fun w hw => List.mem_singleton.mp hw ▸ hitem)
      (fun w hw => List.mem_singleton.mp hw ▸ hlegible.not_closed) hn s
  rw [List.map_singleton, String.intercalate_singleton] at hgroup
  exact hgroup

/-- **The signature of an extension function is read**, receiver in hand. -/
theorem extension_eq_some (hitem : ∀ u ∈ vs, Reads item u) (hlegible : ∀ u ∈ vs, u.Legible)
    (hn : vs.length ≤ n) (hresult : Reads item v) (hrest : Closed rest) (receiver : Visible) :
    extension item (group item ')' n) receiver ((Visible.signatureText vs v).toList ++ rest)
      = some (⟨[], .function (some receiver) vs v false false⟩, rest) := by
  unfold extension
  rw [group_signature hitem hlegible hn, Option.bind_some]
  exact result_eq_some hresult hrest (some receiver)

/-! ### The length of texts

The number of the reader bounds the length of the text, and the parts of a
type have shorter texts. -/

/-- The parts of an atom are fewer than its characters, and their texts are
shorter. -/
theorem length_parts_of_isAtom {shape : Shape Visible} (hatom : shape.isAtom = true)
    (hshape : shape.Legible) :
    shape.parts.length < (Visible.shapeText shape).length + 1
      ∧ ∀ u ∈ shape.parts, u.text.length < (Visible.shapeText shape).length := by
  match shape with
  | .named .. | .definite _ | .star | .dynamic =>
    exact ⟨Nat.succ_pos _, fun u hu => absurd hu List.not_mem_nil⟩
  | .applied base vs nullable =>
    have htexts : vs.map Visible.text ≠ [] := fun h => hshape.2 (List.map_eq_nil_iff.mp h)
    have hlength : (", ".intercalate (vs.map Visible.text)).length + 2
        ≤ (Visible.shapeText (.applied base vs nullable)).length := by
      have hangle : "<".length = 1 ∧ ">".length = 1 := ⟨rfl, rfl⟩
      rw [Visible.shapeText, Visible.texts_eq_map, Printer.angledText_of_ne_nil htexts]
      simp only [String.length_append]
      omega
    refine ⟨?_, fun u hu => ?_⟩
    · have hcount := length_le_length_intercalate (vs.map Visible.text)
      rw [List.length_map] at hcount
      show vs.length < _
      omega
    · have hlist : u.text.length ≤ (", ".intercalate (vs.map Visible.text)).length :=
        length_le_intercalate (List.mem_map_of_mem hu)
      omega

/-- The parts of a signature are fewer than its characters, and their texts
are shorter. -/
theorem length_parts_of_signature (vs : List Visible) (v : Visible) :
    vs.length ≤ (Visible.signatureText vs v).length
      ∧ (∀ u ∈ vs, u.text.length < (Visible.signatureText vs v).length)
      ∧ v.text.length < (Visible.signatureText vs v).length := by
  have hlength : (Visible.signatureText vs v).length
      = (", ".intercalate (vs.map Visible.text)).length + (5 + v.text.length) := by
    rw [Visible.signatureText, String.length_append, String.length_append]
    rfl
  have hcount := length_le_length_intercalate (vs.map Visible.text)
  rw [List.length_map] at hcount
  refine ⟨by omega, fun u hu => ?_, by omega⟩
  have hlist : u.text.length ≤ (", ".intercalate (vs.map Visible.text)).length :=
    length_le_intercalate (List.mem_map_of_mem hu)
  omega

/-! ### By the length of the text -/

/-- **The reader of this number reads** all legible types of shorter texts. -/
def ReadsBelow (n : Nat) : Prop :=
  ∀ v : Visible, v.text.length < n → v.Legible → Reads (read n) v

/-- Atoms are read with their arguments. -/
theorem ReadsBelow.atom_eq_some (hbelow : ReadsBelow n) {shape : Shape Visible}
    (hatom : shape.isAtom = true) (hlegible : Visible.Legible ⟨[], shape⟩)
    (hlength : (Visible.shapeText shape).length ≤ n) (hrest : EndsAtom rest) :
    atom (group (read n) '>' n) ((Visible.shapeText shape).toList ++ rest)
      = some (shape, rest) := by
  have hshape : shape.Legible := hlegible.here.2
  obtain ⟨hcount, hshorter⟩ := length_parts_of_isAtom hatom hshape
  have hpart : ∀ u ∈ shape.parts, u.Legible := fun u hu => hlegible.inPart hu
  refine Reading.atom_eq_some hatom hshape ?_ hrest
  refine group_eq_some (List.mem_cons_of_mem _ List.mem_cons_self) ?_ ?_ (by omega)
  · exact fun u hu => hbelow u (Nat.lt_of_lt_of_le (hshorter u hu) hlength) (hpart u hu)
  · exact fun u hu => (hpart u hu).not_closed

/-- Atoms are read as types. -/
theorem ReadsBelow.reads_atom (hbelow : ReadsBelow n) {shape : Shape Visible}
    (hatom : shape.isAtom = true) (hlegible : Visible.Legible ⟨[], shape⟩)
    (hlength : (Visible.shapeText shape).length ≤ n) : Reads (read (n + 1)) ⟨[], shape⟩ := by
  intro rest hrest
  have hdot : after ".(" rest = none := hrest.after_eq_none rfl (by decide)
  rw [Visible.text_bare, read_atom hatom hlegible.here.2 hrest.goesOn_eq_false, atomOrExtension,
    hbelow.atom_eq_some hatom hlegible hlength hrest.endsAtom, Option.bind_some]
  simp only [hdot]

/-- Function types that are neither suspending nor nullable are read. -/
theorem ReadsBelow.reads_function (hbelow : ReadsBelow n) {receiver : Option Visible}
    (hlegible : Visible.Legible ⟨[], .function receiver vs v false false⟩)
    (hlength : (Visible.shapeText (.function receiver vs v false false)).length ≤ n) :
    Reads (read (n + 1)) ⟨[], .function receiver vs v false false⟩ := by
  intro rest hrest
  obtain ⟨hcount, hshorter, hresult⟩ := length_parts_of_signature vs v
  have hopen : "(".length = 1 ∧ ").(".length = 3 ∧ ".(".length = 2 := ⟨rfl, rfl, rfl⟩
  have hlegibles : ∀ u ∈ vs, u.Legible := fun u hu => hlegible.parameter hu
  have hvs : (Visible.signatureText vs v).length ≤ n → ∀ u ∈ vs, Reads (read n) u :=
    fun hle u hu => hbelow u (Nat.lt_of_lt_of_le (hshorter u hu) hle) (hlegibles u hu)
  have hv : (Visible.signatureText vs v).length ≤ n → Reads (read n) v :=
    fun hle => hbelow v (Nat.lt_of_lt_of_le hresult hle) hlegible.result
  rw [Visible.text_bare]
  match receiver with
  | none =>
    rw [Visible.shapeText_function] at hlength ⊢
    rw [String.length_append] at hlength
    rw [String.toList_append, List.append_assoc, read_parenthesis,
      group_signature (hvs (by omega)) hlegibles (by omega)]
    exact result_eq_some (hv (by omega)) hrest none
  | some u =>
    by_cases henclosed : u.needsParentheses = true
    · rw [Visible.shapeText_enclosed _ _ _ henclosed] at hlength ⊢
      simp only [String.length_append] at hlength
      have hu : Reads (read n) u := hbelow u (by omega) hlegible.receiver
      simp only [String.toList_append, List.append_assoc]
      rw [read_parenthesis]
      show Option.bind (group (read n) ')' n (u.text.toList ++ ')' :: (".(".toList
        ++ ((Visible.signatureText vs v).toList ++ rest)))) _ = _
      rw [group_receiver hu hlegible.receiver (by omega), Option.bind_some]
      exact extension_eq_some (hvs (by omega)) hlegibles (by omega) (hv (by omega)) hrest u
    · have hbare : u.needsParentheses = false := Bool.not_eq_true _ ▸ henclosed
      obtain ⟨shape, rfl, hatom⟩ := Visible.eq_atom_of_not_needsParentheses hbare hlegible.here.2
      rw [Visible.shapeText_extension _ _ _ hbare, Visible.text_bare] at hlength ⊢
      simp only [String.length_append] at hlength
      have hends : EndsAtom (".(".toList ++ ((Visible.signatureText vs v).toList ++ rest)) :=
        endsAtom_extension _
      simp only [String.toList_append, List.append_assoc]
      rw [read_atom hatom hlegible.receiver.here.2 hends.goesOn_eq_false, atomOrExtension,
        hbelow.atom_eq_some hatom hlegible.receiver (by omega) hends, Option.bind_some]
      simp only [after_append]
      exact extension_eq_some (hvs (by omega)) hlegibles (by omega) (hv (by omega)) hrest _

/-- **One step further**: a reader of the next number reads legible types whose
texts are longer by one. -/
theorem ReadsBelow.succ (hbelow : ReadsBelow n) : ReadsBelow (n + 1) := by
  have hmark : "(".length = 1 ∧ "@".length = 1 ∧ "suspend ".length = 8 ∧ "out ".length = 4
    ∧ "in ".length = 3 := ⟨rfl, rfl, rfl, rfl, rfl⟩
  intro v hlength hlegible
  match v with
  | ⟨note :: notes, shape⟩ =>
    intro rest hrest
    rw [Visible.text_cons] at hlength ⊢
    simp only [String.length_append] at hlength
    have hnotes : Visible.Legible ⟨notes, shape⟩ :=
      .intro ⟨fun a ha => hlegible.here.1 a (List.mem_cons_of_mem note ha), hlegible.here.2⟩
        (fun _ hu => hlegible.inPart hu)
    have hread := hbelow ⟨notes, shape⟩ (by omega) hnotes rest hrest
    simp only [String.toList_append, List.append_assoc]
    rw [read_at, noted_eq_some (hlegible.here.1 note List.mem_cons_self) hread]
    rfl
  | ⟨[], .named ..⟩ | ⟨[], .definite _⟩ | ⟨[], .applied ..⟩ | ⟨[], .star⟩ | ⟨[], .dynamic⟩ =>
    rw [Visible.text_bare] at hlength
    exact hbelow.reads_atom rfl hlegible (Nat.le_of_lt_succ hlength)
  | ⟨[], .producer v⟩ =>
    intro rest hrest
    rw [Visible.text_bare, Visible.shapeText] at hlength ⊢
    rw [String.length_append] at hlength
    have hv : v.Legible := hlegible.inPart List.mem_cons_self
    rw [String.toList_append, List.append_assoc, read_out, hbelow v (by omega) hv rest hrest]
    rfl
  | ⟨[], .consumer v⟩ =>
    intro rest hrest
    rw [Visible.text_bare, Visible.shapeText] at hlength ⊢
    rw [String.length_append] at hlength
    have hv : v.Legible := hlegible.inPart List.mem_cons_self
    rw [String.toList_append, List.append_assoc, read_in, hbelow v (by omega) hv rest hrest]
    rfl
  | ⟨[], .function receiver vs v suspending true⟩ =>
    intro rest hrest
    -- the same type without its question mark is shorter, and a group of one
    have hplain : Visible.Legible ⟨[], .function receiver vs v suspending false⟩ :=
      hlegible.flags suspending false
    rw [Visible.text_bare, Visible.shapeText_nullable, ← Visible.text_bare] at hlength ⊢
    simp only [String.length_append] at hlength
    have hread := hbelow _ (by omega) hplain
    simp only [String.toList_append, List.append_assoc]
    rw [read_parenthesis]
    show Option.bind (group (read n) ')' n (_ ++ ')' :: ("?".toList ++ rest))) _ = _
    rw [group_receiver hread hplain (by omega)]
    rfl
  | ⟨[], .function receiver vs v true false⟩ =>
    intro rest hrest
    -- and so is the same type without the keyword
    have hplain : Visible.Legible ⟨[], .function receiver vs v false false⟩ :=
      hlegible.flags false false
    rw [Visible.text_bare, Visible.shapeText_suspending, ← Visible.text_bare] at hlength ⊢
    rw [String.length_append] at hlength
    rw [String.toList_append, List.append_assoc, read_suspend,
      hbelow _ (by omega) hplain rest hrest]
    rfl
  | ⟨[], .function receiver vs v false false⟩ =>
    rw [Visible.text_bare] at hlength
    exact hbelow.reads_function hlegible (Nat.le_of_lt_succ hlength)

end Reading

namespace Visible

/-- **Reading succeeds**: the reader finds a legible visible structure in its
text, in front of anything that can follow a type. -/
theorem Legible.reads {v : Visible} (h : v.Legible) {n : Nat} (hn : v.text.length < n) :
    Reading.Reads (Reading.read n) v := by
  have hbelow : ∀ n, Reading.ReadsBelow n := by
    intro n
    induction n with
    | zero => exact fun v hv => absurd hv (Nat.not_lt_zero _)
    | succ n ih => exact ih.succ
  exact hbelow n v hn h

/-- **Unique readability**: legible visible structures with the same text are
the same. -/
theorem Legible.text_injective {v w : Visible} (hv : v.Legible) (hw : w.Legible)
    (h : v.text = w.text) : v = w := by
  have hread := hv.reads (Nat.lt_succ_self v.text.length) [] Reading.closed_nil
  rw [h, hw.reads (Nat.lt_succ_self w.text.length) [] Reading.closed_nil] at hread
  exact (congrArg Prod.fst (Option.some.inj hread)).symm

end Visible

end KotlinTypes
