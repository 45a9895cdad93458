import KotlinTypes.Printer

/-!
# Adding

Nothing in the type of a writer keeps it from looking at the text so far. A
writer **adds** a text in a style when it does not: whatever is there, it puts
that text after it and goes on in the same style (`Writer.Adds`).

Lists are where this has to be proved, since a list is written by a writer for
its items that comes from outside. That one may also do more than write. It may
count the items, or note something on each, or give up half-way, and what it
writes must not come to depend on any of it. So items are written in a monad
here (`WriterM`), and adding a text means that the effects have no say in the
printer that is handed on (`WriterM.Adds`). A list then adds the texts of its
items with separators between them, whatever else happens on the way
(`Printer.adds_separatedM`). The lists of plain writers are those without
effects (`Printer.separatedM_pure`), so the same is true of them
(`Printer.adds_separated`).
-/

namespace KotlinTypes

/-- **A writer adds a text** in a style when it puts that text after whatever
is there, and goes on in the same style. -/
def Writer.Adds (w : Writer) (style : Style) (text : String) : Prop :=
  ∀ before : String, w ⟨before, style⟩ = ⟨before ++ text, style⟩

/-! ## Steps with effects -/

/-- **A step of writing with effects**, which hands on the printer in a monad. -/
abbrev WriterM (m : Type → Type) := Printer → m Printer

/-- **It adds a text** in a style when every printer that it hands on has that
text after what was there and goes on in the same style, whatever its effects. -/
def WriterM.Adds {m : Type → Type} [Functor m] (w : WriterM m) (style : Style)
    (text : String) : Prop :=
  ∀ before : String,
    w ⟨before, style⟩ = (fun _ => ⟨before ++ text, style⟩) <$> w ⟨before, style⟩

/-- With a state for its effects, a step adds a text when it does so from every
state. -/
theorem WriterM.adds_stateM_iff {σ : Type} {w : WriterM (StateM σ)} {style : Style}
    {text : String} :
    w.Adds style text
      ↔ ∀ before state, ((w ⟨before, style⟩).run state).1 = ⟨before ++ text, style⟩ := by
  constructor
  · intro h before state
    exact congrArg (fun step => (step.run state).1) (h before)
  · intro h before
    funext state
    exact Prod.ext (h before state) rfl

section

variable {m : Type → Type} [Monad m]

namespace WriterM

variable {v w : WriterM m} {style : Style} {text more : String}

/-- Handing on the printer as it is adds nothing. -/
theorem adds_pure [LawfulMonad m] (style : Style) : WriterM.Adds (pure : WriterM m) style "" := by
  intro before
  rw [map_pure, String.append_empty]

/-- What adds a text adds it after one that is put first. -/
theorem Adds.put (h : w.Adds style text) (s : String) :
    WriterM.Adds (fun p => w (p.put s)) style (s ++ text) := by
  intro before
  rw [← String.append_assoc]
  exact h (before ++ s)

/-- Handing on the printer with a text put to it adds that text. -/
theorem adds_put [LawfulMonad m] (style : Style) (s : String) :
    WriterM.Adds (fun p => (pure (p.put s) : m Printer)) style s :=
  (String.append_empty (s := s)).subst ((adds_pure style).put s)

/-- **One step after the other adds one text after the other.** -/
theorem Adds.bind [LawfulMonad m] (hv : v.Adds style text) (hw : w.Adds style more) :
    WriterM.Adds (fun p => v p >>= w) style (text ++ more) := by
  intro before
  -- the second step only ever finds the one printer that the first hands on
  have hfound : v ⟨before, style⟩ >>= w
      = v ⟨before, style⟩ >>= fun _ => w ⟨before ++ text, style⟩ :=
    (congrArg (· >>= w) (hv before)).trans (bind_map_left ..)
  show v ⟨before, style⟩ >>= w = _ <$> (v ⟨before, style⟩ >>= w)
  rw [hfound, map_bind, ← String.append_assoc]
  exact congrArg _ (funext fun _ => hw (before ++ text))

end WriterM

/-! ## Lists of such steps -/

namespace Printer

variable {α : Type}

/-- A separated list of items that are written with effects. -/
def separatedM (separator : String) (items : List α) (item : α → WriterM m) : WriterM m :=
  fun p =>
    match items with
    | [] => pure p
    | x :: rest => do
        let p ← item x p
        rest.foldlM (fun p y => item y (p.put separator)) p

/-- A list in angle brackets of items that are written with effects. -/
def angledM (items : List α) (item : α → WriterM m) : WriterM m := fun p => do
  if items.isEmpty then return p
  let p ← separatedM ", " items item (p.putChar '<')
  return p.putChar '>'

variable [LawfulMonad m]

/-- Without effects this is a separated list. -/
theorem separatedM_pure (separator : String) (items : List α) (item : α → Writer) (p : Printer) :
    separatedM separator items (fun x p => pure (item x p)) p
      = (pure (separated separator items item p) : m Printer) := by
  cases items with
  | nil => rfl
  | cons x rest =>
    show (pure (item x p) >>= fun p => rest.foldlM (fun p y => pure (item y (p.put separator))) p)
      = _
    rw [pure_bind, List.foldlM_pure]
    rfl

/-- And this is a list in angle brackets. -/
theorem angledM_pure (items : List α) (item : α → Writer) (p : Printer) :
    angledM items (fun x p => pure (item x p)) p = (pure (angled items item p) : m Printer) := by
  cases items with
  | nil => rfl
  | cons x rest =>
    show (separatedM ", " (x :: rest) (fun x p => pure (item x p)) (p.putChar '<') >>= fun p =>
      pure (p.putChar '>')) = _
    rw [separatedM_pure, pure_bind]
    rfl

/-- A list of one item is that item. -/
theorem separatedM_singleton (separator : String) (x : α) (item : α → WriterM m) :
    separatedM separator [x] item = item x :=
  funext fun p => bind_pure (item x p)

variable {items : List α} {style : Style} {text : α → String}

/-- **A separated list adds the texts of its items**, with the separator
between any two of them, whether or not an item leaves anything to see. -/
theorem adds_separatedM {item : α → WriterM m} (h : ∀ x ∈ items, (item x).Adds style (text x))
    (separator : String) :
    (separatedM separator items item).Adds style (separator.intercalate (items.map text)) := by
  induction items with
  | nil => exact WriterM.adds_pure style
  | cons x rest ih =>
    have hx : (item x).Adds style (text x) := h x List.mem_cons_self
    cases rest with
    | nil =>
      rw [separatedM_singleton, List.map_singleton, String.intercalate_singleton]
      exact hx
    | cons y rest =>
      -- after the first item comes the separator and then a list of its own
      have hlater : (separatedM separator (y :: rest) item).Adds style _ :=
        ih (fun z hz => h z (List.mem_cons_of_mem x hz))
      rw [List.map_cons, List.map_cons, String.intercalate_cons_cons, String.append_assoc]
      exact hx.bind (hlater.put separator)

/-- A list in angle brackets without items adds nothing. -/
theorem adds_angledM_nil (style : Style) (item : α → WriterM m) :
    (angledM [] item).Adds style "" :=
  WriterM.adds_pure style

omit [LawfulMonad m] in
/-- A list in angle brackets that has items is a separated list between two
brackets. -/
theorem angledM_of_ne_nil {item : α → WriterM m} (hne : items ≠ []) :
    angledM items item = fun p =>
      separatedM ", " items item (p.put "<") >>= fun p => pure (p.put ">") := by
  cases items with
  | nil => exact absurd rfl hne
  | cons x rest =>
    funext p
    show (separatedM ", " (x :: rest) item (p.putChar '<') >>= fun p => pure (p.putChar '>')) = _
    simp only [putChar_eq_put]
    rfl

/-- **A list in angle brackets adds the texts of its items**, commas between
them and the brackets around them, as soon as there is an item. -/
theorem adds_angledM {item : α → WriterM m} (h : ∀ x ∈ items, (item x).Adds style (text x))
    (hne : items ≠ []) :
    (angledM items item).Adds style ("<" ++ ", ".intercalate (items.map text) ++ ">") := by
  rw [angledM_of_ne_nil hne]
  exact ((adds_separatedM h ", ").put "<").bind (WriterM.adds_put style ">")

end Printer

end

/-! ## Lists of plain writers -/

namespace Printer

variable {α : Type} {items : List α} {item : α → Writer} {style : Style} {text : α → String}

/-- **A separated list of plain writers** adds the texts of its items. -/
theorem adds_separated (h : ∀ x ∈ items, (item x).Adds style (text x)) (separator : String) :
    (separated separator items item).Adds style (separator.intercalate (items.map text)) :=
  fun before => (separatedM_pure (m := Id) separator items item _).symm.trans
    (adds_separatedM (m := Id) h separator before)

/-- **Between neighbours stands the separator**, in front of all that the later
items add, even where neither of the two adds anything. -/
theorem adds_separated_append (h : ∀ x ∈ items, (item x).Adds style (text x)) (separator : String)
    {earlier later : List α} {x y : α} (heq : items = earlier ++ x :: y :: later) :
    (separated separator items item).Adds style
      (separator.intercalate (earlier.map text ++ [text x]) ++ separator
        ++ separator.intercalate (text y :: later.map text)) := by
  have htexts : items.map text
      = (earlier.map text ++ [text x]) ++ (text y :: later.map text) := by
    rw [heq, List.map_append, List.append_assoc]
    rfl
  rw [← String.intercalate_append_of_ne_nil (List.concat_ne_nil _ _) (List.cons_ne_nil _ _),
    ← htexts]
  exact adds_separated h separator

/-- A list of plain writers in angle brackets adds nothing without items. -/
theorem adds_angled_nil (style : Style) (item : α → Writer) : (angled [] item).Adds style "" :=
  fun _ => congrArg (Printer.mk · style) String.append_empty.symm

/-- **A list of plain writers in angle brackets** adds the texts of its items,
as soon as there is one. -/
theorem adds_angled (h : ∀ x ∈ items, (item x).Adds style (text x)) (hne : items ≠ []) :
    (angled items item).Adds style ("<" ++ ", ".intercalate (items.map text) ++ ">") :=
  fun before => (angledM_pure (m := Id) items item _).symm.trans
    (adds_angledM (m := Id) h hne before)

end Printer

end KotlinTypes
