import KotlinTypes.Style

/-!
# The printer

Text is written front to back by passing a `Printer` along: the text so far
and the style to go on in. A `Writer` takes a printer one step further. The
writers of this library add to the text and never look back at it, so what one
of them adds is what it leaves on an empty printer, `Writer.textIn`.
-/

namespace KotlinTypes

/-- **A text under way**, and the style it is written in. -/
structure Printer where
  /-- What has been written so far. -/
  text : String
  /-- The style that holds for all of it. -/
  style : Style

/-- **A step of writing.** -/
abbrev Writer := Printer → Printer

namespace Printer

/-- Nothing written yet. -/
def start (style : Style) : Printer :=
  ⟨"", style⟩

/-- Adds a text. -/
def put (p : Printer) (s : String) : Printer :=
  { p with text := p.text ++ s }

/-- Adds one character. -/
def putChar (p : Printer) (c : Char) : Printer :=
  { p with text := p.text.push c }

/-- Adds one space. -/
def space (p : Printer) : Printer :=
  p.putChar ' '

@[simp] theorem text_put (p : Printer) (s : String) : (p.put s).text = p.text ++ s := rfl

@[simp] theorem style_put (p : Printer) (s : String) : (p.put s).style = p.style := rfl

@[simp] theorem text_putChar (p : Printer) (c : Char) : (p.putChar c).text = p.text.push c := rfl

@[simp] theorem style_putChar (p : Printer) (c : Char) : (p.putChar c).style = p.style := rfl

@[simp] theorem text_space (p : Printer) : p.space.text = p.text.push ' ' := rfl

@[simp] theorem style_space (p : Printer) : p.space.style = p.style := rfl

/-- Two texts put one after the other are their concatenation put once. -/
@[simp] theorem put_put (p : Printer) (s t : String) : (p.put s).put t = p.put (s ++ t) := by
  show Printer.mk (p.text ++ s ++ t) p.style = Printer.mk (p.text ++ (s ++ t)) p.style
  rw [String.append_assoc]

/-- The empty text changes nothing. -/
@[simp] theorem put_empty (p : Printer) : p.put "" = p := by
  show Printer.mk (p.text ++ "") p.style = p
  rw [String.append_empty]

/-- A text that is put under a condition is the text or none put in any case. -/
theorem put_if (condition : Bool) (p : Printer) (s : String) :
    (if condition then p.put s else p) = p.put (if condition then s else "") := by
  cases condition with
  | true => rfl
  | false => exact (put_empty p).symm

/-- A character is put as the text it makes up. -/
theorem putChar_eq_put (p : Printer) (c : Char) : p.putChar c = p.put (String.singleton c) := by
  show Printer.mk (p.text.push c) p.style = Printer.mk (p.text ++ String.singleton c) p.style
  rw [String.append_singleton]

/-- A space is put as the text it makes up. -/
theorem space_eq_put (p : Printer) : p.space = p.put " " :=
  putChar_eq_put p ' '

/-- **A separated list**: every item by its writer, and the separator between
any two of them, whether or not an item leaves anything to see. -/
def separated {α : Type} (separator : String) (items : List α) (item : α → Writer) : Writer :=
  fun p =>
    match items with
    | [] => p
    | x :: rest => rest.foldl (fun p y => item y (p.put separator)) (item x p)

/-- **A list in angle brackets**, separated by commas. Without items the
brackets are left out too. -/
def angled {α : Type} (items : List α) (item : α → Writer) : Writer :=
  fun p =>
    if items.isEmpty then p
    else (separated ", " items item (p.putChar '<')).putChar '>'

end Printer

/-- **The text a writer adds** in a style. -/
def Writer.textIn (w : Writer) (style : Style) : String :=
  (w (Printer.start style)).text

end KotlinTypes
