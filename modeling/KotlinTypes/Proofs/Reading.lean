import KotlinTypes.Proofs.Names
import KotlinTypes.Proofs.Visible
import Mathlib.Data.List.Basic

/-!
# Reading types back

A reader for the text of types. Types nest and their text is read from the
front, so each reader takes what it understands and hands on the rest.

It decides by what it finds at the front, once and for all, and only an
opening parenthesis takes more than that: it may open the parameters of a
function, a receiver, or a nullable function type, and which of them is told
by what follows the closing one – a blank, a dot or a question mark. Nothing is
ever read twice or taken back, which is what keeps the proofs about it short:
the reader has one lemma for each front it can find (`read_at`,
`read_parenthesis` and so on).
-/

namespace KotlinTypes

/-- **A reader** takes what it understands from the front of a text and hands
on the rest. -/
abbrev Reader (α : Type) := List Char → Option (α × List Char)

namespace Reading

/-! ## Marks and lists -/

/-- What follows a mark at the front of a text, if it stands there. -/
def after (mark : String) (s : List Char) : Option (List Char) :=
  mark.toList.isPrefixOf? s

/-- Reads items with a comma between any two, and the bracket that closes
them. -/
def items {α : Type} (item : Reader α) (close : Char) : Nat → Reader (List α)
  | 0, _ => none
  | n + 1, s =>
      (item s).bind fun (x, rest) =>
        match after ", " rest with
        | some rest => (items item close n rest).map fun (xs, rest) => (x :: xs, rest)
        | none =>
          match rest with
          | c :: rest => if c = close then some ([x], rest) else none
          | [] => none

/-- Reads items as `items` does, or the closing bracket alone. -/
def group {α : Type} (item : Reader α) (close : Char) (n : Nat) : Reader (List α) := fun s =>
  if s.head? = some close then some ([], s.tail) else items item close n s

/-! ## Types -/

/-- Reads the arrow and the result of a function type. -/
def result (item : Reader Visible) (receiver : Option Visible) (parameters : List Visible) :
    Reader Visible := fun s =>
  (after " -> " s).bind fun s =>
    (item s).map fun (v, rest) => (⟨[], .function receiver parameters v false false⟩, rest)

/-- Reads the parameters and the result of an extension function type. -/
def extension (item : Reader Visible) (parameters : Reader (List Visible)) (receiver : Visible) :
    Reader Visible := fun s =>
  (parameters s).bind fun (vs, rest) => result item (some receiver) vs rest

/-- Reads on after a group in parentheses: it was a nullable function type, a
receiver, or the parameters of a function type. -/
def afterGroup (item : Reader Visible) (parameters : Reader (List Visible)) :
    List Visible → Reader Visible
  | vs, s =>
    match after "?" s with
    | some rest =>
      match vs with
      | [⟨[], .function receiver vs v suspending _⟩] =>
        some (⟨[], .function receiver vs v suspending true⟩, rest)
      | _ => none
    | none =>
      match after ".(" s with
      | some rest =>
        match vs with
        | [receiver] => extension item parameters receiver rest
        | _ => none
      | none => result item none vs s

/-- The same function type, suspending. -/
def suspend : Visible → Option Visible
  | ⟨[], .function receiver parameters v _ nullable⟩ =>
      some ⟨[], .function receiver parameters v true nullable⟩
  | _ => none

/-- Reads on after a name: arguments, a question mark, or the definite form.
Nothing of that is the type `dynamic` or a name alone. -/
def named (arguments : Reader (List Visible)) (name : String) : Reader (Shape Visible) := fun s =>
  match after "<" s with
  | some rest =>
    (arguments rest).bind fun (vs, rest) =>
      match after "?" rest with
      | some rest => some (.applied name vs true, rest)
      | none => some (.applied name vs false, rest)
  | none =>
    match after "?" s with
    | some rest => some (.named name true, rest)
    | none =>
      match after " & Any" s with
      | some rest => some (.definite name, rest)
      | none => some (if name = "dynamic" then .dynamic else .named name false, s)

/-- Reads a type that starts with a name, or a star. -/
def atom (arguments : Reader (List Visible)) : Reader (Shape Visible) := fun s =>
  match after "*" s with
  | some rest => some (.star, rest)
  | none => named arguments (String.ofList (takeName s).1) (takeName s).2

/-- Reads a type that starts with a name or a star, and the function type it
is the receiver of, if it is one. -/
def atomOrExtension (item : Reader Visible) (parameters arguments : Reader (List Visible)) :
    Reader Visible := fun s =>
  (atom arguments s).bind fun (shape, rest) =>
    match after ".(" rest with
    | some rest => extension item parameters ⟨[], shape⟩ rest
    | none => some (⟨[], shape⟩, rest)

/-- Reads an annotation and the type after it. -/
def noted (item : Reader Visible) : Reader Visible := fun s =>
  (after " " (takeName s).2).bind fun rest =>
    (item rest).map fun (v, rest) =>
      (⟨String.ofList (takeName s).1 :: v.notes, v.shape⟩, rest)

/-- **The reader of types.** The number bounds how deep it goes; the length of
the text is enough. -/
def read : Nat → Reader Visible
  | 0, _ => none
  | n + 1, s =>
    match after "@" s with
    | some rest => noted (read n) rest
    | none =>
      match after "(" s with
      | some rest =>
        (group (read n) ')' n rest).bind fun (vs, rest) =>
          afterGroup (read n) (group (read n) ')' n) vs rest
      | none =>
        match after "suspend " s with
        | some rest => (read n rest).bind fun (v, rest) => (suspend v).map fun v => (v, rest)
        | none =>
          match after "out " s with
          | some rest => (read n rest).map fun (v, rest) => (⟨[], .producer v⟩, rest)
          | none =>
            match after "in " s with
            | some rest => (read n rest).map fun (v, rest) => (⟨[], .consumer v⟩, rest)
            | none => atomOrExtension (read n) (group (read n) ')' n) (group (read n) '>' n) s

/-! ## Finding marks -/

/-- **A mark is found exactly where it stands.** -/
theorem after_eq_some_iff {mark : String} {s rest : List Char} :
    after mark s = some rest ↔ s = mark.toList ++ rest :=
  List.isPrefixOf?_eq_some_iff_append_eq.trans eq_comm

/-- A mark is found in front of anything. -/
@[simp] theorem after_append (mark : String) (rest : List Char) :
    after mark (mark.toList ++ rest) = some rest :=
  after_eq_some_iff.mpr rfl

/-- A mark is not found where the first character is another one. -/
theorem after_eq_none_of_head {mark : String} {m : Char} {s : List Char}
    (hm : mark.toList.head? = some m) (hs : s.head? ≠ some m) : after mark s = none := by
  refine Option.eq_none_iff_forall_ne_some.mpr (fun rest h => hs ?_)
  rw [after_eq_some_iff.mp h, List.head?_append, hm]
  rfl

/-- **A word with a blank is not found in front of another name.** -/
theorem after_word_eq_none {word name : String} {rest : List Char} (hword : IsName word.toList)
    (hname : IsName name.toList) (hne : name ≠ word) (hrest : goesOn rest = false) :
    after (word ++ " ") (name.toList ++ rest) = none := by
  refine Option.eq_none_iff_forall_ne_some.mpr (fun s h => hne ?_)
  have happend : name.toList ++ rest = word.toList ++ ' ' :: s := by
    rw [after_eq_some_iff.mp h, String.toList_append, List.append_assoc]
    rfl
  -- both sides start with a name, and the longest name there is only one
  have htake := congrArg takeName happend
  rw [hname.takeName_append hrest, hword.takeName_append rfl] at htake
  exact String.toList_inj.mp (congrArg Prod.fst htake)

/-! ## Lists of items -/

/-- **What can follow a type**: the end of the text, a comma or a closing
bracket. -/
def Closed (rest : List Char) : Prop :=
  ∀ c ∈ rest.head?, c ∈ [',', ')', '>']

theorem closed_nil : Closed [] :=
  fun _ hc => absurd hc (Option.not_mem_none _)

theorem closed_cons {c : Char} (hc : c ∈ [',', ')', '>']) (rest : List Char) :
    Closed (c :: rest) :=
  fun _ hd => Option.some.inj hd ▸ hc

theorem closed_comma (rest : List Char) : Closed (", ".toList ++ rest) :=
  closed_cons List.mem_cons_self (' ' :: rest)

/-- No other mark is found in what can follow a type. -/
theorem Closed.after_eq_none {mark : String} {m : Char} {rest : List Char} (h : Closed rest)
    (hm : mark.toList.head? = some m) (hother : m ∉ [',', ')', '>']) : after mark rest = none :=
  after_eq_none_of_head hm (fun hhead => hother (h m hhead))

/-- What can follow a type does not go on with a name. -/
theorem Closed.goesOn_eq_false {rest : List Char} (h : Closed rest) : goesOn rest = false := by
  match rest with
  | [] => rfl
  | c :: rest =>
    have hc : c ∈ [',', ')', '>'] := h c rfl
    rw [List.mem_cons, List.mem_cons, List.mem_singleton] at hc
    obtain rfl | rfl | rfl := hc <;> rfl

/-- **A reader reads a visible structure** when it finds it in its text, in
front of anything that can follow. -/
def Reads (item : Reader Visible) (v : Visible) : Prop :=
  ∀ rest, Closed rest → item (v.text.toList ++ rest) = some (v, rest)

/-- The first text of a list starts the text of the list. -/
theorem exists_intercalate_eq_append (text : String) (texts : List String) :
    ∃ tail, (", ".intercalate (text :: texts)).toList = text.toList ++ tail := by
  cases texts with
  | nil => exact ⟨[], by rw [String.intercalate_singleton, List.append_nil]⟩
  | cons t texts =>
    refine ⟨", ".toList ++ (", ".intercalate (t :: texts)).toList, ?_⟩
    rw [String.intercalate_cons_cons, String.toList_append, String.toList_append,
      List.append_assoc]

/-- A text is no longer than the list it stands in. -/
theorem length_le_intercalate {text : String} {texts : List String} (h : text ∈ texts) :
    text.length ≤ (", ".intercalate texts).length := by
  induction texts with
  | nil => exact absurd h List.not_mem_nil
  | cons t texts ih =>
    cases texts with
    | nil =>
      obtain rfl := List.mem_singleton.mp h
      exact Nat.le_of_eq (congrArg String.length String.intercalate_singleton.symm)
    | cons u texts =>
      rw [String.intercalate_cons_cons, String.length_append, String.length_append]
      obtain rfl | hmem := List.mem_cons.mp h
      · omega
      · exact Nat.le_trans (ih hmem) (Nat.le_add_left _ _)

/-- A list has no more texts than characters and one. -/
theorem length_le_length_intercalate (texts : List String) :
    texts.length ≤ (", ".intercalate texts).length + 1 := by
  induction texts with
  | nil => exact Nat.zero_le _
  | cons t texts ih =>
    cases texts with
    | nil => exact Nat.le_add_left _ _
    | cons u texts =>
      have hcomma : ", ".length = 2 := rfl
      rw [String.intercalate_cons_cons, String.length_append, String.length_append, hcomma,
        List.length_cons]
      omega

variable {item : Reader Visible} {close : Char} {n : Nat} {vs : List Visible}

/-- **Items are read** up to the bracket that closes them. -/
theorem items_eq_some (hclose : close ∈ [')', '>']) (hne : vs ≠ [])
    (hitem : ∀ v ∈ vs, Reads item v) (hn : vs.length ≤ n) (rest : List Char) :
    items item close n ((", ".intercalate (vs.map Visible.text)).toList ++ close :: rest)
      = some (vs, rest) := by
  induction vs generalizing n with
  | nil => exact absurd rfl hne
  | cons v vs ih =>
    obtain ⟨n, rfl⟩ := Nat.exists_eq_succ_of_ne_zero (Nat.ne_zero_of_lt hn)
    have hv : Reads item v := hitem v List.mem_cons_self
    cases vs with
    | nil =>
      have hclosed : Closed (close :: rest) := closed_cons (List.mem_cons_of_mem _ hclose) rest
      have hcomma : after ", " (close :: rest) = none := by
        refine after_eq_none_of_head (m := ',') rfl (fun hhead => ?_)
        rw [Option.some.inj hhead] at hclose
        exact absurd hclose (by decide)
      rw [List.map_singleton, String.intercalate_singleton, items, hv _ hclosed, Option.bind_some]
      simp only [hcomma, if_pos]
    | cons w vs =>
      have hrest := ih (List.cons_ne_nil w vs) (fun u hu => hitem u (List.mem_cons_of_mem v hu))
        (Nat.le_of_succ_le_succ hn)
      rw [List.map_cons, List.map_cons, String.intercalate_cons_cons, String.toList_append,
        String.toList_append, List.append_assoc, List.append_assoc, items,
        hv _ (closed_comma _), Option.bind_some]
      simp only [after_append]
      rw [← List.map_cons, hrest]
      rfl

/-- **A group is read**, empty or not, as long as no item starts with a
closing bracket. -/
theorem group_eq_some (hclose : close ∈ [')', '>']) (hitem : ∀ v ∈ vs, Reads item v)
    (hopen : ∀ v ∈ vs, ¬ Closed v.text.toList) (hn : vs.length ≤ n) (rest : List Char) :
    group item close n ((", ".intercalate (vs.map Visible.text)).toList ++ close :: rest)
      = some (vs, rest) := by
  cases vs with
  | nil => exact if_pos rfl
  | cons v vs =>
    unfold group
    rw [if_neg, items_eq_some hclose (List.cons_ne_nil v vs) hitem hn]
    obtain ⟨tail, htail⟩ := exists_intercalate_eq_append v.text (vs.map Visible.text)
    intro hhead
    refine hopen v List.mem_cons_self (fun c hc => ?_)
    rw [List.map_cons, htail, List.append_assoc, List.head?_append, Option.mem_def.mp hc] at hhead
    obtain rfl : c = close := Option.some.inj hhead
    exact List.mem_cons_of_mem _ hclose

/-! ## What the front of a text decides -/

theorem read_at (n : Nat) (s : List Char) : read (n + 1) ("@".toList ++ s) = noted (read n) s :=
  rfl

theorem read_parenthesis (n : Nat) (s : List Char) :
    read (n + 1) ("(".toList ++ s)
      = (group (read n) ')' n s).bind fun (vs, rest) =>
          afterGroup (read n) (group (read n) ')' n) vs rest :=
  rfl

theorem read_suspend (n : Nat) (s : List Char) :
    read (n + 1) ("suspend ".toList ++ s)
      = (read n s).bind fun (v, rest) => (suspend v).map fun v => (v, rest) :=
  rfl

theorem read_out (n : Nat) (s : List Char) :
    read (n + 1) ("out ".toList ++ s)
      = (read n s).map fun (v, rest) => (⟨[], .producer v⟩, rest) :=
  rfl

theorem read_in (n : Nat) (s : List Char) :
    read (n + 1) ("in ".toList ++ s)
      = (read n s).map fun (v, rest) => (⟨[], .consumer v⟩, rest) :=
  rfl

theorem read_star (n : Nat) (s : List Char) :
    read (n + 1) ("*".toList ++ s)
      = atomOrExtension (read n) (group (read n) ')' n) (group (read n) '>' n)
          ("*".toList ++ s) :=
  rfl

variable {name : String} {tail : List Char}

/-- A name starts with no mark. -/
theorem after_name_eq_none {mark : String} {m : Char} (hname : IsName name.toList)
    (hm : mark.toList.head? = some m) (hmark : isWordChar m = false) (tail : List Char) :
    after mark (name.toList ++ tail) = none := by
  obtain ⟨c, rest, hc, hword⟩ := hname.exists_cons
  rw [hc]
  refine after_eq_none_of_head hm (fun hhead => ?_)
  rw [Option.some.inj hhead, hmark] at hword
  exact Bool.noConfusion hword

/-- **A name at the front** makes the text an atom or an extension function of
one, unless it is a keyword. -/
theorem read_name (hname : IsName name.toList) (hword : name ∉ ["in", "out", "suspend"])
    (htail : goesOn tail = false) (n : Nat) :
    read (n + 1) (name.toList ++ tail)
      = atomOrExtension (read n) (group (read n) ')' n) (group (read n) '>' n)
          (name.toList ++ tail) := by
  have hkeyword : ∀ word ∈ ["in", "out", "suspend"], IsName word.toList →
      after (word ++ " ") (name.toList ++ tail) = none := by
    intro word hmem hisname
    exact after_word_eq_none hisname hname (fun h => hword (h ▸ hmem)) htail
  have hat : after "@" (name.toList ++ tail) = none := after_name_eq_none hname rfl rfl tail
  have hparenthesis : after "(" (name.toList ++ tail) = none :=
    after_name_eq_none hname rfl rfl tail
  have hsuspend : after "suspend " (name.toList ++ tail) = none :=
    hkeyword "suspend" (by decide) ⟨rfl, rfl⟩
  have hout : after "out " (name.toList ++ tail) = none :=
    hkeyword "out" (by decide) ⟨rfl, rfl⟩
  have hin : after "in " (name.toList ++ tail) = none :=
    hkeyword "in" (by decide) ⟨rfl, rfl⟩
  simp only [read, hat, hparenthesis, hsuspend, hout, hin]

/-- A name is taken whole, and what follows decides. -/
theorem atom_name (hname : IsName name.toList) (htail : goesOn tail = false)
    (arguments : Reader (List Visible)) :
    atom arguments (name.toList ++ tail) = named arguments name tail := by
  have hstar : after "*" (name.toList ++ tail) = none := after_name_eq_none hname rfl rfl tail
  unfold atom
  rw [hstar, hname.takeName_append htail, String.ofList_toList]

end Reading

end KotlinTypes
