import Mathlib.Data.List.Nodup
import KotlinTypes.Json.Settings

/-!
# Styles as JSON objects

A style is written as an object with all its members and read from objects
with some of them, in any order and among others. Writing and reading each
have their own names and standard values, and what the two have to agree on is
what a single member says.

An object is therefore read member by member (`Json.Tells`): for each choice, a
member with its name gives the value, and without one the standard value holds.
If no choice is given twice, that is all there is to reading
(`Style.ofJson?_object_eq_some_iff`), and what is expected of it follows. An
object is refused only for a member of the wrong type. The order of the members
does not matter and neither do members of other names. And a style may be
written without the members in which it is like the standard one.
-/

namespace KotlinTypes

/-! ## One name -/

namespace Json

variable {given given' : List (String × Json)} {name : String} {value absent : Json}

/-- **The values given for a name** among members, in their order. -/
def values (given : List (String × Json)) (name : String) : List Json :=
  (given.filter (fun m => m.1 == name)).map Prod.snd

@[simp] theorem mem_values {v : Json} : v ∈ values given name ↔ (name, v) ∈ given := by
  unfold values
  rw [List.mem_map]
  constructor
  · rintro ⟨⟨n, w⟩, hm, rfl⟩
    obtain ⟨hmem, hn⟩ := List.mem_filter.mp hm
    exact beq_iff_eq.mp hn ▸ hmem
  · intro h
    exact ⟨(name, v), List.mem_filter.mpr ⟨h, beq_self_eq_true name⟩, rfl⟩

/-- **What members say of a name.** All values given for it are this one, and if
none is given, this is the value that holds in its absence. -/
def Tells (given : List (String × Json)) (name : String) (value absent : Json) : Prop :=
  (∀ v ∈ values given name, v = value) ∧ (values given name = [] → value = absent)

/-- A value that is given at most once is absent or the only one. -/
theorem values_cases (honce : (values given name).length ≤ 1) :
    values given name = [] ∨ ∃ v, values given name = [v] := by
  generalize values given name = vs at honce ⊢
  match vs with
  | [] => exact .inl rfl
  | [v] => exact .inr ⟨v, rfl⟩
  | _ :: _ :: _ => exact absurd honce (by simp)

section Reading

variable {α : Type} {read : Json → Option α} {write : α → Json}

/-- Reading a member looks at the values given for its name. -/
theorem member?_eq (given : List (String × Json)) (name : String) (absent : α) :
    member? given name read absent
      = match values given name with
        | [] => some absent
        | [v] => read v
        | _ => none := by
  unfold member? values
  generalize given.filter (fun m => m.1 == name) = ms
  match ms with
  | [] | [_] | _ :: _ :: _ => rfl

/-- **A member is read as what it says**, where a value is read as the one it
was written for and as no other. -/
theorem member?_eq_some_iff (hread : ∀ v a, read v = some a ↔ v = write a)
    (honce : (values given name).length ≤ 1) {absent a : α} :
    member? given name read absent = some a
      ↔ Tells given name (write a) (write absent) := by
  have hwrite : write a = write absent ↔ a = absent :=
    ⟨fun h => Option.some.inj (((hread _ a).mpr rfl).symm.trans ((hread _ absent).mpr h)),
      congrArg write⟩
  unfold Tells
  rw [member?_eq]
  obtain hnone | ⟨v, hv⟩ := values_cases honce
  · rw [hnone]
    show some absent = some a ↔ _
    rw [hwrite, Option.some.injEq]
    exact ⟨fun h => ⟨fun _ hno => absurd hno List.not_mem_nil, fun _ => h.symm⟩,
      fun h => (h.2 rfl).symm⟩
  · rw [hv]
    show read v = some a ↔ _
    rw [hread, List.forall_mem_singleton]
    exact ⟨fun h => ⟨h, nofun⟩, And.left⟩

/-- **Members say something of a name** if what they give for it has its
type. -/
theorem exists_tells (honce : (values given name).length ≤ 1) (absent : α)
    (htyped : ∀ v ∈ values given name, ∃ a, v = write a) :
    ∃ a, Tells given name (write a) (write absent) := by
  unfold Tells
  obtain hnone | ⟨v, hv⟩ := values_cases honce
  · rw [hnone]
    exact ⟨absent, fun _ hno => absurd hno List.not_mem_nil, fun _ => rfl⟩
  · rw [hv] at htyped ⊢
    obtain ⟨a, ha⟩ := htyped v (List.mem_singleton_self v)
    exact ⟨a, List.forall_mem_singleton.mpr ha, nofun⟩

/-- **The order of the values given for a name does not matter.** -/
theorem member?_congr (h : (values given name).Perm (values given' name)) (absent : α) :
    member? given name read absent = member? given' name read absent := by
  rw [member?_eq, member?_eq]
  generalize values given name = vs at h
  generalize values given' name = vs' at h
  match vs with
  | [] => rw [List.nil_perm.mp h]
  | [v] => rw [List.singleton_perm.mp h]
  | _ :: _ :: _ =>
    -- two values are too many, in whatever order
    match vs' with
    | [] | [_] => exact absurd h.length_eq (by simp)
    | _ :: _ :: _ => rfl

end Reading

/-- Where names are not repeated, a name has one value. -/
theorem eq_of_nodup (h : (given.map Prod.fst).Nodup) {v : Json} (hvalue : (name, value) ∈ given)
    (hv : (name, v) ∈ given) : v = value :=
  congrArg Prod.snd (List.inj_on_of_nodup_map h hv hvalue rfl)

/-- Where names are not repeated, a name has at most one value. -/
theorem length_values_le_one (h : (given.map Prod.fst).Nodup) (name : String) :
    (values given name).length ≤ 1 := by
  unfold values
  rw [List.length_map, ← List.countP_eq_length_filter]
  have hcount := List.nodup_iff_count_le_one.mp h name
  rw [List.count, List.countP_map] at hcount
  exact hcount

/-- **What members say is said by some of them** if the others say what holds
in their absence. -/
theorem tells_of_sublist {kept standard : List (String × Json)}
    (hgiven : (given.map Prod.fst).Nodup) (hstandard : (standard.map Prod.fst).Nodup)
    (hkept : kept.Sublist given) (hdropped : ∀ m ∈ given, m ∉ kept → m ∈ standard)
    (hvalue : (name, value) ∈ given) (habsent : (name, absent) ∈ standard) :
    Tells kept name value absent := by
  refine ⟨fun v hv => eq_of_nodup hgiven hvalue (hkept.subset (mem_values.mp hv)), fun hno => ?_⟩
  have hnotMem : (name, value) ∉ kept := fun hmem => by
    rw [← mem_values, hno] at hmem
    exact absurd hmem List.not_mem_nil
  exact eq_of_nodup hstandard habsent (hdropped _ hvalue hnotMem)

end Json

/-! ## All choices -/

namespace Style

variable {style : Style} {given given' kept : List (String × Json)}

/-- **The members of a style**, one for each choice. -/
def members (style : Style) : List (String × Json) :=
  [("simple_names", .bool style.relativeNames),
    ("where_on_new_line", .bool style.whereOnOwnLine), ("indent", .string style.indent)]

/-- **The names of the choices.** -/
def choices : List String :=
  ["simple_names", "where_on_new_line", "indent"]

/-- A style is written as the object of its members. -/
theorem toJson_eq (style : Style) : style.toJson = .object style.members := rfl

/-- The members of a style are named for the choices. -/
theorem map_fst_members (style : Style) : style.members.map Prod.fst = choices := rfl

/-- The members of a style have names of their own. -/
theorem nodup_map_fst_members (style : Style) : (style.members.map Prod.fst).Nodup := by
  rw [map_fst_members]
  decide

/-- **Members of the right types**: truth values for the first two choices and
a string for the third. `null` is neither. -/
structure WellTyped (given : List (String × Json)) : Prop where
  /-- Whether relative names are wanted is a truth value. -/
  relativeNames : ∀ v ∈ Json.values given "simple_names", ∃ b, v = .bool b
  /-- Whether the `where` block takes a line of its own is a truth value. -/
  whereOnOwnLine : ∀ v ∈ Json.values given "where_on_new_line", ∃ b, v = .bool b
  /-- The indent is a string. -/
  indent : ∀ v ∈ Json.values given "indent", ∃ s, v = .string s

/-- **The style that members tell**: each choice is as a member says, or the
standard one if no member has its name. -/
structure ToldBy (style : Style) (given : List (String × Json)) : Prop where
  /-- Whether every class is written by its relative name. -/
  relativeNames : Json.Tells given "simple_names" (.bool style.relativeNames)
    (.bool standard.relativeNames)
  /-- Whether the `where` block takes a line of its own. -/
  whereOnOwnLine : Json.Tells given "where_on_new_line" (.bool style.whereOnOwnLine)
    (.bool standard.whereOnOwnLine)
  /-- What that line is indented by. -/
  indent : Json.Tells given "indent" (.string style.indent) (.string standard.indent)

/-- Truth values are read as they are written. -/
theorem asBool?_eq_some_iff (v : Json) (b : Bool) : v.asBool? = some b ↔ v = .bool b := by
  cases v <;> simp [Json.asBool?]

/-- Strings are read as they are written. -/
theorem asString?_eq_some_iff (v : Json) (s : String) : v.asString? = some s ↔ v = .string s := by
  cases v <;> simp [Json.asString?]

/-- An object is read choice by choice. -/
theorem ofJson?_object (given : List (String × Json)) :
    ofJson? (.object given) = some style
      ↔ Json.member? given "simple_names" Json.asBool? standard.relativeNames
          = some style.relativeNames
        ∧ Json.member? given "where_on_new_line" Json.asBool? standard.whereOnOwnLine
          = some style.whereOnOwnLine
        ∧ Json.member? given "indent" Json.asString? standard.indent = some style.indent := by
  obtain ⟨relativeNames, whereOnOwnLine, indent⟩ := style
  unfold ofJson?
  simp only [Option.bind_eq_bind, Option.bind_eq_some_iff, Option.pure_def, Option.some.injEq,
    mk.injEq]
  constructor
  · rintro ⟨a, ha, b, hb, c, hc, rfl, rfl, rfl⟩
    exact ⟨ha, hb, hc⟩
  · rintro ⟨ha, hb, hc⟩
    exact ⟨_, ha, _, hb, _, hc, rfl, rfl, rfl⟩

/-- **An object is read as the style that its members tell**, if none of the
choices is given twice. -/
theorem ofJson?_object_eq_some_iff
    (honce : ∀ name ∈ choices, (Json.values given name).length ≤ 1) :
    ofJson? (.object given) = some style ↔ style.ToldBy given := by
  rw [ofJson?_object,
    Json.member?_eq_some_iff asBool?_eq_some_iff (honce "simple_names" (by decide)),
    Json.member?_eq_some_iff asBool?_eq_some_iff (honce "where_on_new_line" (by decide)),
    Json.member?_eq_some_iff asString?_eq_some_iff (honce "indent" (by decide))]
  exact ⟨fun ⟨hnames, hline, hindent⟩ => ⟨hnames, hline, hindent⟩,
    fun h => ⟨h.relativeNames, h.whereOnOwnLine, h.indent⟩⟩

/-- **Members tell a style if they have the right types.** -/
theorem exists_toldBy_iff (honce : ∀ name ∈ choices, (Json.values given name).length ≤ 1) :
    (∃ style : Style, style.ToldBy given) ↔ WellTyped given := by
  constructor
  · rintro ⟨style, h⟩
    exact ⟨fun v hv => ⟨_, h.relativeNames.1 v hv⟩, fun v hv => ⟨_, h.whereOnOwnLine.1 v hv⟩,
      fun v hv => ⟨_, h.indent.1 v hv⟩⟩
  · intro h
    obtain ⟨relativeNames, hnames⟩ := Json.exists_tells (honce "simple_names" (by decide))
      standard.relativeNames h.relativeNames
    obtain ⟨whereOnOwnLine, hline⟩ := Json.exists_tells (honce "where_on_new_line" (by decide))
      standard.whereOnOwnLine h.whereOnOwnLine
    obtain ⟨indent, hindent⟩ := Json.exists_tells (honce "indent" (by decide))
      standard.indent h.indent
    exact ⟨⟨relativeNames, whereOnOwnLine, indent⟩, hnames, hline, hindent⟩

/-- The values given for a choice are those of the members named for choices. -/
theorem values_filter_choices (given : List (String × Json)) {name : String}
    (hname : name ∈ choices) :
    Json.values (given.filter (fun m => m.1 ∈ choices)) name = Json.values given name := by
  unfold Json.values
  rw [List.filter_filter]
  refine congrArg (List.map Prod.snd) (List.filter_congr (fun m _ => ?_))
  by_cases hm : m.1 = name
  · rw [hm, decide_eq_true hname, Bool.and_true]
  · rw [beq_eq_false_iff_ne.mpr hm, Bool.false_and]

/-- **Only members named for choices count**, and not in which order they
come. -/
theorem ofJson?_object_congr
    (h : (given.filter (fun m => m.1 ∈ choices)).Perm (given'.filter (fun m => m.1 ∈ choices))) :
    ofJson? (.object given) = ofJson? (.object given') := by
  have hvalues : ∀ name ∈ choices, (Json.values given name).Perm (Json.values given' name) := by
    intro name hname
    rw [← values_filter_choices given hname, ← values_filter_choices given' hname]
    exact (h.filter _).map _
  unfold ofJson?
  simp only [Json.member?_congr (hvalues "simple_names" (by decide)),
    Json.member?_congr (hvalues "where_on_new_line" (by decide)),
    Json.member?_congr (hvalues "indent" (by decide))]

/-- **Standard members may be left out.** What is left of the members of a
style tells the style. -/
theorem toldBy_of_sublist (hkept : kept.Sublist style.members)
    (hdropped : ∀ m ∈ style.members, m ∉ kept → m ∈ standard.members) : style.ToldBy kept := by
  have htells : ∀ {name value absent}, (name, value) ∈ style.members →
      (name, absent) ∈ standard.members → Json.Tells kept name value absent :=
    Json.tells_of_sublist style.nodup_map_fst_members standard.nodup_map_fst_members hkept hdropped
  exact ⟨htells (by simp [members]) (by simp [members]),
    htells (by simp [members]) (by simp [members]), htells (by simp [members]) (by simp [members])⟩

/-- What is left of the members of a style gives no choice twice. -/
theorem length_values_of_sublist (hkept : kept.Sublist style.members) (name : String) :
    (Json.values kept name).length ≤ 1 :=
  Json.length_values_le_one (style.nodup_map_fst_members.sublist (hkept.map Prod.fst)) name

/-- **A style and its JSON objects.** An object that gives no choice twice is
read if and only if the members that are choices have the right types, and it
is read as the style with the given value for each choice that is given and the
standard one for each that is not. Two objects are read alike if they have the
same choices in whatever order, however many members of other names each of
them has. So a style is read back from the object it is written as, and also
from that object without any of the members that agree with the standard
style. -/
theorem ofJson?_members :
    (∀ given : List (String × Json),
        (∀ name ∈ choices, (Json.values given name).length ≤ 1) →
        ((∃ style, ofJson? (.object given) = some style) ↔ WellTyped given)
          ∧ ∀ style, ofJson? (.object given) = some style ↔ style.ToldBy given)
      ∧ (∀ given given' : List (String × Json),
        (given.filter (fun m => m.1 ∈ choices)).Perm (given'.filter (fun m => m.1 ∈ choices)) →
        ofJson? (.object given) = ofJson? (.object given'))
      ∧ (∀ style : Style,
        style.toJson = .object style.members ∧ ofJson? style.toJson = some style)
      ∧ ∀ (style : Style) (kept : List (String × Json)), kept.Sublist style.members →
        (∀ m ∈ style.members, m ∉ kept → m ∈ standard.members) →
        ofJson? (.object kept) = some style := by
  have hread : ∀ (style : Style) (kept : List (String × Json)), kept.Sublist style.members →
      (∀ m ∈ style.members, m ∉ kept → m ∈ standard.members) →
      ofJson? (.object kept) = some style := by
    intro style kept hkept hdropped
    rw [ofJson?_object_eq_some_iff (fun name _ => length_values_of_sublist hkept name)]
    exact toldBy_of_sublist hkept hdropped
  refine ⟨fun given honce => ⟨?_, fun style => ofJson?_object_eq_some_iff honce⟩,
    fun _ _ => ofJson?_object_congr, fun style => ⟨style.toJson_eq, ?_⟩, hread⟩
  · simp only [ofJson?_object_eq_some_iff honce]
    exact exists_toldBy_iff honce
  · rw [toJson_eq]
    exact hread style style.members (List.Sublist.refl _) (fun m hm hno => absurd hm hno)

/-- The standard style with relative names and a tabulator for an indent. -/
def tabbed : Style :=
  ⟨true, false, "\t"⟩

/-- Members that tell this style, with one that is none of a style's. -/
def tabbedMembers : List (String × Json) :=
  [("theme", .null), ("indent", .string "\t"), ("simple_names", .bool true)]

/-- The members of this style without the one for the `where` block. -/
def tabbedKept : List (String × Json) :=
  [("simple_names", .bool true), ("indent", .string "\t")]

/-- The members that tell this style are read as it, backwards too, and so are
those that are left of its own. -/
theorem ofJson?_members_tabbed :
    (∀ name ∈ choices, (Json.values tabbedMembers name).length ≤ 1)
      ∧ tabbed.ToldBy tabbedMembers
      ∧ ofJson? (.object tabbedMembers) = some tabbed
      ∧ (tabbedMembers.reverse.filter (fun m => m.1 ∈ choices)).Perm
          (tabbedMembers.filter (fun m => m.1 ∈ choices))
      ∧ ofJson? (.object tabbedMembers.reverse) = some tabbed
      ∧ tabbedKept.Sublist tabbed.members
      ∧ (∀ m ∈ tabbed.members, m ∉ tabbedKept → m ∈ standard.members)
      ∧ ofJson? (.object tabbedKept) = some tabbed := by
  obtain ⟨htold, hcongr, -, hkept⟩ := ofJson?_members
  have honce : ∀ name ∈ choices, (Json.values tabbedMembers name).length ≤ 1 := by decide
  have htabbed : tabbed.ToldBy tabbedMembers :=
    ⟨⟨by simp [tabbedMembers, tabbed], by simp [Json.values, tabbedMembers]⟩,
      ⟨by simp [tabbedMembers], fun _ => rfl⟩,
      ⟨by simp [tabbedMembers, tabbed], by simp [Json.values, tabbedMembers]⟩⟩
  have hread := ((htold tabbedMembers honce).2 tabbed).mpr htabbed
  have hperm := (List.reverse_perm tabbedMembers).filter (fun m => m.1 ∈ choices)
  have hsublist : tabbedKept.Sublist tabbed.members :=
    (List.Sublist.cons _ (List.Sublist.refl _)).cons_cons _
  have hdropped : ∀ m ∈ tabbed.members, m ∉ tabbedKept → m ∈ standard.members := by
    simp [members, tabbed, tabbedKept, standard]
  exact ⟨honce, htabbed, hread, hperm, (hcongr _ _ hperm).trans hread, hsublist, hdropped,
    hkept tabbed _ hsublist hdropped⟩

end Style

end KotlinTypes
