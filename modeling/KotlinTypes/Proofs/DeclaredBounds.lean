import KotlinTypes.Proofs.Ledger
import KotlinTypes.Proofs.Written

/-!
# Where declared bounds are written

A bound is declared for a parameter, alone or with others, at once or in
several steps, and later the generics of a declaration are written. Between
the two, bounds are settled, and written by two writers that know nothing of
each other: one for the entry in angle brackets, one for the constraints.

What is written is nevertheless a matter of what was declared. Every declared
bound other than `Any?` is written once – in the entry if it is the only one,
in the constraints if there are more – and bounds of a definite parameter
nowhere. `Generics.render_of_tracks` says so for whole lists of parameters
with any histories: the text of the generics is an expression over the
ledgers of the parameters.
-/

namespace KotlinTypes

namespace Ledger

variable {d : Ledger} {v : TypeParameter TypeRef} {style : Style}

/-- What the entry of a parameter says before anything on bounds: annotations,
modifiers and name. -/
def headText (d : Ledger) (style : Style) : String :=
  AnnotationUse.textsIn d.annotations style ++ (if d.reified then "reified " else "")
    ++ d.variance.keywordText ++ d.name

/-- **How the bounds of a parameter are written**: what its entry says on them,
and its constraints. In the definite form the entry says that and nothing is
said on bounds. Otherwise no bound needs no words, one stands in the entry, and
more become constraints. -/
def boundTexts (d : Ledger) (style : Style) : String × List String :=
  if d.definite then (" & Any", [])
  else
    match d.effective with
    | [] => ("", [])
    | [bound] => (" : " ++ bound.textIn style, [])
    | bounds => ("", bounds.map (fun bound => d.name ++ " : " ++ bound.textIn style))

/-- The entry of a tracked parameter is the one its ledger asks for. -/
theorem Tracks.entry_eq (h : Tracks d v) (style : Style) :
    v.headText style ++ v.tailText style = d.headText style ++ (d.boundTexts style).1 := by
  obtain rfl := h.eq_settled
  have hbounds : d.settled.bounds = d.effective := rfl
  have htail : d.settled.tailText style = (d.boundTexts style).1 := by
    unfold TypeParameter.tailText boundTexts
    rw [isDefinite_settled, hbounds]
    cases d.definite with
    | true => rfl
    | false =>
      cases d.effective with
      | nil => rfl
      | cons bound bounds => cases bounds <;> rfl
  rw [htail]
  rfl

/-- The constraints of a tracked parameter are those its ledger asks for. -/
theorem Tracks.constraints_eq (h : Tracks d v) (style : Style) :
    v.constraints.map (Generics.constraintText style) = (d.boundTexts style).2 := by
  obtain rfl := h.eq_settled
  have hbounds : d.settled.bounds = d.effective := rfl
  unfold TypeParameter.constraints TypeParameter.needsWhere TypeParameter.hasSeveralBounds
    boundTexts
  rw [isDefinite_settled]
  cases d.definite with
  | true => rfl
  | false =>
    rw [hbounds]
    cases d.effective with
    | nil => rfl
    | cons bound₁ bounds =>
      cases bounds with
      | nil => rfl
      | cons bound₂ bounds =>
        have hseveral : (!false && decide (1 < (bound₁ :: bound₂ :: bounds).length)) = true := by
          simp
        rw [if_pos hseveral, List.map_map]
        rfl

end Ledger

/-- What only the entry of a parameter tells: its annotations, `reified` and
its variance – taken away. -/
def TypeParameter.plain (v : TypeParameter TypeRef) : TypeParameter TypeRef :=
  { v with annotations := [], reified := false, variance := .invariant }

namespace Generics

/-- **Declared bounds are written where they belong**, for every list of
parameters with any histories, each with the ledger that tracks it. The list
in angle brackets has an entry for each, with the definite form or the only
bound that counts. The constraints are all other bounds that count, one by one,
in order, repetitions included. And they hold nothing that only an entry
tells. -/
theorem render_of_tracks (rows : List (Ledger × TypeParameter TypeRef))
    (h : ∀ row ∈ rows, Ledger.Tracks row.1 row.2) (style : Style) :
    (render (rows.map Prod.snd) style).parameterList
        = (if rows = [] then ""
          else "<" ++ ", ".intercalate
            (rows.map (fun row => row.1.headText style ++ (row.1.boundTexts style).1)) ++ ">")
      ∧ (render (rows.map Prod.snd) style).constraints
          = ", ".intercalate (rows.flatMap (fun row => (row.1.boundTexts style).2))
      ∧ (render (rows.map Prod.snd) style).constraints
          = (render (rows.map (fun row => row.2.plain)) style).constraints := by
  refine ⟨?_, ?_, ?_⟩
  · have hentries : (rows.map Prod.snd).map (fun v => v.headText style ++ v.tailText style)
        = rows.map (fun row => row.1.headText style ++ (row.1.boundTexts style).1) := by
      rw [List.map_map]
      exact List.map_congr_left (fun row hrow => (h row hrow).entry_eq style)
    rw [parameterList_render, hentries, Printer.angledText]
    simp only [List.map_eq_nil_iff]
  · rw [constraints_render, List.flatMap_map, List.map_flatMap, List.flatMap_def, List.flatMap_def]
    refine congrArg (fun texts => ", ".intercalate texts.flatten) (List.map_congr_left ?_)
    exact fun row hrow => (h row hrow).constraints_eq style
  · rw [constraints_render, constraints_render, List.flatMap_map, List.flatMap_map]
    rfl

/-- `Any?` first and then three bounds, one of them twice. -/
theorem render_of_tracks_repeated :
    Ledger.Tracks
        (attempt Ledger.applyTo (.start "T" .invariant [.nullableAny])
          (.addBounds [.charSequence, .number, .charSequence]))
        (attempt TypeParameter.applyTo (.ofBounds "T" [.nullableAny])
          (.addBounds [.charSequence, .number, .charSequence]))
      ∧ (render [attempt TypeParameter.applyTo (.ofBounds "T" [.nullableAny])
          (.addBounds [.charSequence, .number, .charSequence])] .standard).constraints
        = "T : CharSequence, T : Number, T : CharSequence" := by
  have htracks := Ledger.Tracks.attempted
    (.made (c := .ofBounds "T" [.nullableAny]) rfl rfl)
    (.addBounds [.charSequence, .number, .charSequence])
  have hrender := render_of_tracks [(_, _)] (List.forall_mem_singleton.mpr htracks) .standard
  exact ⟨htracks, hrender.2.1.trans (by decide)⟩

end Generics

end KotlinTypes
