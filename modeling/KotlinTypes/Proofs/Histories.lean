import KotlinTypes.Proofs.Obtainable

/-!
# Where a parameter comes from

A parameter can be obtained in many ways – made and changed, but also wrapped
into a type and copied there, put into a list of arguments, and found again
inside of something else. None of them leads anywhere new. The operations on
types hand a parameter on to its own operations, so a step whose result is a
parameter is a construction, or a change of a parameter it is given
(`Makes.parameter_cases`).

So every parameter that can be obtained has a history after all, and a ledger
that tracks it (`Obtainable.exists_tracks`). Whatever is known of ledgers is
known of obtainable parameters, wherever they stand.
-/

namespace KotlinTypes

/-- **A step that makes a parameter** constructs it, or changes a parameter it
is given. -/
theorem Makes.parameter_cases {literals : Bool} {given : List Value} {v : TypeParameter TypeRef}
    (h : Makes literals given (.type (.ofParameter v))) :
    (∃ c, TypeParameter.make c = .ok v)
      ∨ ∃ u c, Value.type (.ofParameter u) ∈ given ∧ TypeParameter.applyTo u c = .ok v := by
  have hcopy : ∀ {t : TypeRef}, t.CopyOf (.ofParameter v) → .type t ∈ given →
      ∃ u c, Value.type (.ofParameter u) ∈ given ∧ TypeParameter.applyTo u c = .ok v := by
    intro t ht hmem
    cases ht with
    | @ofParameter u _ c hc => exact ⟨u, c, hmem, hc⟩
  cases h with
  | applied h => exact nomatch (TypeRef.applied_eq_ok h).2
  | @parameter c v h => exact .inl ⟨c, h⟩
  | @change u v c h => exact .inr ⟨u, c, List.mem_cons_self, h⟩
  | setNullable h => exact .inr (hcopy (TypeRef.copyOf_of_setNullable h) List.mem_cons_self)
  | annotate h => exact .inr (hcopy (TypeRef.copyOf_of_annotate h) List.mem_cons_self)

/-- A ledger tracks the parameter that a construction makes. -/
theorem Ledger.exists_tracks_of_make {c : Construction} {v : TypeParameter TypeRef}
    (h : TypeParameter.make c = .ok v) : ∃ d, Tracks d v := by
  have hledger : (make c).map settled = .ok v := make_eq_settled c ▸ h
  obtain ⟨d, hd, -⟩ := exists_of_map_eq_ok hledger
  exact ⟨d, .made hd h⟩

/-- The ledger goes on tracking a parameter that is changed. -/
theorem Ledger.Tracks.applyTo {d : Ledger} {v w : TypeParameter TypeRef} {c : Change}
    (h : Tracks d v) (hc : v.applyTo c = .ok w) : Tracks (attempt Ledger.applyTo d c) w := by
  have hattempt : attempt TypeParameter.applyTo v c = w := by
    unfold attempt
    rw [hc]
  exact hattempt ▸ h.attempted c

/-- **A value that is a parameter has a ledger**, as far as the value itself
goes. -/
def Value.HasLedger : Value → Prop
  | .type (.ofParameter v) => ∃ d, Ledger.Tracks d v
  | _ => True

/-- Every step gives a ledger to the parameter it makes. -/
theorem Makes.hasLedger {literals : Bool} {given : List Value} {v : Value}
    (h : Makes literals given v) (hgiven : ∀ u ∈ given, u.HasLedger) : v.HasLedger := by
  match v with
  | .type (.ofParameter v) =>
    obtain ⟨c, hc⟩ | ⟨u, c, hu, hc⟩ := h.parameter_cases
    · exact Ledger.exists_tracks_of_make hc
    · obtain ⟨d, hd⟩ := hgiven _ hu
      exact ⟨_, hd.applyTo hc⟩
  | .type (.ofClass _) | .type (.ofApplied _) | .type (.ofProjected _) | .type (.ofFunction _)
  | .type .dynamic | .annotationUse _ => trivial

/-- **Every obtainable parameter is tracked by a ledger.** -/
theorem Obtainable.exists_tracks {literals : Bool} {v : TypeParameter TypeRef}
    (h : Obtainable literals (.type (.ofParameter v))) : ∃ d, Ledger.Tracks d v :=
  (h.throughout (P := Value.HasLedger)
    (fun hmakes hgiven => hmakes.hasLedger (fun u hu => (hgiven u hu).here))).here

end KotlinTypes
