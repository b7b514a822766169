import Mathlib.Data.List.Basic

/-!
# Counting loops

A loop over the numbers below a bound whose body may fail, as in
`for (size_t i = 0; i < n; ++i)`.
-/

namespace Gloc.Transition

universe u

/-- The rule for counting loops: a loop completes if no round that starts under
the invariant fails, and the invariant holds after the last round. -/
theorem foldlM_range {State : Type u} {n : Nat} {body : State → Nat → Option State}
    (holds : Nat → State → Prop)
    (round : ∀ {i state}, i < n → holds i state →
      ∃ next, body state i = some next ∧ holds (i + 1) next)
    {state : State} (initially : holds 0 state) :
    ∃ last, (List.range n).foldlM body state = some last ∧ holds n last := by
  induction n with
  | zero => exact ⟨state, rfl, initially⟩
  | succ n inductionHypothesis =>
      obtain ⟨middle, reached, holds⟩ := inductionHypothesis fun below => round (by omega)
      obtain ⟨last, taken, holds⟩ := round (by omega) holds
      refine ⟨last, ?_, holds⟩
      rw [List.range_succ, List.foldlM_append, reached]
      simpa using taken

end Gloc.Transition
