import Mathlib.Algebra.BigOperators.Group.Finset.Basic
import Mathlib.Algebra.Order.BigOperators.Group.Finset

/-!
# Totals over a finite family

Weights summed over all members of a family, and what happens to the sum when
one member changes.  With a weight of zero or one the total is a head count;
with larger weights it is a termination measure.
-/

namespace Gloc.Transition

universe u v

variable {Member : Type u} [Fintype Member] {Value : Type v}

def total (weight : Value → Nat) (family : Member → Value) : Nat :=
  ∑ member, weight (family member)

theorem total_update [DecidableEq Member] (weight : Value → Nat)
    (family : Member → Value) (member : Member) (value : Value) :
    total weight (Function.update family member value) + weight (family member) =
      total weight family + weight value := by
  unfold total
  rw [← Finset.add_sum_erase _ (fun other => weight (family other))
      (Finset.mem_univ member),
    ← Finset.add_sum_erase _
      (fun other => weight (Function.update family member value other))
      (Finset.mem_univ member)]
  have others : ∑ other ∈ Finset.univ.erase member,
        weight (Function.update family member value other) =
      ∑ other ∈ Finset.univ.erase member, weight (family other) := by
    refine Finset.sum_congr rfl fun other membership => ?_
    rw [Function.update_of_ne (Finset.ne_of_mem_erase membership)]
  rw [others, Function.update_self]
  omega

theorem total_eq_zero_iff {weight : Value → Nat} {family : Member → Value} :
    total weight family = 0 ↔ ∀ member, weight (family member) = 0 := by
  simp [total]

/-- What the members have of a list is the whole list, if everything in it belongs to
one of them. -/
theorem sum_shares {Item Share : Type*} (owner : Item → Member)
    (share : Member → Item → Option Share) (whole : Item → Option Share)
    (own : ∀ item, share (owner item) item = whole item)
    (foreign : ∀ item member, owner item ≠ member → share member item = none)
    (items : List Item) :
    ∑ member, ((items.filterMap (share member) : List Share) : Multiset Share) =
      (items.filterMap whole : List Share) := by
  induction items with
  | nil => simp
  | cons item later inductionHypothesis =>
      have split : ∀ part : Item → Option Share,
          (((item :: later).filterMap part : List Share) : Multiset Share) =
            ((part item).toList : Multiset Share) + (later.filterMap part : List Share) := by
        intro part
        cases found : part item <;> simp [found]
      have one : ∑ member, ((share member item).toList : Multiset Share) =
          ((whole item).toList : Multiset Share) := by
        rw [Finset.sum_eq_single (owner item), own]
        · intro member _ different
          rw [foreign item member (Ne.symm different)]
          rfl
        · exact fun outside => absurd (Finset.mem_univ _) outside
      simp only [split]
      rw [Finset.sum_add_distrib, one, inductionHypothesis]

section Update

variable {Index : Type u} [DecidableEq Index] {family : Index → Value} {member : Index}
  {value : Value}

theorem exists_update (holds : Value → Prop) (kept : holds (family member) → holds value)
    (found : ∃ index, holds (family index)) :
    ∃ index, holds (Function.update family member value index) := by
  obtain ⟨index, property⟩ := found
  by_cases same : index = member
  · subst same
    exact ⟨index, by simpa using kept property⟩
  · exact ⟨index, by simpa [Function.update_of_ne same] using property⟩

theorem exists_of_update (holds : Value → Prop) (old : holds value → holds (family member))
    (found : ∃ index, holds (Function.update family member value index)) :
    ∃ index, holds (family index) := by
  obtain ⟨index, property⟩ := found
  by_cases same : index = member
  · subst same
    exact ⟨index, old (by simpa using property)⟩
  · exact ⟨index, by simpa [Function.update_of_ne same] using property⟩

end Update

end Gloc.Transition
