import Mathlib.Algebra.Order.Field.Rat
import Mathlib.Tactic.Linarith
import Mathlib.Tactic.NormNum

/-!
# Coefficients of filters

The floating-point literals of the source, digit by digit, and a branch of
`filtcoef` with its four tables.
-/

namespace Gloc.Wavelets

universe u

/-- The number `digits / 10 ^ scale`. -/
structure Literal where
  digits : Int
  scale : Nat
  deriving DecidableEq, Repr

instance : OfScientific Literal where
  ofScientific mantissa negative exponent :=
    if negative then
      { digits := mantissa
        scale := exponent }
    else
      { digits := mantissa * 10 ^ exponent
        scale := 0 }

instance : Neg Literal where
  neg literal :=
    { digits := -literal.digits
      scale := literal.scale }

namespace Literal

def value (literal : Literal) : ℚ :=
  literal.digits / 10 ^ literal.scale

def IsLow (literal : Literal) : Prop :=
  100 * literal.digits ≤ -10 ^ literal.scale

def IsHigh (literal : Literal) : Prop :=
  10 ^ literal.scale ≤ 100 * literal.digits

instance (literal : Literal) : Decidable literal.IsLow := Int.decLe ..

instance (literal : Literal) : Decidable literal.IsHigh := Int.decLe ..

theorem value_le {literal : Literal} (low : literal.IsLow) : literal.value ≤ -(1 / 100) := by
  have scaled : (100 * literal.digits : ℚ) ≤ -10 ^ literal.scale := by exact_mod_cast low
  unfold value
  rw [div_le_iff₀ (by positivity)]
  linarith

theorem le_value {literal : Literal} (high : literal.IsHigh) : 1 / 100 ≤ literal.value := by
  have scaled : (10 ^ literal.scale : ℚ) ≤ 100 * literal.digits := by exact_mod_cast high
  unfold value
  rw [le_div_iff₀ (by positivity)]
  linarith

end Literal

/-- The conversion of a literal to the element type keeps numbers apart that are on
different sides of zero. -/
def Separates {real : Type u} (convert : ℚ → real) : Prop :=
  ∀ x y, x ≤ -(1 / 100) → 1 / 100 ≤ y → convert x ≠ convert y

/-- A branch of `filtcoef`: its tables, the bound of its loop, and what it returns. -/
structure Branch where
  lp1A : List Literal
  hp1A : List Literal
  lp2A : List Literal
  hp2A : List Literal
  bound : Nat
  result : Nat

namespace Branch

def Complete (branch : Branch) : Prop :=
  branch.lp1A.length = branch.bound ∧ branch.hp1A.length = branch.bound ∧
    branch.lp2A.length = branch.bound ∧ branch.hp2A.length = branch.bound ∧
    branch.result = branch.bound

instance (branch : Branch) : Decidable branch.Complete := by
  unfold Complete
  infer_instance

def Opposed (branch : Branch) : Prop :=
  ∃ pair ∈ branch.lp1A.zip branch.hp1A,
    pair.1.IsLow ∧ pair.2.IsHigh ∨ pair.2.IsLow ∧ pair.1.IsHigh

instance (branch : Branch) : Decidable branch.Opposed := by
  unfold Opposed
  infer_instance

end Branch

theorem eq_of_map_eq {α β : Type*} {f : α → β} {left right : List α}
    (same : left.map f = right.map f) :
    ∀ pair ∈ left.zip right, f pair.1 = f pair.2 := by
  induction left generalizing right with
  | nil =>
      intro pair membership
      cases membership
  | cons head tail inductionHypothesis =>
      cases right with
      | nil => cases same
      | cons other others =>
          rw [List.map_cons, List.map_cons, List.cons.injEq] at same
          intro pair membership
          rcases List.mem_cons.mp membership with rfl | later
          · exact same.1
          · exact inductionHypothesis same.2 pair later

theorem Branch.Opposed.map_ne {real : Type u} {convert : ℚ → real} {branch : Branch}
    (opposed : branch.Opposed) (separates : Separates convert) :
    branch.hp1A.map (fun literal => convert literal.value) ≠
      branch.lp1A.map fun literal => convert literal.value := by
  intro same
  obtain ⟨pair, membership, signs⟩ := opposed
  have equal := eq_of_map_eq same.symm pair membership
  rcases signs with ⟨low, high⟩ | ⟨low, high⟩
  · exact separates _ _ (Literal.value_le low) (Literal.le_value high) equal
  · exact separates _ _ (Literal.value_le low) (Literal.le_value high) equal.symm

end Gloc.Wavelets
