import Gloc.Transition.Loops
import Mathlib.Algebra.BigOperators.Fin
import Mathlib.Algebra.BigOperators.Ring.Finset

/-!
# Polynomials

`Polynome` keeps the coefficients of a polynomial, the one of the highest power
first, and evaluates them with the scheme of Horner.
-/

namespace Gloc.Math

open Gloc.Transition

universe u

structure Polynome (real : Type u) where
  parameter : List real

variable {real : Type u} [Semiring real]

namespace Polynome

/-- `operator() (x)`, unless it reads beyond the parameters.  The bound of the loop
does not wrap around, since there is a first parameter when it is computed. -/
def evaluate (poly : Polynome real) (x : real) : Option real :=
  (poly.parameter[0]?).bind fun val =>
    (List.range (poly.parameter.length - 1)).foldlM (fun val i =>
      (poly.parameter[i + 1]?).map fun coefficient => val * x + coefficient) val

end Polynome

theorem horner_step (coefficient : Nat → real) (x : real) (n : Nat) :
    (∑ j ∈ Finset.range (n + 1), coefficient j * x ^ (n - j)) * x + coefficient (n + 1) =
      ∑ j ∈ Finset.range (n + 1 + 1), coefficient j * x ^ (n + 1 - j) := by
  rw [Finset.sum_range_succ _ (n + 1), Nat.sub_self, pow_zero, mul_one, Finset.sum_mul]
  congr 1
  apply Finset.sum_congr rfl
  intro j membership
  have below : j ≤ n := Nat.lt_succ_iff.mp (Finset.mem_range.mp membership)
  rw [mul_assoc, ← pow_succ, Nat.succ_sub below]

/-- After `n` rounds the value is that of the polynomial of the first `n + 1` parameters. -/
theorem horner_rounds {parameter : List real} {coefficient : Nat → real} {n : Nat}
    (stored : ∀ j, j < n + 1 → parameter[j]? = some (coefficient j)) (x : real) :
    (List.range n).foldlM (fun val i =>
        (parameter[i + 1]?).map fun coefficient => val * x + coefficient) (coefficient 0) =
      some (∑ j ∈ Finset.range (n + 1), coefficient j * x ^ (n - j)) := by
  obtain ⟨val, done, total⟩ := @foldlM_range real n
    (fun val i => (parameter[i + 1]?).map fun coefficient => val * x + coefficient)
    (fun i val => val = ∑ j ∈ Finset.range (i + 1), coefficient j * x ^ (i - j))
    (by
      intro i val below holds
      refine ⟨val * x + coefficient (i + 1), ?_, ?_⟩
      · rw [stored (i + 1) (Nat.succ_lt_succ below), Option.map_some]
      · rw [holds]
        exact horner_step coefficient x i)
    (coefficient 0)
    (by rw [Finset.sum_range_one, Nat.sub_self, pow_zero, mul_one])
  rw [done, total]

/-- `operator()` reads parameters that exist, and returns
`p_0 * x ^ n + p_1 * x ^ (n - 1) + ... + p_n`. -/
theorem Polynome.evaluate_eq {parameter : List real} (nonempty : parameter ≠ []) (x : real) :
    (Polynome.mk parameter).evaluate x =
      some (∑ i : Fin parameter.length, parameter.get i * x ^ (parameter.length - 1 - i)) := by
  have positive : 0 < parameter.length := List.length_pos_of_ne_nil nonempty
  have whole : parameter.length - 1 + 1 = parameter.length := Nat.sub_add_cancel positive
  have coefficient : ∀ (j : Nat) (inside : j < parameter.length),
      parameter.getD j 0 = parameter[j] := by
    intro j inside
    rw [List.getD_eq_getElem?_getD, List.getElem?_eq_getElem inside, Option.getD_some]
  have stored : ∀ j, j < parameter.length - 1 + 1 →
      parameter[j]? = some (parameter.getD j 0) := by
    intro j inside
    rw [whole] at inside
    rw [coefficient j inside, List.getElem?_eq_getElem inside]
  unfold evaluate
  rw [stored 0 (Nat.zero_lt_succ _), Option.bind_some, horner_rounds stored, whole,
    ← Fin.sum_univ_eq_sum_range fun j => parameter.getD j 0 * x ^ (parameter.length - 1 - j)]
  apply congrArg
  apply Finset.sum_congr rfl
  intro i _
  rw [coefficient i i.isLt, List.get_eq_getElem]

theorem Polynome.evaluate_eq_digits :
    (Polynome.mk [7, 0, 2, 1] : Polynome Int).evaluate 10 = some 7021 := by
  rw [Polynome.evaluate_eq (by decide)]
  rfl

end Gloc.Math
