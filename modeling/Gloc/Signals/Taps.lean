import Mathlib.Algebra.Order.Ring.Abs
import Mathlib.Algebra.Group.Int.Even
import Mathlib.Tactic.Abel
import Mathlib.Tactic.LinearCombination
import Mathlib.Tactic.Ring

/-!
# Filters with finitely many taps

Signals are functions on the integers, and a filter is the list of its taps.
Filters can be added, multiplied and alternated without a look at the signals,
and everything is computed by recursion on the list, so that what a filter does
to every signal can be decided on its taps.
-/

namespace Gloc.Signals

universe u

variable {R : Type u} [CommRing R]

def fir : List R → (ℤ → R) → ℤ → R
  | [], _, _ => 0
  | tap :: later, x, n => tap * x n + fir later x (n - 1)

def addTaps : List R → List R → List R
  | [], others => others
  | taps, [] => taps
  | tap :: later, other :: others => (tap + other) :: addTaps later others

def convolve : List R → List R → List R
  | [], _ => []
  | tap :: later, others => addTaps (others.map (tap * ·)) (0 :: convolve later others)

def alternate : List R → List R
  | [] => []
  | tap :: later => tap :: (alternate later).map (-·)

def impulse (amplitude : R) (delay : Nat) : List R :=
  List.replicate delay 0 ++ [amplitude]

def modulate (x : ℤ → R) (n : ℤ) : R :=
  if Even n then x n else -x n

theorem map_neg_neg (taps : List R) : (taps.map (-·)).map (-·) = taps := by
  simp

theorem alternate_map_neg (taps : List R) :
    alternate (taps.map (-·)) = (alternate taps).map (-·) := by
  induction taps with
  | nil => rfl
  | cons tap later inductionHypothesis =>
      rw [List.map_cons, alternate, inductionHypothesis, alternate, List.map_cons]

@[simp]
theorem alternate_alternate (taps : List R) : alternate (alternate taps) = taps := by
  induction taps with
  | nil => rfl
  | cons tap later inductionHypothesis =>
      rw [alternate, alternate, alternate_map_neg, inductionHypothesis, map_neg_neg]

variable (x : ℤ → R) (n : ℤ)

@[simp]
theorem fir_nil : fir ([] : List R) x n = 0 := rfl

theorem fir_cons (tap : R) (later : List R) :
    fir (tap :: later) x n = tap * x n + fir later x (n - 1) := rfl

theorem fir_addTaps (taps others : List R) :
    fir (addTaps taps others) x n = fir taps x n + fir others x n := by
  induction taps generalizing others n with
  | nil => rw [addTaps, fir_nil, zero_add]
  | cons tap later inductionHypothesis =>
      cases others with
      | nil =>
          rw [fir_nil, add_zero]
          rfl
      | cons other others =>
          rw [addTaps, fir_cons, inductionHypothesis, fir_cons, fir_cons]
          ring

theorem fir_map_mul (amplitude : R) (taps : List R) :
    fir (taps.map (amplitude * ·)) x n = amplitude * fir taps x n := by
  induction taps generalizing n with
  | nil => rw [List.map_nil, fir_nil, mul_zero]
  | cons tap later inductionHypothesis =>
      rw [List.map_cons, fir_cons, inductionHypothesis, fir_cons]
      ring

theorem fir_map_neg (taps : List R) : fir (taps.map (-·)) x n = -fir taps x n := by
  have scaled := fir_map_mul x n (-1) taps
  simpa using scaled

theorem fir_convolve (taps others : List R) :
    fir (convolve taps others) x n = fir taps (fir others x) n := by
  induction taps generalizing n with
  | nil => rfl
  | cons tap later inductionHypothesis =>
      rw [convolve, fir_addTaps, fir_map_mul, fir_cons, zero_mul, zero_add,
        inductionHypothesis, fir_cons]

theorem fir_impulse (amplitude : R) (delay : Nat) :
    fir (impulse amplitude delay) x n = amplitude * x (n - delay) := by
  induction delay generalizing n with
  | zero => simp [impulse, fir_cons]
  | succ delay inductionHypothesis =>
      have earlier : n - ((delay + 1 : Nat) : ℤ) = n - 1 - delay := by push_cast; ring
      have first : impulse amplitude (delay + 1) = 0 :: impulse amplitude delay := rfl
      rw [first, fir_cons, zero_mul, zero_add, inductionHypothesis, earlier]

theorem fir_delayed (taps : List R) (delay : ℤ) :
    fir taps (fun m => x (m - delay)) n = fir taps x (n - delay) := by
  induction taps generalizing n with
  | nil => rfl
  | cons tap later inductionHypothesis =>
      rw [fir_cons, fir_cons, inductionHypothesis, sub_right_comm]

variable {x} in
theorem fir_congr {taps : List R} {y : ℤ → R} (same : ∀ n, x n = y n) :
    fir taps x n = fir taps y n := by
  rw [funext same]

theorem fir_mul (taps : List R) (amplitude : R) :
    fir taps (fun n => amplitude * x n) n = amplitude * fir taps x n := by
  induction taps generalizing n with
  | nil => rw [fir_nil, fir_nil, mul_zero]
  | cons tap later inductionHypothesis =>
      rw [fir_cons, fir_cons, inductionHypothesis]
      ring

theorem fir_add (taps : List R) (y : ℤ → R) :
    fir taps (fun n => x n + y n) n = fir taps x n + fir taps y n := by
  induction taps generalizing n with
  | nil => rw [fir_nil, fir_nil, fir_nil, add_zero]
  | cons tap later inductionHypothesis =>
      rw [fir_cons, fir_cons, fir_cons, inductionHypothesis]
      ring

theorem modulate_of_even {n : ℤ} (even : Even n) : modulate x n = x n := if_pos even

theorem modulate_of_odd {n : ℤ} (odd : ¬ Even n) : modulate x n = -x n := if_neg odd

theorem modulate_sub_one : modulate x (n - 1) = -modulate (fun m => x (m - 1)) n := by
  by_cases even : Even n
  · rw [modulate_of_odd x (fun before => Int.even_sub_one.mp before even), modulate_of_even _ even]
  · rw [modulate_of_even x (Int.even_sub_one.mpr even), modulate_of_odd _ even, neg_neg]

theorem modulate_fir (taps : List R) :
    modulate (fir taps x) n = fir (alternate taps) (modulate x) n := by
  induction taps generalizing n with
  | nil =>
      rw [alternate, fir_nil, modulate, fir_nil, neg_zero, ite_self]
  | cons tap later inductionHypothesis =>
      rw [alternate, fir_cons, fir_map_neg, ← inductionHypothesis, modulate_sub_one, neg_neg]
      by_cases even : Even n
      · rw [modulate_of_even _ even, modulate_of_even _ even, modulate_of_even _ even, fir_cons]
      · rw [modulate_of_odd _ even, modulate_of_odd _ even, modulate_of_odd _ even, fir_cons]
        ring

@[simp]
theorem modulate_modulate : modulate (modulate x) = x := by
  funext n
  by_cases even : Even n
  · rw [modulate_of_even _ even, modulate_of_even _ even]
  · rw [modulate_of_odd _ even, modulate_of_odd _ even, neg_neg]

theorem fir_alternate (taps : List R) :
    fir (alternate taps) x = modulate (fir taps (modulate x)) := by
  funext n
  rw [modulate_fir, modulate_modulate]

theorem fir_comm (taps others : List R) : fir taps (fir others x) = fir others (fir taps x) := by
  induction taps with
  | nil =>
      funext n
      have silent := fir_mul x n others 0
      simp only [zero_mul] at silent
      exact silent.symm
  | cons tap later inductionHypothesis =>
      funext n
      have apart : ∀ m, fir (tap :: later) x m = tap * x m + fir later x (m - 1) :=
        fun m => fir_cons x m tap later
      rw [fir_cons, inductionHypothesis, fir_congr n apart,
        fir_add (fun m => tap * x m) n others, fir_mul, fir_delayed]

def single (place : ℤ) (n : ℤ) : R :=
  if n = place then 1 else 0

variable {x n}

theorem fir_single_of_lt {place : ℤ} (before : n < place) (taps : List R) :
    fir taps (single place) n = 0 := by
  induction taps generalizing n with
  | nil => rfl
  | cons tap later inductionHypothesis =>
      rw [fir_cons, single, if_neg before.ne, mul_zero, zero_add,
        inductionHypothesis (by omega)]

theorem fir_single {taps : List R} {k : Nat} (below : k < taps.length) :
    fir taps (single (n - k)) n = taps[k] := by
  induction taps generalizing n k with
  | nil => cases below
  | cons tap later inductionHypothesis =>
      cases k with
      | zero =>
          rw [Nat.cast_zero, sub_zero, fir_cons, fir_single_of_lt (by omega), single, if_pos rfl,
            mul_one, add_zero]
          rfl
      | succ k =>
          have late : n - ((k + 1 : Nat) : ℤ) = n - 1 - k := by push_cast; ring
          rw [fir_cons, late, inductionHypothesis (Nat.lt_of_succ_lt_succ below), single,
            if_neg (by omega), mul_zero, zero_add]
          rfl

/-- A filter does nothing to any signal only if it has no tap but zeros. -/
theorem fir_eq_zero_iff (taps : List R) :
    (∀ (x : ℤ → R) (n : ℤ), fir taps x n = 0) ↔ ∀ tap ∈ taps, tap = 0 := by
  constructor
  · intro vanishes tap membership
    obtain ⟨k, below, rfl⟩ := List.mem_iff_getElem.mp membership
    rw [← fir_single (n := 0) below]
    exact vanishes _ _
  · intro zeros x n
    induction taps generalizing n with
    | nil => rfl
    | cons tap later inductionHypothesis =>
        rw [fir_cons, zeros tap List.mem_cons_self, zero_mul, zero_add,
          inductionHypothesis fun tap membership => zeros tap (List.mem_cons_of_mem _ membership)]

section Map

variable {S : Type*} [CommRing S] (φ : R →+* S)

theorem map_addTaps (taps others : List R) :
    (addTaps taps others).map φ = addTaps (taps.map φ) (others.map φ) := by
  induction taps generalizing others with
  | nil => rfl
  | cons tap later inductionHypothesis =>
      cases others with
      | nil => rfl
      | cons other others =>
          rw [addTaps, List.map_cons, inductionHypothesis, map_add]
          rfl

theorem map_convolve (taps others : List R) :
    (convolve taps others).map φ = convolve (taps.map φ) (others.map φ) := by
  induction taps with
  | nil => rfl
  | cons tap later inductionHypothesis =>
      have scaled : (others.map (tap * ·)).map φ = (others.map φ).map (φ tap * ·) := by
        rw [List.map_map, List.map_map]
        exact List.map_congr_left fun other _ => map_mul φ tap other
      rw [convolve, map_addTaps, scaled, List.map_cons, map_zero, inductionHypothesis]
      rfl

theorem map_negated (taps : List R) : (taps.map (-·)).map φ = (taps.map φ).map (-·) := by
  rw [List.map_map, List.map_map]
  exact List.map_congr_left fun tap _ => map_neg φ tap

theorem map_alternate (taps : List R) :
    (alternate taps).map φ = alternate (taps.map φ) := by
  induction taps with
  | nil => rfl
  | cons tap later inductionHypothesis =>
      rw [alternate, List.map_cons, map_negated, inductionHypothesis]
      rfl

theorem map_impulse (amplitude : R) (delay : Nat) :
    (impulse amplitude delay).map φ = impulse (φ amplitude) delay := by
  simp [impulse]

end Map

section Size

variable {K : Type*} [CommRing K] [LinearOrder K] [IsStrictOrderedRing K]

/-- The sum of the absolute values of the taps. -/
def size (taps : List K) : K :=
  (taps.map (|·|)).sum

theorem abs_fir_le {x : ℤ → K} {bound : K} (bounded : ∀ n, |x n| ≤ bound) (taps : List K)
    (n : ℤ) : |fir taps x n| ≤ size taps * bound := by
  induction taps generalizing n with
  | nil => simp [size]
  | cons tap later inductionHypothesis =>
      have first : |tap * x n| ≤ |tap| * bound := by
        rw [abs_mul]
        exact mul_le_mul_of_nonneg_left (bounded n) (abs_nonneg tap)
      calc |fir (tap :: later) x n| ≤ |tap * x n| + |fir later x (n - 1)| := abs_add_le _ _
        _ ≤ |tap| * bound + size later * bound := add_le_add first (inductionHypothesis (n - 1))
        _ = size (tap :: later) * bound := by rw [size, size, List.map_cons, List.sum_cons, add_mul]

omit [IsStrictOrderedRing K] in
theorem abs_modulate (x : ℤ → K) (n : ℤ) : |modulate x n| = |x n| := by
  by_cases even : Even n
  · rw [modulate_of_even _ even]
  · rw [modulate_of_odd _ even, abs_neg]

theorem size_map_intCast (taps : List ℤ) :
    size (taps.map (Int.castRingHom K)) = (size taps : ℤ) := by
  induction taps with
  | nil => simp [size]
  | cons tap later inductionHypothesis =>
      unfold size at inductionHypothesis ⊢
      rw [List.map_cons, List.map_cons, List.sum_cons, inductionHypothesis, List.map_cons,
        List.sum_cons]
      push_cast
      rfl

end Size

end Gloc.Signals
