import Mathlib.Algebra.Order.Field.Basic
import Mathlib.Tactic.FieldSimp
import Mathlib.Tactic.Linarith
import Mathlib.Tactic.Positivity
import Gloc.Signals.Taps

/-!
# Filter banks with two channels

A signal is split by two filters, of each channel every second sample is kept,
and from what has been kept two more filters put the signal together again.
Two filters say what becomes of a signal on this way: the distortion acts on
the signal itself and the alias on its modulation.  If the alias has no tap but
zeros and the distortion is an impulse of two, the signal comes back delayed.
-/

namespace Gloc.Signals

universe u

/-- The filters of a bank: two to take a signal apart, two to put it together. -/
structure FilterBank (R : Type u) where
  lowDecomposition : List R
  highDecomposition : List R
  lowReconstruction : List R
  highReconstruction : List R
  deriving DecidableEq

def downsample {R : Type u} (x : ℤ → R) (n : ℤ) : R := x (2 * n)

def upsample {R : Type u} [Zero R] (y : ℤ → R) (n : ℤ) : R :=
  if Even n then y (n / 2) else 0

theorem two_mul_upsample_downsample {R : Type u} [CommRing R] (x : ℤ → R) (n : ℤ) :
    2 * upsample (downsample x) n = x n + modulate x n := by
  by_cases even : Even n
  · rw [upsample, if_pos even, modulate_of_even x even, downsample,
      Int.mul_ediv_cancel' even.two_dvd, two_mul]
  · rw [upsample, if_neg even, modulate_of_odd x even, mul_zero, add_neg_cancel]

namespace FilterBank

variable {R : Type u} [CommRing R] (bank : FilterBank R)

def decompose (x : ℤ → R) : (ℤ → R) × (ℤ → R) :=
  (downsample (fir bank.lowDecomposition x), downsample (fir bank.highDecomposition x))

def reconstruct (channels : (ℤ → R) × (ℤ → R)) (n : ℤ) : R :=
  fir bank.lowReconstruction (upsample channels.1) n +
    fir bank.highReconstruction (upsample channels.2) n

def roundTrip (x : ℤ → R) : ℤ → R :=
  bank.reconstruct (bank.decompose x)

/-- What the bank makes of a signal, twice. -/
def distortion : List R :=
  addTaps (convolve bank.lowReconstruction bank.lowDecomposition)
    (convolve bank.highReconstruction bank.highDecomposition)

/-- What the bank makes of the modulation of a signal, twice. -/
def aliasing : List R :=
  addTaps (convolve bank.lowReconstruction (alternate bank.lowDecomposition))
    (convolve bank.highReconstruction (alternate bank.highDecomposition))

def map {S : Type*} (f : R → S) : FilterBank S where
  lowDecomposition := bank.lowDecomposition.map f
  highDecomposition := bank.highDecomposition.map f
  lowReconstruction := bank.lowReconstruction.map f
  highReconstruction := bank.highReconstruction.map f

variable (x : ℤ → R) (n : ℤ)

theorem two_mul_channel (decomposition reconstruction : List R) :
    2 * fir reconstruction (upsample (downsample (fir decomposition x))) n =
      fir (convolve reconstruction decomposition) x n +
        fir (convolve reconstruction (alternate decomposition)) (modulate x) n := by
  have samples : ∀ m, 2 * upsample (downsample (fir decomposition x)) m =
      fir decomposition x m + fir (alternate decomposition) (modulate x) m := by
    intro m
    rw [two_mul_upsample_downsample, modulate_fir]
  rw [← fir_mul, fir_congr n samples, fir_add, fir_convolve, fir_convolve]

/-- These two filters say what becomes of every signal on its way through the bank: one
acts on the signal, the other one on its modulation. -/
def Answers (direct aliased : List R) : Prop :=
  ∀ (x : ℤ → R) (n : ℤ),
    2 * bank.roundTrip x n = fir direct x n + fir aliased (modulate x) n

theorem answers : bank.Answers bank.distortion bank.aliasing := by
  intro x n
  rw [distortion, aliasing, fir_addTaps, fir_addTaps, roundTrip, reconstruct, decompose, mul_add,
    two_mul_channel, two_mul_channel]
  ring

/-- A bank in which two samples can be halved treats a delayed signal as a delay of the
signal exactly if its alias has no tap but zeros. -/
theorem Answers.delayed_iff {bank : FilterBank R} {direct aliased : List R}
    (answers : bank.Answers direct aliased) (halves : ∀ a b : R, 2 * a = 2 * b → a = b) :
    (∀ (x : ℤ → R) (n : ℤ), bank.roundTrip (fun m => x (m - 1)) n = bank.roundTrip x (n - 1)) ↔
      ∀ tap ∈ aliased, tap = 0 := by
  -- the alias acts on the modulation, which changes its sign with every delay
  have apart : ∀ (x : ℤ → R) (n : ℤ),
      2 * bank.roundTrip (fun m => x (m - 1)) n - 2 * bank.roundTrip x (n - 1) =
        -(2 * fir aliased (modulate x) (n - 1)) := by
    intro x n
    have turned : fir aliased (modulate fun m => x (m - 1)) n =
        -fir aliased (modulate x) (n - 1) := by
      rw [← fir_delayed, ← neg_one_mul, ← fir_mul]
      refine fir_congr n fun m => ?_
      rw [modulate_sub_one, neg_one_mul, neg_neg]
    rw [answers, answers, fir_delayed, turned]
    ring
  rw [← fir_eq_zero_iff]
  constructor
  · intro delayed x n
    have silent := apart (modulate x) (n + 1)
    rw [delayed, sub_self, add_sub_cancel_right, modulate_modulate, eq_comm, neg_eq_zero]
      at silent
    exact halves _ _ (silent.trans (mul_zero 2).symm)
  · intro silent x n
    have same := apart x n
    rw [silent, mul_zero, neg_zero, sub_eq_zero] at same
    exact halves _ _ same

section Mirrors

variable (decomposition reconstruction : List R)

/-- The bank whose high-pass filters are the low-pass filters of the opposite side with
alternating signs. -/
def mirror : FilterBank R where
  lowDecomposition := decomposition
  highDecomposition := (alternate reconstruction).map (-·)
  lowReconstruction := reconstruction
  highReconstruction := alternate decomposition

/-- Twice the odd taps of the two low-pass filters, one after the other. -/
def oddTaps : List R :=
  addTaps (convolve reconstruction decomposition)
    ((alternate (convolve reconstruction decomposition)).map (-·))

/-- In such a bank the aliases of the two channels cancel. -/
theorem mirror_answers :
    (mirror decomposition reconstruction).Answers (oddTaps decomposition reconstruction) [] := by
  intro x n
  have direct : fir (alternate reconstruction) (fir (alternate decomposition) x) =
      fir (alternate (convolve reconstruction decomposition)) x := by
    have convolved : fir (convolve reconstruction decomposition) (modulate x) =
        fir reconstruction (fir decomposition (modulate x)) :=
      funext fun m => fir_convolve _ m _ _
    rw [fir_alternate, fir_alternate, modulate_modulate, fir_alternate, convolved]
  have negated : ∀ (taps : List R) (y : ℤ → R),
      fir (convolve (alternate decomposition) (taps.map (-·))) y n =
        -fir taps (fir (alternate decomposition) y) n := by
    intro taps y
    rw [fir_convolve, fir_comm, fir_map_neg]
  rw [answers, distortion, aliasing, mirror]
  simp only [alternate_map_neg, alternate_alternate]
  rw [oddTaps, fir_addTaps, fir_addTaps, fir_addTaps, negated, negated, fir_map_neg, direct,
    fir_convolve (modulate x), fir_nil]
  ring

end Mirrors

theorem map_distortion {S : Type*} [CommRing S] (φ : R →+* S) :
    bank.distortion.map φ = (bank.map φ).distortion := by
  rw [distortion, distortion, map_addTaps, map_convolve, map_convolve]
  rfl

theorem map_aliasing {S : Type*} [CommRing S] (φ : R →+* S) :
    bank.aliasing.map φ = (bank.map φ).aliasing := by
  rw [aliasing, aliasing, map_addTaps, map_convolve, map_convolve, map_alternate, map_alternate]
  rfl

theorem roundTrip_scaled (amplitude : R) :
    (bank.map (amplitude * ·)).roundTrip x n = amplitude ^ 2 * bank.roundTrip x n := by
  have channel : ∀ decomposition reconstruction : List R,
      fir (reconstruction.map (amplitude * ·))
          (upsample (downsample (fir (decomposition.map (amplitude * ·)) x))) n =
        amplitude ^ 2 * fir reconstruction (upsample (downsample (fir decomposition x))) n := by
    intro decomposition reconstruction
    have louder : ∀ m, upsample (downsample (fir (decomposition.map (amplitude * ·)) x)) m =
        amplitude * upsample (downsample (fir decomposition x)) m := by
      intro m
      unfold upsample downsample
      by_cases even : Even m
      · rw [if_pos even, if_pos even, fir_map_mul]
      · rw [if_neg even, if_neg even, mul_zero]
    rw [fir_map_mul, fir_congr n louder, fir_mul]
    ring
  rw [roundTrip, reconstruct, decompose, roundTrip, reconstruct, decompose, mul_add]
  exact congrArg₂ (· + ·) (channel _ _) (channel _ _)

theorem map_mirror {S : Type*} [CommRing S] (φ : R →+* S) (decomposition reconstruction : List R) :
    (mirror decomposition reconstruction).map φ =
      mirror (decomposition.map φ) (reconstruction.map φ) := by
  rw [mirror, mirror, map, map_alternate, map_negated, map_alternate]

theorem map_oddTaps {S : Type*} [CommRing S] (φ : R →+* S) (decomposition reconstruction : List R) :
    (oddTaps decomposition reconstruction).map φ =
      oddTaps (decomposition.map φ) (reconstruction.map φ) := by
  rw [oddTaps, oddTaps, map_addTaps, map_negated, map_alternate, map_convolve]

section Error

variable {K : Type*} [Field K] [LinearOrder K] [IsStrictOrderedRing K]

/-- How far a bounded signal is from itself, delayed, after a bank whose taps are integers
in units of a common scale. -/
theorem Answers.abs_sub_le {bank : FilterBank ℤ} {direct aliased : List ℤ}
    (answers : (bank.map (Int.castRingHom K)).Answers (direct.map (Int.castRingHom K))
      (aliased.map (Int.castRingHom K))) {scale : ℤ} (positive : 0 < scale) (delay : Nat)
    {x : ℤ → K} {bound : K} (bounded : ∀ n, |x n| ≤ bound) (n : ℤ) :
    |(bank.map fun tap : ℤ => (tap : K) / scale).roundTrip x n - x (n - delay)| ≤
      ((size (addTaps direct (impulse (-(2 * scale ^ 2)) delay)) + size aliased : ℤ) : K) /
        (2 * scale ^ 2) * bound := by
  have unit : (0 : K) < scale := by exact_mod_cast positive
  have scaled : (bank.map fun tap : ℤ => (tap : K) / scale) =
      (bank.map (Int.castRingHom K)).map ((1 / (scale : K)) * ·) := by
    simp [map, div_eq_inv_mul]
  have cancelled : 2 * (scale : K) ^ 2 *
      ((1 / (scale : K)) ^ 2 * (bank.map (Int.castRingHom K)).roundTrip x n) =
        2 * (bank.map (Int.castRingHom K)).roundTrip x n := by
    field_simp
  have exactly : 2 * (scale : K) ^ 2 *
      ((bank.map fun tap : ℤ => (tap : K) / scale).roundTrip x n - x (n - delay)) =
        fir ((addTaps direct (impulse (-(2 * scale ^ 2)) delay)).map (Int.castRingHom K)) x n +
          fir (aliased.map (Int.castRingHom K)) (modulate x) n := by
    rw [scaled, roundTrip_scaled, mul_sub, cancelled, answers, map_addTaps, map_impulse,
      fir_addTaps, fir_impulse, eq_intCast]
    push_cast
    ring
  have total : |2 * (scale : K) ^ 2 *
      ((bank.map fun tap : ℤ => (tap : K) / scale).roundTrip x n - x (n - delay))| ≤
        ((size (addTaps direct (impulse (-(2 * scale ^ 2)) delay)) + size aliased : ℤ) : K) *
          bound := by
    have own := abs_fir_le bounded
      ((addTaps direct (impulse (-(2 * scale ^ 2)) delay)).map (Int.castRingHom K)) n
    have other := abs_fir_le (fun n => (abs_modulate x n).trans_le (bounded n))
      (aliased.map (Int.castRingHom K)) n
    rw [size_map_intCast] at own other
    rw [exactly]
    calc _ ≤ _ := abs_add_le _ _
      _ ≤ _ := add_le_add own other
      _ = _ := by push_cast; ring
  have room : (0 : K) < 2 * scale ^ 2 := by positivity
  rw [abs_mul, abs_of_pos room] at total
  rw [div_mul_eq_mul_div, le_div_iff₀ room]
  linarith

end Error

end FilterBank

end Gloc.Signals
