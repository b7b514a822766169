import Mathlib.Data.Real.Basic
import Gloc.Signals.FilterBanks
import Gloc.Wavelets.Filters

/-!
# What the tables of the wavelets are good for

The four vectors of a `Wavelet` are the filters of a bank with two channels.
Read as the decimal numbers that they are written as, the tables of every
listed name put a signal together again, but for an error that the digits of
the tables account for; and they treat all samples alike, but for one name.
-/

namespace Gloc.Wavelets

open Gloc.Signals

def Wavelet.bank {real : Type*} (wavelet : Wavelet real) : FilterBank real where
  lowDecomposition := wavelet.lowPassDecomposition
  highDecomposition := wavelet.highPassDecomposition
  lowReconstruction := wavelet.lowPassReconstruction
  highReconstruction := wavelet.highPassReconstruction

/-- No literal has more decimal places. -/
def places : Nat := 24

def Literal.whole (literal : Literal) : ℤ :=
  literal.digits * 10 ^ (places - literal.scale)

namespace Branch

/-- The tables of a branch in units of the last decimal place. -/
def bank (branch : Branch) : FilterBank ℤ where
  lowDecomposition := branch.lp1A.map Literal.whole
  highDecomposition := branch.hp1A.map Literal.whole
  lowReconstruction := branch.lp2A.map Literal.whole
  highReconstruction := branch.hp2A.map Literal.whole

def Placed (branch : Branch) : Prop :=
  ∀ literal ∈ branch.lp1A ++ branch.hp1A ++ branch.lp2A ++ branch.hp2A, literal.scale ≤ places

instance (branch : Branch) : Decidable branch.Placed := by
  unfold Placed
  infer_instance

/-- The high-pass tables are the low-pass tables of the opposite side with alternating
signs. -/
def Mirrored (branch : Branch) : Prop :=
  branch.bank = .mirror branch.bank.lowDecomposition branch.bank.lowReconstruction

instance (branch : Branch) : Decidable branch.Mirrored := by
  unfold Mirrored
  infer_instance

def direct (branch : Branch) : List ℤ :=
  if branch.Mirrored then
    FilterBank.oddTaps branch.bank.lowDecomposition branch.bank.lowReconstruction
  else branch.bank.distortion

/-- What the bank of a branch makes of the modulation of a signal, twice. -/
def aliased (branch : Branch) : List ℤ :=
  if branch.Mirrored then [] else branch.bank.aliasing

/-- The error of the reconstruction is at most this fraction of the signal. -/
def Within (fraction : ℤ) (branch : Branch) : Prop :=
  fraction * (size (addTaps branch.direct
    (impulse (-(2 * (10 ^ places) ^ 2)) (branch.bound - 1))) + size branch.aliased) ≤
      2 * (10 ^ places) ^ 2

instance (fraction : ℤ) (branch : Branch) : Decidable (branch.Within fraction) := Int.decLe ..

end Branch

theorem filtcoefBranches_placed : ∀ branch ∈ filtcoefBranches, branch.2.Placed := by
  decide +kernel

theorem filtcoefBranches_mirrored : ∀ branch ∈ filtcoefBranches,
    branch.2.Mirrored ∨ "db7" ∈ branch.1 := by
  decide +kernel

theorem filtcoefBranches_within : ∀ branch ∈ filtcoefBranches,
    branch.2.Within (if "haar" ∈ branch.1 then 50000 else 30000000) := by
  decide +kernel

theorem db7_aliased : ¬ ∀ tap ∈ db7.aliased, tap = 0 := by
  decide +kernel

theorem Literal.cast_value {literal : Literal} (placed : literal.scale ≤ places) :
    ((literal.value : ℚ) : ℝ) = (literal.whole : ℝ) / ((10 ^ places : ℤ) : ℝ) := by
  obtain ⟨spare, split⟩ := Nat.exists_eq_add_of_le placed
  have rest : places - literal.scale = spare := by omega
  rw [Literal.value, Literal.whole, rest, split]
  push_cast
  rw [pow_add, mul_div_mul_right _ _ (by positivity)]

theorem converted_eq {table : List Literal} (placed : ∀ literal ∈ table, literal.scale ≤ places) :
    converted (fun number : ℚ => (number : ℝ)) table =
      (table.map Literal.whole).map fun tap : ℤ => (tap : ℝ) / ((10 ^ places : ℤ) : ℝ) := by
  rw [converted, List.map_map]
  exact List.map_congr_left fun literal membership => Literal.cast_value (placed literal membership)

namespace Branch

variable {branch : Branch}

theorem Mirrored.answers {R : Type*} [CommRing R] (φ : ℤ →+* R) (mirrored : branch.Mirrored) :
    (branch.bank.map φ).Answers (branch.direct.map φ) (branch.aliased.map φ) := by
  rw [direct, if_pos mirrored, aliased, if_pos mirrored, FilterBank.map_oddTaps]
  rw [Mirrored] at mirrored
  rw [mirrored, FilterBank.map_mirror]
  exact FilterBank.mirror_answers _ _

/-- What the two lists of taps say about a branch, they say about every signal. -/
theorem answers {R : Type*} [CommRing R] (φ : ℤ →+* R) (branch : Branch) :
    (branch.bank.map φ).Answers (branch.direct.map φ) (branch.aliased.map φ) := by
  by_cases mirrored : branch.Mirrored
  · exact mirrored.answers φ
  · rw [direct, if_neg mirrored, aliased, if_neg mirrored, FilterBank.map_distortion,
      FilterBank.map_aliasing]
    exact FilterBank.answers _

theorem Within.abs_sub_le {fraction : ℤ} (positive : 0 < fraction)
    (within : branch.Within fraction) {x : ℤ → ℝ} {bound : ℝ} (bounded : ∀ n, |x n| ≤ bound)
    (n : ℤ) :
    |(branch.bank.map fun tap : ℤ => (tap : ℝ) / ((10 ^ places : ℤ) : ℝ)).roundTrip x n -
        x (n - (branch.bound - 1 : Nat))| ≤ bound / fraction := by
  have error := (branch.answers (Int.castRingHom ℝ)).abs_sub_le
    (show (0 : ℤ) < 10 ^ places by positivity) (branch.bound - 1) bounded n
  have loud : 0 ≤ bound := (abs_nonneg _).trans (bounded 0)
  have fine : (fraction : ℝ) * ((size (addTaps branch.direct
      (impulse (-(2 * (10 ^ places) ^ 2)) (branch.bound - 1))) + size branch.aliased : ℤ) : ℝ) ≤
        2 * ((10 ^ places : ℤ) : ℝ) ^ 2 := by
    exact_mod_cast within
  have parts : (0 : ℝ) < fraction := by exact_mod_cast positive
  have unit : (0 : ℝ) < 2 * ((10 ^ places : ℤ) : ℝ) ^ 2 := by positivity
  refine error.trans ?_
  rw [div_mul_eq_mul_div, div_le_div_iff₀ unit parts]
  calc _ = (fraction : ℝ) * ((size (addTaps branch.direct
          (impulse (-(2 * (10 ^ places) ^ 2)) (branch.bound - 1))) + size branch.aliased : ℤ) :
            ℝ) * bound := by ring
    _ ≤ 2 * ((10 ^ places : ℤ) : ℝ) ^ 2 * bound := mul_le_mul_of_nonneg_right fine loud
    _ = _ := by ring

theorem delayed_iff (branch : Branch) :
    (∀ (x : ℤ → ℝ) (n : ℤ),
      (branch.bank.map fun tap : ℤ => (tap : ℝ) / ((10 ^ places : ℤ) : ℝ)).roundTrip
          (fun m => x (m - 1)) n =
        (branch.bank.map fun tap : ℤ => (tap : ℝ) / ((10 ^ places : ℤ) : ℝ)).roundTrip x
          (n - 1)) ↔ ∀ tap ∈ branch.aliased, tap = 0 := by
  have whole := (branch.answers (Int.castRingHom ℝ)).delayed_iff
    fun a b same => mul_left_cancel₀ two_ne_zero same
  have scaled : (branch.bank.map fun tap : ℤ => (tap : ℝ) / ((10 ^ places : ℤ) : ℝ)) =
      (branch.bank.map (Int.castRingHom ℝ)).map ((1 / ((10 ^ places : ℤ) : ℝ)) * ·) := by
    simp [FilterBank.map, div_eq_inv_mul]
  have unit : (1 / ((10 ^ places : ℤ) : ℝ)) ^ 2 ≠ 0 := by positivity
  simp only [scaled, FilterBank.roundTrip_scaled, mul_right_inj' unit]
  rw [whole]
  simp

end Branch

theorem converted_bank {branch : Branch} (placed : branch.Placed) :
    (⟨converted (fun number : ℚ => (number : ℝ)) branch.lp1A,
      converted (fun number : ℚ => (number : ℝ)) branch.hp1A,
      converted (fun number : ℚ => (number : ℝ)) branch.lp2A,
      converted (fun number : ℚ => (number : ℝ)) branch.hp2A⟩ : FilterBank ℝ) =
      branch.bank.map fun tap : ℤ => (tap : ℝ) / ((10 ^ places : ℤ) : ℝ) := by
  simp only [Branch.Placed, List.mem_append, or_imp, forall_and] at placed
  obtain ⟨⟨⟨lp1, hp1⟩, lp2⟩, hp2⟩ := placed
  rw [converted_eq lp1, converted_eq hp1, converted_eq lp2, converted_eq hp2]
  rfl

theorem bank_of_listed {name : String} (listed : name ∈ listedNames) :
    ∃ names branch, (names, branch) ∈ filtcoefBranches ∧ name ∈ names ∧
      ∃ wavelet, Wavelet.new (fun number : ℚ => (number : ℝ)) name = .ok wavelet ∧
        wavelet.filterLength = branch.bound ∧
        wavelet.bank =
          branch.bank.map fun tap : ℤ => (tap : ℝ) / ((10 ^ places : ℤ) : ℝ) := by
  cases found : firstListed filtcoefBranches name with
  | none => exact absurd listed (firstListed_eq_none_iff.mp found)
  | some branch =>
      obtain ⟨⟨names, same⟩, first, rfl⟩ := Option.map_eq_some_iff.mp found
      have membership := List.mem_of_find?_eq_some first
      have named : name ∈ names := by simpa using List.find?_some first
      exact ⟨names, same, membership, named, _, new_listed found, rfl,
        converted_bank (filtcoefBranches_placed _ membership)⟩

/-- The name `haar` shares its branch with `db1` only, and `db7` with none. -/
theorem filtcoefBranches_names : ∀ branch ∈ filtcoefBranches,
    ("haar" ∈ branch.1 → branch.1 = ["haar", "db1"]) ∧
      ("db7" ∈ branch.1 → branch.1 = ["db7"] ∧ branch.2.aliased = db7.aliased) := by
  decide +kernel

/-- A signal that is taken apart with the vectors of a wavelet and put together again is
the signal delayed by one less than the length of the filters, up to an error that is a
fixed fraction of the largest sample: for every listed name one in fifty thousand, and
one in thirty million unless it is one of the two names of the wavelet that is given to
four digits only. -/
theorem wavelet_reconstructs {name : String} (listed : name ∈ listedNames) :
    ∃ wavelet, Wavelet.new (fun number : ℚ => (number : ℝ)) name = .ok wavelet ∧
      ∀ (x : ℤ → ℝ) (bound : ℝ), (∀ n, |x n| ≤ bound) → ∀ n,
        |wavelet.bank.roundTrip x n - x (n - (wavelet.filterLength - 1 : Nat))| ≤
            bound / 50000 ∧
        (name ≠ "haar" → name ≠ "db1" →
          |wavelet.bank.roundTrip x n - x (n - (wavelet.filterLength - 1 : Nat))| ≤
            bound / 30000000) := by
  obtain ⟨names, branch, membership, named, wavelet, constructed, length, bank⟩ :=
    bank_of_listed listed
  have within := filtcoefBranches_within _ membership
  have shared := (filtcoefBranches_names _ membership).1
  refine ⟨wavelet, constructed, fun x bound bounded n => ?_⟩
  rw [bank, length]
  have loud : 0 ≤ bound := (abs_nonneg _).trans (bounded 0)
  by_cases haar : "haar" ∈ names
  · rw [if_pos haar] at within
    refine ⟨?_, fun notHaar notDb1 => ?_⟩
    · exact_mod_cast within.abs_sub_le (by norm_num) bounded n
    · have named : name ∈ ["haar", "db1"] := shared haar ▸ named
      simp [notHaar, notDb1] at named
  · rw [if_neg haar] at within
    have close : |(branch.bank.map fun tap : ℤ => (tap : ℝ) / ((10 ^ places : ℤ) : ℝ)).roundTrip
        x n - x (n - (branch.bound - 1 : Nat))| ≤ bound / 30000000 := by
      exact_mod_cast within.abs_sub_le (by norm_num) bounded n
    refine ⟨close.trans ?_, fun _ _ => close⟩
    exact div_le_div_of_nonneg_left loud (by norm_num) (by norm_num)

/-- A square wave comes back one sample later, two hundred-thousandths off at most. -/
theorem wavelet_reconstructs_haar :
    ∃ wavelet, Wavelet.new (fun number : ℚ => (number : ℝ)) "haar" = .ok wavelet ∧
      |wavelet.bank.roundTrip (fun n => if n % 8 < 4 then 1 else -1) 16 -
        (if (16 - (wavelet.filterLength - 1 : Nat) : ℤ) % 8 < 4 then 1 else -1)| ≤ 1 / 50000 := by
  obtain ⟨wavelet, constructed, close⟩ := wavelet_reconstructs (show "haar" ∈ listedNames by decide)
  have bounded : ∀ n : ℤ, |(if n % 8 < 4 then 1 else -1 : ℝ)| ≤ 1 := by
    intro n
    split <;> simp
  exact ⟨wavelet, constructed, (close _ 1 bounded 16).1⟩

/-- All samples of a signal are treated alike, whether they have an even or an odd number,
by the vectors of every listed wavelet but one: in the tables of `db7` the aliases of the
two channels do not cancel. -/
theorem wavelet_delayed_iff {name : String} (listed : name ∈ listedNames) :
    ∃ wavelet, Wavelet.new (fun number : ℚ => (number : ℝ)) name = .ok wavelet ∧
      ((∀ (x : ℤ → ℝ) (n : ℤ), wavelet.bank.roundTrip (fun m => x (m - 1)) n =
        wavelet.bank.roundTrip x (n - 1)) ↔ name ≠ "db7") := by
  obtain ⟨names, branch, membership, named, wavelet, constructed, -, bank⟩ :=
    bank_of_listed listed
  have alone := (filtcoefBranches_names _ membership).2
  refine ⟨wavelet, constructed, ?_⟩
  rw [bank, Branch.delayed_iff]
  constructor
  · rintro silent rfl
    rw [(alone named).2] at silent
    exact db7_aliased silent
  · intro other
    have mirrored : branch.Mirrored := by
      rcases filtcoefBranches_mirrored _ membership with mirrored | db7
      · exact mirrored
      · have named : name ∈ ["db7"] := (alone db7).1 ▸ named
        exact absurd (List.mem_singleton.mp named) other
    rw [Branch.aliased, if_pos mirrored]
    simp

theorem wavelet_delayed_iff_db7 :
    ∃ wavelet, Wavelet.new (fun number : ℚ => (number : ℝ)) "db7" = .ok wavelet ∧
      ¬ ∀ (x : ℤ → ℝ) (n : ℤ), wavelet.bank.roundTrip (fun m => x (m - 1)) n =
        wavelet.bank.roundTrip x (n - 1) := by
  obtain ⟨wavelet, constructed, alike⟩ := wavelet_delayed_iff (show "db7" ∈ listedNames by decide)
  exact ⟨wavelet, constructed, fun delayed => alike.mp delayed rfl⟩

end Gloc.Wavelets
