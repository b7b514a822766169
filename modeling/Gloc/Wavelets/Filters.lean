import Gloc.Transition.Loops
import Gloc.Wavelets.Biorthogonal
import Gloc.Wavelets.Coiflets
import Gloc.Wavelets.Daubechies
import Gloc.Wavelets.Symlets

/-!
# Wavelets by name

`filtlength` and `filtcoef` look a name up in two chains of comparisons, and a
`Wavelet` is constructed from what they say.  The two chains agree; the getters
of the class do not do what their names say.
-/

namespace Gloc.Wavelets

open Gloc.Transition

universe u

/-- `WaveletNotListed`, or an access outside of a table or a vector. -/
inductive Failure where
  | waveletNotListed
  | outOfBounds
  deriving DecidableEq, Repr

/-- A chain of comparisons: the first branch that has the name is taken. -/
def firstListed {α : Type u} (branches : List (List String × α)) (name : String) : Option α :=
  (branches.find? fun branch => decide (name ∈ branch.1)).map Prod.snd

def filtlengthBranches : List (List String × Nat) :=
  [(["haar", "db1"], 2), (["db2"], 4), (["db3"], 6), (["db4"], 8), (["db5"], 10), (["db6"], 12),
    (["db7"], 14), (["db8"], 16), (["db9"], 18), (["db10"], 20), (["db12"], 24), (["db13"], 26),
    (["db11"], 22), (["db14"], 28), (["db15"], 30), (["bior1.1"], 2), (["bior1.3"], 6),
    (["bior1.5"], 10), (["bior2.2"], 6), (["bior2.4"], 10), (["bior2.6"], 14), (["bior2.8"], 18),
    (["bior3.1"], 4), (["bior3.3"], 8), (["bior3.5"], 12), (["bior3.7"], 16), (["bior3.9"], 20),
    (["bior4.4"], 10), (["bior5.5"], 12), (["bior6.8"], 18), (["coif1"], 6), (["coif2"], 12),
    (["coif3"], 18), (["coif4"], 24), (["coif5"], 30), (["sym2"], 4), (["sym3"], 6),
    (["sym4"], 8), (["sym5"], 10), (["sym6"], 12), (["sym7"], 14), (["sym8"], 16),
    (["sym9"], 18), (["sym10"], 20)]

def filtlength (name : String) : Except Failure Nat :=
  match firstListed filtlengthBranches name with
  | some length => .ok length
  | none => .error .waveletNotListed

def filtcoefBranches : List (List String × Branch) :=
  daubechies ++ biorthogonal ++ coiflets ++ symlets

def listedNames : List String :=
  filtcoefBranches.flatMap Prod.fst

structure Vectors (real : Type u) where
  lp1 : List real
  hp1 : List real
  lp2 : List real
  hp2 : List real

section Copy

variable {real : Type u} (convert : ℚ → real)

/-- `vector[i] = static_cast<real>(table[i])`, if both go that far. -/
def copyCell (table : List Literal) (vector : List real) (i : Nat) : Option (List real) :=
  (table[i]?).bind fun literal =>
    if i < vector.length then some (vector.set i (convert literal.value)) else none

def copyRound (branch : Branch) (vectors : Vectors real) (i : Nat) : Option (Vectors real) :=
  (copyCell convert branch.lp1A vectors.lp1 i).bind fun lp1 =>
    (copyCell convert branch.hp1A vectors.hp1 i).bind fun hp1 =>
      (copyCell convert branch.lp2A vectors.lp2 i).bind fun lp2 =>
        (copyCell convert branch.hp2A vectors.hp2 i).map fun hp2 =>
          { lp1 := lp1
            hp1 := hp1
            lp2 := lp2
            hp2 := hp2 }

def filtcoef (name : String) (vectors : Vectors real) : Except Failure (Nat × Vectors real) :=
  match firstListed filtcoefBranches name with
  | none => .error .waveletNotListed
  | some branch =>
      match (List.range branch.bound).foldlM (copyRound convert branch) vectors with
      | none => .error .outOfBounds
      | some vectors => .ok (branch.result, vectors)

end Copy

structure Wavelet (real : Type u) where
  filterLength : Nat
  name : String
  lowPassDecomposition : List real
  highPassDecomposition : List real
  lowPassReconstruction : List real
  highPassReconstruction : List real

namespace Wavelet

variable {real : Type u}

def new [Zero real] (convert : ℚ → real) (name : String) : Except Failure (Wavelet real) :=
  match filtlength name with
  | .error failure => .error failure
  | .ok filterLength =>
      let resized := List.replicate filterLength 0
      match filtcoef convert name
        { lp1 := resized
          hp1 := resized
          lp2 := resized
          hp2 := resized } with
      | .error failure => .error failure
      | .ok (_, vectors) =>
          .ok
            { filterLength := filterLength
              name := name
              lowPassDecomposition := vectors.lp1
              highPassDecomposition := vectors.hp1
              lowPassReconstruction := vectors.lp2
              highPassReconstruction := vectors.hp2 }

def getLowPassDec (wavelet : Wavelet real) : List real :=
  wavelet.lowPassDecomposition

/-- Like the getters below it, this one returns the first vector. -/
def getHighPassDec (wavelet : Wavelet real) : List real :=
  wavelet.lowPassDecomposition

def getLowPassRec (wavelet : Wavelet real) : List real :=
  wavelet.lowPassDecomposition

def getHighPassRec (wavelet : Wavelet real) : List real :=
  wavelet.lowPassDecomposition

end Wavelet

section Lists

variable {α β : Type u} {branches : List (List String × α)} {name : String}

theorem firstListed_eq_none_iff :
    firstListed branches name = none ↔ name ∉ branches.flatMap Prod.fst := by
  unfold firstListed
  rw [Option.map_eq_none_iff, List.find?_eq_none, List.mem_flatMap]
  constructor
  · rintro absent ⟨branch, membership, found⟩
    exact absent branch membership (decide_eq_true found)
  · intro absent branch membership found
    exact absent ⟨branch, membership, of_decide_eq_true found⟩

theorem mem_of_firstListed {value : α} (listed : firstListed branches name = some value) :
    ∃ names, (names, value) ∈ branches := by
  obtain ⟨⟨names, value⟩, found, rfl⟩ := Option.map_eq_some_iff.mp listed
  exact ⟨names, List.mem_of_find?_eq_some found⟩

theorem firstListed_map (f : α → β) :
    firstListed (branches.map fun branch => (branch.1, f branch.2)) name =
      (firstListed branches name).map f := by
  unfold firstListed
  rw [List.find?_map, Option.map_map, Option.map_map]
  rfl

end Lists

/-- The two chains compare with the same names, in the same order. -/
theorem filtlengthBranches_eq :
    filtlengthBranches = filtcoefBranches.map fun branch => (branch.1, branch.2.result) := rfl

theorem filtcoefBranches_complete : ∀ branch ∈ filtcoefBranches, branch.2.Complete := by
  intro branch membership
  simp only [filtcoefBranches, List.mem_append] at membership
  rcases membership with ((daubechy | spline) | coiflet) | symlet
  · exact daubechies_complete branch daubechy
  · exact biorthogonal_complete branch spline
  · exact coiflets_complete branch coiflet
  · exact symlets_complete branch symlet

theorem filtcoefBranches_opposed : ∀ branch ∈ filtcoefBranches, branch.2.Opposed := by
  intro branch membership
  simp only [filtcoefBranches, List.mem_append] at membership
  rcases membership with ((daubechy | spline) | coiflet) | symlet
  · exact daubechies_opposed branch daubechy
  · exact biorthogonal_opposed branch spline
  · exact coiflets_opposed branch coiflet
  · exact symlets_opposed branch symlet

section Copied

variable {real : Type u} (convert : ℚ → real)

def converted (table : List Literal) : List real :=
  table.map fun literal => convert literal.value

def copied (table : List Literal) (vector : List real) (rounds : Nat) : List real :=
  converted convert (table.take rounds) ++ vector.drop rounds

variable {convert} {table : List Literal} {vector : List real}

theorem copyCell_copied {i : Nat} (inTable : i < table.length) (inVector : i < vector.length) :
    copyCell convert table (copied convert table vector i) i =
      some (copied convert table vector (i + 1)) := by
  have front : (converted convert (table.take i)).length = i := by
    rw [converted, List.length_map, List.length_take, min_eq_left inTable.le]
  have inside : i < (copied convert table vector i).length := by
    rw [copied, List.length_append, front, List.length_drop]
    omega
  unfold copyCell
  rw [List.getElem?_eq_getElem inTable, Option.bind_some, if_pos inside]
  apply congrArg
  rw [copied, List.set_append_right _ _ front.le, front, Nat.sub_self,
    List.drop_eq_getElem_cons inVector, List.set_cons_zero, copied, converted, converted,
    List.take_add_one, List.getElem?_eq_getElem inTable, List.map_append, List.append_assoc]
  rfl

theorem copied_all {n : Nat} (wholeTable : table.length = n) (wholeVector : vector.length = n) :
    copied convert table vector n = converted convert table := by
  rw [copied, List.take_of_length_le wholeTable.le, List.drop_eq_nil_of_le wholeVector.le,
    List.append_nil]

end Copied

section Branches

variable {real : Type u} {convert : ℚ → real} {name : String} {branch : Branch}

def Branch.vectors (convert : ℚ → real) (branch : Branch) : Vectors real :=
  { lp1 := converted convert branch.lp1A
    hp1 := converted convert branch.hp1A
    lp2 := converted convert branch.lp2A
    hp2 := converted convert branch.hp2A }

structure Vectors.Sized (vectors : Vectors real) (n : Nat) : Prop where
  lp1 : vectors.lp1.length = n
  hp1 : vectors.hp1.length = n
  lp2 : vectors.lp2.length = n
  hp2 : vectors.hp2.length = n

theorem Branch.Complete.loop (complete : branch.Complete) {vectors : Vectors real}
    (sized : vectors.Sized branch.bound) :
    (List.range branch.bound).foldlM (copyRound convert branch) vectors =
      some (branch.vectors convert) := by
  obtain ⟨lp1, hp1, lp2, hp2, -⟩ := complete
  obtain ⟨last, done, filled⟩ := @foldlM_range _ branch.bound (copyRound convert branch)
    (fun rounds state => state =
      { lp1 := copied convert branch.lp1A vectors.lp1 rounds
        hp1 := copied convert branch.hp1A vectors.hp1 rounds
        lp2 := copied convert branch.lp2A vectors.lp2 rounds
        hp2 := copied convert branch.hp2A vectors.hp2 rounds })
    (by
      rintro i state below rfl
      refine ⟨_, ?_, rfl⟩
      unfold copyRound
      rw [copyCell_copied (by omega) (sized.lp1 ▸ below), Option.bind_some,
        copyCell_copied (by omega) (sized.hp1 ▸ below), Option.bind_some,
        copyCell_copied (by omega) (sized.lp2 ▸ below), Option.bind_some,
        copyCell_copied (by omega) (sized.hp2 ▸ below), Option.map_some])
    vectors rfl
  rw [done, filled, copied_all lp1 sized.lp1, copied_all hp1 sized.hp1,
    copied_all lp2 sized.lp2, copied_all hp2 sized.hp2]
  rfl

theorem filtlength_eq :
    filtlength name =
      match firstListed filtcoefBranches name with
      | some branch => .ok branch.result
      | none => .error .waveletNotListed := by
  unfold filtlength
  rw [filtlengthBranches_eq, firstListed_map]
  cases firstListed filtcoefBranches name with
  | none => rfl
  | some branch => rfl

theorem complete_of_listed (listed : firstListed filtcoefBranches name = some branch) :
    branch.Complete := by
  obtain ⟨names, membership⟩ := mem_of_firstListed listed
  exact filtcoefBranches_complete _ membership

/-- `filtcoef` returns the length and fills vectors of that length from end to end. -/
theorem filtcoef_listed (listed : firstListed filtcoefBranches name = some branch)
    {vectors : Vectors real} (sized : vectors.Sized branch.bound) :
    filtcoef convert name vectors = .ok (branch.bound, branch.vectors convert) := by
  have complete := complete_of_listed listed
  unfold filtcoef
  rw [listed]
  simp only
  rw [complete.loop sized, complete.2.2.2.2]

def OneFilter (convert : ℚ → real) (branch : Branch) : Prop :=
  converted convert branch.hp1A = converted convert branch.lp1A ∧
    converted convert branch.lp2A = converted convert branch.lp1A ∧
    converted convert branch.hp2A = converted convert branch.lp1A

theorem not_oneFilter (separates : Separates convert)
    (listed : firstListed filtcoefBranches name = some branch) : ¬ OneFilter convert branch := by
  obtain ⟨names, membership⟩ := mem_of_firstListed listed
  intro oneFilter
  exact (filtcoefBranches_opposed _ membership).map_ne separates oneFilter.1

end Branches

section Construction

variable {real : Type u} [Zero real] {convert : ℚ → real} {name : String} {branch : Branch}

structure Refused (convert : ℚ → real) (name : String) : Prop where
  filtlength : filtlength name = .error .waveletNotListed
  filtcoef : ∀ vectors, filtcoef convert name vectors = .error .waveletNotListed
  wavelet : Wavelet.new convert name = .error .waveletNotListed

/-- The name is accepted everywhere, and the wavelet shows the tables of its branch. -/
structure Accepted (convert : ℚ → real) (name : String) (branch : Branch) (n : Nat) : Prop where
  listed : firstListed filtcoefBranches name = some branch
  filtlength : filtlength name = .ok n
  tables : branch.lp1A.length = n ∧ branch.hp1A.length = n ∧ branch.lp2A.length = n ∧
    branch.hp2A.length = n
  /-- The vectors are filled whatever they have held. -/
  filtcoef : ∀ vectors : Vectors real, vectors.Sized n →
    filtcoef convert name vectors = .ok (n, branch.vectors convert)
  wavelet : ∃ wavelet, Wavelet.new convert name = .ok wavelet ∧
    wavelet.getLowPassDec = converted convert branch.lp1A ∧
    wavelet.getHighPassDec = converted convert branch.hp1A ∧
    wavelet.getLowPassRec = converted convert branch.lp2A ∧
    wavelet.getHighPassRec = converted convert branch.hp2A

/-- A `Wavelet` is constructed from this name as it should be, or refused. -/
def Constructs (convert : ℚ → real) (name : String) : Prop :=
  Refused convert name ∨ ∃ branch n, Accepted convert name branch n

theorem refused_of_unlisted (unlisted : firstListed filtcoefBranches name = none) :
    Refused convert name where
  filtlength := by rw [filtlength_eq, unlisted]
  filtcoef vectors := by
    unfold Wavelets.filtcoef
    rw [unlisted]
  wavelet := by
    unfold Wavelet.new
    rw [filtlength_eq, unlisted]

/-- The constructor fills the four members with the four tables, and every getter returns
the first of them. -/
theorem new_listed (listed : firstListed filtcoefBranches name = some branch) :
    Wavelet.new convert name = .ok
      { filterLength := branch.bound
        name := name
        lowPassDecomposition := converted convert branch.lp1A
        highPassDecomposition := converted convert branch.hp1A
        lowPassReconstruction := converted convert branch.lp2A
        highPassReconstruction := converted convert branch.hp2A } := by
  have sized : (⟨List.replicate branch.bound 0, List.replicate branch.bound 0,
      List.replicate branch.bound 0, List.replicate branch.bound 0⟩ : Vectors real).Sized
        branch.bound :=
    ⟨List.length_replicate, List.length_replicate, List.length_replicate,
      List.length_replicate⟩
  have length := (complete_of_listed listed).2.2.2.2
  unfold Wavelet.new
  rw [filtlength_eq, listed]
  simp only [length, filtcoef_listed listed sized]
  rfl

theorem accepted_iff (listed : firstListed filtcoefBranches name = some branch) :
    Accepted convert name branch branch.bound ↔ OneFilter convert branch := by
  obtain ⟨lp1, hp1, lp2, hp2, result⟩ := complete_of_listed listed
  have constructed := @new_listed real _ convert name branch listed
  constructor
  · intro accepted
    obtain ⟨wavelet, again, -, highDec, lowRec, highRec⟩ := accepted.wavelet
    obtain rfl := Except.ok.inj (constructed.symm.trans again)
    exact ⟨highDec.symm, lowRec.symm, highRec.symm⟩
  · rintro ⟨highDec, lowRec, highRec⟩
    refine ⟨listed, ?_, ⟨lp1, hp1, lp2, hp2⟩, fun vectors => filtcoef_listed listed, _,
      constructed, rfl, highDec.symm, lowRec.symm, highRec.symm⟩
    rw [filtlength_eq, listed]
    simp only [result]

theorem constructs_iff :
    Constructs convert name ↔
      ∀ branch, firstListed filtcoefBranches name = some branch → OneFilter convert branch := by
  constructor
  · intro constructs branch listed
    have length := @filtlength_eq name
    rw [listed] at length
    rcases constructs with refused | ⟨other, n, accepted⟩
    · cases refused.filtlength.symm.trans length
    · obtain rfl := Option.some.inj (listed.symm.trans accepted.listed)
      obtain rfl := Except.ok.inj (length.symm.trans accepted.filtlength)
      rw [(complete_of_listed listed).2.2.2.2] at accepted
      exact (accepted_iff listed).mp accepted
  · intro oneFilter
    cases found : firstListed filtcoefBranches name with
    | none => exact .inl (refused_of_unlisted found)
    | some branch => exact .inr ⟨branch, _, (accepted_iff found).mpr (oneFilter branch found)⟩

/-- A name is treated as it should be if and only if it is not listed, or its four filters
are one and the same after their conversion; and they are not, where the conversion
distinguishes what is well above zero from what is well below. -/
theorem wavelet_constructs_iff (convert : ℚ → real) (name : String) :
    (Constructs convert name ↔
        ∀ branch, firstListed filtcoefBranches name = some branch → OneFilter convert branch) ∧
      (Separates convert → (Constructs convert name ↔ name ∉ listedNames)) := by
  refine ⟨constructs_iff, fun separates => constructs_iff.trans ?_⟩
  rw [listedNames, ← firstListed_eq_none_iff]
  constructor
  · intro oneFilter
    cases found : firstListed filtcoefBranches name with
    | none => rfl
    | some branch => exact absurd (oneFilter branch found) (not_oneFilter separates found)
  · intro unlisted branch listed
    cases unlisted.symm.trans listed

end Construction

theorem separates_id : Separates (id : ℚ → ℚ) := by
  intro x y low high same
  rw [id, id] at same
  linarith

theorem wavelet_constructs_iff_testing : Constructs (id : ℚ → ℚ) "testing" :=
  ((wavelet_constructs_iff id "testing").2 separates_id).mpr (by decide)

/-- The high pass of the Haar wavelet is shown as a second low pass. -/
theorem wavelet_haar :
    ∃ wavelet, Wavelet.new (id : ℚ → ℚ) "haar" = .ok wavelet ∧
      wavelet.getHighPassDec = converted id [0.7071, 0.7071] ∧
      wavelet.getHighPassDec ≠ converted id [-0.7071, 0.7071] ∧
      ¬ Constructs (id : ℚ → ℚ) "haar" := by
  have listed : firstListed filtcoefBranches "haar" = some haar := rfl
  have opposed : haar.Opposed := daubechies_opposed _ (List.mem_cons_self ..)
  refine ⟨_, new_listed listed, rfl, (opposed.map_ne separates_id).symm, ?_⟩
  intro constructs
  exact not_oneFilter separates_id listed (constructs_iff.mp constructs haar listed)

end Gloc.Wavelets
