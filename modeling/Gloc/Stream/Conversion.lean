import Gloc.Stream.Matrix
import Mathlib.Data.Fintype.Card
import Mathlib.Data.Fintype.Prod

/-!
# From frames to arrays

A frame becomes a matrix of as many rows as the frame is wide, and the matrix
is exported to Python as an array over the same memory.  The three layouts are
those of one list of pixels, as long as the product of the sizes does not wrap
around and the storage goes that far.
-/

namespace Gloc.Stream

open Gloc.Files

universe u

variable {real : Type u}

/-- `operator[] (pos)`, if the storage goes that far. -/
def Mat.element (mat : Mat real) (pos : UInt64) : Option real :=
  mat.data[pos.toNat]?

/-- What `bn::from_data` is given: memory that it does not own, the sizes, and the strides
in bytes. -/
structure NdArray (real : Type u) where
  data : List real
  shape : UInt64 × UInt64
  strides : UInt64 × UInt64

namespace NdArray

/-- `from_data` makes an array if the numbers are numbers of type `Py_intptr_t`. -/
def Extracted (array : NdArray real) : Prop :=
  array.shape.1.toNat < 2 ^ 63 ∧ array.shape.2.toNat < 2 ^ 63 ∧
    array.strides.1.toNat < 2 ^ 63 ∧ array.strides.2.toNat < 2 ^ 63

instance (array : NdArray real) : Decidable array.Extracted :=
  inferInstanceAs (Decidable (_ ∧ _ ∧ _ ∧ _))

/-- The distance in bytes of an element from the beginning of the memory. -/
def offset (array : NdArray real) (row column : UInt64) : UInt64 :=
  row * array.strides.1 + column * array.strides.2

/-- An element of an array of doubles, which have eight bytes each. -/
def element (array : NdArray real) (row column : Nat) : Option real :=
  let offset := (array.offset (.ofNat row) (.ofNat column)).toNat
  if array.Extracted ∧ row < array.shape.1.toNat ∧ column < array.shape.2.toNat ∧
      8 ∣ offset then
    array.data[offset / 8]?
  else none

end NdArray

/-- `py_get_next`, for a frame that is not the null pointer. -/
def pyGetNext (frame : Mat real) : NdArray real :=
  { data := frame.data
    shape := (frame.height, frame.width)
    strides := (frame.width * 8, 8) }

namespace Mat

variable {mat : Mat real}

/-- Every pair below the sizes has an element of its own, which is the one that the array
has in that row and that column. -/
structure Addressable (mat : Mat real) : Prop where
  inside : ∀ i j, i < mat.width → j < mat.height → (mat.pos i j).toNat < mat.data.length
  exported : ∀ i j, i < mat.width → j < mat.height →
    (pyGetNext mat).element j.toNat i.toNat = mat.element (mat.pos i j)
  injective : ∀ i j k l, i < mat.width → j < mat.height → k < mat.width → l < mat.height →
    mat.pos i j = mat.pos k l → i = k ∧ j = l

theorem pyGetNext_offset (mat : Mat real) (i j : UInt64) :
    (pyGetNext mat).offset j i = 8 * mat.pos i j := by
  change j * (mat.width * 8) + i * 8 = 8 * (i + j * mat.width)
  rw [UInt64.mul_add, ← UInt64.mul_assoc, UInt64.mul_comm i, UInt64.mul_comm (j * mat.width),
    UInt64.add_comm]

section Stored

variable (stored : mat.height.toNat * mat.width.toNat ≤ mat.data.length)

include stored

theorem toNat_pos_lt {i j : UInt64} (column : i < mat.width) (row : j < mat.height) :
    (mat.pos i j).toNat = i.toNat + j.toNat * mat.width.toNat ∧
      (mat.pos i j).toNat < mat.data.length := by
  rw [UInt64.lt_iff_toNat_lt] at column row
  have rows : (j.toNat + 1) * mat.width.toNat ≤ mat.height.toNat * mat.width.toNat :=
    Nat.mul_le_mul_right _ row
  have allocated := mat.allocated
  rw [maxSize_eq] at allocated
  rw [Nat.add_one_mul] at rows
  rw [toNat_pos _ (by omega)]
  exact ⟨rfl, by omega⟩

theorem pos_injective {i j k l : UInt64} (column : i < mat.width) (row : j < mat.height)
    (columnOther : k < mat.width) (rowOther : l < mat.height)
    (same : mat.pos i j = mat.pos k l) : i = k ∧ j = l := by
  have positions := congrArg UInt64.toNat same
  rw [(toNat_pos_lt stored column row).1, (toNat_pos_lt stored columnOther rowOther).1]
    at positions
  rw [UInt64.lt_iff_toNat_lt] at column columnOther
  have columns := congrArg (· % mat.width.toNat) positions
  simp only [Nat.add_mul_mod_self_right, Nat.mod_eq_of_lt column,
    Nat.mod_eq_of_lt columnOther] at columns
  rw [columns] at positions
  refine ⟨UInt64.toNat_inj.mp columns, UInt64.toNat_inj.mp ?_⟩
  exact Nat.eq_of_mul_eq_mul_right (Nat.zero_lt_of_lt column) (Nat.add_left_cancel positions)

theorem extracted {i j : UInt64} (column : i < mat.width) (row : j < mat.height) :
    (pyGetNext mat).Extracted := by
  rw [UInt64.lt_iff_toNat_lt] at column row
  have widths : 1 * mat.width.toNat ≤ mat.height.toNat * mat.width.toNat :=
    Nat.mul_le_mul_right _ (by omega)
  have heights : mat.height.toNat * 1 ≤ mat.height.toNat * mat.width.toNat :=
    Nat.mul_le_mul_left _ (by omega)
  have allocated := mat.allocated
  rw [maxSize_eq] at allocated
  refine ⟨show mat.height.toNat < _ by omega, show mat.width.toNat < _ by omega, ?_,
    show 8 < _ by decide⟩
  change (mat.width * 8).toNat < _
  rw [UInt64.toNat_mul]
  change mat.width.toNat * 8 % _ < _
  omega

theorem pyGetNext_element {i j : UInt64} (column : i < mat.width) (row : j < mat.height) :
    (pyGetNext mat).element j.toNat i.toNat = mat.element (mat.pos i j) := by
  obtain ⟨-, inside⟩ := toNat_pos_lt stored column row
  have allocated := mat.allocated
  rw [maxSize_eq] at allocated
  have offset : ((pyGetNext mat).offset j i).toNat = 8 * (mat.pos i j).toNat := by
    rw [pyGetNext_offset, UInt64.toNat_mul]
    change 8 * (mat.pos i j).toNat % _ = _
    omega
  unfold NdArray.element
  simp only [UInt64.ofNat_toNat, offset]
  rw [if_pos ⟨extracted stored column row, row, column, Nat.dvd_mul_right ..⟩,
    Nat.mul_div_cancel_left _ (by decide)]
  rfl

end Stored

/-- A matrix is addressed as it should be if and only if its storage has as many elements
as the product of its sizes. -/
theorem addressable_iff (mat : Mat real) :
    mat.Addressable ↔ mat.height.toNat * mat.width.toNat ≤ mat.data.length := by
  constructor
  · intro addressable
    have below : ∀ {size : UInt64} (n : Fin size.toNat),
        (UInt64.ofNat n).toNat = n ∧ UInt64.ofNat n < size := by
      intro size n
      have same : (UInt64.ofNat n).toNat = n := by
        rw [UInt64.toNat_ofNat', Nat.mod_eq_of_lt (n.isLt.trans size.toNat_lt)]
      exact ⟨same, UInt64.lt_iff_toNat_lt.mpr (same.trans_lt n.isLt)⟩
    -- the pairs have different cells, so that there are at least as many of these
    let cell (pair : Fin mat.height.toNat × Fin mat.width.toNat) : Fin mat.data.length :=
      ⟨(mat.pos (.ofNat pair.2) (.ofNat pair.1)).toNat,
        addressable.inside _ _ (below pair.2).2 (below pair.1).2⟩
    have different : Function.Injective cell := by
      rintro ⟨j, i⟩ ⟨l, k⟩ same
      have cells : (mat.pos (.ofNat i) (.ofNat j)).toNat = (mat.pos (.ofNat k) (.ofNat l)).toNat :=
        Fin.mk.inj same
      obtain ⟨columns, rows⟩ := addressable.injective _ _ _ _ (below i).2 (below j).2 (below k).2
        (below l).2 (UInt64.toNat_inj.mp cells)
      refine Prod.ext (Fin.ext ?_) (Fin.ext ?_)
      · exact (below j).1.symm.trans ((congrArg UInt64.toNat rows).trans (below l).1)
      · exact (below i).1.symm.trans ((congrArg UInt64.toNat columns).trans (below k).1)
    have counted := Fintype.card_le_of_injective cell different
    rwa [Fintype.card_prod, Fintype.card_fin, Fintype.card_fin, Fintype.card_fin] at counted
  · intro stored
    exact
      { inside := fun i j column row => (toNat_pos_lt stored column row).2
        exported := fun i j column row => pyGetNext_element stored column row
        injective := fun i j k l column row columnOther rowOther =>
          pos_injective stored column row columnOther rowOther }

theorem addressable_new_iff [Zero real] {height width : UInt64}
    (allocated : Mat.new height width = some mat) :
    mat.Addressable ↔ height.toNat * width.toNat < 2 ^ 64 := by
  unfold Mat.new at allocated
  split at allocated
  · cases allocated
    rw [addressable_iff]
    change height.toNat * width.toNat ≤ (List.replicate _ _).length ↔ _
    rw [List.length_replicate, UInt64.toNat_mul]
    omega
  · cases allocated

end Mat

section Conversion

variable [Zero real] [NatCast real]

/-- The conversion writes every cell of the storage of its matrix once and no other cell,
and the cells are the pixels of the frame. -/
def Converts (real : Type u) [Zero real] [NatCast real] (frame : CuboidFrame) : Prop :=
  ∃ cells, convertLoopsWrites frame = some ((convertArrayToMat frame : Mat real), cells) ∧
    (convertArrayToMat frame : Mat real).data.length = frame.width * frame.height ∧
    (∀ cell ∈ cells, cell < frame.width * frame.height) ∧
    ∀ k, k < frame.width * frame.height → cells.count k = 1 ∧
      (convertArrayToMat frame : Mat real).element (.ofNat k) =
        (frame.pixelValue k).map Nat.cast

theorem Copied.element {frame : CuboidFrame} {mat : Mat real}
    (copied : Copied frame (frame.width * frame.height) mat)
    (small : frame.width * frame.height ≤ maxSize) {k : Nat}
    (below : k < frame.width * frame.height) :
    mat.element (.ofNat k) = (frame.pixelValue k).map Nat.cast := by
  unfold Mat.element
  rw [toNat_ofNat_of_le (by omega), copied.data, Nat.sub_self, List.replicate_zero,
    List.append_nil, List.getElem?_map, List.getElem?_range below,
    CuboidFrame.pixelValue_eq below]
  rfl

theorem converts_iff (frame : CuboidFrame) :
    Converts real frame ↔ frame.width * frame.height ≤ maxSize := by
  constructor
  · rintro ⟨cells, -, length, -⟩
    rw [← length]
    exact (convertArrayToMat frame).allocated
  · intro small
    obtain ⟨done, copied⟩ := @convertLoopsWrites_eq real _ _ frame small
    refine ⟨_, done, copied.length le_rfl, fun cell => List.mem_range.mp, ?_⟩
    intro k below
    refine ⟨?_, copied.element small below⟩
    exact List.count_eq_one_of_mem List.nodup_range (List.mem_range.mpr below)

theorem addressable_convertArrayToMat {frame : CuboidFrame}
    (small : frame.width * frame.height ≤ maxSize) :
    (convertArrayToMat frame : Mat real).Addressable := by
  obtain ⟨-, copied⟩ := @convertLoops_eq real _ _ frame small
  rw [Mat.addressable_iff, copied.length le_rfl, copied.height, copied.width,
    UInt64.toNat_ofNat', UInt64.toNat_ofNat']
  exact Nat.mul_le_mul (Nat.mod_le ..) (Nat.mod_le ..)

/-- A frame is copied into the storage of its matrix, every cell once, if a vector can have
so many elements.  The array looks for the elements of its matrix at the same addresses, and
finds every one in a place of its own if and only if the storage goes that far, which for a
matrix that has been constructed means that the product of its sizes does not wrap around. -/
theorem frame_to_array :
    (∀ frame : CuboidFrame, (Converts real frame ↔ frame.width * frame.height ≤ maxSize) ∧
      (frame.width * frame.height ≤ maxSize →
        (convertArrayToMat frame : Mat real).Addressable)) ∧
    (∀ (mat : Mat real), (∀ i j, (pyGetNext mat).offset j i = 8 * mat.pos i j) ∧
      (mat.Addressable ↔ mat.height.toNat * mat.width.toNat ≤ mat.data.length)) ∧
    ∀ (height width : UInt64) (mat : Mat real), Mat.new height width = some mat →
      (mat.Addressable ↔ height.toNat * width.toNat < 2 ^ 64) := by
  refine ⟨fun frame => ⟨converts_iff frame, addressable_convertArrayToMat⟩,
    fun mat => ⟨mat.pyGetNext_offset, mat.addressable_iff⟩, ?_⟩
  intro height width mat allocated
  exact Mat.addressable_new_iff allocated

/-- A frame of two rows and three columns, and the last element of a matrix of that shape. -/
theorem frame_to_array_wide :
    Converts Int (.new default 3 2) ∧
    (convertArrayToMat (.new default 3 2) : Mat Int).Addressable ∧
    ∃ mat : Mat Int, Mat.new 2 3 = some mat ∧
      (pyGetNext mat).element 1 2 = mat.element 5 ∧ mat.element 5 = some 0 := by
  obtain ⟨frames, -, constructed⟩ := @frame_to_array Int _ _
  obtain ⟨converts, addressable⟩ := frames (.new default 3 2)
  refine ⟨converts.mpr (by decide), addressable (by decide), _, rfl, ?_, rfl⟩
  exact ((constructed 2 3 _ rfl).mpr (by decide)).exported 2 1 (by decide) (by decide)

/-- The product of these sizes is zero, and so is the stride: there are no elements, and the
first two rows would begin at the same byte.  A matrix made without arguments has no elements
either, whatever sizes were in memory.  A vector cannot have an element for every pixel of
the frame. -/
theorem not_frame_to_array :
    (∃ mat : Mat Int, Mat.new 8 (.ofNat (2 ^ 61)) = some mat ∧ mat.data = [] ∧
      0 < mat.width ∧ 1 < mat.height ∧
      (pyGetNext mat).offset 0 0 = (pyGetNext mat).offset 1 0 ∧ ¬ mat.Addressable) ∧
    ¬ (Mat.blank 1 1 : Mat Int).Addressable ∧
    ¬ Converts Int (.new default (2 ^ 60) 1) := by
  refine ⟨⟨_, rfl, rfl, by decide, by decide, rfl, ?_⟩, ?_, ?_⟩
  · rw [Mat.addressable_iff]
    decide
  · rw [Mat.addressable_iff]
    decide
  · rw [converts_iff]
    decide

end Conversion

end Gloc.Stream
