import Gloc.Files.Cuboid
import Gloc.Transition.Loops

/-!
# Frames as matrices

`Mat` and the conversion of a `CuboidFrame` into a matrix, pixel by pixel.  A
read or a write outside of the memory at hand makes the conversion fail; that
this does not happen is proved.
-/

namespace Gloc.Stream

open Gloc.Files Gloc.Transition

universe u

/-- `max_size ()` of a `std::vector` of doubles, which have eight bytes each. -/
def maxSize : Nat := (2 ^ 63 - 1) / 8

theorem maxSize_eq : maxSize = 2 ^ 60 - 1 := by decide

theorem toNat_ofNat_of_le {n : Nat} (small : n ≤ maxSize) : (UInt64.ofNat n).toNat = n := by
  rw [maxSize_eq] at small
  rw [UInt64.toNat_ofNat', Nat.mod_eq_of_lt (by omega)]

/-- The sizes in a header have sixteen bits. -/
theorem fieldAt_mul_le (bytes : List UInt8) (first second : Nat) :
    fieldAt bytes first 2 * fieldAt bytes second 2 ≤ maxSize := by
  have widths := Nat.le_of_lt_succ (fieldAt_lt bytes first 2)
  have heights := Nat.le_of_lt_succ (fieldAt_lt bytes second 2)
  exact (Nat.mul_le_mul widths heights).trans (by decide)

/-- A matrix, with the elements of its `std::vector`.  Nothing keeps the number of these at
the product of the sizes: the product may wrap around, the sizes may be uninitialised, and
`get_data` gives the vector away. -/
structure Mat (real : Type u) where
  height : UInt64
  width : UInt64
  data : List real
  allocated : data.length ≤ maxSize

namespace Mat

variable {real : Type u}

/-- `Mat ()`, whose sizes are what was in memory. -/
def blank (height width : UInt64) : Mat real :=
  { height := height
    width := width
    data := []
    allocated := Nat.zero_le _ }

/-- `Mat (height, width)`, whose vector throws a `std::length_error` if it gets too long. -/
def new [Zero real] (height width : UInt64) : Option (Mat real) :=
  if fits : (height * width).toNat ≤ maxSize then
    some
      { height := height
        width := width
        data := List.replicate (height * width).toNat 0
        allocated := by rwa [List.length_replicate] }
  else none

def pos (mat : Mat real) (i j : UInt64) : UInt64 :=
  i + j * mat.width

def assign (mat : Mat real) (i j : UInt64) (value : real) : Option (Mat real) :=
  if (mat.pos i j).toNat < mat.data.length then
    some { mat with
      data := mat.data.set (mat.pos i j).toNat value
      allocated := by rw [List.length_set]; exact mat.allocated }
  else none

theorem toNat_pos (mat : Mat real) {i j : UInt64}
    (small : i.toNat + j.toNat * mat.width.toNat < 2 ^ 64) :
    (mat.pos i j).toNat = i.toNat + j.toNat * mat.width.toNat := by
  rw [pos, UInt64.toNat_add, UInt64.toNat_mul, Nat.add_mod_mod, Nat.mod_eq_of_lt small]

end Mat

variable {real : Type u} [Zero real] [NatCast real]

/-- The loops of `ConvertArrayToMat::operator()`, together with the cells that they write,
one after the other. -/
def convertLoopsWrites (frame : CuboidFrame) : Option (Mat real × List Nat) :=
  (Mat.new (.ofNat frame.width) (.ofNat frame.height)).bind fun res =>
    (List.range frame.width).foldlM (fun state j =>
      (List.range frame.height).foldlM (fun state i =>
        (frame.pixelValue ((j * frame.height + i) % 2 ^ 64)).bind fun value =>
          (state.1.assign (.ofNat i) (.ofNat j) (value : real)).map fun next =>
            (next, state.2 ++ [(state.1.pos (.ofNat i) (.ofNat j)).toNat])) state) (res, [])

def convertLoops (frame : CuboidFrame) : Option (Mat real) :=
  (convertLoopsWrites frame).map Prod.fst

def pixelAs (real : Type u) [NatCast real] (frame : CuboidFrame) (k : Nat) : real :=
  (fieldAt frame.pixelValues.toList (2 * k) 2 : Nat)

structure Copied (frame : CuboidFrame) (count : Nat) (mat : Mat real) : Prop where
  height : mat.height = .ofNat frame.width
  width : mat.width = .ofNat frame.height
  data : mat.data = (List.range count).map (pixelAs real frame) ++
    List.replicate (frame.width * frame.height - count) 0

namespace Copied

variable {frame : CuboidFrame} {count : Nat} {mat : Mat real}

theorem length (copied : Copied frame count mat) (below : count ≤ frame.width * frame.height) :
    mat.data.length = frame.width * frame.height := by
  rw [copied.data, List.length_append, List.length_map, List.length_range,
    List.length_replicate]
  omega

theorem new (small : frame.width * frame.height ≤ maxSize) :
    ∃ mat : Mat real, Mat.new (.ofNat frame.width) (.ofNat frame.height) = some mat ∧
      Copied frame 0 mat := by
  have product : (UInt64.ofNat frame.width * UInt64.ofNat frame.height).toNat =
      frame.width * frame.height := by
    rw [maxSize_eq] at small
    rw [UInt64.toNat_mul, UInt64.toNat_ofNat', UInt64.toNat_ofNat', ← Nat.mul_mod,
      Nat.mod_eq_of_lt (by omega)]
  unfold Mat.new
  rw [dif_pos (product.trans_le small)]
  refine ⟨_, rfl, rfl, rfl, ?_⟩
  change List.replicate (UInt64.ofNat frame.width * UInt64.ofNat frame.height).toNat 0 = _
  rw [product]
  rfl

theorem toNat_pos (copied : Copied frame count mat) {i j : Nat} (row : i < frame.height)
    (column : j < frame.width) (small : frame.width * frame.height ≤ maxSize) :
    (mat.pos (.ofNat i) (.ofNat j)).toNat = j * frame.height + i := by
  have rows : (j + 1) * frame.height ≤ frame.width * frame.height :=
    Nat.mul_le_mul_right _ column
  have columns : frame.width * 1 ≤ frame.width * frame.height :=
    Nat.mul_le_mul_left _ (by omega)
  have heights : 1 * frame.height ≤ frame.width * frame.height :=
    Nat.mul_le_mul_right _ (by omega)
  rw [Nat.add_one_mul] at rows
  have position : (UInt64.ofNat i).toNat + (UInt64.ofNat j).toNat * mat.width.toNat =
      j * frame.height + i := by
    rw [copied.width, toNat_ofNat_of_le (by omega), toNat_ofNat_of_le (by omega),
      toNat_ofNat_of_le (by omega), Nat.add_comm]
  rw [maxSize_eq] at small
  rw [Mat.toNat_pos _ (by omega), position]

theorem assign (copied : Copied frame count mat) (below : count < frame.width * frame.height)
    {i j : UInt64} (position : (mat.pos i j).toNat = count) :
    ∃ next, mat.assign i j (pixelAs real frame count) = some next ∧
      Copied frame (count + 1) next := by
  unfold Mat.assign
  rw [if_pos (by rw [position, copied.length below.le]; exact below)]
  refine ⟨_, rfl, copied.height, copied.width, ?_⟩
  have remaining : frame.width * frame.height - count =
      frame.width * frame.height - (count + 1) + 1 := by omega
  have length : ((List.range count).map (pixelAs real frame)).length = count := by simp
  change mat.data.set (mat.pos i j).toNat _ = _
  rw [position, copied.data, List.set_append_right _ _ length.le, length, Nat.sub_self,
    remaining, List.replicate_succ, List.set_cons_zero, List.range_succ, List.map_append,
    List.append_assoc]
  rfl

end Copied

/-- The loops stay inside the frame and the matrix, copy pixel by pixel, and write cell
by cell. -/
theorem exists_convertLoopsWrites {frame : CuboidFrame}
    (small : frame.width * frame.height ≤ maxSize) :
    ∃ mat : Mat real,
      convertLoopsWrites frame = some (mat, List.range (frame.width * frame.height)) ∧
        Copied frame (frame.width * frame.height) mat := by
  obtain ⟨res, allocated, fresh⟩ := @Copied.new real _ _ frame small
  have rounds : ∃ state : Mat real × List Nat, convertLoopsWrites frame = some state ∧
      Copied frame (frame.width * frame.height) state.1 ∧
        state.2 = List.range (frame.width * frame.height) := by
    unfold convertLoopsWrites
    rw [allocated, Option.bind_some]
    refine foldlM_range (fun j (state : Mat real × List Nat) =>
      Copied frame (j * frame.height) state.1 ∧ state.2 = List.range (j * frame.height)) ?_ (by
        rw [Nat.zero_mul]
        exact ⟨fresh, rfl⟩)
    intro j state column copied
    have inside : (j + 1) * frame.height ≤ frame.width * frame.height :=
      Nat.mul_le_mul_right _ column
    rw [Nat.add_mul, Nat.one_mul] at inside ⊢
    refine foldlM_range (fun i (state : Mat real × List Nat) =>
      Copied frame (j * frame.height + i) state.1 ∧
        state.2 = List.range (j * frame.height + i)) ?_ copied
    rintro i ⟨mat, cells⟩ row ⟨copied, written⟩
    have stored : frame.pixelValue ((j * frame.height + i) % 2 ^ 64) =
        some (fieldAt frame.pixelValues.toList (2 * (j * frame.height + i)) 2) := by
      rw [maxSize_eq] at small
      rw [Nat.mod_eq_of_lt (by omega), CuboidFrame.pixelValue_eq (by omega)]
    have cell : (mat.pos (.ofNat i) (.ofNat j)).toNat = j * frame.height + i :=
      copied.toNat_pos row column small
    obtain ⟨next, assigned, copiedNext⟩ := copied.assign (by omega) cell
    refine ⟨(next, cells ++ [(mat.pos (.ofNat i) (.ofNat j)).toNat]), ?_, copiedNext, ?_⟩
    · rw [stored, Option.bind_some]
      change (mat.assign _ _ (pixelAs real frame (j * frame.height + i))).map _ = _
      rw [assigned, Option.map_some]
    · change cells = _ at written
      change cells ++ [(mat.pos (.ofNat i) (.ofNat j)).toNat] = _
      rw [cell, written, ← List.range_succ]
      rfl
  obtain ⟨⟨mat, cells⟩, done, copied, written⟩ := rounds
  exact ⟨mat, written ▸ done, copied⟩

/-- `ConvertArrayToMat::operator()`, for a frame whose matrix can be allocated. -/
def convertArrayToMat (frame : CuboidFrame) : Mat real :=
  (convertLoops frame).getD (.blank 0 0)

theorem convertLoopsWrites_eq {frame : CuboidFrame}
    (small : frame.width * frame.height ≤ maxSize) :
    convertLoopsWrites frame =
        some ((convertArrayToMat frame : Mat real), List.range (frame.width * frame.height)) ∧
      Copied frame (frame.width * frame.height) (convertArrayToMat frame : Mat real) := by
  obtain ⟨mat, done, copied⟩ := @exists_convertLoopsWrites real _ _ frame small
  have same : convertArrayToMat frame = mat := by
    rw [convertArrayToMat, convertLoops, done, Option.map_some, Option.getD_some]
  rw [same]
  exact ⟨done, copied⟩

theorem convertLoops_eq {frame : CuboidFrame} (small : frame.width * frame.height ≤ maxSize) :
    convertLoops frame = some (convertArrayToMat frame : Mat real) ∧
      Copied frame (frame.width * frame.height) (convertArrayToMat frame : Mat real) := by
  obtain ⟨done, copied⟩ := @convertLoopsWrites_eq real _ _ frame small
  refine ⟨?_, copied⟩
  rw [convertLoops, done, Option.map_some]

end Gloc.Stream
