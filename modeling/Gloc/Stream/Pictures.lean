import Gloc.Files.Histories
import Gloc.Files.Payload
import Gloc.Stream.Conversion
import Gloc.Stream.StreamReader

/-!
# The pictures in a file

What a Python program gets from a `StreamReader` are arrays of numbers.  If the
frames of the file can be read at all, these are the numbers that the file has
behind the header rows of its records, whatever the schedule of the threads and
whatever was in memory.
-/

namespace Gloc.Files

/-- A number behind the header row of a record. -/
def File.sample (file : File) (i k : Nat) : Nat :=
  fieldAt file.content (512 + file.stride * i + 2 * file.vWidth + 2 * k) 2

theorem StoredFrame.fieldAt {file : File} {i k : Nat} {frame : CuboidFrame}
    (stored : StoredFrame file i frame) (below : k < file.vWidth * file.hWidth) :
    fieldAt frame.pixelValues.toList (2 * k) 2 = file.sample i k := by
  rw [Nat.mul_comm] at below
  have read := fieldAt_eq_of_slice_eq stored.pixels (show 2 * k + 2 ≤ _ by omega)
  rwa [Nat.zero_add] at read

theorem WellFormed.readable {file : File} {i : Nat} (wellFormed : WellFormed file)
    (below : i < file.recordCount) : file.Readable i := by
  have opened := CuboidFile.loadCub_eq wellFormed default
  obtain ⟨loaded, -⟩ := Loaded.of_loadCub wellFormed.headed opened
  have kept := Kept.of_loaded loaded
  refine ⟨wellFormed.large, ?_, ?_⟩
  · intro request membership
    rw [← kept.requests] at membership
    exact loaded.holds_requests wellFormed below membership
  · rw [← kept.posPixel, loaded.posPixel wellFormed below, File.stride]

end Gloc.Files

namespace Gloc.Stream

open Gloc.Channel Gloc.Files Gloc.Transition

universe u v

/-- What `mywrapper` makes of a vector: an array of one dimension, with a copy of the
elements. -/
structure FlatArray (real : Type u) where
  data : List real
  shape : Nat

variable {real : Type u}

/-- `mywrapper (v)`, whose loop is that of `std::copy` into an array of zeros. -/
def mywrapper [Zero real] (v : List real) : FlatArray real :=
  { data := (List.range v.length).foldl (fun result i => result.set i (v.getD i 0))
      (List.replicate v.length 0)
    shape := v.length }

/-- `next_from_stream`, for a frame that is not the null pointer. -/
def nextFromStream [Zero real] (frame : Mat real) : FlatArray real :=
  mywrapper frame.data

theorem mywrapper_data [Zero real] (v : List real) : (mywrapper v).data = v := by
  have copied : ∀ count, count ≤ v.length →
      (List.range count).foldl (fun result i => result.set i (v.getD i 0))
        (List.replicate v.length 0) =
      v.take count ++ List.replicate (v.length - count) 0 := by
    intro count inside
    induction count with
    | zero => simp
    | succ count inductionHypothesis =>
        have length : (v.take count).length = count := List.length_take_of_le (by omega)
        have remaining : v.length - count = v.length - (count + 1) + 1 := by omega
        rw [List.range_succ, List.foldl_append, inductionHypothesis (by omega),
          List.foldl_cons, List.foldl_nil, List.set_append_right _ _ length.le, length,
          Nat.sub_self, remaining, List.replicate_succ, List.set_cons_zero,
          List.take_add_one, List.getD_eq_getElem?_getD,
          List.getElem?_eq_getElem (by omega : count < v.length), List.append_assoc]
        rfl
  have whole := copied v.length le_rfl
  rwa [List.take_length, Nat.sub_self, List.replicate_zero, List.append_nil] at whole

variable [Zero real] [NatCast real]

def picture (real : Type u) [NatCast real] (file : File) (i : Nat) : Mat real :=
  { height := .ofNat file.vWidth
    width := .ofNat file.hWidth
    data := (List.range (file.vWidth * file.hWidth)).map fun k => (file.sample i k : real)
    allocated := by
      rw [List.length_map, List.length_range]
      exact fieldAt_mul_le .. }

def pictures (real : Type u) [NatCast real] (file : File) : List (FramePtr real) :=
  (List.range file.recordCount).map (fun i => some (picture real file i)) ++ [none]

omit [Zero real] in
theorem length_pictures (file : File) : (pictures real file).length = file.recordCount + 1 := by
  rw [pictures, List.length_append, List.length_map, List.length_range, List.length_singleton]

omit [Zero real] [NatCast real] in
theorem Mat.eq_of_data {left right : Mat real} (height : left.height = right.height)
    (width : left.width = right.width) (data : left.data = right.data) : left = right := by
  cases left
  cases right
  cases height
  cases width
  cases data
  rfl

theorem convertArrayToMat_stored {file : File} {i : Nat} {frame : CuboidFrame}
    (stored : StoredFrame file i frame) :
    (convertArrayToMat frame : Mat real) = picture real file i := by
  have small : frame.width * frame.height ≤ maxSize := by
    rw [stored.width, stored.height]
    exact fieldAt_mul_le ..
  obtain ⟨-, height, width, data⟩ := @convertLoops_eq real _ _ frame small
  apply Mat.eq_of_data (height.trans (congrArg _ stored.width))
    (width.trans (congrArg _ stored.height))
  rw [data, Nat.sub_self, List.replicate_zero, List.append_nil, stored.width, stored.height,
    picture]
  apply List.map_congr_left
  intro k below
  rw [pixelAs, stored.fieldAt (List.mem_range.mp below)]

section Reading

variable {frametype : Type v} {file : File} {cub : CuboidFile} {memory : Nat → Uninitialised}

theorem readLoop_stored (F : CuboidFrame → frametype)
    (readable : ∀ i < file.recordCount, file.Readable i) (rounds i : Nat)
    (kept : Kept file cub) (inOrder : cub.fileIn.failbit = false)
    (counted : i + rounds ≤ file.recordCount) :
    ∃ frames : List CuboidFrame, frames.length = rounds ∧
      readLoop F memory rounds i cub = (frames.map F, none) ∧
      ∀ k (below : k < frames.length), StoredFrame file (i + k) frames[k] := by
  induction rounds generalizing i cub with
  | zero => exact ⟨[], rfl, rfl, fun k below => absurd below (Nat.not_lt_zero k)⟩
  | succ rounds inductionHypothesis =>
      have inFile : i < file.recordCount := by omega
      obtain ⟨large, held, same⟩ := readable i inFile
      obtain ⟨frame, read, stored⟩ :=
        (kept.readsFrame_iff inFile).mpr ⟨large, inOrder, held, same⟩ (memory i)
      obtain ⟨keptNext, -, fine⟩ := kept.getFrame (memory i) i
      have inOrderNext := fine.mpr ⟨inOrder, by
        intro j membership _
        rwa [List.mem_singleton.mp membership]⟩
      obtain ⟨frames, length, sent, later⟩ :=
        inductionHypothesis (i + 1) keptNext inOrderNext (by omega)
      refine ⟨frame :: frames, by rw [List.length_cons, length], ?_, ?_⟩
      · have taken : cub.getFrame (memory i) i = (.ok frame, (cub.getFrame (memory i) i).2) :=
          Prod.ext read rfl
        rw [readLoop, taken]
        simp only [sent, List.map_cons]
      · intro k below
        cases k with
        | zero => exact stored
        | succ k =>
            have storedLater := later k (by simpa using below)
            rw [Nat.add_right_comm] at storedLater
            exact storedLater

theorem run_stored (F : CuboidFrame → frametype) (nullptr : frametype) {blank : CuboidFile}
    (headed : 512 ≤ file.size) (opened : blank.loadCub file = .ok cub)
    (readable : ∀ i < file.recordCount, file.Readable i) :
    ∃ frames : List CuboidFrame, frames.length = file.recordCount ∧
      run F nullptr blank memory file = ((frames.map F ++ [nullptr]).map .send, none) ∧
      ∀ i (below : i < frames.length), StoredFrame file i frames[i] := by
  obtain ⟨loaded, -⟩ := Loaded.of_loadCub headed opened
  have inOrder : cub.fileIn.failbit = false := by
    obtain ⟨place, stream⟩ := loaded.stream
    rw [stream]
    rfl
  obtain ⟨frames, length, sent, stored⟩ := @readLoop_stored _ _ cub memory F readable
    file.recordCount 0 (Kept.of_loaded loaded) inOrder (Nat.zero_add _).le
  refine ⟨frames, length, ?_, fun i below => ?_⟩
  · have count : cub.getFrameCount = file.recordCount := loaded.frameCount
    simp only [run, opened, count, sent, List.map_append, List.map_cons, List.map_nil]
  · have storedHere := stored i below
    rwa [Nat.zero_add] at storedHere

end Reading

/-- A stream reader is a pipe for the pictures in the file. -/
theorem streamReader_eq_pictures {blank cub : CuboidFile} {memory : Nat → Uninitialised}
    {file : File} (headed : 512 ≤ file.size) (opened : blank.loadCub file = .ok cub)
    (readable : ∀ i < file.recordCount, file.Readable i) (calls : Nat) :
    streamReader real blank memory file calls = pipe (pictures real file) calls := by
  obtain ⟨frames, length, sent, stored⟩ :=
    @run_stored _ _ cub memory (toFramePtr real) none blank headed opened readable
  have images : frames.map (toFramePtr real) =
      (List.range file.recordCount).map fun i => some (picture real file i) := by
    apply List.ext_getElem
    · rw [List.length_map, List.length_map, List.length_range, length]
    · intro i below _
      rw [List.length_map] at below
      rw [List.getElem_map, List.getElem_map, List.getElem_range, toFramePtr,
        convertArrayToMat_stored (stored i below)]
  funext thread
  cases thread with
  | sender => rw [streamReader, sent, images, pipe, pictures]
  | receiver => rfl

section Elements

variable (file : File) (i : Nat)

omit [Zero real] in
theorem toNat_height_picture : (picture real file i).height.toNat = file.vWidth :=
  UInt64.toNat_ofNat_of_lt' ((fieldAt_lt file.content 8 2).trans (by decide))

omit [Zero real] in
theorem toNat_width_picture : (picture real file i).width.toNat = file.hWidth :=
  UInt64.toNat_ofNat_of_lt' ((fieldAt_lt file.content 10 2).trans (by decide))

omit [Zero real] in
theorem addressable_picture : (picture real file i).Addressable := by
  rw [Mat.addressable_iff, toNat_height_picture, toNat_width_picture, picture, List.length_map,
    List.length_range]

/-- The elements of a picture, in the array of two dimensions and in the one of one
dimension that Python programs get. -/
theorem picture_elements {row column : Nat} (inRows : row < file.vWidth)
    (inColumns : column < file.hWidth) :
    (pyGetNext (picture real file i)).element row column =
        some (file.sample i (row * file.hWidth + column) : real) ∧
      (nextFromStream (picture real file i)).data[row * file.hWidth + column]? =
        some (file.sample i (row * file.hWidth + column) : real) := by
  have inside : row * file.hWidth + column < file.vWidth * file.hWidth := by
    have rows : (row + 1) * file.hWidth ≤ file.vWidth * file.hWidth :=
      Nat.mul_le_mul_right _ inRows
    rw [Nat.add_one_mul] at rows
    omega
  have element : (picture real file i).data[row * file.hWidth + column]? =
      some (file.sample i (row * file.hWidth + column) : real) := by
    rw [picture, List.getElem?_map, List.getElem?_range inside, Option.map_some]
  refine ⟨?_, by rw [nextFromStream, mywrapper_data, element]⟩
  have rows : (UInt64.ofNat row).toNat = row :=
    UInt64.toNat_ofNat_of_lt' (inRows.trans ((fieldAt_lt file.content 8 2).trans (by decide)))
  have columns : (UInt64.ofNat column).toNat = column :=
    UInt64.toNat_ofNat_of_lt' (inColumns.trans ((fieldAt_lt file.content 10 2).trans (by decide)))
  have stored := (picture real file i).addressable_iff.mp (addressable_picture file i)
  have inWidth : UInt64.ofNat column < (picture real file i).width := by
    rwa [UInt64.lt_iff_toNat_lt, columns, toNat_width_picture]
  have inHeight : UInt64.ofNat row < (picture real file i).height := by
    rwa [UInt64.lt_iff_toNat_lt, rows, toNat_height_picture]
  have exported := Mat.pyGetNext_element stored inWidth inHeight
  rw [rows, columns, Mat.element, (Mat.toNat_pos_lt stored inWidth inHeight).1, rows, columns,
    toNat_width_picture, Nat.add_comm, element] at exported
  exact exported

end Elements

/-- The owner of a stream reader gets the pictures in the file in their order and then a
null pointer, whatever the schedule and whatever was in memory. -/
theorem streamReader_shows {asserts : Asserts} {blank cub : CuboidFile}
    {memory : Nat → Uninitialised} {file : File} (headed : 512 ≤ file.size)
    (opened : blank.loadCub file = .ok cub)
    (readable : ∀ i < file.recordCount, file.Readable i) {calls : Nat}
    {labels : List (Label End (FramePtr real))} {c : Clients End (FramePtr real)}
    (run : Clients.Reaches asserts bufferSize (streamReader real blank memory file calls)
      labels c) :
    results .receiver (trace labels) <+: (pictures real file).map (.received .value) ∧
      c.Safe asserts bufferSize ∧
      (c.Ended .receiver → results .receiver (trace labels) =
        ((pictures real file).take calls).map (.received .value)) ∧
      (calls ≤ file.recordCount + 1 → ∀ budget, Inevitable (Clients.Step asserts bufferSize)
        (fun label => label.1.isSpurious = true) (fun c => c.Ended .receiver) budget c) ∧
      ∀ i row column, row < file.vWidth → column < file.hWidth →
        (pyGetNext (picture real file i)).element row column =
            some (file.sample i (row * file.hWidth + column) : real) ∧
          (nextFromStream (picture real file i)).data[row * file.hWidth + column]? =
            some (file.sample i (row * file.hWidth + column) : real) := by
  rw [streamReader_eq_pictures headed opened readable] at run
  refine ⟨Piped.results_firstValues run, Piped.safe run, Piped.results_of_ended run, ?_, ?_⟩
  · intro enough budget
    refine Piped.inevitable ?_ run budget
    rwa [length_pictures]
  · intro i row column inRows inColumns
    exact picture_elements file i inRows inColumns

/-- A file with one frame whose third number is not zero. -/
theorem streamReader_shows_column :
    ∃ (file : File) (cub : CuboidFile), CuboidFile.loadCub default file = .ok cub ∧
      (pyGetNext (picture Nat file 0)).element 2 0 = some 0x1234 ∧
      ∀ labels c, Clients.Reaches .active bufferSize
          (streamReader Nat default (fun _ => default) file 2) labels c →
        c.Ended .receiver → results .receiver (trace labels) =
          [.received .value (some (picture Nat file 0)), .received .value none] := by
  have wellFormed : WellFormed (.column (List.replicate 36 0 ++ [0x34, 0x12] ++
      List.replicate 26 0) (by decide)) := File.wellFormed_column
  have count : (File.column (List.replicate 36 0 ++ [0x34, 0x12] ++ List.replicate 26 0)
      (by decide)).recordCount = 1 := by
    rw [File.recordCount_column]
    decide
  have shows := fun labels c => @streamReader_shows Nat _ _ .active default _ (fun _ => default)
    _ wellFormed.headed (CuboidFile.loadCub_eq wellFormed default)
    (fun i below => wellFormed.readable below) 2 labels c
  refine ⟨_, _, CuboidFile.loadCub_eq wellFormed default, ?_, ?_⟩
  · have position : 512 + 64 * 0 + 2 * 16 + 2 * (2 * 1 + 0) = 512 + 36 := by decide
    rw [(picture_elements _ 0 (by rw [File.vWidth_column]; decide)
      (by rw [File.hWidth_column]; decide)).1, File.sample, File.stride_column,
      File.vWidth_column, File.hWidth_column, fieldAt, position, File.slice_column]
    decide
  · intro labels c run ended
    rw [(shows labels c run).2.2.1 ended, pictures, count]
    rfl

end Gloc.Stream
