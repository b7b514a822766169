import Mathlib.Algebra.BigOperators.Pi
import Gloc.Stream.Pictures
import Gloc.Viewer.Traffic

/-!
# What the viewer shows of a file

The viewer has images of its own, Eigen arrays with a row for each column of the
sensor.  They hold the same numbers as the arrays that Python programs get, and
what arrives at the end of the pipeline are their sums over the windows.
-/

namespace Gloc.Viewer

open Gloc.Channel Gloc.Files Gloc.Transition

abbrev ArrayXXd (real : Type) (rows columns : Nat) := Fin rows → Fin columns → real

section Conversion

variable {real : Type} [NatCast real] {rows columns : Nat}

/-- `operator() (j, i)` as the target of an assignment, if there is such a coefficient. -/
def ArrayXXd.assign (res : ArrayXXd real rows columns) (j i : Nat) (value : real) :
    Option (ArrayXXd real rows columns) :=
  if inside : j < rows ∧ i < columns then
    some fun row column =>
      if row = ⟨j, inside.1⟩ ∧ column = ⟨i, inside.2⟩ then value else res row column
  else none

/-- `convertArrayToMat::operator()`, into an array that is not initialised. -/
def convertArrayToMat (fresh : ArrayXXd real rows columns) (frame : CuboidFrame) :
    Option (ArrayXXd real rows columns) :=
  (List.range frame.width).foldlM (fun res j =>
    (List.range frame.height).foldlM (fun res i =>
      (frame.pixelValue (j * frame.height + i)).bind fun value =>
        res.assign j i (value : real)) res) fresh

def Converted (frame : CuboidFrame) (count : Nat) (res : ArrayXXd real rows columns) : Prop :=
  ∀ row column, row.val * columns + column.val < count →
    res row column = Stream.pixelAs real frame (row.val * columns + column.val)

theorem Converted.assign {frame : CuboidFrame} {res : ArrayXXd real rows columns} {j i : Nat}
    (converted : Converted frame (j * columns + i) res) (inRows : j < rows)
    (inColumns : i < columns) :
    ∃ next, res.assign j i (Stream.pixelAs real frame (j * columns + i)) = some next ∧
      Converted frame (j * columns + (i + 1)) next := by
  unfold ArrayXXd.assign
  rw [dif_pos ⟨inRows, inColumns⟩]
  refine ⟨_, rfl, fun row column before => ?_⟩
  by_cases same : row = ⟨j, inRows⟩ ∧ column = ⟨i, inColumns⟩
  · rw [if_pos same, same.1, same.2]
  · rw [if_neg same]
    refine converted row column (Nat.lt_of_le_of_ne (by omega) fun position => same ?_)
    have rowOf : row.val = j := by
      have quotient := congrArg (· / columns) position
      simp only [Nat.mul_comm _ columns, Nat.mul_add_div (Nat.zero_lt_of_lt inColumns),
        Nat.div_eq_of_lt column.isLt, Nat.div_eq_of_lt inColumns, Nat.add_zero] at quotient
      exact quotient
    rw [rowOf] at position
    exact ⟨Fin.ext rowOf, Fin.ext (Nat.add_left_cancel position)⟩

/-- The loops assign every coefficient of an array of the right size, so that nothing of
what was in memory is left. -/
theorem convertArrayToMat_eq (fresh : ArrayXXd real rows columns) {frame : CuboidFrame}
    (width : frame.width = rows) (height : frame.height = columns) :
    convertArrayToMat fresh frame = some fun row column =>
      Stream.pixelAs real frame (row.val * columns + column.val) := by
  subst width height
  have rounds : ∃ res, convertArrayToMat fresh frame = some res ∧
      Converted frame (frame.width * frame.height) res := by
    refine foldlM_range (fun j res => Converted frame (j * frame.height) res) ?_ (by
      intro row column none
      omega)
    intro j res row converted
    rw [Nat.add_one_mul]
    refine foldlM_range (fun i res => Converted frame (j * frame.height + i) res) ?_ converted
    intro i res column converted
    obtain ⟨next, assigned, convertedNext⟩ := converted.assign row column
    refine ⟨next, ?_, convertedNext⟩
    have inside : (j + 1) * frame.height ≤ frame.width * frame.height :=
      Nat.mul_le_mul_right _ row
    rw [Nat.add_one_mul] at inside
    rw [CuboidFrame.pixelValue_eq (by omega), Option.bind_some]
    exact assigned
  obtain ⟨res, done, converted⟩ := rounds
  rw [done]
  apply congrArg some
  funext row column
  apply converted
  have inside : (row.val + 1) * frame.height ≤ frame.width * frame.height :=
    Nat.mul_le_mul_right _ row.isLt
  rw [Nat.add_one_mul] at inside
  have inColumns := column.isLt
  omega

end Conversion

section Averages

variable {real : Type} {file : File}

def image [NatCast real] (file : File) (k : Nat) : ArrayXXd real file.vWidth file.hWidth :=
  fun row column => (file.sample k (row.val * file.hWidth + column.val) : real)

/-- The functor of the reader, which never has to fall back on what was in memory. -/
def toImage [NatCast real] (fresh : ArrayXXd real file.vWidth file.hWidth)
    (frame : CuboidFrame) : ArrayXXd real file.vWidth file.hWidth :=
  (convertArrayToMat fresh frame).getD fresh

theorem toImage_stored [NatCast real] (fresh : ArrayXXd real file.vWidth file.hWidth) {k : Nat}
    {frame : CuboidFrame} (stored : StoredFrame file k frame) :
    toImage fresh frame = image file k := by
  rw [toImage, convertArrayToMat_eq fresh stored.width stored.height, Option.getD_some]
  funext row column
  have inside : (row.val + 1) * file.hWidth ≤ file.vWidth * file.hWidth :=
    Nat.mul_le_mul_right _ row.isLt
  rw [Nat.add_one_mul] at inside
  have inColumns := column.isLt
  rw [image, Stream.pixelAs, stored.fieldAt (by omega)]

/-- What arrives at `FrameRecv` of a file: the sums of all windows but the first and the
last one. -/
def averages (real : Type) [AddMonoidWithOne real] (bufferSize : Nat) (file : File) :
    List (FramePtr (ArrayXXd real file.vWidth file.hWidth)) :=
  if bufferSize < file.recordCount then
    (List.range (file.recordCount - bufferSize - 1)).map (fun m =>
      some fun row column => ((List.range bufferSize).map fun t =>
        (file.sample (m + 1 + t) (row.val * file.hWidth + column.val) : real)).sum) ++ [none]
  else []

theorem windows_inner {α : Type} {b n : Nat} (enough : b < n) (g : Nat → α) :
    (windows b ((List.range n).map g)).dropLast.tail =
      (List.range (n - b - 1)).map fun m => (List.range b).map fun t => g (m + 1 + t) := by
  have length : n + 1 - b = n - b - 1 + 1 + 1 := by omega
  rw [windows, List.length_map, List.length_range, length, List.range_succ, List.map_append,
    List.map_cons, List.map_nil, List.dropLast_concat, List.range_succ_eq_map, List.map_cons,
    List.tail_cons, List.map_map]
  apply List.map_congr_left
  intro m inner
  rw [List.mem_range] at inner
  apply List.ext_getElem
  · simp only [Function.comp, List.length_take, List.length_drop, List.length_map,
      List.length_range]
    omega
  · intro t _ _
    simp only [Function.comp, List.getElem_take, List.getElem_drop, List.getElem_map,
      List.getElem_range, Nat.succ_eq_add_one]

theorem traffic_averages [AddMonoidWithOne real] {bufferSize : Nat} {frames : List CuboidFrame}
    (fresh : ArrayXXd real file.vWidth file.hWidth) (he : CuboidFrameHeader)
    (length : frames.length = file.recordCount)
    (stored : ∀ k (below : k < frames.length), StoredFrame file k frames[k]) :
    traffic bufferSize (toImage fresh) frames he .meanChan = averages real bufferSize file := by
  have images : frames.map (toImage fresh) = (List.range file.recordCount).map (image file) := by
    apply List.ext_getElem
    · rw [List.length_map, List.length_map, List.length_range, length]
    · intro k below _
      rw [List.length_map] at below
      rw [List.getElem_map, List.getElem_map, List.getElem_range,
        toImage_stored fresh (stored k below)]
  rw [traffic, averages, length]
  by_cases enough : bufferSize < file.recordCount
  · rw [if_pos enough, if_pos enough, images, windows_inner enough, marked, List.map_map,
      List.map_map]
    congr 1
    apply List.map_congr_left
    intro m _
    apply congrArg some
    funext row column
    rw [Pi.list_sum_apply, Pi.list_sum_apply, List.map_map, List.map_map]
    rfl
  · rw [if_neg enough, if_neg enough]

end Averages

/-- At the end of the pipeline there arrive the sums of the numbers in the file over the
windows, whatever the schedule and whatever was in memory, and the image of a frame is the
array that a stream reader makes of it. -/
theorem viewer_shows {real : Type} [AddMonoidWithOne real] {bufferSize : Nat}
    (positive : 0 < bufferSize) {file : File} (headed : 512 ≤ file.size)
    {blank cub : CuboidFile} (opened : blank.loadCub file = .ok cub)
    (readable : ∀ k < file.recordCount, file.Readable k) (memory : Nat → Uninitialised)
    (fresh : ArrayXXd real file.vWidth file.hWidth) (he : CuboidFrameHeader) :
    (∃ frames, Stream.readLoop id memory cub.getFrameCount 0 cub = (frames, none) ∧
      ∀ asserts past s, (viewer bufferSize (toImage fresh) frames he).Reaches asserts past s →
        Network.delivered Wire.meanChan past <+: averages real bufferSize file ∧
          ((viewer bufferSize (toImage fresh) frames he).Finished s →
            Network.delivered Wire.meanChan past = averages real bufferSize file)) ∧
    ∀ (k : Nat) (row : Fin file.vWidth) (column : Fin file.hWidth),
      (Stream.pyGetNext (Stream.picture real file k)).element row column =
        some (image file k row column) := by
  constructor
  · obtain ⟨loaded, -⟩ := Loaded.of_loadCub headed opened
    have count : cub.getFrameCount = file.recordCount := loaded.frameCount
    have inOrder : cub.fileIn.failbit = false := by
      obtain ⟨place, stream⟩ := loaded.stream
      rw [stream]
      rfl
    obtain ⟨frames, length, read, stored⟩ := @Stream.readLoop_stored _ _ cub memory id readable
      file.recordCount 0 (Kept.of_loaded loaded) inOrder (Nat.zero_add _).le
    refine ⟨frames, by rw [count, read, List.map_id], ?_⟩
    intro asserts past s run
    obtain ⟨script, values, enough⟩ :=
      @exists_script_traffic _ _ bufferSize (toImage fresh) frames he positive
    have carried : script.values .meanChan = averages real bufferSize file := by
      rw [values, traffic_averages fresh he length]
      intro k below
      have storedHere := stored k below
      rwa [Nat.zero_add] at storedHere
    rw [← carried]
    exact Network.delivered_of_script script enough run .meanChan
  · intro k row column
    exact (Stream.picture_elements file k row.isLt column.isLt).1

/-- Of a file with three frames `FrameRecv` gets the one in the middle, if the windows have
one frame. -/
theorem viewer_shows_grey :
    ∃ (file : File) (cub : CuboidFile) (frames : List CuboidFrame),
      CuboidFile.loadCub default file = .ok cub ∧
      Stream.readLoop id (fun _ => default) cub.getFrameCount 0 cub = (frames, none) ∧
      ∀ past s, (viewer 1 (@toImage Nat file _ fun _ _ => 7) frames default).Reaches .active
          past s →
        (viewer 1 (@toImage Nat file _ fun _ _ => 7) frames default).Finished s →
          Network.delivered Wire.meanChan past = [some fun _ _ => 0x0101, none] := by
  obtain ⟨file, wellFormed, width, height, count, grey⟩ : ∃ file : File, WellFormed file ∧
      file.vWidth = 16 ∧ file.hWidth = 1 ∧ file.recordCount = 3 ∧
      ∀ k, k < 16 → file.sample 1 k = 0x0101 := by
    refine ⟨.column (List.replicate 192 1) (by rw [List.length_replicate]; decide),
      File.wellFormed_column, File.vWidth_column, File.hWidth_column, ?_, ?_⟩
    · rw [File.recordCount_column, List.length_replicate]
    · intro k inFrame
      have position : 512 + 64 * 1 + 2 * 16 + 2 * k = 512 + (96 + 2 * k) := by omega
      rw [File.sample, File.stride_column, File.vWidth_column, position, fieldAt,
        File.slice_column, slice, List.drop_replicate, List.take_replicate,
        Nat.min_eq_left (by omega)]
      decide
  have opened := CuboidFile.loadCub_eq wellFormed default
  obtain ⟨⟨frames, read, shown⟩, -⟩ := @viewer_shows Nat _ 1 (by decide) file wellFormed.headed
    default _ opened (fun k below => wellFormed.readable below) (fun _ => default)
    (fun _ _ => 7) default
  refine ⟨file, _, frames, opened, read, fun past s run finished => ?_⟩
  rw [(shown _ past s run).2 finished, averages, count, if_pos (by decide)]
  refine congrArg (fun image => [some image, none]) ?_
  funext row column
  have inRows : row.val < 16 := width ▸ row.isLt
  have inColumns : column.val < 1 := height ▸ column.isLt
  have place : row.val * file.hWidth = row.val := by rw [height, Nat.mul_one]
  exact grey (row.val * file.hWidth + column.val) (by omega)

end Gloc.Viewer
