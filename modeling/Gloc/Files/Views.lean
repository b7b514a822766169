import Gloc.Files.Histories
import Gloc.Files.Payload

/-!
# The view of the pixels

`getFrame` looks for the pixels behind the header row of a record, and
`getFrameValues` skips a header row once more, counted in pixels.  The view
begins with the third row, and it ends where nothing has been read.
-/

namespace Gloc.Files

/-- A pixel of a record: its numbers from the end of the header row on. -/
def File.pixel (file : File) (i k : Nat) : Nat :=
  fieldAt (file.record i) (2 * file.vWidth + 2 * k) 2

namespace CuboidFrame

/-- `getFrameValues ()`, as an index into the buffer. -/
def getFrameValues (frame : CuboidFrame) : Nat :=
  frame.frameOffset

/-- `getFrameValues ()[k]`, if that is inside the buffer. -/
def frameValue (frame : CuboidFrame) (k : Nat) : Option Nat :=
  frame.pixelValue (frame.getFrameValues + k)

end CuboidFrame

/-- An element of the view of frame `i` is that pixel of record `i`, whatever was in
memory. -/
def CuboidFile.ShowsPixel (file : File) (cub : CuboidFile) (i k : Nat) : Prop :=
  ∀ memory, ∃ frame, (cub.getFrame memory i).1 = .ok frame ∧
    frame.frameValue k = some (file.pixel i k)

/-- The view of frame `i` consists of the pixels of record `i`. -/
def CuboidFile.ShowsPixels (file : File) (cub : CuboidFile) (i : Nat) : Prop :=
  ∀ memory, ∃ frame, (cub.getFrame memory i).1 = .ok frame ∧
    ∀ k, k < file.vWidth * file.hWidth → frame.frameValue k = some (file.pixel i k)

theorem CuboidFile.ShowsPixels.showsPixel {file : File} {cub : CuboidFile} {i k : Nat}
    (shows : cub.ShowsPixels file i) (inFrame : k < file.vWidth * file.hWidth) :
    cub.ShowsPixel file i k := by
  intro memory
  obtain ⟨frame, read, pixels⟩ := shows memory
  exact ⟨frame, read, pixels k inFrame⟩

theorem slice_append_of_ge {early bytes : List UInt8} {offset length : Nat}
    (behind : early.length ≤ offset) :
    slice (early ++ bytes) offset length = slice bytes (offset - early.length) length := by
  rw [slice, slice, List.drop_append, List.drop_eq_nil_of_le behind, List.nil_append]

theorem Block.fieldAt_store {size : Nat} (block : Block size) {bytes : List UInt8}
    {offset width : Nat} (fits : bytes.length ≤ size) (behind : bytes.length ≤ offset) :
    fieldAt (block.store bytes).toList offset width = fieldAt block.toList offset width := by
  have whole : bytes.take size = bytes := List.take_of_length_le fits
  unfold fieldAt
  rw [toList_store, whole, slice_append_of_ge behind, slice, slice, List.drop_drop]
  congr 3
  omega

theorem Block.fieldAt_constant {size offset : Nat} (byte : UInt8) (inside : offset + 2 ≤ size) :
    fieldAt (constant size byte).toList offset 2 = littleEndian [byte, byte] := by
  unfold fieldAt
  apply congrArg
  change List.take 2 (List.drop offset (List.replicate size byte)) = _
  rw [List.drop_replicate, List.take_replicate, min_eq_left (by omega)]
  rfl

namespace Loaded

variable {file : File} {cub : CuboidFile} {i : Nat}

/-- A frame as it is returned: pixels of the record as far as the file goes, and then
what the memory was. -/
theorem getFrame_pixels (wellFormed : WellFormed file) (loaded : Loaded file cub)
    (below : i < file.recordCount) (byte : UInt8) :
    ∃ frame, (cub.getFrame ⟨default, fun _ => byte⟩ i).1 = .ok frame ∧
      frame.getFrameValues = 2 * file.vWidth ∧
      ∀ k, frame.pixelValue k =
        if k < file.vWidth * file.hWidth then some (file.pixel i k)
        else if k < (file.vWidth + 1) * file.hWidth then some (littleEndian [byte, byte])
        else none := by
  have parts := wellFormed.stride_eq
  have large := wellFormed.large
  rw [← loaded.vWidth, ← loaded.hWidth] at large
  have kept := Kept.of_loaded loaded
  have complete : (cub.pixelBytes i).length = 2 * (file.hWidth * file.vWidth) := by
    apply (kept.length_pixelBytes_iff wellFormed.large).2.mpr
    rw [← kept.requests]
    obtain ⟨position, stream⟩ := loaded.stream
    refine ⟨?_, fun request membership => loaded.holds_requests wellFormed below membership⟩
    rw [stream]
    rfl
  obtain ⟨⟨frame, read, frameOf⟩, -⟩ :=
    loaded.getFrame_reads wellFormed ⟨default, fun _ => byte⟩ below
  obtain ⟨frame', read', filled⟩ := @CuboidFile.getFrame_filled cub
    ⟨default, fun _ => byte⟩ i (loaded.frameCount ▸ below) large
  obtain rfl := Except.ok.inj (read.symm.trans read')
  refine ⟨frame, read, frameOf.frameOffset, ?_⟩
  intro k
  by_cases inRecord : k < file.vWidth * file.hWidth
  · rw [if_pos inRecord, frameOf.pixelValue wellFormed inRecord, File.pixel, File.record,
      fieldAt_slice (by rw [Nat.mul_comm] at inRecord; omega), ← Nat.add_assoc]
  · have area : (frame.width + 1) * frame.height = (file.vWidth + 1) * file.hWidth := by
      rw [frameOf.width, frameOf.height]
    rw [if_neg inRecord]
    unfold CuboidFrame.pixelValue
    by_cases inBuffer : k < (file.vWidth + 1) * file.hWidth
    · have fits : 2 * (file.hWidth * file.vWidth) ≤ 2 * ((file.vWidth + 1) * file.hWidth) := by
        apply Nat.mul_le_mul_left
        rw [Nat.add_one_mul, Nat.mul_comm]
        exact Nat.le_add_right ..
      have stored : frame.pixelValues.toList =
          ((Block.constant (2 * ((cub.header.vWidth + 1) * cub.header.hWidth)) byte).store
            (cub.pixelBytes i)).toList := by
        rw [filled.pixels, CuboidFrame.new_constant]
        rfl
      rw [if_pos (area ▸ inBuffer), if_pos inBuffer, stored, Block.fieldAt_store,
        Block.fieldAt_constant]
      · rw [loaded.vWidth, loaded.hWidth]
        omega
      · rw [complete, loaded.vWidth, loaded.hWidth]
        exact fits
      · rw [complete, Nat.mul_comm file.hWidth]
        omega
    · rw [if_neg (area ▸ inBuffer), if_neg inBuffer]

/-- An element of the view is right if and only if it is two rows from the end or more,
and the record has the same pixel there. -/
theorem showsPixel_iff (wellFormed : WellFormed file) (loaded : Loaded file cub)
    (below : i < file.recordCount) {k : Nat} :
    cub.ShowsPixel file i k ↔
      2 * file.vWidth + k < file.vWidth * file.hWidth ∧
        file.pixel i (2 * file.vWidth + k) = file.pixel i k := by
  have element : ∀ byte, ∃ frame, (cub.getFrame ⟨default, fun _ => byte⟩ i).1 = .ok frame ∧
      frame.frameValue k =
        if 2 * file.vWidth + k < file.vWidth * file.hWidth
        then some (file.pixel i (2 * file.vWidth + k))
        else if 2 * file.vWidth + k < (file.vWidth + 1) * file.hWidth
        then some (littleEndian [byte, byte]) else none := by
    intro byte
    obtain ⟨frame, read, offset, pixels⟩ := loaded.getFrame_pixels wellFormed below byte
    refine ⟨frame, read, ?_⟩
    rw [CuboidFrame.frameValue, offset]
    exact pixels _
  constructor
  · intro shows
    have same : ∀ byte,
        (if 2 * file.vWidth + k < file.vWidth * file.hWidth
        then some (file.pixel i (2 * file.vWidth + k))
        else if 2 * file.vWidth + k < (file.vWidth + 1) * file.hWidth
        then some (littleEndian [byte, byte]) else none) = some (file.pixel i k) := by
      intro byte
      obtain ⟨frame, read, value⟩ := element byte
      obtain ⟨frame', read', shown⟩ := shows ⟨default, fun _ => byte⟩
      obtain rfl := Except.ok.inj (read.symm.trans read')
      exact value.symm.trans shown
    by_cases inRecord : 2 * file.vWidth + k < file.vWidth * file.hWidth
    · have zero := same 0
      rw [if_pos inRecord] at zero
      exact ⟨inRecord, Option.some.inj zero⟩
    · -- what was in memory shows, or there is nothing to be shown
      have different := (same 0).trans (same 1).symm
      have defined := same 0
      rw [if_neg inRecord] at different defined
      rw [if_neg inRecord] at different
      by_cases inBuffer : 2 * file.vWidth + k < (file.vWidth + 1) * file.hWidth
      · rw [if_pos inBuffer, if_pos inBuffer] at different
        have unequal : littleEndian [0, 0] ≠ littleEndian [1, 1] := by decide
        exact absurd (Option.some.inj different) unequal
      · rw [if_neg inBuffer] at defined
        cases defined
  · rintro ⟨inRecord, same⟩ memory
    obtain ⟨⟨frame, read, frameOf⟩, -⟩ := loaded.getFrame_reads wellFormed memory below
    refine ⟨frame, read, ?_⟩
    have value := frameOf.pixelValue wellFormed inRecord
    rw [CuboidFrame.frameValue, CuboidFrame.getFrameValues, frameOf.frameOffset, value, ← same,
      File.pixel, File.record, fieldAt_slice, ← Nat.add_assoc]
    rw [wellFormed.stride_eq, Nat.mul_comm file.hWidth]
    omega

end Loaded

/-- No frame of any file has a view that consists of its pixels: the last element has not
been read, or is not even in the buffer. -/
theorem getFrameValues_never {file : File} (wellFormed : WellFormed file)
    {blank cub : CuboidFile} (opened : blank.loadCub file = .ok cub)
    (earlier : List (Uninitialised × Nat)) {i : Nat} (below : i < cub.getFrameCount) :
    ¬ (cub.afterFrames earlier).ShowsPixels file i := by
  intro shows
  have loaded := (Loaded.of_loadCub wellFormed.headed opened).1
  have inFile : i < file.recordCount := loaded.frameCount ▸ below
  have large := wellFormed.large
  have lastPixel : file.vWidth * file.hWidth - 1 < file.vWidth * file.hWidth := by omega
  obtain ⟨inRecord, -⟩ := ((loaded.afterFrames wellFormed earlier).showsPixel_iff wellFormed
    inFile).mp (shows.showsPixel lastPixel)
  have columns : 0 < file.vWidth := by
    apply Nat.pos_of_ne_zero
    intro none
    rw [none, Nat.zero_mul] at large
    cases large
  omega

theorem getFrameValues_never_black :
    ∃ cub, CuboidFile.loadCub default (.black 1 (by decide)) = .ok cub ∧
      ¬ (cub.afterFrames [(default, 0)]).ShowsPixels (.black 1 (by decide)) 0 := by
  obtain ⟨cub, opened, count, -⟩ := @File.exists_loadCub_black 1 (by decide) default
  refine ⟨cub, opened, ?_⟩
  apply getFrameValues_never File.wellFormed_column opened
  rw [count]
  decide

/-- The view of a frame of one column of sixteen pixels begins behind its buffer, which
has seventeen elements. -/
theorem getFrameValues_outside :
    ∃ (cub : CuboidFile) (frame : CuboidFrame),
      WellFormed (.black 1 (by decide)) ∧
      CuboidFile.loadCub default (.black 1 (by decide)) = .ok cub ∧ 0 < cub.getFrameCount ∧
      (cub.getFrame default 0).1 = .ok frame ∧ frame.frameValue 0 = none ∧
      ¬ cub.ShowsPixels (.black 1 (by decide)) 0 := by
  have wellFormed : WellFormed (.black 1 (by decide)) := File.wellFormed_column
  obtain ⟨cub, opened, count, -⟩ := @File.exists_loadCub_black 1 (by decide) default
  have loaded := (Loaded.of_loadCub wellFormed.headed opened).1
  have below : 0 < cub.getFrameCount := by
    rw [count]
    decide
  have inFile : 0 < (File.black 1 (by decide)).recordCount := loaded.frameCount ▸ below
  obtain ⟨⟨frame, read, frameOf⟩, -⟩ := loaded.getFrame_reads wellFormed default inFile
  have width : (File.black 1 (by decide)).vWidth = 16 := File.vWidth_column
  have height : (File.black 1 (by decide)).hWidth = 1 := File.hWidth_column
  refine ⟨cub, frame, wellFormed, opened, below, read, ?_, ?_⟩
  · have outside : ¬ frame.getFrameValues + 0 < (frame.width + 1) * frame.height := by
      rw [CuboidFrame.getFrameValues, frameOf.frameOffset, frameOf.width, frameOf.height, width,
        height]
      decide
    unfold CuboidFrame.frameValue CuboidFrame.pixelValue
    rw [if_neg outside]
  · intro shows
    have inFrame : 0 < (File.black 1 (by decide)).vWidth * (File.black 1 (by decide)).hWidth := by
      rw [width, height]
      decide
    obtain ⟨inRecord, -⟩ :=
      (loaded.showsPixel_iff wellFormed inFile).mp (shows.showsPixel inFrame)
    rw [width, height] at inRecord
    revert inRecord
    decide

end Gloc.Files
