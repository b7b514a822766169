import Gloc.Files.Requests

/-!
# What a frame is read from

`getFrame` makes two requests, for a header and for pixels.  The header is
overwritten; what is returned depends on the pixels alone and on the memory of
the frame that they do not fill.
-/

namespace Gloc.Files

namespace CuboidFile

variable {cub : CuboidFile} {memory : Uninitialised} {i : Nat}

def posPixel (cub : CuboidFile) (i : Nat) : Nat :=
  (cub.posHeader i + 2 * cub.header.vWidth) % 2 ^ 64

/-- What `getFrame (i)` asks its stream for: positions and numbers of bytes. -/
def requests (cub : CuboidFile) (i : Nat) : List (Nat × Nat) :=
  [(cub.posHeader i, 16), (cub.posPixel i, 2 * cub.header.hWidth * cub.header.vWidth)]

theorem requests_small {request : Nat × Nat} (membership : request ∈ cub.requests i) :
    request.1 < 2 ^ 64 := by
  simp only [requests, List.mem_cons, List.not_mem_nil, or_false] at membership
  rcases membership with rfl | rfl
  · exact Nat.mod_lt _ (by decide)
  · exact Nat.mod_lt _ (by decide)

def pixelBytes (cub : CuboidFile) (i : Nat) : List UInt8 :=
  ((cub.fileIn.request (cub.posHeader i, 16)).2.request
    (cub.posPixel i, 2 * cub.header.hWidth * cub.header.vWidth)).1

/-- A frame of the right size, with these bytes in the memory that it has found,
and with what the memory begins with as its header. -/
structure Filled (cub : CuboidFile) (memory : Uninitialised) (bytes : List UInt8)
    (frame : CuboidFrame) : Prop where
  width : frame.width = cub.header.vWidth
  height : frame.height = cub.header.hWidth
  frameOffset : frame.frameOffset = 2 * cub.header.vWidth
  pixels : frame.pixelValues.toList =
    ((CuboidFrame.new memory cub.header.vWidth cub.header.hWidth).pixelValues.store bytes).toList
  header : frame.header.memory.toList = slice frame.pixelValues.toList 0 16

theorem Filled.slice_pixels {bytes : List UInt8} {frame : CuboidFrame}
    (filled : cub.Filled memory bytes frame)
    (complete : bytes.length = 2 * (cub.header.hWidth * cub.header.vWidth)) :
    slice frame.pixelValues.toList 0 (2 * (cub.header.hWidth * cub.header.vWidth)) = bytes := by
  rw [filled.pixels]
  apply Block.slice_store _ complete
  exact (CuboidFrame.new memory cub.header.vWidth cub.header.hWidth).length_buffer

theorem getFrame_stream (counted : i < cub.frameCount) :
    (cub.getFrame memory i).2 =
      { cub with fileIn := cub.fileIn.afterRequests (cub.requests i) } := by
  unfold getFrame
  rw [if_neg (Nat.not_le.mpr counted)]
  rfl

theorem getFrame_filled (counted : i < cub.frameCount)
    (large : 16 ≤ cub.header.vWidth * cub.header.hWidth) :
    ∃ frame, (cub.getFrame memory i).1 = .ok frame ∧
      Filled cub memory (cub.pixelBytes i) frame := by
  rw [Nat.mul_comm] at large
  unfold getFrame
  rw [if_neg (Nat.not_le.mpr counted)]
  obtain ⟨header, done, copied⟩ := CuboidFrame.setFrameHeader_eq
    { CuboidFrame.new memory cub.header.vWidth cub.header.hWidth with
      header :=
        { memory := memory.header.memory.store
            (cub.fileIn.request (cub.posHeader i, 16)).1 }
      pixelValues :=
        (CuboidFrame.new memory cub.header.vWidth cub.header.hWidth).pixelValues.store
          (cub.pixelBytes i) } large
  exact ⟨_, done, rfl, rfl, rfl, rfl, copied⟩

theorem getFrame_tooShort (counted : i < cub.frameCount)
    (small : cub.header.vWidth * cub.header.hWidth < 16) :
    (cub.getFrame memory i).1 = .error .frameToShort := by
  rw [Nat.mul_comm] at small
  unfold getFrame CuboidFrame.setFrameHeader
  rw [if_neg (Nat.not_le.mpr counted)]
  exact dif_pos small

end CuboidFile

end Gloc.Files
