import Gloc.Files.Ifstream

/-!
# Cub files

`CuboidFrame` and `CuboidFile`.  The packed structures of the file format are
the bytes they consist of, and their members are read from these bytes.
Memory that C++ leaves uninitialised is an argument of whatever allocates it.
`size_t` and `long` have 64 bits, `int` and `uint32_t` have 32.
-/

namespace Gloc.Files

/-- What the functions below throw; a division by zero is not an exception but
ends the process. -/
inductive Failure where
  | cubEnd
  | frameToShort
  | divisionByZero
  deriving DecidableEq, Repr

def sizeT (value : Int) : Nat :=
  (value % 2 ^ 64).toNat

/-- Conversion of a `size_t` to the signed type of file offsets. -/
def streamoff (value : Nat) : Int :=
  if value < 2 ^ 63 then value else value - 2 ^ 64

/-- An `int`; one that overflows is taken to wrap around. -/
def int32 (value : Int) : Int :=
  (value + 2 ^ 31) % 2 ^ 32 - 2 ^ 31

theorem sizeT_of_nonneg {value : Nat} (small : value < 2 ^ 64) : sizeT value = value := by
  unfold sizeT
  omega

theorem streamoff_of_lt {value : Nat} (small : value < 2 ^ 63) : streamoff value = value := by
  unfold streamoff
  rw [if_pos small]

/-- `uint32_t version, file_type` -/
structure CuboidInfo where
  memory : Block 8
  deriving Inhabited

/-- `uint16_t v_width, h_width, v_offset, h_offset; uint32_t length`; the two
offsets are not used. -/
structure CuboidHeader where
  memory : Block 12
  deriving Inhabited

namespace CuboidHeader

def vWidth (header : CuboidHeader) : Nat := fieldAt header.memory.toList 0 2

def hWidth (header : CuboidHeader) : Nat := fieldAt header.memory.toList 2 2

def length (header : CuboidHeader) : Nat := fieldAt header.memory.toList 8 4

end CuboidHeader

/-- `uint32_t frame_number, timestamp_ms, timestamp_tick, status` -/
structure CuboidFrameHeader where
  memory : Block 16
  deriving Inhabited

namespace CuboidFrameHeader

def frameNumber (header : CuboidFrameHeader) : Nat := fieldAt header.memory.toList 0 4

def timestampMs (header : CuboidFrameHeader) : Nat := fieldAt header.memory.toList 4 4

def timestampTick (header : CuboidFrameHeader) : Nat := fieldAt header.memory.toList 8 4

def status (header : CuboidFrameHeader) : Nat := fieldAt header.memory.toList 12 4

end CuboidFrameHeader

/-- A frame; `pixelValues` is the buffer behind the pointer, byte by byte. -/
structure CuboidFrame where
  header : CuboidFrameHeader
  width : Nat
  height : Nat
  frameOffset : Nat
  pixelValues : Block (2 * ((width + 1) * height))

/-- What is found in the memory of a new frame. -/
structure Uninitialised where
  header : CuboidFrameHeader
  buffer : Nat → UInt8
  deriving Inhabited

namespace CuboidFrame

def new (memory : Uninitialised) (width height : Nat) : CuboidFrame :=
  { header := memory.header
    width := width
    height := height
    frameOffset := 2 * width
    pixelValues :=
      ⟨(List.range (2 * ((width + 1) * height))).map memory.buffer, by simp⟩ }

theorem length_buffer (frame : CuboidFrame) :
    2 * (frame.height * frame.width) ≤ 2 * ((frame.width + 1) * frame.height) := by
  apply Nat.mul_le_mul_left
  rw [Nat.mul_comm frame.height]
  exact Nat.mul_le_mul_right _ (Nat.le_succ _)

def setFrameHeader (frame : CuboidFrame) : Except Failure CuboidFrame :=
  if tooShort : frame.height * frame.width < 16 then .error .frameToShort
  else
    .ok { frame with
      header :=
        { memory := Block.ofPrefix frame.pixelValues.toList (by
            have enough := frame.length_buffer
            rw [List.Vector.toList_length]
            omega) } }

theorem setFrameHeader_eq (frame : CuboidFrame) (enough : 16 ≤ frame.height * frame.width) :
    ∃ header : CuboidFrameHeader, frame.setFrameHeader = .ok { frame with header := header } ∧
      header.memory.toList = slice frame.pixelValues.toList 0 16 := by
  unfold setFrameHeader
  rw [dif_neg (Nat.not_lt.mpr enough)]
  exact ⟨_, rfl, rfl⟩

theorem setFrameHeader_completes (frame : CuboidFrame)
    (enough : 16 ≤ frame.height * frame.width) : ∃ done, frame.setFrameHeader = .ok done := by
  obtain ⟨header, done, -⟩ := frame.setFrameHeader_eq enough
  exact ⟨_, done⟩

def getFrameHeader (frame : CuboidFrame) : CuboidFrameHeader :=
  frame.header

/-- `pixel_values[k]`, if that is inside the buffer. -/
def pixelValue (frame : CuboidFrame) (k : Nat) : Option Nat :=
  if k < (frame.width + 1) * frame.height then
    some (fieldAt frame.pixelValues.toList (2 * k) 2)
  else none

theorem pixelValue_eq {frame : CuboidFrame} {k : Nat} (below : k < frame.width * frame.height) :
    frame.pixelValue k = some (fieldAt frame.pixelValues.toList (2 * k) 2) := by
  unfold pixelValue
  rw [if_pos]
  rw [Nat.add_one_mul]
  exact Nat.lt_add_right _ below

end CuboidFrame

structure CuboidFile where
  info : CuboidInfo
  header : CuboidHeader
  fileIn : Ifstream
  firstFrame : Int
  currentFramePosition : Int
  frameCount : Nat
  deriving Inhabited

namespace CuboidFile

def getCubOffset : Nat := 512

/-- `readHeader`, on members that hold anything at all. -/
def readHeader (cub : CuboidFile) : Except Failure CuboidFile :=
  let fileIn := cub.fileIn.seekgBeg 0
  let (bytes, fileIn) := fileIn.read 8
  let info : CuboidInfo := { memory := cub.info.memory.store bytes }
  let (bytes, fileIn) := fileIn.read 12
  let header : CuboidHeader := { memory := cub.header.memory.store bytes }
  let fileIn := fileIn.seekgEnd
  let last := fileIn.tellg
  let fileIn := fileIn.seekgBeg getCubOffset
  let firstFrame := fileIn.tellg
  if 2 * header.length = 0 then .error .divisionByZero
  else
    .ok
      { info := info
        header := header
        fileIn := fileIn
        firstFrame := firstFrame
        currentFramePosition := -1
        frameCount := sizeT ((last - firstFrame).tdiv (2 * header.length)) }

/-- `loadCub`, and the constructor that takes a file name. -/
def loadCub (cub : CuboidFile) (file : File) : Except Failure CuboidFile :=
  readHeader { cub with fileIn := .openFile file }

def getFrameCount (cub : CuboidFile) : Nat :=
  cub.frameCount

/-- Where `getFrame` looks for a frame.  `2 * header_.length` is computed in 32
bits before it is converted. -/
def posHeader (cub : CuboidFile) (i : Nat) : Nat :=
  (sizeT cub.firstFrame + (2 * cub.header.length % 2 ^ 32) * i) % 2 ^ 64

def getFrame (cub : CuboidFile) (memory : Uninitialised) (i : Nat) :
    Except Failure CuboidFrame × CuboidFile :=
  if cub.frameCount ≤ i then (.error .cubEnd, cub)
  else
    let frame := CuboidFrame.new memory cub.header.vWidth cub.header.hWidth
    let posHeader := cub.posHeader i
    let posPixel := (posHeader + frame.frameOffset) % 2 ^ 64
    let fileIn := cub.fileIn.seekgBeg (streamoff posHeader)
    let (bytes, fileIn) := fileIn.read 16
    let frame := { frame with header := { memory := frame.header.memory.store bytes } }
    let fileIn := fileIn.seekgBeg (streamoff posPixel)
    let (bytes, fileIn) := fileIn.read (2 * frame.height * frame.width)
    let frame := { frame with pixelValues := frame.pixelValues.store bytes }
    (frame.setFrameHeader, { cub with fileIn := fileIn })

def getNextFrame (cub : CuboidFile) (memory : Uninitialised) :
    Except Failure CuboidFrame × CuboidFile :=
  let cub := { cub with currentFramePosition := int32 (cub.currentFramePosition + 1) }
  cub.getFrame memory (sizeT cub.currentFramePosition)

theorem getFrame_snd (cub : CuboidFile) (memory : Uninitialised) (i : Nat) :
    ∃ fileIn, (cub.getFrame memory i).2 = { cub with fileIn := fileIn } := by
  unfold getFrame
  split
  · exact ⟨cub.fileIn, rfl⟩
  · exact ⟨_, rfl⟩

theorem getFrame_beyond (cub : CuboidFile) (memory : Uninitialised) {i : Nat}
    (beyond : cub.frameCount ≤ i) : cub.getFrame memory i = (.error .cubEnd, cub) := by
  unfold getFrame
  rw [if_pos beyond]

theorem exists_getFrame (cub : CuboidFile) (memory : Uninitialised) {i : Nat}
    (below : i < cub.frameCount) (large : 16 ≤ cub.header.vWidth * cub.header.hWidth) :
    ∃ frame, (cub.getFrame memory i).1 = .ok frame := by
  rw [Nat.mul_comm] at large
  unfold getFrame
  rw [if_neg (Nat.not_le.mpr below)]
  exact CuboidFrame.setFrameHeader_completes _ large

def afterFrames (cub : CuboidFile) : List (Uninitialised × Nat) → CuboidFile
  | [] => cub
  | (memory, i) :: later => (cub.getFrame memory i).2.afterFrames later

end CuboidFile

end Gloc.Files
