import Gloc.Files.Frames

/-!
# Well-formed cub files

In a file that is laid out as the format says, the stream of a `CuboidFile`
never gets into an error state, and `getFrame` reads the record with the given
number.  What it makes of the first sixteen bytes of that record is another
matter: the header it has read is replaced by pixels.
-/

namespace Gloc.Files

namespace File

variable (file : File)

def vWidth : Nat := fieldAt file.content 8 2

def hWidth : Nat := fieldAt file.content 10 2

def length : Nat := fieldAt file.content 16 4

def stride : Nat := 2 * file.length

def recordCount : Nat := (file.size - 512) / file.stride

/-- A record: a header row and the rows of pixels. -/
def record (i : Nat) : List UInt8 := slice file.content (512 + file.stride * i) file.stride

end File

theorem File.record_inside {file : File} {i : Nat} (headed : 512 ≤ file.size)
    (below : i < file.recordCount) : 512 + file.stride * i + file.stride ≤ file.size := by
  have whole : file.stride * (i + 1) ≤ file.size - 512 :=
    (Nat.mul_le_mul_left _ below).trans (Nat.mul_div_le ..)
  rw [Nat.mul_add_one] at whole
  omega

/-- `CuboidInfo` and `CuboidHeader` at the beginning of the file, and from byte
512 on records with a row for the header and the rows of pixels. -/
structure WellFormed (file : File) : Prop where
  headed : 512 ≤ file.size
  rows : file.length = file.vWidth * (file.hWidth + 1)
  large : 16 ≤ file.vWidth * file.hWidth
  fits : file.stride < 2 ^ 32

namespace WellFormed

variable {file : File} {i : Nat}

theorem stride_eq (wellFormed : WellFormed file) :
    file.stride = 2 * file.vWidth + 2 * (file.hWidth * file.vWidth) := by
  rw [File.stride, wellFormed.rows, Nat.mul_add_one, Nat.mul_comm file.vWidth]
  omega

theorem stride_pos (wellFormed : WellFormed file) : 0 < file.stride := by
  have large := wellFormed.large
  have parts := wellFormed.stride_eq
  rw [Nat.mul_comm file.hWidth] at parts
  omega

theorem length_record (wellFormed : WellFormed file) (below : i < file.recordCount) :
    (file.record i).length = file.stride :=
  length_slice_of_le (File.record_inside wellFormed.headed below)

end WellFormed

/-- A `CuboidFile` that has been loaded from this file and whose stream is in
order. -/
structure Loaded (file : File) (cub : CuboidFile) : Prop where
  stream : ∃ position, cub.fileIn = .onFile file position
  header : cub.header.memory.toList = slice file.content 8 12
  firstFrame : cub.firstFrame = 512
  frameCount : cub.frameCount = file.recordCount

namespace Loaded

variable {file : File} {cub : CuboidFile} {i : Nat}

theorem vWidth (loaded : Loaded file cub) : cub.header.vWidth = file.vWidth := by
  unfold CuboidHeader.vWidth File.vWidth
  rw [loaded.header, fieldAt_slice (by decide)]

theorem hWidth (loaded : Loaded file cub) : cub.header.hWidth = file.hWidth := by
  unfold CuboidHeader.hWidth File.hWidth
  rw [loaded.header, fieldAt_slice (by decide)]

theorem length (loaded : Loaded file cub) : cub.header.length = file.length := by
  unfold CuboidHeader.length File.length
  rw [loaded.header, fieldAt_slice (by decide)]

end Loaded

theorem File.sizeT_tdiv {file : File} (headed : 512 ≤ file.size) :
    sizeT (((file.size : Int) - (512 : Nat)).tdiv (2 * (file.length : Nat))) =
      file.recordCount := by
  have addressable : file.size < 2 ^ 63 := file.addressable
  have few : file.recordCount ≤ file.size - 512 := Nat.div_le_self ..
  rw [← Int.ofNat_sub headed]
  have quotient : ((file.size - 512 : Nat) : Int).tdiv (2 * (file.length : Nat)) =
      (file.recordCount : Nat) :=
    (Int.ofNat_tdiv (file.size - 512) (2 * file.length)).symm
  rw [quotient, sizeT_of_nonneg (by omega)]

theorem CuboidFile.loadCub_headed {file : File} (headed : 20 ≤ file.size)
    (blank : CuboidFile) :
    blank.loadCub file =
      if 2 * file.length = 0 then .error .divisionByZero
      else .ok
        { info := { memory := blank.info.memory.store (slice file.content 0 8) }
          header := { memory := blank.header.memory.store (slice file.content 8 12) }
          fileIn := .onFile file 512
          firstFrame := 512
          currentFramePosition := -1
          frameCount :=
            sizeT (((file.size : Int) - (512 : Nat)).tdiv (2 * (file.length : Nat))) } := by
  have infoInside : 0 + 8 ≤ file.size := by omega
  have headerInside : 0 + 8 + 12 ≤ file.size := by omega
  have header : (blank.header.memory.store (slice file.content (0 + 8) 12)).toList =
      slice file.content 8 12 :=
    Block.toList_store_of_length _ (length_slice_of_le headerInside)
  have length : (⟨blank.header.memory.store (slice file.content (0 + 8) 12)⟩ :
      CuboidHeader).length = file.length := by
    unfold CuboidHeader.length File.length
    rw [header, fieldAt_slice (by decide)]
  have start : Ifstream.seekgBeg (.onFile file 0) 0 = .onFile file 0 :=
    Ifstream.seekgBeg_onFile file 0 0
  have frames : Ifstream.seekgBeg (.onFile file file.size) (getCubOffset : Nat) =
      .onFile file 512 := Ifstream.seekgBeg_onFile ..
  unfold loadCub readHeader
  simp only [Ifstream.openFile_eq, start, Ifstream.read_onFile _ _ infoInside,
    Ifstream.read_onFile _ _ headerInside, Ifstream.seekgEnd_onFile, frames,
    Ifstream.tellg_onFile, length]
  rfl

theorem CuboidFile.loadCub_eq {file : File} (wellFormed : WellFormed file)
    (blank : CuboidFile) :
    blank.loadCub file = .ok
      { info := { memory := blank.info.memory.store (slice file.content 0 8) }
        header := { memory := blank.header.memory.store (slice file.content 8 12) }
        fileIn := .onFile file 512
        firstFrame := 512
        currentFramePosition := -1
        frameCount := file.recordCount } := by
  have headed := wellFormed.headed
  have positive := wellFormed.stride_pos
  unfold File.stride at positive
  rw [loadCub_headed (by omega), if_neg (by omega), File.sizeT_tdiv headed]

theorem Loaded.of_loadCub {file : File} (headed : 512 ≤ file.size)
    {blank cub : CuboidFile} (opened : blank.loadCub file = .ok cub) :
    Loaded file cub ∧ 0 < file.stride := by
  rw [CuboidFile.loadCub_headed (by omega)] at opened
  split at opened
  next => cases opened
  next nonzero =>
    rw [File.sizeT_tdiv headed, Except.ok.injEq] at opened
    subst opened
    have positive : 0 < file.stride := Nat.pos_of_ne_zero nonzero
    refine ⟨⟨⟨512, rfl⟩, ?_, rfl, rfl⟩, positive⟩
    apply Block.toList_store_of_length
    apply length_slice_of_le
    exact Nat.le_trans (by decide) headed

/-- What `getFrame` makes of a record: the pixels are those after the header row,
and the header is what the buffer of pixels begins with. -/
structure FrameOf (file : File) (i : Nat) (frame : CuboidFrame) : Prop where
  width : frame.width = file.vWidth
  height : frame.height = file.hWidth
  frameOffset : frame.frameOffset = 2 * file.vWidth
  pixels : slice frame.pixelValues.toList 0 (2 * (file.hWidth * file.vWidth)) =
    slice (file.record i) (2 * file.vWidth) (2 * (file.hWidth * file.vWidth))
  header : frame.header.memory.toList = slice frame.pixelValues.toList 0 16

theorem CuboidFrame.exists_setFrameHeader {file : File} {i : Nat} (frame : CuboidFrame)
    (enough : 16 ≤ frame.height * frame.width) (width : frame.width = file.vWidth)
    (height : frame.height = file.hWidth) (frameOffset : frame.frameOffset = 2 * file.vWidth)
    (pixels : slice frame.pixelValues.toList 0 (2 * (file.hWidth * file.vWidth)) =
      slice (file.record i) (2 * file.vWidth) (2 * (file.hWidth * file.vWidth))) :
    ∃ done, frame.setFrameHeader = .ok done ∧ FrameOf file i done := by
  obtain ⟨header, done, copied⟩ := frame.setFrameHeader_eq enough
  exact ⟨_, done, width, height, frameOffset, pixels, copied⟩

namespace Loaded

variable {file : File} {cub : CuboidFile} {i : Nat}

theorem posHeader (headed : 512 ≤ file.size) (loaded : Loaded file cub)
    (fits : file.stride < 2 ^ 32) (below : i < file.recordCount) :
    cub.posHeader i = 512 + file.stride * i := by
  have addressable : file.size < 2 ^ 63 := file.addressable
  have inside := File.record_inside headed below
  have first : sizeT 512 = 512 := by decide
  unfold CuboidFile.posHeader
  rw [loaded.firstFrame, loaded.length, first]
  change (512 + file.stride % 2 ^ 32 * i) % 2 ^ 64 = _
  rw [Nat.mod_eq_of_lt fits, Nat.mod_eq_of_lt (by omega)]

theorem getFrame_refuses (loaded : Loaded file cub) (memory : Uninitialised)
    (beyond : file.recordCount ≤ i) : cub.getFrame memory i = (.error .cubEnd, cub) := by
  apply cub.getFrame_beyond memory
  rwa [loaded.frameCount]

theorem posPixel (wellFormed : WellFormed file) (loaded : Loaded file cub)
    (below : i < file.recordCount) :
    cub.posPixel i = 512 + file.stride * i + 2 * file.vWidth := by
  have addressable : file.size < 2 ^ 63 := file.addressable
  have inside := File.record_inside wellFormed.headed below
  have parts := wellFormed.stride_eq
  unfold CuboidFile.posPixel
  rw [loaded.posHeader wellFormed.headed wellFormed.fits below, loaded.vWidth,
    Nat.mod_eq_of_lt (by omega)]

/-- `getFrame` asks for bytes of the record and for nothing else. -/
theorem requests_inside (wellFormed : WellFormed file) (loaded : Loaded file cub)
    (below : i < file.recordCount) {request : Nat × Nat}
    (membership : request ∈ cub.requests i) :
    512 + file.stride * i ≤ request.1 ∧
      request.1 + request.2 ≤ 512 + file.stride * i + file.stride := by
  have parts := wellFormed.stride_eq
  have large := wellFormed.large
  rw [Nat.mul_comm] at large
  simp only [CuboidFile.requests, loaded.posHeader wellFormed.headed wellFormed.fits below,
    loaded.posPixel wellFormed below, loaded.vWidth, loaded.hWidth, List.mem_cons,
    List.not_mem_nil, or_false] at membership
  rcases membership with rfl | rfl
  · simp only
    omega
  · simp only [Nat.mul_assoc]
    omega

theorem holds_requests (wellFormed : WellFormed file) (loaded : Loaded file cub)
    (below : i < file.recordCount) {request : Nat × Nat}
    (membership : request ∈ cub.requests i) : file.Holds request := by
  have addressable : file.size < 2 ^ 63 := file.addressable
  have inside := File.record_inside wellFormed.headed below
  obtain ⟨-, inRecord⟩ := loaded.requests_inside wellFormed below membership
  exact ⟨by omega, .inr (by omega)⟩

theorem getFrame_reads (wellFormed : WellFormed file) (loaded : Loaded file cub)
    (memory : Uninitialised) (below : i < file.recordCount) :
    (∃ frame, (cub.getFrame memory i).1 = .ok frame ∧ FrameOf file i frame) ∧
      Loaded file (cub.getFrame memory i).2 := by
  have parts := wellFormed.stride_eq
  have large := wellFormed.large
  rw [← loaded.vWidth, ← loaded.hWidth] at large
  have counted : i < cub.frameCount := loaded.frameCount ▸ below
  obtain ⟨position, stream⟩ := loaded.stream
  have header := loaded.holds_requests wellFormed below (List.mem_cons_self ..)
  have pixels := loaded.holds_requests wellFormed below
    (List.mem_cons_of_mem _ (List.mem_singleton_self _))
  obtain ⟨frame, read, filled⟩ := @CuboidFile.getFrame_filled cub memory i counted large
  refine ⟨⟨frame, read, ?_⟩, ?_⟩
  · refine ⟨filled.width.trans loaded.vWidth, filled.height.trans loaded.hWidth,
      filled.frameOffset.trans (congrArg (2 * ·) loaded.vWidth), ?_, filled.header⟩
    have bytes : cub.pixelBytes i =
        slice (file.record i) (2 * file.vWidth) (2 * (file.hWidth * file.vWidth)) := by
      rw [File.record, slice_slice (by omega)]
      unfold CuboidFile.pixelBytes
      rw [stream, Ifstream.request_onFile _ _ header, Ifstream.request_onFile _ _ pixels,
        loaded.posPixel wellFormed below, loaded.vWidth, loaded.hWidth, Nat.mul_assoc]
    have complete : (cub.pixelBytes i).length = 2 * (file.hWidth * file.vWidth) := by
      rw [bytes]
      apply length_slice_of_le
      rw [wellFormed.length_record below]
      omega
    rw [← loaded.vWidth, ← loaded.hWidth] at complete
    rw [← bytes, ← loaded.vWidth, ← loaded.hWidth]
    exact filled.slice_pixels complete
  · rw [cub.getFrame_stream counted, stream]
    refine ⟨⟨cub.posPixel i + 2 * cub.header.hWidth * cub.header.vWidth, ?_⟩, loaded.header,
      loaded.firstFrame, loaded.frameCount⟩
    simp only [Ifstream.afterRequests, CuboidFile.requests, List.foldl_cons, List.foldl_nil,
      Ifstream.request_onFile _ _ header, Ifstream.request_onFile _ _ pixels]

theorem afterFrames (wellFormed : WellFormed file) (loaded : Loaded file cub)
    (calls : List (Uninitialised × Nat)) : Loaded file (cub.afterFrames calls) := by
  induction calls generalizing cub with
  | nil => exact loaded
  | cons call later inductionHypothesis =>
      obtain ⟨memory, i⟩ := call
      unfold CuboidFile.afterFrames
      apply inductionHypothesis
      by_cases below : i < file.recordCount
      · exact (loaded.getFrame_reads wellFormed memory below).2
      · rw [loaded.getFrame_refuses memory (Nat.not_lt.mp below)]
        exact loaded

end Loaded

/-- The members of a header are those stored in the first sixteen bytes of a
record. -/
def HasHeaderOf (record : List UInt8) (header : CuboidFrameHeader) : Prop :=
  header.frameNumber = fieldAt record 0 4 ∧ header.timestampMs = fieldAt record 4 4 ∧
    header.timestampTick = fieldAt record 8 4 ∧ header.status = fieldAt record 12 4

/-- The header of a frame, as it is and after another call of `setFrameHeader`,
has been decoded from the record. -/
def HeaderDecoded (record : List UInt8) (frame : CuboidFrame) : Prop :=
  HasHeaderOf record frame.getFrameHeader ∧
    ∃ again, frame.setFrameHeader = .ok again ∧ HasHeaderOf record again.header

theorem hasHeaderOf_iff {record : List UInt8} {header : CuboidFrameHeader}
    (enough : 16 ≤ record.length) :
    HasHeaderOf record header ↔ header.memory.toList = slice record 0 16 := by
  have size : header.memory.toList.length = 16 := header.memory.toList_length
  have whole : slice header.memory.toList 0 16 = header.memory.toList :=
    List.take_of_length_le size.le
  have quarters : ∀ bytes : List UInt8, slice bytes 0 16 =
      slice bytes 0 4 ++ (slice bytes 4 4 ++ (slice bytes 8 4 ++ slice bytes 12 4)) := by
    intro bytes
    rw [slice_append_slice bytes 8 4 4, slice_append_slice bytes 4 4 8,
      slice_append_slice bytes 0 4 12]
  constructor
  · rintro ⟨frameNumber, timestampMs, timestampTick, status⟩
    rw [← whole, quarters, quarters,
      slice_eq_of_fieldAt_eq (by omega) (by omega) frameNumber,
      slice_eq_of_fieldAt_eq (by omega) (by omega) timestampMs,
      slice_eq_of_fieldAt_eq (by omega) (by omega) timestampTick,
      slice_eq_of_fieldAt_eq (by omega) (by omega) status]
  · intro same
    have members : ∀ offset, offset + 4 ≤ 16 →
        fieldAt header.memory.toList offset 4 = fieldAt record offset 4 := by
      intro offset inside
      rw [same, fieldAt_slice inside, Nat.zero_add]
    exact ⟨members 0 (by decide), members 4 (by decide), members 8 (by decide),
      members 12 (by decide)⟩

theorem FrameOf.header_eq {file : File} {i : Nat} {frame : CuboidFrame}
    (frameOf : FrameOf file i frame) (large : 16 ≤ file.vWidth * file.hWidth) :
    frame.header.memory.toList = slice (file.record i) (2 * file.vWidth) 16 := by
  rw [Nat.mul_comm] at large
  have enough : 0 + 16 ≤ 2 * (file.hWidth * file.vWidth) := by omega
  have read := congrArg (fun bytes => slice bytes 0 16) frameOf.pixels
  simp only [slice_slice enough] at read
  rw [frameOf.header]
  exact read

theorem FrameOf.setFrameHeader {file : File} {i : Nat} {frame : CuboidFrame}
    (frameOf : FrameOf file i frame) (large : 16 ≤ file.vWidth * file.hWidth) :
    ∃ again, frame.setFrameHeader = .ok again ∧ FrameOf file i again := by
  refine frame.exists_setFrameHeader ?_ frameOf.width frameOf.height frameOf.frameOffset
    frameOf.pixels
  rwa [frameOf.width, frameOf.height, Nat.mul_comm]

/-- A cub file of frames with sixteen pixels in one column, and so with records
of 64 bytes. -/
def File.column (records : List UInt8) (few : records.length < 2 ^ 62) : File where
  content := (List.replicate 8 0 ++ [16, 0, 1, 0, 0, 0, 0, 0, 32, 0, 0, 0] ++
    List.replicate 492 0) ++ records
  addressable := by
    simp only [List.length_append, List.length_replicate, List.length_cons, List.length_nil]
    omega

def File.black (frames : Nat) (few : frames < 2 ^ 32) : File :=
  column (List.replicate (64 * frames) 0) (by rw [List.length_replicate]; omega)

namespace File

variable {records : List UInt8} {few : records.length < 2 ^ 62}

theorem fieldAt_column {offset width : Nat} (inside : offset + width ≤ 512) :
    fieldAt (column records few).content offset width =
      fieldAt (List.replicate 8 0 ++ [16, 0, 1, 0, 0, 0, 0, 0, 32, 0, 0, 0] ++
        List.replicate 492 0) offset width := by
  unfold fieldAt column
  rw [slice_append_of_le]
  simpa only [List.length_append, List.length_replicate, List.length_cons, List.length_nil]
    using inside

theorem stride_column : (column records few).stride = 64 := by
  unfold stride length
  rw [fieldAt_column (by decide)]
  decide

theorem size_column : (column records few).size = 512 + records.length := by
  unfold size column
  simp only [List.length_append, List.length_replicate, List.length_cons, List.length_nil]

theorem recordCount_column : (column records few).recordCount = records.length / 64 := by
  unfold recordCount
  rw [stride_column, size_column, Nat.add_sub_cancel_left]

theorem vWidth_column : (column records few).vWidth = 16 := by
  unfold vWidth
  rw [fieldAt_column (by decide)]
  decide

theorem hWidth_column : (column records few).hWidth = 1 := by
  unfold hWidth
  rw [fieldAt_column (by decide)]
  decide

theorem slice_column (offset length : Nat) :
    slice (column records few).content (512 + offset) length = slice records offset length := by
  rw [column, slice, List.drop_append, List.drop_eq_nil_of_le, List.nil_append]
  · simp only [List.length_append, List.length_replicate, List.length_cons, List.length_nil]
    rw [Nat.add_sub_cancel_left]
    rfl
  · simp only [List.length_append, List.length_replicate, List.length_cons, List.length_nil]
    omega

theorem record_column (i : Nat) : (column records few).record i = slice records (64 * i) 64 := by
  rw [record, stride_column, slice_column]

theorem wellFormed_column : WellFormed (column records few) := by
  refine ⟨?_, ?_, ?_, ?_⟩
  · rw [size_column]
    omega
  · have stride := @stride_column records few
    rw [File.stride] at stride
    rw [vWidth_column, hWidth_column]
    omega
  · rw [vWidth_column, hWidth_column]
  · rw [stride_column]
    decide

theorem exists_loadCub_black {frames : Nat} (few : frames < 2 ^ 32) (blank : CuboidFile) :
    ∃ cub, blank.loadCub (black frames few) = .ok cub ∧ cub.getFrameCount = frames ∧
      16 ≤ cub.header.vWidth * cub.header.hWidth := by
  have wellFormed : WellFormed (black frames few) := wellFormed_column
  have opened := CuboidFile.loadCub_eq wellFormed blank
  have loaded := (Loaded.of_loadCub wellFormed.headed opened).1
  refine ⟨_, opened, ?_, ?_⟩
  · change (black frames few).recordCount = frames
    rw [black, recordCount_column, List.length_replicate]
    exact Nat.mul_div_cancel_left frames (by decide)
  · rw [loaded.vWidth, loaded.hWidth]
    exact wellFormed.large

end File

/-- `getFrame` decodes the header of a frame from its record if and only if the
record repeats its first sixteen bytes where the pixels begin. -/
theorem headerDecoded_iff {file : File} (wellFormed : WellFormed file)
    {blank cub : CuboidFile} (opened : blank.loadCub file = .ok cub)
    (earlier : List (Uninitialised × Nat)) (memory : Uninitialised) {i : Nat}
    (below : i < cub.getFrameCount) :
    (∃ frame, ((cub.afterFrames earlier).getFrame memory i).1 = .ok frame ∧
      HeaderDecoded (file.record i) frame) ↔
      slice (file.record i) (2 * file.vWidth) 16 = slice (file.record i) 0 16 := by
  have loaded := (Loaded.of_loadCub wellFormed.headed opened).1
  have large := wellFormed.large
  have inRecord : i < file.recordCount := loaded.frameCount ▸ below
  have enough : 16 ≤ (file.record i).length := by
    have parts := wellFormed.stride_eq
    rw [Nat.mul_comm file.hWidth] at parts
    rw [wellFormed.length_record inRecord]
    omega
  obtain ⟨⟨frame, read, frameOf⟩, -⟩ :=
    (loaded.afterFrames wellFormed earlier).getFrame_reads wellFormed memory inRecord
  constructor
  · rintro ⟨same, again, decoded, -⟩
    obtain rfl : frame = same := Except.ok.inj (read.symm.trans again)
    rw [← frameOf.header_eq large]
    exact (hasHeaderOf_iff enough).mp decoded
  · intro repeated
    have decoded : ∀ {frame}, FrameOf file i frame → HasHeaderOf (file.record i) frame.header :=
      fun frameOf => (hasHeaderOf_iff enough).mpr ((frameOf.header_eq large).trans repeated)
    obtain ⟨again, done, againOf⟩ := frameOf.setFrameHeader large
    exact ⟨frame, read, decoded frameOf, again, done, decoded againOf⟩

/-- A record of zeros repeats its header in its first pixels. -/
theorem headerDecoded_iff_zeros :
    ∃ (cub : CuboidFile) (frame : CuboidFrame),
      CuboidFile.loadCub default (.black 1 (by decide)) = .ok cub ∧
      (cub.getFrame default 0).1 = .ok frame ∧
      HeaderDecoded (File.record (.black 1 (by decide)) 0) frame := by
  obtain ⟨cub, opened, count, -⟩ := @File.exists_loadCub_black 1 (by decide) default
  obtain ⟨frame, read, decoded⟩ := (headerDecoded_iff File.wellFormed_column opened []
    default (i := 0) (by rw [count]; decide)).mpr
      (by rw [File.record_column, File.vWidth_column]; decide)
  exact ⟨cub, frame, opened, read, decoded⟩

/-- The header of a frame with the number 1 and black pixels says that the number
of the frame is 0. -/
theorem header_from_pixels :
    ∃ (records : List UInt8) (few : records.length < 2 ^ 62) (cub : CuboidFile)
      (frame : CuboidFrame),
      WellFormed (.column records few) ∧
      CuboidFile.loadCub default (.column records few) = .ok cub ∧ 0 < cub.getFrameCount ∧
      (cub.getFrame default 0).1 = .ok frame ∧
      fieldAt (File.record (.column records few) 0) 0 4 = 1 ∧
      frame.getFrameHeader.frameNumber = 0 ∧
      ¬ HeaderDecoded (File.record (.column records few) 0) frame := by
  have wellFormed := @File.wellFormed_column (1 :: List.replicate 63 0) (by decide)
  have opened := CuboidFile.loadCub_eq wellFormed default
  have loaded := (Loaded.of_loadCub wellFormed.headed opened).1
  have below : 0 < (File.column (1 :: List.replicate 63 0) (by decide)).recordCount := by
    rw [File.recordCount_column]
    decide
  obtain ⟨⟨frame, read, frameOf⟩, -⟩ := loaded.getFrame_reads wellFormed default below
  have header := frameOf.header_eq wellFormed.large
  rw [File.record_column, File.vWidth_column] at header
  have stored : fieldAt (File.record (.column (1 :: List.replicate 63 0) (by decide)) 0) 0 4 =
      1 := by
    rw [File.record_column]
    decide
  have number : frame.getFrameHeader.frameNumber = 0 := by
    unfold CuboidFrame.getFrameHeader CuboidFrameHeader.frameNumber
    rw [header]
    decide
  refine ⟨_, _, _, frame, wellFormed, opened, below, read, stored, number, ?_⟩
  rintro ⟨⟨decoded, -⟩, -⟩
  rw [number, stored] at decoded
  cases decoded

end Gloc.Files
