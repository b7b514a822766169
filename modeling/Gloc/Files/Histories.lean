import Gloc.Files.Counts
import Gloc.Files.Scans

/-!
# Reading after other reads

The error state of the stream is all that one call leaves to the next.  It is
never cleared: after a single request that the file cannot answer in full,
every record and every frame is what was in memory before.
-/

namespace Gloc.Files

namespace CuboidFile

inductive Call where
  | getFrame (memory : Uninitialised) (i : Nat)
  | getNextFrame (memory : Uninitialised)

def after (cub : CuboidFile) : Call → CuboidFile
  | .getFrame memory i => (cub.getFrame memory i).2
  | .getNextFrame memory => (cub.getNextFrame memory).2

def afterCalls (cub : CuboidFile) (calls : List Call) : CuboidFile :=
  calls.foldl after cub

def asked : Int → List Call → List Nat
  | _, [] => []
  | position, .getFrame _ i :: later => i :: asked position later
  | position, .getNextFrame _ :: later =>
      sizeT (int32 (position + 1)) :: asked (int32 (position + 1)) later

end CuboidFile

namespace File

/-- Where `getFrame (i)` looks for the header of a frame in this file. -/
def posHeader (file : File) (i : Nat) : Nat :=
  (512 + file.stride % 2 ^ 32 * i) % 2 ^ 64

def posPixel (file : File) (i : Nat) : Nat :=
  (file.posHeader i + 2 * file.vWidth) % 2 ^ 64

def requests (file : File) (i : Nat) : List (Nat × Nat) :=
  [(file.posHeader i, 16), (file.posPixel i, 2 * file.hWidth * file.vWidth)]

/-- Everything that calls of `getFrame` with these indices ask for is in the file. -/
def Answers (file : File) (indices : List Nat) : Prop :=
  ∀ j ∈ indices, j < file.recordCount → ∀ request ∈ file.requests j, file.Holds request

end File

/-- A `CuboidFile` that has been loaded from this file, whatever has been read from it
since. -/
structure Kept (file : File) (cub : CuboidFile) : Prop where
  stream : Reading file cub.fileIn
  header : cub.header.memory.toList = slice file.content 8 12
  firstFrame : cub.firstFrame = 512
  frameCount : cub.frameCount = file.recordCount

namespace Kept

variable {file : File} {cub : CuboidFile} {i : Nat}

theorem of_loaded (loaded : Loaded file cub) : Kept file cub where
  stream := .inl loaded.stream
  header := loaded.header
  firstFrame := loaded.firstFrame
  frameCount := loaded.frameCount

theorem loaded (kept : Kept file cub) : Loaded file { cub with fileIn := .onFile file 0 } where
  stream := ⟨0, rfl⟩
  header := kept.header
  firstFrame := kept.firstFrame
  frameCount := kept.frameCount

theorem vWidth (kept : Kept file cub) : cub.header.vWidth = file.vWidth :=
  kept.loaded.vWidth

theorem hWidth (kept : Kept file cub) : cub.header.hWidth = file.hWidth :=
  kept.loaded.hWidth

theorem posHeader (kept : Kept file cub) : cub.posHeader i = file.posHeader i := by
  unfold CuboidFile.posHeader
  rw [kept.firstFrame, show cub.header.length = file.length from kept.loaded.length]
  rfl

theorem posPixel (kept : Kept file cub) : cub.posPixel i = file.posPixel i := by
  rw [CuboidFile.posPixel, kept.posHeader, kept.vWidth, File.posPixel]

theorem requests (kept : Kept file cub) : cub.requests i = file.requests i := by
  rw [CuboidFile.requests, kept.posHeader, kept.posPixel, kept.vWidth, kept.hWidth,
    File.requests]

/-- A call of `getFrame` leaves the stream in order if and only if it was, and the file
holds what is asked for. -/
theorem getFrame (kept : Kept file cub) (memory : Uninitialised) (i : Nat) :
    Kept file (cub.getFrame memory i).2 ∧
      (cub.getFrame memory i).2.currentFramePosition = cub.currentFramePosition ∧
      ((cub.getFrame memory i).2.fileIn.failbit = false ↔
        cub.fileIn.failbit = false ∧ file.Answers [i]) := by
  have answers : file.Answers [i] ↔
      (i < file.recordCount → ∀ request ∈ cub.requests i, file.Holds request) := by
    rw [kept.requests]
    simp [File.Answers]
  by_cases counted : i < cub.frameCount
  · obtain ⟨reading, fine⟩ := @Ifstream.failbit_afterRequests file _ (cub.requests i)
      kept.stream fun request membership => CuboidFile.requests_small membership
    rw [cub.getFrame_stream counted, answers, ← kept.frameCount]
    refine ⟨⟨reading, kept.header, kept.firstFrame, kept.frameCount⟩, rfl, ?_⟩
    simpa only [counted, true_imp_iff] using fine
  · rw [cub.getFrame_beyond memory (Nat.not_lt.mp counted), answers, ← kept.frameCount]
    exact ⟨kept, rfl, by simp [counted]⟩

theorem moved (kept : Kept file cub) (position : Int) :
    Kept file { cub with currentFramePosition := position } :=
  ⟨kept.stream, kept.header, kept.firstFrame, kept.frameCount⟩

/-- After some calls the stream is in order if and only if it was, and the file holds
everything that has been asked for. -/
theorem afterCalls (kept : Kept file cub) (calls : List CuboidFile.Call) :
    Kept file (cub.afterCalls calls) ∧
      ((cub.afterCalls calls).fileIn.failbit = false ↔ cub.fileIn.failbit = false ∧
        file.Answers (CuboidFile.asked cub.currentFramePosition calls)) := by
  have cons : ∀ (i : Nat) (later : List Nat),
      file.Answers (i :: later) ↔ file.Answers [i] ∧ file.Answers later := by
    intro i later
    simp [File.Answers]
  induction calls generalizing cub with
  | nil => exact ⟨kept, by simp [CuboidFile.afterCalls, CuboidFile.asked, File.Answers]⟩
  | cons call later inductionHypothesis =>
      cases call with
      | getFrame memory i =>
          obtain ⟨taken, position, fine⟩ := kept.getFrame memory i
          obtain ⟨atLast, fineAtLast⟩ := inductionHypothesis taken
          refine ⟨atLast, fineAtLast.trans ?_⟩
          rw [fine, position, CuboidFile.asked, cons i (CuboidFile.asked _ later), and_assoc]
      | getNextFrame memory =>
          obtain ⟨taken, position, fine⟩ := (kept.moved _).getFrame memory
            (sizeT (int32 (cub.currentFramePosition + 1)))
          obtain ⟨atLast, fineAtLast⟩ := inductionHypothesis taken
          refine ⟨atLast, fineAtLast.trans ?_⟩
          rw [fine, position, CuboidFile.asked, cons _ (CuboidFile.asked _ later), and_assoc]

end Kept

/-- The frame with this number as it is stored in the file: its pixels follow the
header row of its record.  The header of the frame is what `setFrameHeader` makes of
the pixels. -/
structure StoredFrame (file : File) (i : Nat) (frame : CuboidFrame) : Prop where
  width : frame.width = file.vWidth
  height : frame.height = file.hWidth
  pixels : slice frame.pixelValues.toList 0 (2 * (file.hWidth * file.vWidth)) =
    slice file.content (512 + file.stride * i + 2 * file.vWidth)
      (2 * (file.hWidth * file.vWidth))
  header : frame.header.memory.toList = slice frame.pixelValues.toList 0 16

def CuboidFile.ReadsFrame (file : File) (cub : CuboidFile) (i : Nat) : Prop :=
  ∀ memory, ∃ frame, (cub.getFrame memory i).1 = .ok frame ∧ StoredFrame file i frame

def LaserxaFile.ReadsData (file : File) (lxa : LaserxaFile) (i : Nat) : Prop :=
  ∀ memory, ∃ data, (lxa.getData memory i).1 = .ok data ∧
    data.memory.toList = slice file.content (8 + 16 * i) 16

namespace Kept

variable {file : File} {cub : CuboidFile} {i : Nat}

theorem pixelBytes (kept : Kept file cub) (i : Nat) :
    (cub.fileIn.failbit = false → file.Holds (file.posHeader i, 16) →
      cub.pixelBytes i = slice file.content (file.posPixel i)
        (2 * file.hWidth * file.vWidth)) ∧
    (¬ (cub.fileIn.failbit = false ∧ file.Holds (file.posHeader i, 16)) →
      cub.pixelBytes i = []) := by
  have small : file.posHeader i < 2 ^ 64 := Nat.mod_lt _ (by decide)
  obtain ⟨reading, fine⟩ := @Ifstream.failbit_request file _ (file.posHeader i, 16)
    kept.stream small
  unfold CuboidFile.pixelBytes
  rw [kept.posHeader, kept.posPixel, kept.vWidth, kept.hWidth]
  constructor
  · intro inOrder held
    exact Ifstream.request_fst reading (fine.mpr ⟨inOrder, held⟩) (Nat.mod_lt _ (by decide))
  · intro broken
    have failed : ((cub.fileIn.request (file.posHeader i, 16)).2).failbit = true := by
      rw [← Bool.not_eq_false]
      exact fun inOrder => broken (fine.mp inOrder)
    exact (Ifstream.request_failed failed _).1

theorem length_pixelBytes_iff (kept : Kept file cub) (large : 16 ≤ file.vWidth * file.hWidth) :
    (cub.pixelBytes i).length ≤ 2 * (file.hWidth * file.vWidth) ∧
      ((cub.pixelBytes i).length = 2 * (file.hWidth * file.vWidth) ↔
        cub.fileIn.failbit = false ∧ ∀ request ∈ file.requests i, file.Holds request) := by
  have area : 2 * file.hWidth * file.vWidth = 2 * (file.hWidth * file.vWidth) :=
    Nat.mul_assoc ..
  have commuted : file.hWidth * file.vWidth = file.vWidth * file.hWidth := Nat.mul_comm ..
  have both : (∀ request ∈ file.requests i, file.Holds request) ↔
      file.Holds (file.posHeader i, 16) ∧
        file.Holds (file.posPixel i, 2 * file.hWidth * file.vWidth) := by
    simp [File.requests]
  obtain ⟨complete, nothing⟩ := kept.pixelBytes i
  rw [both]
  by_cases inOrder : cub.fileIn.failbit = false ∧ file.Holds (file.posHeader i, 16)
  · have length := congrArg List.length (complete inOrder.1 inOrder.2)
    rw [length_slice] at length
    rw [and_iff_right inOrder.1, and_iff_right inOrder.2, File.holds_iff (by omega), File.size]
    omega
  · rw [nothing inOrder, ← and_assoc]
    refine ⟨Nat.zero_le _, fun empty => ?_, fun fine => absurd fine.1 inOrder⟩
    rw [List.length_nil] at empty
    omega

end Kept

theorem CuboidFrame.new_constant (width height : Nat) (header : CuboidFrameHeader) (byte : UInt8) :
    (CuboidFrame.new ⟨header, fun _ => byte⟩ width height).pixelValues =
      Block.constant (2 * ((width + 1) * height)) byte := by
  apply Subtype.ext
  change (List.range _).map _ = List.replicate _ byte
  rw [List.map_const', List.length_range]

/-- Bytes for some of the pixels only leave the others to the memory of the frame. -/
theorem CuboidFile.exists_filled_ne {cub : CuboidFile} {bytes target : List UInt8}
    (short : bytes.length < 2 * (cub.header.hWidth * cub.header.vWidth)) :
    ∃ memory, ∀ frame, cub.Filled memory bytes frame →
      slice frame.pixelValues.toList 0 (2 * (cub.header.hWidth * cub.header.vWidth)) ≠ target := by
  have fits := (CuboidFrame.new default cub.header.vWidth cub.header.hWidth).length_buffer
  obtain ⟨byte, differs⟩ := @Block.exists_store_ne _ bytes target _ short fits
  refine ⟨⟨default, fun _ => byte⟩, fun frame filled => ?_⟩
  rw [filled.pixels, CuboidFrame.new_constant]
  exact differs

namespace Kept

variable {file : File} {cub : CuboidFile} {i : Nat}

/-- The stored frame is returned if and only if the stream is in order, everything that
is asked for is in the file, and it is asked for where it is stored. -/
theorem readsFrame_iff (kept : Kept file cub) (counted : i < file.recordCount) :
    cub.ReadsFrame file i ↔
      16 ≤ file.vWidth * file.hWidth ∧ cub.fileIn.failbit = false ∧
        (∀ request ∈ file.requests i, file.Holds request) ∧
        slice file.content (file.posPixel i) (2 * (file.hWidth * file.vWidth)) =
          slice file.content (512 + file.stride * i + 2 * file.vWidth)
            (2 * (file.hWidth * file.vWidth)) := by
  rw [← kept.frameCount] at counted
  have width := kept.vWidth
  have height := kept.hWidth
  by_cases large : 16 ≤ file.vWidth * file.hWidth
  · rw [and_iff_right large]
    rw [← width, ← height] at large
    obtain ⟨atMost, complete⟩ := kept.length_pixelBytes_iff (i := i) (by rwa [← width, ← height])
    rw [← and_assoc, ← complete]
    have bytes : (cub.pixelBytes i).length = 2 * (file.hWidth * file.vWidth) →
        cub.pixelBytes i =
          slice file.content (file.posPixel i) (2 * (file.hWidth * file.vWidth)) := by
      intro whole
      obtain ⟨inOrder, held⟩ := complete.mp whole
      rw [(kept.pixelBytes i).1 inOrder (held _ (List.mem_cons_self ..)), Nat.mul_assoc]
    constructor
    · intro reads
      have whole : (cub.pixelBytes i).length = 2 * (file.hWidth * file.vWidth) := by
        by_contra short
        obtain ⟨memory, differs⟩ := @CuboidFile.exists_filled_ne cub (cub.pixelBytes i)
          (slice file.content (512 + file.stride * i + 2 * file.vWidth)
            (2 * (file.hWidth * file.vWidth)))
          (by rw [width, height]; omega)
        obtain ⟨frame, read, stored⟩ := reads memory
        obtain ⟨frame', read', filled⟩ := @CuboidFile.getFrame_filled cub memory i counted large
        obtain rfl := Except.ok.inj (read.symm.trans read')
        apply differs frame filled
        rw [width, height]
        exact stored.pixels
      refine ⟨whole, ?_⟩
      obtain ⟨frame, read, stored⟩ := reads default
      obtain ⟨frame', read', filled⟩ := @CuboidFile.getFrame_filled cub default i counted large
      obtain rfl := Except.ok.inj (read.symm.trans read')
      rw [← bytes whole, ← stored.pixels, ← width, ← height]
      exact (filled.slice_pixels (by rw [width, height]; exact whole)).symm
    · rintro ⟨whole, same⟩ memory
      obtain ⟨frame, read, filled⟩ := @CuboidFile.getFrame_filled cub memory i counted large
      refine ⟨frame, read, filled.width.trans width, filled.height.trans height, ?_,
        filled.header⟩
      rw [← same, ← bytes whole, ← width, ← height]
      exact filled.slice_pixels (by rw [width, height]; exact whole)
  · refine ⟨fun reads => ?_, fun condition => absurd condition.1 large⟩
    rw [← width, ← height] at large
    obtain ⟨frame, read, -⟩ := reads default
    cases (cub.getFrame_tooShort counted (Nat.lt_of_not_le large)).symm.trans read

end Kept

theorem Opened.readsData_iff {file : File} {lxa : LaserxaFile} {i : Nat}
    (opened : Opened file lxa) (inside : i < file.laserRecords) :
    lxa.ReadsData file i ↔ lxa.fileIn.failbit = false := by
  constructor
  · intro reads
    rw [← Bool.not_eq_true]
    intro failed
    have below : i < lxa.dataCount :=
      opened.dataCount ▸ inside.trans file.laserRecords_lt_laserCount
    -- both answers are what was in memory
    have kept : ∀ byte, List.replicate 16 byte = slice file.content (8 + 16 * i) 16 := by
      intro byte
      obtain ⟨data, read, stored⟩ := reads ⟨.constant 16 byte⟩
      obtain ⟨unread, -⟩ := @Opened.getData_failed _ ⟨.constant 16 byte⟩ _ failed below
      obtain rfl := Except.ok.inj (unread.symm.trans read)
      exact stored
    have same : List.replicate 16 (0 : UInt8) = List.replicate 16 1 :=
      (kept 0).trans (kept 1).symm
    revert same
    decide
  · intro fine memory
    exact opened.getData_returns fine inside memory

/-- What is read after either of two sequences of calls is the same, namely what is
stored. -/
def LaserxaFile.HistoryIndependent (file : File) (lxa : LaserxaFile) (first second : List Call)
    (i : Nat) : Prop :=
  (lxa.afterCalls first).ReadsData file i ∧ (lxa.afterCalls second).ReadsData file i

def CuboidFile.HistoryIndependent (file : File) (cub : CuboidFile) (first second : List Call)
    (i : Nat) : Prop :=
  (cub.afterCalls first).ReadsFrame file i ∧ (cub.afterCalls second).ReadsFrame file i

/-- Every record that these calls have asked for is in the file as a whole. -/
def File.AnswersCalls (file : File) (calls : List LaserxaFile.Call) : Prop :=
  ∀ call ∈ calls, ∀ request ∈ call.requests file.laserCount, file.Holds request

section Reads

variable {file : File} {i : Nat}

theorem LaserxaFile.readsData_afterCalls (blank : LaserxaFile)
    (stored : 8 + 16 * (i + 1) ≤ file.size) (calls : List LaserxaFile.Call) :
    ((blank.init file).afterCalls calls).ReadsData file i ↔ file.AnswersCalls calls := by
  have inside : i < file.laserRecords := File.lt_laserRecords_iff.mpr (by omega)
  have headed : 8 ≤ file.size := by omega
  have inOrder : (blank.init file).fileIn.failbit = false := by
    rw [(blank.init_of_headed headed).2]
    rfl
  obtain ⟨opened, fine⟩ := (Opened.init file blank).afterCalls calls
  rw [opened.readsData_iff inside, fine, and_iff_right inOrder, File.AnswersCalls]

/-- A frame can be read from a new object on this file. -/
def File.Readable (file : File) (i : Nat) : Prop :=
  16 ≤ file.vWidth * file.hWidth ∧ (∀ request ∈ file.requests i, file.Holds request) ∧
    slice file.content (file.posPixel i) (2 * (file.hWidth * file.vWidth)) =
      slice file.content (512 + 2 * file.length * i + 2 * file.vWidth)
        (2 * (file.hWidth * file.vWidth))

instance : Decidable (file.Readable i) := by
  unfold File.Readable
  infer_instance

theorem CuboidFile.readsFrame_afterCalls {blank cub : CuboidFile}
    (opened : blank.loadCub file = .ok cub) (stored : 512 + 2 * file.length * (i + 1) ≤ file.size)
    (calls : List CuboidFile.Call) :
    (cub.afterCalls calls).ReadsFrame file i ↔
      file.Readable i ∧ file.Answers (CuboidFile.asked (-1) calls) := by
  obtain ⟨loaded, positive⟩ := Loaded.of_loadCub (by omega) opened
  have counted : i < file.recordCount := (File.counted_iff positive).mpr stored
  have position : cub.currentFramePosition = -1 := by
    rw [CuboidFile.loadCub_headed (by omega)] at opened
    split at opened
    next => cases opened
    next => exact congrArg CuboidFile.currentFramePosition (Except.ok.inj opened).symm
  obtain ⟨place, stream⟩ := loaded.stream
  have inOrder : cub.fileIn.failbit = false := by
    rw [stream]
    rfl
  obtain ⟨kept, fine⟩ := (Kept.of_loaded loaded).afterCalls calls
  rw [position, and_iff_right inOrder] at fine
  rw [kept.readsFrame_iff counted, fine, File.stride, File.Readable]
  constructor
  · rintro ⟨large, answered, held, same⟩
    exact ⟨⟨large, held, same⟩, answered⟩
  · rintro ⟨⟨large, held, same⟩, answered⟩
    exact ⟨large, answered, held, same⟩

end Reads

/-- A record of the file is read after two sequences of calls if and only if neither of
them has asked for anything that is not there.  A frame moreover has to be readable at
all. -/
theorem historyIndependent_iff (file : File) :
    (∀ (blank : LaserxaFile) (first second : List LaserxaFile.Call) (i : Nat),
      8 + 16 * (i + 1) ≤ file.size →
      ((blank.init file).HistoryIndependent file first second i ↔
        file.AnswersCalls first ∧ file.AnswersCalls second)) ∧
    ∀ (blank cub : CuboidFile) (first second : List CuboidFile.Call) (i : Nat),
      blank.loadCub file = .ok cub → 512 + 2 * file.length * (i + 1) ≤ file.size →
      (cub.HistoryIndependent file first second i ↔ file.Readable i ∧
        file.Answers (CuboidFile.asked (-1) first) ∧
        file.Answers (CuboidFile.asked (-1) second)) := by
  constructor
  · intro blank first second i stored
    exact and_congr (blank.readsData_afterCalls stored first)
      (blank.readsData_afterCalls stored second)
  · intro blank cub first second i opened stored
    unfold CuboidFile.HistoryIndependent
    rw [CuboidFile.readsFrame_afterCalls opened stored first,
      CuboidFile.readsFrame_afterCalls opened stored second, ← and_and_left]

/-- Records that are there may be read in any order. -/
theorem historyIndependent_iff_twoRecords :
    (LaserxaFile.init default (.twoRecords 1 2)).HistoryIndependent (.twoRecords 1 2) []
      [.getData default 1] 0 :=
  ((historyIndependent_iff (.twoRecords 1 2)).1 default [] [.getData default 1] 0
    (by decide)).mpr ⟨by simp [File.AnswersCalls], by
      intro call membership
      rw [List.mem_singleton.mp membership]
      decide⟩

theorem File.widths_ofHeader {header : Block 12} {rest : Nat} {few : rest < 2 ^ 62} :
    (ofHeader header rest few).vWidth = fieldAt header.toList 0 2 ∧
      (ofHeader header rest few).hWidth = fieldAt header.toList 2 2 :=
  ⟨@fieldAt_ofHeader _ _ _ 0 2 (by decide), @fieldAt_ofHeader _ _ _ 2 2 (by decide)⟩

/-- A laser file with two records of which the third is asked for, and twenty frames of
which the last is larger than what is left of the file: after that the first record and
the first frame are whatever was in memory. -/
theorem history_remembered :
    (∃ (file : File) (lxa : LaserxaFile), lxa = LaserxaFile.init default file ∧
      file.laserRecords = 2 ∧ lxa.ReadsData file 0 ∧
      (∀ memory, ((lxa.afterCalls [.getData default 2]).getData memory 0).1 = .ok memory) ∧
      ¬ lxa.HistoryIndependent file [] [.getData default 2] 0) ∧
    ∃ (file : File) (cub : CuboidFile), CuboidFile.loadCub default file = .ok cub ∧
      cub.getFrameCount = 20 ∧ cub.ReadsFrame file 0 ∧
      ¬ cub.HistoryIndependent file [] [.getFrame default 19] 0 := by
  constructor
  · have opened := Opened.init (.twoRecords 1 2) default
    have reads := fun calls =>
      @LaserxaFile.readsData_afterCalls (.twoRecords 1 2) 0 default (by decide) calls
    have missing : ¬ (File.twoRecords 1 2).AnswersCalls [.getData default 2] := by
      intro answered
      have held := answered _ (List.mem_singleton_self _) (40, 16) (by decide)
      revert held
      decide
    obtain ⟨later, fine⟩ := opened.afterCalls [.getData default 2]
    have failed : ((LaserxaFile.init default (.twoRecords 1 2)).afterCalls
        [.getData default 2]).fileIn.failbit = true := by
      rw [← Bool.not_eq_false]
      exact fun inOrder => missing (fine.mp inOrder).2
    refine ⟨_, _, rfl, rfl, (reads []).mpr (by simp [File.AnswersCalls]), fun memory => ?_,
      fun independent => missing ((reads _).mp independent.2)⟩
    exact (Opened.getData_failed failed (by rw [later.dataCount]; decide)).1
  · obtain ⟨file, size, width, height, length⟩ : ∃ file : File, file.size = 552 ∧
        file.vWidth = 4 ∧ file.hWidth = 4 ∧ file.length = 1 :=
      ⟨.ofHeader ⟨[4, 0, 4, 0, 0, 0, 0, 0, 1, 0, 0, 0], rfl⟩ 532 (by decide), File.size_ofHeader,
        File.widths_ofHeader.1.trans (by decide), File.widths_ofHeader.2.trans (by decide),
        File.length_ofHeader.trans (by decide)⟩
    have opened := CuboidFile.loadCub_headed (by omega : 20 ≤ file.size) default
    rw [if_neg (by omega)] at opened
    obtain ⟨loaded, -⟩ := Loaded.of_loadCub (by omega) opened
    have count : file.recordCount = 20 := by
      rw [File.recordCount, File.stride, size, length]
    have reads := fun calls =>
      @CuboidFile.readsFrame_afterCalls file 0 _ _ opened (by omega) calls
    have posHeader : ∀ i, i < 20 → file.posHeader i = 512 + 2 * i := by
      intro i few
      have stride : file.stride % 2 ^ 32 = 2 := by
        rw [File.stride, length]
        decide
      rw [File.posHeader, stride, Nat.mod_eq_of_lt (by omega)]
    have posPixel : ∀ i, i < 20 → file.posPixel i = 512 + 2 * i + 8 := by
      intro i few
      rw [File.posPixel, posHeader i few, width]
      omega
    have requests : ∀ i, i < 20 →
        file.requests i = [(512 + 2 * i, 16), (512 + 2 * i + 8, 32)] := by
      intro i few
      rw [File.requests, posHeader i few, posPixel i few, width, height]
    have missing : ¬ file.Answers (CuboidFile.asked (-1) [.getFrame default 19]) := by
      intro answered
      have held := answered 19 (List.mem_singleton_self _) (by omega) (512 + 2 * 19, 16)
        (by rw [requests 19 (by decide)]; exact List.mem_cons_self ..)
      rw [File.holds_iff (by decide)] at held
      omega
    refine ⟨file, _, opened, loaded.frameCount.trans count, (reads []).mpr ⟨?_, ?_⟩,
      fun independent => missing ((reads _).mp independent.2).2⟩
    · refine ⟨by rw [width, height], ?_, ?_⟩
      · intro request membership
        rw [requests 0 (by decide)] at membership
        simp only [List.mem_cons, List.not_mem_nil, or_false] at membership
        rcases membership with rfl | rfl
        · rw [File.holds_iff (by decide)]
          omega
        · rw [File.holds_iff (by decide)]
          omega
      · rw [posPixel 0 (by decide), length, width]
    · simp [CuboidFile.asked, File.Answers]

end Gloc.Files
