import Gloc.Stream.Pictures

/-!
# What was in memory before

A frame is read into memory that nobody has initialised.  What was there before
reaches the owner of a stream reader as soon as one of the requests cannot be
answered in full, and only then: the images depend on the file alone if and only
if the file holds all that is asked for.
-/

namespace Gloc.Files

theorem littleEndian_pair (low high : UInt8) :
    littleEndian [low, high] = low.toNat + 256 * high.toNat := by
  simp [littleEndian, Nat.ofDigits_cons]

/-- The last number in an object that has not been filled up ends with the byte that was
there before. -/
theorem Block.fieldAt_store_last {size count : Nat} {bytes : List UInt8}
    (short : bytes.length < 2 * count) (fits : 2 * count ≤ size) (byte : UInt8) :
    ∃ low : UInt8, fieldAt ((constant size byte).store bytes).toList (2 * (count - 1)) 2 =
      low.toNat + 256 * byte.toNat := by
  have length : ((constant size byte).store bytes).toList.length = size :=
    List.Vector.toList_length _
  have last : ((constant size byte).store bytes).toList[2 * (count - 1) + 1]? = some byte := by
    rw [toList_store, List.take_of_length_le (by omega : bytes.length ≤ size),
      List.getElem?_append_right (by omega)]
    change (List.drop bytes.length (List.replicate size byte))[_]? = _
    rw [List.drop_replicate, List.getElem?_replicate, if_pos (by omega)]
  rw [List.getElem?_eq_getElem (by omega), Option.some.injEq] at last
  refine ⟨((constant size byte).store bytes).toList[2 * (count - 1)], ?_⟩
  rw [fieldAt, slice, List.drop_eq_getElem_cons (by omega), List.take_succ_cons,
    List.drop_eq_getElem_cons (by omega), List.take_succ_cons, List.take_zero, last,
    littleEndian_pair]

namespace CuboidFile

variable {cub : CuboidFile} {i : Nat}

theorem getFrame_snd_memory (cub : CuboidFile) (memory memory' : Uninitialised) (i : Nat) :
    (cub.getFrame memory i).2 = (cub.getFrame memory' i).2 := by
  by_cases counted : i < cub.frameCount
  · rw [getFrame_stream counted, getFrame_stream counted]
  · rw [cub.getFrame_beyond memory (Nat.not_lt.mp counted),
      cub.getFrame_beyond memory' (Nat.not_lt.mp counted)]

theorem Filled.last_pixel {bytes : List UInt8} {byte : UInt8} {frame : CuboidFrame}
    (filled : cub.Filled ⟨default, fun _ => byte⟩ bytes frame)
    (short : bytes.length < 2 * (cub.header.hWidth * cub.header.vWidth)) :
    ∃ low : UInt8, fieldAt frame.pixelValues.toList
        (2 * (cub.header.hWidth * cub.header.vWidth - 1)) 2 = low.toNat + 256 * byte.toNat := by
  rw [filled.pixels, CuboidFrame.new_constant]
  apply Block.fieldAt_store_last short
  exact (CuboidFrame.new default cub.header.vWidth cub.header.hWidth).length_buffer

end CuboidFile

end Gloc.Files

namespace Gloc.Stream

open Gloc.Channel Gloc.Files

universe u

section Conversion

variable {real : Type u} {first second : CuboidFrame}

theorem convertArrayToMat_congr [Zero real] [NatCast real]
    (small : first.width * first.height ≤ maxSize) (width : first.width = second.width)
    (height : first.height = second.height)
    (pixels : ∀ k < first.width * first.height, pixelAs real first k = pixelAs real second k) :
    (convertArrayToMat first : Mat real) = convertArrayToMat second := by
  obtain ⟨-, one⟩ := @convertLoops_eq real _ _ first small
  obtain ⟨-, other⟩ := @convertLoops_eq real _ _ second (by rwa [← width, ← height])
  apply Mat.eq_of_data
  · rw [one.height, other.height, width]
  · rw [one.width, other.width, height]
  · rw [one.data, other.data, ← width, ← height]
    congr 1
    apply List.map_congr_left
    intro k below
    exact pixels k (List.mem_range.mp below)

theorem fieldAt_eq_of_convertArrayToMat [AddMonoidWithOne real] [CharZero real]
    (same : (convertArrayToMat first : Mat real) = convertArrayToMat second)
    (small : first.width * first.height ≤ maxSize) (width : first.width = second.width)
    (height : first.height = second.height) {k : Nat}
    (below : k < first.width * first.height) :
    fieldAt first.pixelValues.toList (2 * k) 2 = fieldAt second.pixelValues.toList (2 * k) 2 := by
  obtain ⟨-, one⟩ := @convertLoops_eq real _ _ first small
  obtain ⟨-, other⟩ := @convertLoops_eq real _ _ second (by rwa [← width, ← height])
  have elements := congrArg (fun mat => mat.data[k]?) same
  simp only [one.data, other.data, ← width, ← height, Nat.sub_self,
    List.replicate_zero, List.append_nil, List.getElem?_map, List.getElem?_range below,
    Option.map_some, Option.some.injEq] at elements
  exact Nat.cast_injective elements

end Conversion

section Reading

variable {file : File} {cub : CuboidFile}

theorem reading_kept (kept : Kept file cub) (memory : Nat → Uninitialised) (i : Nat) :
    Kept file (reading cub memory i) := by
  induction i with
  | zero => exact kept
  | succ i inductionHypothesis =>
      rw [reading_succ]
      exact (inductionHypothesis.getFrame (memory i) i).1

variable {real : Type u}

/-- The rounds of the reader depend on the file alone, if the file holds all that is
asked for. -/
theorem readLoop_memory [Zero real] [NatCast real] (memory memory' : Nat → Uninitialised)
    (large : 16 ≤ file.vWidth * file.hWidth) (rounds i : Nat) (kept : Kept file cub)
    (inOrder : cub.fileIn.failbit = false) (counted : i + rounds ≤ file.recordCount)
    (held : ∀ j, i ≤ j → j < i + rounds → ∀ request ∈ file.requests j, file.Holds request) :
    readLoop (toFramePtr real) memory rounds i cub =
      readLoop (toFramePtr real) memory' rounds i cub := by
  induction rounds generalizing i cub with
  | zero => rfl
  | succ rounds inductionHypothesis =>
      have below : i < cub.frameCount := by
        rw [kept.frameCount]
        omega
      have area : 16 ≤ cub.header.vWidth * cub.header.hWidth := by
        rwa [kept.vWidth, kept.hWidth]
      have heldHere := held i le_rfl (by omega)
      have complete := (kept.length_pixelBytes_iff (i := i) large).2.mpr ⟨inOrder, heldHere⟩
      rw [← kept.vWidth, ← kept.hWidth] at complete
      obtain ⟨keptNext, -, fine⟩ := kept.getFrame (memory i) i
      have inOrderNext := fine.mpr ⟨inOrder, by
        intro j membership _
        rwa [List.mem_singleton.mp membership]⟩
      obtain ⟨frame, read, filled⟩ :=
        @CuboidFile.getFrame_filled cub (memory i) i below area
      obtain ⟨frame', read', filled'⟩ :=
        @CuboidFile.getFrame_filled cub (memory' i) i below area
      have images : toFramePtr real frame = toFramePtr real frame' := by
        apply congrArg some
        apply convertArrayToMat_congr (by rw [filled.width, filled.height]; exact fieldAt_mul_le ..)
          (filled.width.trans filled'.width.symm) (filled.height.trans filled'.height.symm)
        intro k inFrame
        rw [filled.width, filled.height, Nat.mul_comm] at inFrame
        have pixels := fieldAt_eq_of_slice_eq
          ((filled.slice_pixels complete).trans (filled'.slice_pixels complete).symm)
          (show 2 * k + 2 ≤ _ by omega)
        rw [Nat.zero_add] at pixels
        rw [pixelAs, pixels, pixelAs]
      have later := inductionHypothesis (i + 1) keptNext inOrderNext (by omega)
        fun j first last => held j (by omega) (by omega)
      have taken : cub.getFrame (memory i) i = (.ok frame, (cub.getFrame (memory i) i).2) :=
        Prod.ext read rfl
      have taken' : cub.getFrame (memory' i) i = (.ok frame', (cub.getFrame (memory i) i).2) :=
        Prod.ext read' (cub.getFrame_snd_memory ..)
      rw [readLoop, readLoop, taken, taken']
      simp only [later, images]

/-- Without a request that cannot be answered nothing of the memory is sent; with one, the
last pixel of that frame ends with a byte that was in memory. -/
theorem answers_of_memoryIndependent [AddMonoidWithOne real] [CharZero real]
    {blank : CuboidFile} (headed : 512 ≤ file.size) (opened : blank.loadCub file = .ok cub)
    (large : 16 ≤ file.vWidth * file.hWidth)
    (independent : ∀ memory memory', run (toFramePtr real) none blank memory file =
      run (toFramePtr real) none blank memory' file) :
    file.Answers (List.range file.recordCount) := by
  obtain ⟨loaded, -⟩ := Loaded.of_loadCub headed opened
  have kept := Kept.of_loaded loaded
  have area : 16 ≤ cub.header.vWidth * cub.header.hWidth := by
    rwa [kept.vWidth, kept.hWidth]
  intro i _ below
  by_contra missing
  -- the memory is full of one byte, and that byte is seen in the image of this frame
  have shown : ∀ byte : UInt8, ∃ images : List (FramePtr real), ∃ frame : CuboidFrame,
      (run (toFramePtr real) none blank (fun _ => ⟨default, fun _ => byte⟩) file).1 =
        (images ++ [none]).map .send ∧
      images[i]? = some (toFramePtr real frame) ∧
      frame.width = file.vWidth ∧ frame.height = file.hWidth ∧
      ∃ low : UInt8, fieldAt frame.pixelValues.toList
        (2 * (file.hWidth * file.vWidth - 1)) 2 = low.toNat + 256 * byte.toNat := by
    intro byte
    obtain ⟨frames, length, sent, inOrder⟩ := @run_eq _ cub
      (fun _ => ⟨default, fun _ => byte⟩) (toFramePtr real) none _ _ opened area
    have inFrames : i < frames.length := by
      rw [length, CuboidFile.getFrameCount, kept.frameCount]
      exact below
    have object := reading_kept kept (fun _ => ⟨default, fun _ => byte⟩) i
    have short : ((reading cub (fun _ => ⟨default, fun _ => byte⟩) i).pixelBytes i).length <
        2 * (file.hWidth * file.vWidth) := by
      obtain ⟨atMost, complete⟩ := object.length_pixelBytes_iff (i := i) large
      exact Nat.lt_of_le_of_ne atMost fun whole => missing (complete.mp whole).2
    obtain ⟨frame, read, filled⟩ := @CuboidFile.getFrame_filled
      (reading cub (fun _ => ⟨default, fun _ => byte⟩) i) ⟨default, fun _ => byte⟩ i
      (by rw [object.frameCount]; exact below) (by rwa [object.vWidth, object.hWidth])
    obtain rfl := Except.ok.inj ((inOrder i inFrames).symm.trans read)
    refine ⟨frames.map (toFramePtr real), frames[i], by rw [sent], ?_,
      filled.width.trans object.vWidth, filled.height.trans object.hWidth, ?_⟩
    · rw [List.getElem?_map, List.getElem?_eq_getElem inFrames, Option.map_some]
    · have last := filled.last_pixel (by rwa [object.vWidth, object.hWidth])
      rwa [object.vWidth, object.hWidth] at last
  obtain ⟨dark, frame, sent, image, width, height, low, value⟩ := shown 0
  obtain ⟨bright, frame', sent', image', width', height', low', value'⟩ := shown 1
  have same := (List.map_injective_iff.mpr fun _ _ => Op.send.inj)
    (sent.symm.trans ((congrArg Prod.fst (independent _ _)).trans sent'))
  rw [List.append_cancel_right same, image', Option.some.injEq] at image
  have matrices : (convertArrayToMat frame' : Mat real) = convertArrayToMat frame :=
    Option.some.inj image
  have pixels := fieldAt_eq_of_convertArrayToMat matrices
    (by rw [width', height']; exact fieldAt_mul_le ..) (width'.trans width.symm)
    (height'.trans height.symm) (k := file.hWidth * file.vWidth - 1) (by
      rw [width', height', Nat.mul_comm file.hWidth]
      omega)
  rw [value, value'] at pixels
  have small := low.toNat_lt
  change low'.toNat + 256 * 1 = low.toNat + 256 * 0 at pixels
  omega

end Reading

/-- What a stream reader sends depends on the file alone if and only if the frames are too
small to be read at all, or the file holds all that is asked for. -/
theorem memoryIndependent_iff {real : Type u} [AddMonoidWithOne real] [CharZero real]
    {file : File} {blank cub : CuboidFile} (headed : 512 ≤ file.size)
    (opened : blank.loadCub file = .ok cub) :
    (∀ memory memory', run (toFramePtr real) none blank memory file =
        run (toFramePtr real) none blank memory' file) ↔
      file.vWidth * file.hWidth < 16 ∨ file.Answers (List.range file.recordCount) := by
  obtain ⟨loaded, -⟩ := Loaded.of_loadCub headed opened
  have kept := Kept.of_loaded loaded
  have count : cub.getFrameCount = file.recordCount := kept.frameCount
  by_cases large : 16 ≤ file.vWidth * file.hWidth
  · rw [or_iff_right (Nat.not_lt.mpr large)]
    constructor
    · exact answers_of_memoryIndependent headed opened large
    · intro answers memory memory'
      have inOrder : cub.fileIn.failbit = false := by
        obtain ⟨place, stream⟩ := loaded.stream
        rw [stream]
        rfl
      have rounds := @readLoop_memory file cub real _ _ memory memory' large file.recordCount 0
        kept inOrder (Nat.zero_add _).le fun j _ below request membership =>
          answers j (List.mem_range.mpr (by omega)) (by omega) request membership
      simp only [run, opened, count, rounds]
  · have small : file.vWidth * file.hWidth < 16 := Nat.lt_of_not_le large
    refine iff_of_true (fun memory memory' => ?_) (.inl small)
    rw [← kept.vWidth, ← kept.hWidth] at small
    have rounds : ∀ memory : Nat → Uninitialised, readLoop (toFramePtr real) memory
        cub.getFrameCount 0 cub =
          ([], if cub.getFrameCount = 0 then none else some .frameToShort) := by
      intro memory
      cases frames : cub.getFrameCount with
      | zero => rfl
      | succ rounds =>
          have counted : 0 < cub.frameCount := by
            change 0 < cub.getFrameCount
            omega
          have taken : cub.getFrame (memory 0) 0 =
              (.error .frameToShort, (cub.getFrame (memory 0) 0).2) :=
            Prod.ext (cub.getFrame_tooShort counted small) rfl
          rw [readLoop, taken]
          rfl
    simp only [run, opened, rounds]

/-- A record of two bytes in which a frame of sixteen pixels is looked for. -/
theorem memoryIndependent_iff_shortRecord :
    ∃ (file : File) (cub : CuboidFile), CuboidFile.loadCub default file = .ok cub ∧
      file.recordCount = 1 ∧
      ¬ ∀ memory memory', run (toFramePtr Nat) none default memory file =
        run (toFramePtr Nat) none default memory' file := by
  obtain ⟨file, size, width, height, length⟩ : ∃ file : File, file.size = 514 ∧
      file.vWidth = 4 ∧ file.hWidth = 4 ∧ file.length = 1 :=
    ⟨.ofHeader ⟨[4, 0, 4, 0, 0, 0, 0, 0, 1, 0, 0, 0], rfl⟩ 494 (by decide), File.size_ofHeader,
      File.widths_ofHeader.1.trans (by decide), File.widths_ofHeader.2.trans (by decide),
      File.length_ofHeader.trans (by decide)⟩
  have opened := CuboidFile.loadCub_headed (by omega : 20 ≤ file.size) default
  rw [if_neg (by omega)] at opened
  have count : file.recordCount = 1 := by
    rw [File.recordCount, File.stride, size, length]
  refine ⟨file, _, opened, count, fun independent => ?_⟩
  have answers : file.Answers (List.range file.recordCount) :=
    ((memoryIndependent_iff (by omega) opened).mp independent).resolve_left (by
      rw [width, height]
      decide)
  have held := answers 0 (by rw [count]; decide) (by omega) (file.posHeader 0, 16)
    (List.mem_cons_self ..)
  have position : file.posHeader 0 = 512 := by
    rw [File.posHeader, Nat.mul_zero]
    rfl
  rw [position, File.holds_iff (by decide)] at held
  omega

end Gloc.Stream
