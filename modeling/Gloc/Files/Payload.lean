import Gloc.Files.Records

/-!
# The pixels of a cub file

In a well-formed file every frame can be read in every order, and its pixels
are those of its record.
-/

namespace Gloc.Files

/-- A file of `n` records, with less than a record after them. -/
structure Layout (file : File) (n : Nat) : Prop where
  wellFormed : WellFormed file
  records : 512 + file.stride * n ≤ file.size
  trailing : file.size < 512 + file.stride * (n + 1)

theorem Layout.recordCount {file : File} {n : Nat} (layout : Layout file n) :
    file.recordCount = n := by
  have positive := layout.wellFormed.stride_pos
  have records := layout.records
  have trailing := layout.trailing
  rw [Nat.mul_add_one] at trailing
  unfold File.recordCount
  apply Nat.div_eq_of_lt_le
  · rw [Nat.mul_comm]
    omega
  · rw [Nat.add_one_mul, Nat.mul_comm]
    omega

theorem fieldAt_eq_of_slice_eq {left right : List UInt8} {atLeft atRight length : Nat}
    (same : slice left atLeft length = slice right atRight length) {inner width : Nat}
    (inside : inner + width ≤ length) :
    fieldAt left (atLeft + inner) width = fieldAt right (atRight + inner) width := by
  rw [← fieldAt_slice inside, same, fieldAt_slice inside]

theorem FrameOf.pixelValue {file : File} {i : Nat} {frame : CuboidFrame}
    (frameOf : FrameOf file i frame) (wellFormed : WellFormed file) {k : Nat}
    (below : k < file.vWidth * file.hWidth) :
    frame.pixelValue k =
      some (fieldAt file.content (512 + file.stride * i + 2 * file.vWidth + 2 * k) 2) := by
  have parts := wellFormed.stride_eq
  rw [CuboidFrame.pixelValue_eq (by rwa [frameOf.width, frameOf.height])]
  rw [Nat.mul_comm] at below
  have read := fieldAt_eq_of_slice_eq frameOf.pixels (show 2 * k + 2 ≤ _ by omega)
  rw [Nat.zero_add] at read
  rw [read, File.record, fieldAt_slice (by omega), ← Nat.add_assoc]

/-- The payload of a cub file can be read frame by frame, in every order and any
number of times: `getFrame (i)` returns the pixels of record `i`, and what it asks
its stream for is all in that record. -/
theorem getFrame_payload {file : File} {n : Nat} (layout : Layout file n)
    (blank : CuboidFile) :
    ∃ cub, blank.loadCub file = .ok cub ∧ cub.getFrameCount = n ∧
      ∀ (earlier : List (Uninitialised × Nat)) (memory : Uninitialised) (i : Nat), i < n →
        (∃ frame, ((cub.afterFrames earlier).getFrame memory i).1 = .ok frame ∧
          frame.width = file.vWidth ∧ frame.height = file.hWidth ∧
          ∀ k, k < file.vWidth * file.hWidth → frame.pixelValue k =
            some (fieldAt file.content
              (512 + 2 * file.length * i + 2 * file.vWidth + 2 * k) 2)) ∧
        ((cub.afterFrames earlier).getFrame memory i).2 =
          { cub.afterFrames earlier with
            fileIn := (cub.afterFrames earlier).fileIn.afterRequests
              ((cub.afterFrames earlier).requests i) } ∧
        ∀ request ∈ (cub.afterFrames earlier).requests i,
          512 + 2 * file.length * i ≤ request.1 ∧
            request.1 + request.2 ≤ 512 + 2 * file.length * i + 2 * file.length ∧
            request.1 + request.2 ≤ file.size := by
  have wellFormed := layout.wellFormed
  have opened := CuboidFile.loadCub_eq wellFormed blank
  refine ⟨_, opened, layout.recordCount, ?_⟩
  intro earlier memory i below
  have loaded := ((Loaded.of_loadCub wellFormed.headed opened).1).afterFrames wellFormed earlier
  rw [← layout.recordCount] at below
  obtain ⟨⟨frame, read, frameOf⟩, -⟩ := loaded.getFrame_reads wellFormed memory below
  refine ⟨⟨frame, read, frameOf.width, frameOf.height, ?_⟩,
    CuboidFile.getFrame_stream (below.trans_eq loaded.frameCount.symm), ?_⟩
  · intro k inFrame
    exact frameOf.pixelValue wellFormed inFrame
  · intro request membership
    obtain ⟨first, last⟩ := loaded.requests_inside wellFormed below membership
    have inFile := File.record_inside wellFormed.headed below
    exact ⟨first, last, by omega⟩

/-- A frame whose only bright pixel is the third one. -/
theorem getFrame_payload_column :
    ∃ (records : List UInt8) (few : records.length < 2 ^ 62) (cub : CuboidFile)
      (frame : CuboidFrame),
      Layout (.column records few) 1 ∧
      CuboidFile.loadCub default (.column records few) = .ok cub ∧
      ((cub.afterFrames [(default, 0), (default, 7)]).getFrame default 0).1 = .ok frame ∧
      frame.pixelValue 2 = some 0x1234 ∧ frame.pixelValue 3 = some 0 := by
  have layout : Layout (.column (List.replicate 36 0 ++ [0x34, 0x12] ++ List.replicate 27 0)
      (by decide)) 1 := by
    refine ⟨File.wellFormed_column, ?_, ?_⟩
    · rw [File.stride_column, File.size_column]
      decide
    · rw [File.stride_column, File.size_column]
      decide
  obtain ⟨cub, opened, -, reads⟩ := getFrame_payload layout default
  obtain ⟨⟨frame, read, -, -, pixels⟩, -⟩ :=
    reads [(default, 0), (default, 7)] default 0 (by decide)
  rw [File.vWidth_column, File.hWidth_column] at pixels
  refine ⟨_, _, cub, frame, layout, opened, read, ?_, ?_⟩
  · rw [pixels 2 (by decide), Nat.mul_zero, Nat.add_zero, fieldAt,
      File.slice_column]
    decide
  · rw [pixels 3 (by decide), Nat.mul_zero, Nat.add_zero, fieldAt,
      File.slice_column]
    decide

end Gloc.Files
