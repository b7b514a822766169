import Gloc.Files.Cuboid

/-!
# Requests to a stream

The readers only ever seek and then read.  Such a request is answered with the
bytes that are in the file, and it leaves the stream in order if and only if
the file holds all of them; once a request has not been answered in full,
nothing is read any more.
-/

namespace Gloc.Files

/-- All the bytes that are asked for are in the file. -/
def File.Holds (file : File) (request : Nat × Nat) : Prop :=
  request.1 < 2 ^ 63 ∧ (request.2 = 0 ∨ request.1 + request.2 ≤ file.size)

instance (file : File) (request : Nat × Nat) : Decidable (file.Holds request) := by
  unfold File.Holds
  infer_instance

theorem File.holds_iff {file : File} {position count : Nat} (positive : 0 < count) :
    file.Holds (position, count) ↔ position + count ≤ file.size := by
  have addressable : file.size < 2 ^ 63 := file.addressable
  simp only [Holds]
  omega

namespace Ifstream

/-- `seekg (position, std::ios::beg)` and `read (target, count)`. -/
def request (stream : Ifstream) (request : Nat × Nat) : List UInt8 × Ifstream :=
  (stream.seekgBeg (streamoff request.1)).read request.2

def afterRequests (stream : Ifstream) (requests : List (Nat × Nat)) : Ifstream :=
  requests.foldl (fun stream request => (stream.request request).2) stream

theorem seekgBeg_failed {stream : Ifstream} (failed : stream.failbit = true) (offset : Int) :
    (stream.seekgBeg offset).failbit = true := by
  simp [seekgBeg, failed]

theorem read_failed {stream : Ifstream} (failed : stream.failbit = true) (count : Nat) :
    (stream.read count).1 = [] ∧ (stream.read count).2.failbit = true := by
  simp [read, good, failed]

theorem request_failed {stream : Ifstream} (failed : stream.failbit = true)
    (request : Nat × Nat) :
    (stream.request request).1 = [] ∧ (stream.request request).2.failbit = true :=
  read_failed (seekgBeg_failed failed _) _

section OnFile

variable (file : File) (position : Nat)

theorem seekgBeg_beyond {offset : Nat} (beyond : 2 ^ 63 ≤ offset) (small : offset < 2 ^ 64) :
    ((onFile file position).seekgBeg (streamoff offset)).failbit = true := by
  have backward : streamoff offset < 0 := by
    unfold streamoff
    rw [if_neg (by omega)]
    omega
  unfold seekgBeg
  rw [if_neg (by simp [onFile]), if_pos backward]

theorem request_onFile {request : Nat × Nat} (held : file.Holds request) :
    (onFile file position).request request =
      (slice file.content request.1 request.2, onFile file (request.1 + request.2)) := by
  obtain ⟨small, inside⟩ := held
  unfold Ifstream.request
  rw [streamoff_of_lt small, seekgBeg_onFile]
  rcases inside with nothing | inside
  · rw [nothing]
    rfl
  · exact read_onFile file request.1 inside

theorem request_short {request : Nat × Nat} (small : request.1 < 2 ^ 64)
    (short : ¬ file.Holds request) :
    ((onFile file position).request request).1 = slice file.content request.1 request.2 ∧
      ((onFile file position).request request).2.failbit = true := by
  by_cases beyond : 2 ^ 63 ≤ request.1
  · have addressable : file.content.length < 2 ^ 63 := file.addressable
    have failed := seekgBeg_beyond file position beyond small
    have nothing : slice file.content request.1 request.2 = [] := by
      rw [slice, List.drop_eq_nil_of_le (by omega), List.take_nil]
    rw [nothing]
    exact read_failed failed request.2
  · have short : (slice file.content request.1 request.2).length < request.2 := by
      rw [length_slice]
      simp only [File.Holds, File.size] at short
      omega
    unfold Ifstream.request
    rw [streamoff_of_lt (by omega), seekgBeg_onFile]
    simp [read, good, onFile, short]

end OnFile

end Ifstream

/-- The stream of a reader on a file: in order, or failed. -/
def Reading (file : File) (stream : Ifstream) : Prop :=
  (∃ position, stream = .onFile file position) ∨ stream.failbit = true

/-- As long as everything that is asked for is in the file, the stream is in
order. -/
theorem Ifstream.failbit_request {file : File} {stream : Ifstream} {request : Nat × Nat}
    (reading : Reading file stream) (small : request.1 < 2 ^ 64) :
    Reading file (stream.request request).2 ∧
      ((stream.request request).2.failbit = false ↔
        stream.failbit = false ∧ file.Holds request) := by
  rcases reading with ⟨position, rfl⟩ | failed
  · by_cases held : file.Holds request
    · rw [request_onFile file position held]
      exact ⟨.inl ⟨_, rfl⟩, fun _ => ⟨rfl, held⟩, fun _ => rfl⟩
    · have failed := (request_short file position small held).2
      refine ⟨.inr failed, fun fine => ?_, fun fine => absurd fine.2 held⟩
      cases failed.symm.trans fine
  · have stillFailed := (request_failed failed request).2
    refine ⟨.inr stillFailed, fun fine => ?_, fun fine => ?_⟩
    · cases stillFailed.symm.trans fine
    · cases failed.symm.trans fine.1

theorem Ifstream.failbit_afterRequests {file : File} {stream : Ifstream}
    {requests : List (Nat × Nat)} (reading : Reading file stream)
    (small : ∀ request ∈ requests, request.1 < 2 ^ 64) :
    Reading file (stream.afterRequests requests) ∧
      ((stream.afterRequests requests).failbit = false ↔
        stream.failbit = false ∧ ∀ request ∈ requests, file.Holds request) := by
  induction requests generalizing stream with
  | nil => exact ⟨reading, by simp [afterRequests]⟩
  | cons request later inductionHypothesis =>
      obtain ⟨smallRequest, smallLater⟩ := List.forall_mem_cons.mp small
      obtain ⟨stillReading, fine⟩ := failbit_request reading smallRequest
      obtain ⟨atLast, fineAtLast⟩ := inductionHypothesis stillReading smallLater
      refine ⟨atLast, ?_⟩
      change ((stream.request request).2.afterRequests later).failbit = false ↔ _
      rw [fineAtLast, fine, List.forall_mem_cons, and_assoc]

theorem Ifstream.request_fst {file : File} {stream : Ifstream} {request : Nat × Nat}
    (reading : Reading file stream) (fine : stream.failbit = false)
    (small : request.1 < 2 ^ 64) :
    (stream.request request).1 = slice file.content request.1 request.2 := by
  rcases reading with ⟨position, rfl⟩ | failed
  · by_cases held : file.Holds request
    · rw [request_onFile file position held]
    · exact (request_short file position small held).1
  · cases failed.symm.trans fine

end Gloc.Files
