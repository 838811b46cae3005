/-
# StartSignal.Proofs.Wire.Slices -- what successive reads take of queued bytes

Bytes that wait to be read are taken in slices, all of them full but maybe the last
(`slices_eq`, `length_slice`).  A slice is the start signal exactly when it is the five
bytes of the token (`isStart_text_iff`).  A full slice is too long for that, so the start
signal can only be the last slice (`slice_eq_token_iff`).
-/
import StartSignal.Message
import StartSignal.Proofs.Text.Utf8
import StartSignal.Wire.Reading

namespace StartSignal.Wire

/-- The bytes that a read takes after `i` full ones. -/
def slice (bytes : List UInt8) (i : Nat) : List UInt8 :=
  (bytes.drop (maxMessageBytes * i)).take maxMessageBytes

/-- The number of reads that take all bytes. -/
def sliceCount (bytes : List UInt8) : Nat :=
  (bytes.length + (maxMessageBytes - 1)) / maxMessageBytes

def tokenBytes : List UInt8 := Text.Utf8.bytes startToken

/-! ## Slices -/

theorem lt_sliceCount_iff {bytes : List UInt8} {i : Nat} :
    i < sliceCount bytes ↔ maxMessageBytes * i < bytes.length := by
  simp only [sliceCount, maxMessageBytes]
  omega

theorem slice_drop (bytes : List UInt8) (i : Nat) :
    slice (bytes.drop maxMessageBytes) i = slice bytes (i + 1) := by
  unfold slice
  rw [List.drop_drop, Nat.mul_succ, Nat.add_comm]

/-- All bytes are taken slice by slice. -/
theorem slices_eq (bytes : List UInt8) :
    slices bytes = (List.range (sliceCount bytes)).map (slice bytes) := by
  induction bytes using slices.induct with
  | case1 bytes empty =>
    have none : bytes = [] := by simpa using empty
    rw [slices, if_pos empty, none]
    rfl
  | case2 bytes nonempty ih =>
    have some : 0 < bytes.length := by
      rw [List.length_pos_iff]
      simpa using nonempty
    have count : sliceCount bytes = sliceCount (bytes.drop maxMessageBytes) + 1 := by
      simp only [sliceCount, maxMessageBytes, List.length_drop]
      omega
    have first : slice bytes 0 = bytes.take maxMessageBytes := rfl
    rw [slices, if_neg nonempty, ih, count, List.range_succ_eq_map, List.map_cons, List.map_map,
      first]
    exact congrArg _ (List.map_congr_left fun i _ => slice_drop bytes i)

theorem length_slice (bytes : List UInt8) (i : Nat) :
    (slice bytes i).length = min maxMessageBytes (bytes.length - maxMessageBytes * i) := by
  simp [slice]

theorem slice_ne_nil {bytes : List UInt8} {i : Nat} (inside : i < sliceCount bytes) :
    slice bytes i ≠ [] := by
  rw [lt_sliceCount_iff] at inside
  have length := length_slice bytes i
  intro empty
  simp only [empty, List.length_nil, maxMessageBytes] at length inside
  omega

theorem length_slice_le (bytes : List UInt8) (i : Nat) :
    (slice bytes i).length ≤ maxMessageBytes := by
  rw [length_slice]
  exact Nat.min_le_left _ _

/-! ## The slice that is the start signal -/

theorem length_tokenBytes : tokenBytes.length = 5 := by decide

/-- Only its own five bytes are the start signal. -/
theorem isStart_text_iff (bytes : List UInt8) :
    (Message.decode (Text.Utf8.text bytes)).isStart = true ↔ bytes = tokenBytes := by
  rw [Message.isStart_decode]
  constructor
  · intro same
    have chars : Text.Utf8.decode bytes = startToken.toList := by
      rw [← same, Text.Utf8.text, String.toList_ofList]
    exact Text.Utf8.eq_encode_of_decode chars (by decide)
  · rintro rfl
    decide

/-- The start signal can only be the last slice, after slices that are all full. -/
theorem slice_eq_token_iff {bytes : List UInt8} {i : Nat} :
    slice bytes i = tokenBytes ↔
      i = bytes.length / maxMessageBytes ∧ bytes.length % maxMessageBytes = 5 ∧
        tokenBytes <:+ bytes := by
  constructor
  · intro same
    have length := length_slice bytes i
    rw [same, length_tokenBytes] at length
    simp only [maxMessageBytes] at length ⊢
    refine ⟨by omega, by omega, ?_⟩
    have short : (bytes.drop (1024 * i)).length ≤ 1024 := by
      rw [List.length_drop]
      omega
    rw [← same, slice, maxMessageBytes, List.take_of_length_le short]
    exact List.drop_suffix _ _
  · rintro ⟨rfl, rest, front, rfl⟩
    rw [List.length_append, length_tokenBytes] at rest ⊢
    simp only [maxMessageBytes] at rest ⊢
    have full : 1024 * ((front.length + 5) / 1024) = front.length := by omega
    rw [slice, maxMessageBytes, full, List.drop_left]
    decide

end StartSignal.Wire
