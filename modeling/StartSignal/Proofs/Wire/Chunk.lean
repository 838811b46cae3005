/-
# StartSignal.Proofs.Wire.Chunk -- the message that one chunk is

A chunk that a read takes whole is a message: the text of its bytes, with each maximal
ill-formed subpart replaced.  Nothing that is replaced can make up the start signal, since the
token has no replacement character, and no bytes but none at all are the empty text
(`Heard`).

Main result: `receive_chunk`.
-/
import StartSignal.Proofs.Text.Lossy
import StartSignal.Proofs.Wire.Slices

namespace StartSignal.Wire

open Text.Utf8 (Lossy replacement)

/-- The text is what the bytes of a chunk say. -/
structure Heard (bytes : List UInt8) (t : String) : Prop where
  /-- Each maximal ill-formed subpart is replaced, and nothing else. -/
  lossy : Lossy bytes t.toList
  /-- Only the token is the start signal, byte for byte. -/
  start : Message.decode t = .start ↔ bytes = tokenBytes
  /-- It is not the end of the stream. -/
  nonempty : t ≠ ""
  short : t.length ≤ bytes.length
  /-- Well-formed bytes, and no others, are kept. -/
  same : t.toByteArray = bytes.toByteArray ↔ bytes.toByteArray.IsValidUTF8
  replaced : ¬ bytes.toByteArray.IsValidUTF8 → replacement ∈ t.toList

theorem heard_text {bytes : List UInt8} (some : bytes ≠ []) :
    Heard bytes (Text.Utf8.text bytes) := by
  have chars : (Text.Utf8.text bytes).toList = Text.Utf8.decode bytes := String.toList_ofList
  have lossy : Lossy bytes (Text.Utf8.decode bytes) := Text.Utf8.lossy_decode bytes
  constructor
  case lossy => rwa [chars]
  case start => rw [← Message.isStart_iff, isStart_text_iff]
  case nonempty =>
    intro empty
    have none : Text.Utf8.decode bytes = [] := by rw [← chars, empty, String.toList_empty]
    exact lossy.ne_nil some none
  case short =>
    rw [← String.length_toList, chars]
    exact lossy.length_le
  case same => exact Text.Utf8.toByteArray_text_iff
  case replaced =>
    intro invalid
    rw [chars]
    exact Text.Utf8.replacement_mem_of_invalid invalid

/-- **A read of a chunk that is not longer than a message hears what its bytes say**, and leaves
what comes after it. -/
theorem receive_chunk {bytes : List UInt8} (some : bytes ≠ [])
    (fits : bytes.length ≤ maxMessageBytes) (rest : List Arrival) :
    ∃ t, receive (.chunk bytes :: rest) = (.text t, rest) ∧ Heard bytes t := by
  refine ⟨Text.Utf8.text bytes, ?_, heard_text some⟩
  have taken : bytes.take maxMessageBytes = bytes := List.take_of_length_le fits
  have more : bytes.isEmpty = false := List.isEmpty_eq_false_iff.mpr some
  rw [receive, taken, Reception.ofBytes, more, if_pos fits]
  rfl

/-- The token with a byte behind it that continues nothing. -/
def trailed : List UInt8 := tokenBytes ++ [0x80]

theorem receive_chunk_trailed :
    trailed ≠ [] ∧ trailed.length ≤ maxMessageBytes ∧
      ∃ t, receive [.chunk trailed] = (.text t, []) ∧ Message.decode t ≠ .start ∧
        replacement ∈ t.toList := by
  have some : trailed ≠ [] := by decide
  have fits : trailed.length ≤ maxMessageBytes := by decide
  obtain ⟨t, received, heard⟩ := receive_chunk some fits []
  have longer : trailed ≠ tokenBytes := by decide
  have invalid : ¬ trailed.toByteArray.IsValidUTF8 := by
    intro valid
    obtain ⟨cs, same⟩ := Text.Utf8.isValidUTF8_iff.mp valid
    have read : Text.Utf8.decode trailed = cs := by rw [same, Text.Utf8.decode_encode]
    have lost : Text.Utf8.encode (Text.Utf8.decode trailed) ≠ trailed := by decide
    exact lost (by rw [read, ← same])
  exact ⟨some, fits, t, received, fun start => longer (heard.start.mp start),
    heard.replaced invalid⟩

end StartSignal.Wire
