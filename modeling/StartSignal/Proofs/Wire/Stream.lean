/-
# StartSignal.Proofs.Wire.Stream -- what many reads make of a stream

A stream is a script of what becomes available, and many reads of it give what its steps give,
one step after the other (`receiveMany_eq`): a chunk as many texts as it has slices, the end of
the stream a single closed reading, a failure a single failure.  No text has bytes of two
chunks, no step is lost behind a failure, and behind the last step every reading is closed.

Slices are cut at multiples of the most bytes that a read takes, and may cut a character in two.
Where they do not (`Aligned`), each slice encodes the characters between two cuts, and reading
them back gives the chunk (`flatMap_decode_slices`).

Main result: `receiveMany_stream`.
-/
import StartSignal.Proofs.Wire.Chunk

namespace StartSignal

namespace Text.Utf8

/-! ## Characters and cuts -/

/-- A character of the text has bytes before the offset and bytes after it. -/
def Straddled (cs : List Char) (offset : Nat) : Prop :=
  ∃ front c back, cs = front ++ c :: back ∧ (encode front).length < offset ∧
    offset < (encode (front ++ [c])).length

theorem length_encode_cons (c : Char) (cs : List Char) :
    (encode (c :: cs)).length = (encode [c]).length + (encode cs).length := by
  rw [← List.singleton_append, encode_append, List.length_append]

theorem Straddled.append {cs : List Char} {offset : Nat} (straddled : Straddled cs offset)
    (front : List Char) : Straddled (front ++ cs) ((encode front).length + offset) := by
  obtain ⟨before, c, after, rfl, low, high⟩ := straddled
  refine ⟨front ++ before, c, after, ?_, ?_, ?_⟩
  · rw [List.append_assoc]
  · rw [encode_append, List.length_append]
    omega
  · rw [List.append_assoc, encode_append, List.length_append]
    omega

theorem Straddled.lt_length {cs : List Char} {offset : Nat} (straddled : Straddled cs offset) :
    offset < (encode cs).length := by
  obtain ⟨before, c, after, rfl, -, high⟩ := straddled
  rw [← List.singleton_append, ← List.append_assoc, encode_append, List.length_append]
  omega

/-- An offset inside a text that no character straddles is between two characters. -/
theorem exists_append_of_not_straddled {cs : List Char} {offset : Nat}
    (whole : ¬ Straddled cs offset) (inside : offset ≤ (encode cs).length) :
    ∃ front back, cs = front ++ back ∧ (encode front).length = offset := by
  induction cs generalizing offset with
  | nil =>
    rw [encode_nil, List.length_nil, Nat.le_zero] at inside
    exact ⟨[], [], rfl, inside.symm⟩
  | cons c cs ih =>
    by_cases start : offset = 0
    · exact ⟨[], c :: cs, rfl, start.symm⟩
    · by_cases short : offset < (encode [c]).length
      · have low : (encode []).length < offset := Nat.pos_of_ne_zero start
        exact absurd ⟨[], c, cs, rfl, low, short⟩ whole
      · obtain ⟨more, rfl⟩ := Nat.exists_eq_add_of_le (Nat.le_of_not_lt short)
        have whole' : ¬ Straddled cs more := fun straddled => whole (straddled.append [c])
        have inside' : more ≤ (encode cs).length := by
          rw [length_encode_cons c cs] at inside
          omega
        obtain ⟨front, back, rfl, length⟩ := ih whole' inside'
        refine ⟨c :: front, back, rfl, ?_⟩
        rw [length_encode_cons, length]

theorem length_encode_of_single {cs : List Char} (single : ∀ c ∈ cs, (encode [c]).length = 1) :
    (encode cs).length = cs.length := by
  induction cs with
  | nil => rfl
  | cons c cs ih =>
    obtain ⟨one, others⟩ := List.forall_mem_cons.mp single
    rw [length_encode_cons, one, ih others, List.length_cons, Nat.add_comm]

/-- A cut that divides no character leaves texts on both sides. -/
theorem exists_append_of_cut {cs : List Char} {offset : Nat} (whole : ¬ Straddled cs offset) :
    ∃ front back, cs = front ++ back ∧ encode front = (encode cs).take offset ∧
      encode back = (encode cs).drop offset := by
  by_cases inside : offset ≤ (encode cs).length
  · obtain ⟨front, back, rfl, length⟩ := exists_append_of_not_straddled whole inside
    refine ⟨front, back, rfl, ?_, ?_⟩
    · rw [encode_append, ← length, List.take_left]
    · rw [encode_append, ← length, List.drop_left]
  · have short : (encode cs).length ≤ offset := Nat.le_of_not_le inside
    refine ⟨cs, [], (List.append_nil cs).symm, ?_, ?_⟩
    · rw [List.take_of_length_le short]
    · rw [List.drop_eq_nil_of_le short, encode_nil]

end Text.Utf8

namespace Wire

open Text.Utf8 (Lossy Straddled encode decode)

/-! ## One step of a stream -/

def Reception.text? : Reception → Option String
  | .text t => some t
  | _ => none

def Arrival.bytes : Arrival → List UInt8
  | .chunk bytes => bytes
  | .endOfStream | .failure _ => []

/-- What a step gives to its readers, reading by reading. -/
def Arrival.readings : Arrival → List Reception
  | .chunk bytes => (slices bytes).map fun part => .text (Text.Utf8.text part)
  | .endOfStream => [.closed]
  | .failure e => [.failed ⟨e⟩]

/-- What a step has to give. -/
inductive Gives : Arrival → List Reception → Prop where
  /-- One text for each slice, the last of which may be short. -/
  | chunk {bytes : List UInt8} {texts : List String} (count : texts.length = sliceCount bytes)
    (each : ∀ i t, texts[i]? = some t → Lossy (slice bytes i) t.toList) :
    Gives (.chunk bytes) (texts.map .text)
  | endOfStream : Gives .endOfStream [.closed]
  | failure (e : IoError) : Gives (.failure e) [.failed ⟨e⟩]

theorem readings_chunk (bytes : List UInt8) :
    (Arrival.chunk bytes).readings = ((slices bytes).map Text.Utf8.text).map .text := by
  rw [List.map_map]
  rfl

theorem gives_readings (a : Arrival) : Gives a a.readings := by
  cases a with
  | endOfStream => exact .endOfStream
  | failure e => exact .failure e
  | chunk bytes =>
    rw [readings_chunk]
    constructor
    · rw [List.length_map, slices_eq, List.length_map, List.length_range]
    · intro i t found
      rw [slices_eq, List.map_map, List.getElem?_map, Option.map_eq_some_iff] at found
      obtain ⟨j, place, rfl⟩ := found
      obtain ⟨inside, here⟩ := List.getElem?_eq_some_iff.mp place
      rw [List.getElem_range] at here
      subst here
      have chars : (Text.Utf8.text (slice bytes i)).toList = decode (slice bytes i) :=
        String.toList_ofList
      rw [Function.comp_apply, chars]
      exact Text.Utf8.lossy_decode _

/-! ## Many reads -/

theorem receiveMany_succ (n : Nat) (stream : List Arrival) :
    receiveMany (n + 1) stream = (receive stream).1 :: receiveMany n (receive stream).2 := rfl

theorem receiveMany_nil (n : Nat) : receiveMany n [] = List.replicate n .closed := by
  induction n with
  | zero => rfl
  | succ n ih =>
    rw [receiveMany_succ, List.replicate_succ]
    exact congrArg _ ih

theorem take_receiveMany {n m : Nat} (le : n ≤ m) (stream : List Arrival) :
    (receiveMany m stream).take n = receiveMany n stream := by
  induction n generalizing m stream with
  | zero => rfl
  | succ n ih =>
    cases m with
    | zero => cases le
    | succ m =>
      rw [receiveMany_succ, receiveMany_succ, List.take_succ_cons,
        ih (Nat.le_of_succ_le_succ le)]

theorem take_append_receiveMany {n m : Nat} (le : n ≤ m) (rs : List Reception)
    (stream : List Arrival) :
    (rs ++ receiveMany m stream).take n = (rs ++ receiveMany n stream).take n := by
  have fewer : n - rs.length ≤ n := Nat.sub_le _ _
  rw [List.take_append, List.take_append, take_receiveMany fewer,
    take_receiveMany (Nat.le_trans fewer le)]

/-- A step that one read takes whole. -/
theorem receiveMany_single {a : Arrival} {r : Reception} {rest : List Arrival}
    (taken : receive (a :: rest) = (r, rest)) (n : Nat) :
    receiveMany n (a :: rest) = (r :: receiveMany n rest).take n := by
  cases n with
  | zero => rfl
  | succ n =>
    rw [receiveMany_succ, taken, List.take_succ_cons, take_receiveMany (Nat.le_succ n)]

/-- The rest of a chunk is read before what comes after it. -/
theorem receiveMany_chunk {bytes : List UInt8} (some : bytes ≠ []) (rest : List Arrival)
    (n : Nat) :
    receiveMany n (.chunk bytes :: rest) =
      ((Arrival.chunk bytes).readings ++ receiveMany n rest).take n := by
  induction bytes using slices.induct generalizing n with
  | case1 bytes none => exact absurd (List.isEmpty_iff.mp none) some
  | case2 bytes _ ih =>
    have front : bytes.take maxMessageBytes ≠ [] := by
      simpa [maxMessageBytes] using some
    have first : (Arrival.chunk bytes).readings =
        .text (Text.Utf8.text (bytes.take maxMessageBytes)) ::
          (Arrival.chunk (bytes.drop maxMessageBytes)).readings := by
      rw [Arrival.readings, slices, if_neg (by simpa using some)]
      rfl
    have read : Reception.ofBytes (bytes.take maxMessageBytes) =
        .text (Text.Utf8.text (bytes.take maxMessageBytes)) :=
      if_neg (by simpa using front)
    rw [first]
    by_cases fits : bytes.length ≤ maxMessageBytes
    · have nothing : (Arrival.chunk (bytes.drop maxMessageBytes)).readings = [] := by
        rw [List.drop_eq_nil_of_le fits, Arrival.readings, slices]
        rfl
      have taken : receive (.chunk bytes :: rest) =
          (.text (Text.Utf8.text (bytes.take maxMessageBytes)), rest) := by
        rw [receive, read, if_pos fits]
      rw [nothing]
      exact receiveMany_single taken n
    · have more : bytes.drop maxMessageBytes ≠ [] := by
        rw [Ne, List.drop_eq_nil_iff]
        exact fits
      cases n with
      | zero => rfl
      | succ n =>
        rw [receiveMany_succ, receive, read, if_neg fits, List.cons_append, List.take_succ_cons,
          ih more n, take_append_receiveMany (Nat.le_succ n)]

/-- Each step is read to its end before the next, and then there is nothing more. -/
theorem receiveMany_eq {stream : List Arrival}
    (solid : ∀ bytes, Arrival.chunk bytes ∈ stream → bytes ≠ []) (n : Nat) :
    receiveMany n stream =
      (stream.flatMap Arrival.readings ++ List.replicate n Reception.closed).take n := by
  induction stream with
  | nil =>
    rw [receiveMany_nil, List.flatMap_nil, List.nil_append, List.take_of_length_le]
    exact Nat.le_of_eq List.length_replicate
  | cons a stream ih =>
    have step : receiveMany n (a :: stream) = (a.readings ++ receiveMany n stream).take n := by
      cases a with
      | chunk bytes => exact receiveMany_chunk (solid bytes List.mem_cons_self) stream n
      | endOfStream => exact receiveMany_single rfl n
      | failure e => exact receiveMany_single rfl n
    have fewer : n - a.readings.length ≤ n := Nat.sub_le _ _
    rw [step, ih fun bytes later => solid bytes (List.mem_cons_of_mem _ later),
      List.flatMap_cons, List.append_assoc, List.take_append, List.take_take,
      Nat.min_eq_left fewer, ← List.take_append]

/-! ## The bytes that are heard -/

/-- A chunk of well-formed bytes in which no cut between two slices divides a character. -/
structure Aligned (bytes : List UInt8) : Prop where
  valid : bytes.toByteArray.IsValidUTF8
  whole : ∀ cs, encode cs = bytes → ∀ i, ¬ Straddled cs (maxMessageBytes * i)

/-- Behind a first slice that divides no character, the cuts go on from its end. -/
theorem not_straddled_behind {front back : List Char}
    (whole : ∀ i, ¬ Straddled (front ++ back) (maxMessageBytes * i))
    (first : encode front = (encode (front ++ back)).take maxMessageBytes) (i : Nat) :
    ¬ Straddled back (maxMessageBytes * i) := by
  intro straddled
  have length := congrArg List.length first
  have some := straddled.lt_length
  rw [List.length_take, Text.Utf8.encode_append, List.length_append] at length
  have full : (encode front).length = maxMessageBytes := by omega
  have further := straddled.append front
  rw [full, Nat.add_comm, ← Nat.mul_succ] at further
  exact whole (i + 1) further

/-- Read slice by slice, the bytes of a text are that text. -/
theorem flatMap_decode_slices {cs : List Char}
    (whole : ∀ i, ¬ Straddled cs (maxMessageBytes * i)) :
    (slices (encode cs)).flatMap decode = cs := by
  generalize same : encode cs = bytes
  induction bytes using slices.induct generalizing cs with
  | case1 bytes none =>
    have read := Text.Utf8.decode_encode cs
    rw [same, List.isEmpty_iff.mp none] at read
    rw [slices, if_pos none]
    exact read
  | case2 bytes some ih =>
    have cut : ¬ Straddled cs maxMessageBytes := whole 1
    obtain ⟨front, back, rfl, first, rest⟩ := Text.Utf8.exists_append_of_cut cut
    have behind := not_straddled_behind whole first
    rw [same] at first rest
    rw [slices, if_neg some, List.flatMap_cons, ih behind rest, ← first,
      Text.Utf8.decode_encode]

/-- The bytes of all the texts that are heard, one after the other. -/
def heardBytes (rs : List Reception) : List UInt8 :=
  Text.Utf8.bytes (String.join (rs.filterMap Reception.text?))

theorem heardBytes_append (rs rs' : List Reception) :
    heardBytes (rs ++ rs') = heardBytes rs ++ heardBytes rs' := by
  simp only [heardBytes, Text.Utf8.bytes, List.filterMap_append, String.toList_join,
    List.flatMap_append, Text.Utf8.encode_append]

theorem heardBytes_closed (n : Nat) : heardBytes (List.replicate n .closed) = [] := by
  simp [heardBytes, List.filterMap_replicate, Reception.text?, Text.Utf8.bytes]

/-- What is heard of a chunk whose characters are not cut is the chunk. -/
theorem Aligned.heardBytes_readings {bytes : List UInt8} (aligned : Aligned bytes) :
    heardBytes (Arrival.chunk bytes).readings = bytes := by
  obtain ⟨cs, rfl⟩ := Text.Utf8.isValidUTF8_iff.mp aligned.valid
  have texts : (Arrival.chunk (encode cs)).readings.filterMap Reception.text? =
      (slices (encode cs)).map Text.Utf8.text := by
    rw [readings_chunk, List.filterMap_map]
    exact List.filterMap_some
  have chars : ((slices (encode cs)).map Text.Utf8.text).flatMap String.toList =
      (slices (encode cs)).flatMap decode := by
    simp only [List.flatMap_map, Text.Utf8.text, String.toList_ofList]
  rw [heardBytes, texts, Text.Utf8.bytes, String.toList_join, chars,
    flatMap_decode_slices (aligned.whole cs rfl)]

theorem heardBytes_readings {stream : List Arrival}
    (aligned : ∀ bytes, .chunk bytes ∈ stream → Aligned bytes) :
    heardBytes (stream.flatMap Arrival.readings) = stream.flatMap Arrival.bytes := by
  induction stream with
  | nil => rfl
  | cons a stream ih =>
    have first : heardBytes a.readings = a.bytes := by
      cases a with
      | chunk bytes => exact (aligned bytes List.mem_cons_self).heardBytes_readings
      | endOfStream | failure e => rfl
    rw [List.flatMap_cons, List.flatMap_cons, heardBytes_append, first,
      ih fun bytes later => aligned bytes (List.mem_cons_of_mem _ later)]

/-- A text of characters of one byte each is never cut in one of them. -/
theorem aligned_encode {cs : List Char} (single : ∀ c ∈ cs, (encode [c]).length = 1) :
    Aligned (encode cs) := by
  refine ⟨Text.Utf8.isValidUTF8_iff.mpr ⟨cs, rfl⟩, ?_⟩
  intro cs' same i straddled
  obtain rfl : cs' = cs := by
    rw [← Text.Utf8.decode_encode cs', same, Text.Utf8.decode_encode]
  obtain ⟨front, c, back, rfl, low, high⟩ := straddled
  rw [Text.Utf8.encode_append, List.length_append, single c (by simp)] at high
  omega

/-! ## Main result -/

/-- **Many reads of a stream give what its steps give**, in their order, and then nothing but
that it is closed.  A chunk gives one text for each of its slices, and each text is that of its
own slice; a failure gives one failure, and hides nothing of what follows.  Where no cut divides
a character the texts are the chunks: so far as the reads go, and all of them in the end. -/
theorem receiveMany_stream {stream : List Arrival}
    (solid : ∀ bytes, .chunk bytes ∈ stream → bytes ≠ []) (calls : Nat) :
    (∀ a ∈ stream, Gives a a.readings) ∧
    receiveMany calls stream =
      (stream.flatMap Arrival.readings ++ List.replicate calls Reception.closed).take calls ∧
    ((∀ bytes, .chunk bytes ∈ stream → Aligned bytes) →
      heardBytes (receiveMany calls stream) <+: stream.flatMap Arrival.bytes ∧
      ((stream.flatMap Arrival.readings).length ≤ calls →
        heardBytes (receiveMany calls stream) = stream.flatMap Arrival.bytes)) := by
  have reads := receiveMany_eq solid calls
  refine ⟨fun a _ => gives_readings a, reads, fun aligned => ?_⟩
  have whole := heardBytes_readings aligned
  generalize stream.flatMap Arrival.readings = rs at reads whole ⊢
  have all : heardBytes (rs ++ List.replicate calls Reception.closed) =
      stream.flatMap Arrival.bytes := by
    rw [heardBytes_append, heardBytes_closed, List.append_nil, whole]
  constructor
  · refine ⟨heardBytes ((rs ++ List.replicate calls Reception.closed).drop calls), ?_⟩
    rw [reads, ← heardBytes_append, List.take_append_drop, all]
  · intro enough
    rw [reads, List.take_append, List.take_of_length_le enough, List.take_replicate,
      heardBytes_append, heardBytes_closed, List.append_nil, whole]

def filler (n : Nat) : List UInt8 := encode (List.replicate n 'x')

theorem single_filler (n : Nat) : ∀ c ∈ List.replicate n 'x', (encode [c]).length = 1 := by
  intro c member
  rw [List.eq_of_mem_replicate member]
  rfl

theorem length_filler (n : Nat) : (filler n).length = n := by
  rw [filler, Text.Utf8.length_encode_of_single (single_filler n), List.length_replicate]

theorem single_token : ∀ c ∈ startToken.toList, (encode [c]).length = 1 := by
  have each : startToken.toList.all (fun c => (encode [c]).length = 1) = true := by decide
  simpa only [List.all_eq_true, decide_eq_true_eq] using each

/-- Noise that takes two reads, a failure, and the start signal behind it. -/
def interrupted : List Arrival :=
  [.chunk (filler 1524), .failure ⟨.connectionReset, none⟩, .chunk tokenBytes, .endOfStream]

theorem receiveMany_stream_interrupted :
    (∀ bytes, .chunk bytes ∈ interrupted → bytes ≠ []) ∧
      (∀ bytes, .chunk bytes ∈ interrupted → Aligned bytes) ∧
      heardBytes (receiveMany 5 interrupted) = filler 1524 ++ tokenBytes := by
  have chunks : ∀ bytes, .chunk bytes ∈ interrupted → bytes = filler 1524 ∨ bytes = tokenBytes := by
    simp [interrupted]
  have solid : ∀ bytes, .chunk bytes ∈ interrupted → bytes ≠ [] := by
    intro bytes member
    rcases chunks bytes member with rfl | rfl
    · exact List.ne_nil_of_length_pos (by rw [length_filler]; decide)
    · decide
  have aligned : ∀ bytes, .chunk bytes ∈ interrupted → Aligned bytes := by
    intro bytes member
    rcases chunks bytes member with rfl | rfl
    · exact aligned_encode (single_filler 1524)
    · exact aligned_encode single_token
  have enough : (interrupted.flatMap Arrival.readings).length ≤ 5 := by
    have two : sliceCount (filler 1524) = 2 := by
      rw [sliceCount, length_filler]
      rfl
    have one : sliceCount tokenBytes = 1 := rfl
    simp [interrupted, Arrival.readings, slices_eq, two, one]
  have all : interrupted.flatMap Arrival.bytes = filler 1524 ++ tokenBytes := by
    simp [interrupted, Arrival.bytes]
  obtain ⟨-, -, heard⟩ := receiveMany_stream solid 5
  exact ⟨solid, aligned, all ▸ (heard aligned).2 enough⟩

end Wire

end StartSignal
