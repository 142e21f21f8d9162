import Mathlib.Data.List.Basic
import RowLog.Proofs.Frames

/-!
# Changed bytes

A byte of a file that is changed outside the length of a frame is noticed when the frame is read. In
the mark this is so because a word is known by its bytes, and so it is in the checksum, which is
then no longer that of the payload. In the payload it is so because the checksum tells any two
payloads apart that differ in one byte: a step of the checksum loses nothing of its register, as the
highest bit of the polynomial shows whether it was added, so registers that differ once differ up to
the end. The frames before the changed one are read as they were written.
-/

namespace RowLog

namespace Checksum

theorem isOdd_eq (register : UInt32) : (register &&& 1 == 1) = register.toBitVec.getLsbD 0 := by
  have lowest : register.toBitVec &&& (1 : UInt32).toBitVec =
      (BitVec.ofBool (register.toBitVec.getLsbD 0)).setWidth 32 :=
    BitVec.and_one_eq_setWidth_ofBool_getLsbD
  rw [Bool.eq_iff_iff, beq_iff_eq, ← UInt32.toBitVec_inj, UInt32.toBitVec_and, lowest]
  cases register.toBitVec.getLsbD 0 with
  | false => decide
  | true => decide

theorem getLsbD_shiftBit (register : UInt32) (place : Nat) :
    (shiftBit register).toBitVec.getLsbD place =
      (register.toBitVec.getLsbD (place + 1) ^^
        (register.toBitVec.getLsbD 0 && polynomial.toBitVec.getLsbD place)) := by
  unfold shiftBit
  rw [isOdd_eq]
  cases bit : register.toBitVec.getLsbD 0 with
  | false => simp [Nat.add_comm]
  | true => simp [Nat.add_comm]

/-- The highest bit after a step is the lowest one before it. -/
theorem getLsbD_shiftBit_last (register : UInt32) :
    (shiftBit register).toBitVec.getLsbD 31 = register.toBitVec.getLsbD 0 := by
  have highest : polynomial.toBitVec.getLsbD 31 = true := rfl
  have beyond : register.toBitVec.getLsbD 32 = false := BitVec.getLsbD_of_ge _ _ (Nat.le_refl 32)
  rw [getLsbD_shiftBit, highest, beyond, Bool.and_true, Bool.false_xor]

theorem shiftBit_injective : Function.Injective shiftBit := by
  intro first second same
  have sameLast : first.toBitVec.getLsbD 0 = second.toBitVec.getLsbD 0 := by
    rw [← getLsbD_shiftBit_last, ← getLsbD_shiftBit_last, same]
  apply UInt32.toBitVec_inj.mp
  apply BitVec.eq_of_getLsbD_eq
  intro place _
  cases place with
  | zero => exact sameLast
  | succ place =>
      have sameBit := congrArg (fun register => register.toBitVec.getLsbD place) same
      simp only [getLsbD_shiftBit, sameLast] at sameBit
      exact Bool.xor_left_inj.mp sameBit

theorem repeat_injective {α : Type} {step : α → α} (injective : Function.Injective step)
    (count : Nat) : Function.Injective (Nat.repeat step count) := by
  induction count with
  | zero => exact Function.injective_id
  | succ count ih => exact injective.comp ih

theorem addByte_left_injective (byte : UInt8) :
    Function.Injective fun register => addByte register byte := by
  intro first second same
  exact (UInt32.xor_left_inj _).mp (repeat_injective shiftBit_injective 8 same)

theorem addByte_right_injective (register : UInt32) : Function.Injective (addByte register) := by
  intro first second same
  have sameWord := (UInt32.xor_right_inj _).mp (repeat_injective shiftBit_injective 8 same)
  exact UInt8.toUInt32_inj.mp sameWord

/-- Bytes that are added to different registers leave them different. -/
theorem foldl_addByte_injective (bytes : List UInt8) :
    Function.Injective fun register => bytes.foldl addByte register := by
  induction bytes with
  | nil => exact Function.injective_id
  | cons byte rest ih => exact ih.comp (addByte_left_injective byte)

theorem ofBytes_ne {before after : List UInt8} {first second : UInt8} (differ : first ≠ second) :
    ofBytes (before ++ first :: after) ≠ ofBytes (before ++ second :: after) := by
  intro same
  have registers := (UInt32.xor_left_inj _).mp same
  rw [List.foldl_append, List.foldl_append] at registers
  exact differ (addByte_right_injective _ (foldl_addByte_injective after registers))

/-- One changed byte changes the checksum. -/
theorem ofBytes_set_ne {bytes : List UInt8} {place : Nat} {byte : UInt8}
    (inside : place < bytes.length) (changed : bytes[place] ≠ byte) :
    ofBytes (bytes.set place byte) ≠ ofBytes bytes := by
  have whole : bytes = bytes.take place ++ bytes[place] :: bytes.drop (place + 1) := by
    rw [← List.drop_eq_getElem_cons inside, List.take_append_drop]
  rw [List.set_eq_take_append_cons_drop, if_pos inside]
  conv => rhs; rw [whole]
  exact ofBytes_ne changed.symm

end Checksum

theorem wordBytes_wordOfBytes (first second third fourth : UInt8) :
    wordBytes (wordOfBytes first second third fourth) = [first, second, third, fourth] := by
  simp only [wordBytes, List.cons.injEq, and_true]
  refine ⟨?_, ?_, ?_, ?_⟩
  all_goals
    apply UInt8.toBitVec_inj.mp
    apply BitVec.eq_of_getLsbD_eq
    intro place bound
    simp only [wordOfBytes, UInt32.toBitVec_or, UInt32.toBitVec_shiftLeft, UInt8.toBitVec_toUInt32,
      UInt32.toBitVec_toUInt8, UInt32.toBitVec_shiftRight, UInt32.toBitVec_ofNat,
      BitVec.ofNat_eq_ofNat, BitVec.reduceMod, BitVec.toNat_ofNat, Nat.reducePow, Nat.reduceMod,
      BitVec.shiftLeft_eq', BitVec.ushiftRight_eq', BitVec.getLsbD_or, BitVec.getLsbD_setWidth,
      BitVec.getLsbD_shiftLeft, BitVec.getLsbD_ushiftRight]
    grind

/-- A word with one changed byte is another word. -/
theorem exists_wordBytes_set {word : UInt32} {place : Nat} {byte : UInt8} (inside : place < 4)
    (changed : (wordBytes word)[place]? ≠ some byte) :
    ∃ other ≠ word, (wordBytes word).set place byte = wordBytes other := by
  have four : ((wordBytes word).set place byte).length = 4 := by simp [wordBytes]
  rcases List.length_eq_four.mp four with ⟨first, second, third, fourth, bytes⟩
  refine ⟨wordOfBytes first second third fourth, ?_, ?_⟩
  · intro same
    have unchanged : (wordBytes word).set place byte = wordBytes word := by
      rw [bytes, ← wordBytes_wordOfBytes, same]
    apply changed
    rw [← unchanged]
    exact List.getElem?_set_self (by simpa [wordBytes] using inside)
  · rw [bytes, wordBytes_wordOfBytes]

variable {payload : List UInt8}

theorem readPayload_of_mark_ne {mark length checksum : UInt32} {bytes : List UInt8}
    (other : mark ≠ frameMark) :
    readPayload mark length checksum bytes = .error .markMismatch :=
  if_pos (bne_iff_ne.mpr other)

theorem readPayload_of_checksum_ne {changed : List UInt8} {checksum : UInt32}
    (allowed : payload.length ≤ maxPayloadSize) (sameLength : changed.length = payload.length)
    (other : Checksum.ofBytes changed ≠ checksum) (rest : List UInt8) :
    readPayload frameMark (UInt32.ofNat payload.length) checksum (changed ++ rest) =
      .error .checksumMismatch := by
  rw [readPayload, toNat_payloadLength allowed, ← sameLength, List.take_left]
  simp [sameLength, Nat.not_lt.mpr allowed, other]

/-! A frame is read again with one byte changed, in each of its parts. -/

section Parts

variable {place : Nat} {byte : UInt8} (rest : List UInt8)

theorem readFrame_set_mark (inside : place < 4)
    (changed : (wordBytes frameMark)[place]? ≠ some byte) :
    readFrame ((wordBytes frameMark).set place byte ++ wordBytes (UInt32.ofNat payload.length) ++
      wordBytes (Checksum.ofBytes payload) ++ rest) = .error .markMismatch := by
  rcases exists_wordBytes_set inside changed with ⟨other, different, bytes⟩
  rw [bytes, readFrame_words_append]
  exact readPayload_of_mark_ne different

theorem readFrame_set_checksum (allowed : payload.length ≤ maxPayloadSize) (inside : place < 4)
    (changed : (wordBytes (Checksum.ofBytes payload))[place]? ≠ some byte) :
    readFrame (wordBytes frameMark ++ wordBytes (UInt32.ofNat payload.length) ++
      (wordBytes (Checksum.ofBytes payload)).set place byte ++ (payload ++ rest)) =
        .error .checksumMismatch := by
  rcases exists_wordBytes_set inside changed with ⟨other, different, bytes⟩
  rw [bytes, readFrame_words_append]
  exact readPayload_of_checksum_ne allowed rfl different.symm rest

theorem readFrame_set_payload (allowed : payload.length ≤ maxPayloadSize)
    (inside : place < payload.length) (changed : payload[place]? ≠ some byte) :
    readFrame (frameHeader payload ++ (payload.set place byte ++ rest)) =
      .error .checksumMismatch := by
  have differ : payload[place] ≠ byte := by
    intro same
    exact changed (same ▸ List.getElem?_eq_getElem inside)
  rw [readFrame_frameHeader_append]
  exact readPayload_of_checksum_ne allowed List.length_set (Checksum.ofBytes_set_ne inside differ)
    rest

end Parts

/-- What is wrong with a frame of which a byte is changed that is not in its length. -/
def changedByteError (offset : Nat) : FrameError :=
  if offset < 4 then .markMismatch else .checksumMismatch

/-- A place in two lists one after the other is a place in one of them. -/
theorem set_append_cases {α : Type} {first second : List α} {place : Nat} {value : α}
    (changed : (first ++ second)[place]? ≠ some value) :
    place < first.length ∧ first[place]? ≠ some value ∧
        (first ++ second).set place value = first.set place value ++ second ∨
      first.length ≤ place ∧ second[place - first.length]? ≠ some value ∧
        (first ++ second).set place value = first ++ second.set (place - first.length) value := by
  rcases Nat.lt_or_ge place first.length with before | after
  · rw [List.getElem?_append_left before] at changed
    exact .inl ⟨before, changed, List.set_append_left place value before⟩
  · rw [List.getElem?_append_right after] at changed
    exact .inr ⟨after, changed, List.set_append_right place value after⟩

theorem readFrame_set_frame (allowed : payload.length ≤ maxPayloadSize) {offset : Nat}
    (inside : offset < frameHeaderSize + payload.length) (notLength : offset < 4 ∨ 8 ≤ offset)
    {byte : UInt8} (changed : (frame payload)[offset]? ≠ some byte) (rest : List UInt8) :
    readFrame ((frame payload).set offset byte ++ rest) = .error (changedByteError offset) := by
  have twoWords : (wordBytes frameMark ++ wordBytes (UInt32.ofNat payload.length)).length = 8 := rfl
  rcases set_append_cases changed with ⟨inHeader, inHeaderChanged, set⟩ | ⟨header, inPayload, set⟩
  · rcases set_append_cases inHeaderChanged with
      ⟨inWords, changed, setWords⟩ | ⟨words, changed, setWords⟩
    · rcases set_append_cases changed with ⟨inMark, changed, setMark⟩ | ⟨mark, -, -⟩
      · have error : changedByteError offset = .markMismatch := if_pos inMark
        rw [frame, set, setWords, setMark, List.append_assoc, error]
        exact readFrame_set_mark _ inMark changed
      · have afterMark : 4 ≤ offset := mark
        omega
    · have error : changedByteError offset = .checksumMismatch := if_neg (by omega)
      rw [frame, set, setWords, List.append_assoc, error]
      apply readFrame_set_checksum rest allowed _ changed
      have inHeader : offset < frameHeaderSize := inHeader
      rw [frameHeaderSize] at inHeader
      omega
  · have inHeader : frameHeaderSize ≤ offset := header
    have error : changedByteError offset = .checksumMismatch := by
      rw [frameHeaderSize] at inHeader
      exact if_neg (by omega)
    rw [frame, set, List.append_assoc, error]
    apply readFrame_set_payload rest allowed _ inPayload
    have : offset - frameHeaderSize < payload.length := by omega
    exact this

/-- The frames before a place in a file are read whatever stands there. -/
theorem readFramesFrom_frames_append {payloads : List (List UInt8)}
    (allowed : ∀ payload ∈ payloads, payload.length ≤ maxPayloadSize)
    (found : List (List UInt8)) (rest : List UInt8) :
    readFramesFrom found (frames payloads ++ rest) =
      readFramesFrom (payloads.reverse ++ found) rest := by
  induction payloads generalizing found with
  | nil => rfl
  | cons payload payloads ih =>
      have here := readFrame_frame_append (allowed payload List.mem_cons_self)
        (frames payloads ++ rest)
      have later := ih (fun other otherMem => allowed other (List.mem_cons_of_mem payload otherMem))
        (payload :: found)
      rw [frames_cons, List.append_assoc, readFramesFrom_of_ok found here, later,
        List.reverse_cons, List.append_assoc]
      rfl

/-- Of a file with one changed byte, the frames before it are read, and then its frame is damaged. -/
theorem readFrames_set_frames_append {before : List (List UInt8)}
    (allowedBefore : ∀ payload ∈ before, payload.length ≤ maxPayloadSize)
    (allowed : payload.length ≤ maxPayloadSize) {rest : List UInt8} {offset : Nat}
    (inside : offset < frameHeaderSize + payload.length) (notLength : offset < 4 ∨ 8 ≤ offset)
    {byte : UInt8}
    (changed : (frames before ++ (frame payload ++ rest))[(frames before).length + offset]? ≠
      some byte) :
    readFrames ((frames before ++ (frame payload ++ rest)).set ((frames before).length + offset)
      byte) = (before, some (changedByteError offset)) := by
  have inFrame : offset < (frame payload).length := by rwa [length_frame]
  rw [List.getElem?_append_right (Nat.le_add_right _ offset), Nat.add_sub_cancel_left,
    List.getElem?_append_left inFrame] at changed
  have damaged := readFrame_set_frame allowed inside notLength changed rest
  have left : (frame payload).set offset byte ++ rest ≠ [] := by
    apply List.ne_nil_of_length_pos
    rw [List.length_append, List.length_set]
    omega
  rw [List.set_append_right _ _ (Nat.le_add_right _ offset), Nat.add_sub_cancel_left,
    List.set_append_left _ _ inFrame, readFrames, readFramesFrom_frames_append allowedBefore,
    readFramesFrom_of_error _ left damaged, List.append_nil, List.reverse_reverse]

theorem length_le_of_addFrames {payloads : List (List UInt8)} {bytes file : List UInt8}
    {starts : List Nat} (written : addFrames bytes payloads = some (starts, file)) :
    ∀ payload ∈ payloads, payload.length ≤ maxPayloadSize := by
  induction payloads generalizing bytes starts with
  | nil => exact List.forall_mem_nil _
  | cons payload rest ih =>
      simp only [addFrames, Option.bind_eq_bind, Option.bind_eq_some_iff] at written
      rcases written with ⟨⟨start, longer⟩, first, ⟨later, all⟩, second, whole⟩
      cases whole
      rw [List.forall_mem_cons]
      constructor
      · by_contra tooLarge
        rw [addFrame, if_neg tooLarge] at first
        contradiction
      · exact ih second

/-- Of a file in which one byte is changed that is not in the length of a frame, the payloads before
its frame are read, and then the damage is found. -/
theorem readFrames_set_of_addFrames {payloads : List (List UInt8)} {starts : List Nat}
    {file : List UInt8} (written : addFrames [] payloads = some (starts, file)) {index start : Nat}
    {payload : List UInt8} (atIndex : payloads[index]? = some payload)
    (atStart : starts[index]? = some start) {offset : Nat}
    (inside : offset < frameHeaderSize + payload.length) (notLength : offset < 4 ∨ 8 ≤ offset)
    {byte : UInt8} (changed : file[start + offset]? ≠ some byte) :
    readFrames (file.set (start + offset) byte) =
      (payloads.take index, some (changedByteError offset)) := by
  have allowed := length_le_of_addFrames written
  rcases List.getElem?_eq_some_iff.mp atIndex with ⟨present, rfl⟩
  have split : frames payloads = frames (payloads.take index) ++
      (frame payloads[index] ++ frames (payloads.drop (index + 1))) := by
    rw [← frames_cons, ← frames_append, ← List.drop_eq_getElem_cons, List.take_append_drop]
  rw [addFrames_eq_some allowed, List.nil_append, split] at written
  cases written
  rw [List.getElem?_map, List.getElem?_range present, Option.map_some, List.length_nil,
    Nat.zero_add] at atStart
  cases atStart
  apply readFrames_set_frames_append _ (allowed _ (List.getElem_mem present)) inside notLength
    changed
  intro payload payloadMem
  exact allowed payload (List.mem_of_mem_take payloadMem)

/-- The byte that is changed is the last one of the second frame. -/
theorem readFrames_set_of_last_byte :
    let payloads : List (List UInt8) := [[], [1, 2, 3], [4]]
    let file := frames payloads
    addFrames [] payloads = some ([0, 12, 27], file) ∧ payloads[1]? = some [1, 2, 3] ∧
      [0, 12, 27][1]? = some 12 ∧ 14 < frameHeaderSize + [1, 2, 3].length ∧ (14 < 4 ∨ 8 ≤ 14) ∧
      file[12 + 14]? ≠ some 7 ∧
      readFrames (file.set (12 + 14) 7) = ([[]], some (changedByteError 14)) := by
  intro payloads file
  have allowed : ∀ payload ∈ payloads, payload.length ≤ maxPayloadSize := by
    simp [payloads, maxPayloadSize]
  have written : addFrames [] payloads = some ([0, 12, 27], file) := addFrames_eq_some allowed []
  have second : payloads[1]? = some [1, 2, 3] := rfl
  have start : [0, 12, 27][1]? = some 12 := rfl
  have inside : 14 < frameHeaderSize + [1, 2, 3].length := by decide
  have notLength : 14 < 4 ∨ 8 ≤ 14 := by decide
  have changed : file[12 + 14]? ≠ some 7 := by decide
  exact ⟨written, second, start, inside, notLength, changed,
    readFrames_set_of_addFrames written second start inside notLength changed⟩

end RowLog
