import RowLog.Log.Frame
import Mathlib.Algebra.Order.Ring.Nat

/-!
# Whole frames and torn tails

A file that was cut off while it was written is read up to the last frame that lies wholly before
the cut, and what remains of the next frame is reported as damage. The proof reads the bytes frame
by frame: `readFrame_frame_append` reads a whole frame whatever follows it, and
`readFrame_take_frame` and `readFrame_of_short` say what is wrong with a part of one. Nothing is
assumed of the payloads but their size, so they may be empty, or hold frames themselves.
-/

namespace RowLog

variable {payload : List UInt8}

theorem wordOfBytes_wordBytes (word : UInt32) :
    wordOfBytes word.toUInt8 (word >>> 8).toUInt8 (word >>> 16).toUInt8 (word >>> 24).toUInt8 =
      word := by
  apply UInt32.toBitVec_inj.mp
  apply BitVec.eq_of_getLsbD_eq
  intro place bound
  simp only [wordOfBytes, UInt32.toBitVec_or, UInt32.toBitVec_shiftLeft, UInt8.toBitVec_toUInt32,
    UInt32.toBitVec_toUInt8, UInt32.toBitVec_shiftRight, BitVec.getLsbD_or]
  have second : place < 8 ∨ 8 ≤ place ∧ 8 + (place - 8) = place := by omega
  have third : place < 16 ∨ 16 ≤ place ∧ 16 + (place - 16) = place := by omega
  have fourth : place < 24 ∨ 24 ≤ place ∧ 24 + (place - 24) = place := by omega
  simp only [UInt32.toBitVec_ofNat, BitVec.ofNat_eq_ofNat, BitVec.reduceMod, BitVec.toNat_ofNat,
    Nat.reducePow, Nat.reduceMod, BitVec.shiftLeft_eq', BitVec.ushiftRight_eq',
    BitVec.getLsbD_setWidth, BitVec.getLsbD_shiftLeft, BitVec.getLsbD_ushiftRight]
  grind

/-- The bytes of a frame before its payload. -/
def frameHeader (payload : List UInt8) : List UInt8 :=
  wordBytes frameMark ++ wordBytes (UInt32.ofNat payload.length) ++
    wordBytes (Checksum.ofBytes payload)

theorem frame_eq (payload : List UInt8) : frame payload = frameHeader payload ++ payload := rfl

@[simp]
theorem length_frameHeader (payload : List UInt8) :
    (frameHeader payload).length = frameHeaderSize := rfl

theorem frames_cons (payload : List UInt8) (rest : List (List UInt8)) :
    frames (payload :: rest) = frame payload ++ frames rest := rfl

theorem length_frames (payloads : List (List UInt8)) :
    (frames payloads).length =
      (payloads.map fun payload => frameHeaderSize + payload.length).sum := by
  simp only [frames, List.length_flatMap, length_frame]

theorem frames_append (before after : List (List UInt8)) :
    frames (before ++ after) = frames before ++ frames after :=
  List.flatMap_append

theorem readFrame_words_append (mark length checksum : UInt32) (bytes : List UInt8) :
    readFrame (wordBytes mark ++ wordBytes length ++ wordBytes checksum ++ bytes) =
      readPayload mark length checksum bytes := by
  simp only [wordBytes, List.cons_append, List.nil_append, readFrame, wordOfBytes_wordBytes]

theorem readFrame_frameHeader_append (payload bytes : List UInt8) :
    readFrame (frameHeader payload ++ bytes) =
      readPayload frameMark (UInt32.ofNat payload.length) (Checksum.ofBytes payload) bytes :=
  readFrame_words_append frameMark _ _ bytes

theorem toNat_payloadLength (allowed : payload.length ≤ maxPayloadSize) :
    (UInt32.ofNat payload.length).toNat = payload.length :=
  UInt32.toNat_ofNat_of_lt (Nat.lt_of_le_of_lt allowed (by decide))

theorem readFrame_frame_append (allowed : payload.length ≤ maxPayloadSize) (rest : List UInt8) :
    readFrame (frame payload ++ rest) = .ok (payload, rest) := by
  rw [frame_eq, List.append_assoc, readFrame_frameHeader_append, readPayload,
    toNat_payloadLength allowed, List.take_left, List.drop_left]
  simp [Nat.not_lt.mpr allowed]

theorem readFrame_of_short {bytes : List UInt8} (short : bytes.length < frameHeaderSize) :
    readFrame bytes = .error .headerTruncated := by
  unfold readFrame
  split
  · simp only [List.length_cons, frameHeaderSize] at short
    omega
  · rfl

theorem readFrame_take_frame (allowed : payload.length ≤ maxPayloadSize) {cut : Nat}
    (header : frameHeaderSize ≤ cut) (torn : cut < (frame payload).length) :
    readFrame ((frame payload).take cut) = .error .payloadTruncated := by
  rw [length_frame] at torn
  have split : (frame payload).take cut =
      frameHeader payload ++ payload.take (cut - frameHeaderSize) := by
    rw [frame_eq, List.take_append, length_frameHeader]
    rw [List.take_of_length_le (by simpa using header)]
  have shorter : ((payload.take (cut - frameHeaderSize)).take payload.length).length ≠
      payload.length := by
    simp only [List.length_take]
    omega
  rw [split, readFrame_frameHeader_append, readPayload, toNat_payloadLength allowed]
  simp only [bne_self_eq_false, Bool.false_eq_true, if_false, Nat.not_lt.mpr allowed, bne_iff_ne,
    ne_eq, shorter, not_false_eq_true, if_true]

/-- What is wrong with a file of which so many bytes are left after its last whole frame. -/
def tornTail (left : Nat) : Option FrameError :=
  if left = 0 then none
  else if left < frameHeaderSize then some .headerTruncated
  else some .payloadTruncated

section Reading

variable (found : List (List UInt8))

theorem readFramesFrom_nil : readFramesFrom found [] = (found.reverse, none) := by
  simp [readFramesFrom]

theorem readFramesFrom_of_ok {bytes rest : List UInt8}
    (read : readFrame bytes = .ok (payload, rest)) :
    readFramesFrom found bytes = readFramesFrom (payload :: found) rest := by
  have present : ¬bytes.isEmpty := by
    intro isEmpty
    rw [List.isEmpty_iff.mp isEmpty] at read
    contradiction
  rw [readFramesFrom, if_neg present]
  split
  · next readEq =>
      rw [read] at readEq
      cases readEq
      rfl
  · next readEq =>
      rw [read] at readEq
      contradiction

theorem readFramesFrom_of_error {bytes : List UInt8} {cause : FrameError} (present : bytes ≠ [])
    (read : readFrame bytes = .error cause) :
    readFramesFrom found bytes = (found.reverse, some cause) := by
  rw [readFramesFrom, if_neg (by simpa using present)]
  split
  · next readEq =>
      rw [read] at readEq
      contradiction
  · next readEq =>
      rw [read] at readEq
      cases readEq
      rfl

/-- The part of a frame before a cut inside it is read as nothing, or as damage. -/
theorem readFramesFrom_take_frame (allowed : payload.length ≤ maxPayloadSize) {cut : Nat}
    (torn : cut < (frame payload).length) :
    readFramesFrom found ((frame payload).take cut) = (found.reverse, tornTail cut) := by
  have length : ((frame payload).take cut).length = cut := by
    rw [List.length_take]
    omega
  unfold tornTail
  split
  · next nothing =>
      subst nothing
      exact readFramesFrom_nil found
  · next present =>
      have bytes : (frame payload).take cut ≠ [] := by
        apply List.ne_nil_of_length_pos
        omega
      split
      · next short =>
          apply readFramesFrom_of_error found bytes
          apply readFrame_of_short
          omega
      · next header =>
          apply readFramesFrom_of_error found bytes
          exact readFrame_take_frame allowed (Nat.not_lt.mp header) torn

end Reading

/-- Whether some payloads are those whose frames lie wholly before a cut of a file. -/
structure LieBefore (whole payloads : List (List UInt8)) (cut : Nat) : Prop where
  first : whole <+: payloads
  ends_before : (frames whole).length ≤ cut
  next_ends_after : ∀ next, whole ++ [next] <+: payloads → cut < (frames (whole ++ [next])).length

theorem LieBefore.nil_of_torn {rest : List (List UInt8)} {cut : Nat}
    (torn : cut < (frame payload).length) : LieBefore [] (payload :: rest) cut where
  first := List.nil_prefix
  ends_before := Nat.zero_le cut
  next_ends_after := by
    intro next nextPrefix
    simp only [List.nil_append, List.cons_prefix_cons, List.nil_prefix, and_true] at nextPrefix
    subst nextPrefix
    simpa [frames] using torn

theorem LieBefore.cons {whole rest : List (List UInt8)} {cut : Nat}
    (fits : (frame payload).length ≤ cut)
    (before : LieBefore whole rest (cut - (frame payload).length)) :
    LieBefore (payload :: whole) (payload :: rest) cut where
  first := by
    simpa using before.first
  ends_before := by
    have := before.ends_before
    rw [frames_cons, List.length_append]
    omega
  next_ends_after := by
    intro next nextPrefix
    rw [List.cons_append, List.cons_prefix_cons] at nextPrefix
    have := before.next_ends_after next nextPrefix.2
    rw [List.cons_append, frames_cons, List.length_append]
    omega

theorem LieBefore.eq_of_whole_file {whole payloads : List (List UInt8)}
    (before : LieBefore whole payloads (frames payloads).length) : whole = payloads := by
  rcases before.first with ⟨after, rfl⟩
  cases after with
  | nil => rw [List.append_nil]
  | cons next rest =>
      have beyond := before.next_ends_after next ⟨rest, by simp⟩
      simp only [frames_append, frames_cons, List.length_append] at beyond
      simp only [frames, List.flatMap_nil, List.length_nil] at beyond
      omega

/-- Reading the part of a file before a cut, after some frames that are found already. -/
theorem readFramesFrom_take_frames {payloads : List (List UInt8)}
    (allowed : ∀ payload ∈ payloads, payload.length ≤ maxPayloadSize)
    (found : List (List UInt8)) {cut : Nat} (inside : cut ≤ (frames payloads).length) :
    ∃ whole, LieBefore whole payloads cut ∧
      readFramesFrom found ((frames payloads).take cut) =
        (found.reverse ++ whole, tornTail (cut - (frames whole).length)) := by
  induction payloads generalizing found cut with
  | nil =>
      have nothing : cut = 0 := Nat.le_zero.mp inside
      subst nothing
      refine ⟨[], ⟨List.nil_prefix, Nat.le_refl 0, by simp⟩, ?_⟩
      rw [List.append_nil]
      exact readFramesFrom_nil found
  | cons payload rest ih =>
      have allowedHere := allowed payload (by simp)
      rw [frames_cons]
      by_cases fits : (frame payload).length ≤ cut
      · rw [frames_cons, List.length_append] at inside
        have insideRest : cut - (frame payload).length ≤ (frames rest).length := by omega
        rcases ih (fun other otherMem => allowed other (by simp [otherMem])) (payload :: found)
          insideRest with ⟨whole, before, read⟩
        refine ⟨payload :: whole, before.cons fits, ?_⟩
        rw [List.take_append, List.take_of_length_le fits,
          readFramesFrom_of_ok found (readFrame_frame_append allowedHere _), read, frames_cons,
          List.length_append, Nat.sub_sub]
        simp
      · have torn : cut < (frame payload).length := Nat.not_le.mp fits
        refine ⟨[], .nil_of_torn torn, ?_⟩
        rw [List.take_append_of_le_length (Nat.le_of_lt torn),
          readFramesFrom_take_frame found allowedHere torn, List.append_nil]
        rfl

theorem addFrames_eq_some {payloads : List (List UInt8)}
    (allowed : ∀ payload ∈ payloads, payload.length ≤ maxPayloadSize) (bytes : List UInt8) :
    addFrames bytes payloads =
      some ((List.range payloads.length).map fun index =>
        bytes.length + (frames (payloads.take index)).length, bytes ++ frames payloads) := by
  induction payloads generalizing bytes with
  | nil => simp [addFrames, frames]
  | cons payload rest ih =>
      have here : addFrame bytes payload = some (bytes.length, bytes ++ frame payload) :=
        if_pos (allowed payload (by simp))
      have later := ih (fun other otherMem => allowed other (by simp [otherMem]))
        (bytes ++ frame payload)
      have starts : (List.range (payload :: rest).length).map (fun index =>
            bytes.length + (frames ((payload :: rest).take index)).length) =
          bytes.length :: (List.range rest.length).map fun index =>
            (bytes ++ frame payload).length + (frames (rest.take index)).length := by
        rw [List.length_cons, List.range_succ_eq_map, List.map_cons, List.map_map]
        congr 1
        apply List.map_congr_left
        intro index _
        simp only [Function.comp_apply, List.take_succ_cons, frames_cons, List.length_append]
        omega
      rw [addFrames, here, starts, frames_cons, ← List.append_assoc]
      simp only [Option.bind_eq_bind, Option.bind_some, later]
      rfl

/-- Payloads of an allowed size are all written, the frame of each starts where the sizes of those
before it add up to, and of a file that is cut off anywhere the payloads before the cut are read,
with the damage that the rest of the next frame is. -/
theorem addFrames_and_readFrames_take (payloads : List (List UInt8))
    (allowed : ∀ payload ∈ payloads, payload.length ≤ maxPayloadSize) :
    addFrames [] payloads =
      some ((List.range payloads.length).map fun index =>
        ((payloads.take index).map fun payload => frameHeaderSize + payload.length).sum,
        frames payloads) ∧
    readFrames (frames payloads) = (payloads, none) ∧
    (∀ cut ≤ (frames payloads).length, ∃ whole, LieBefore whole payloads cut ∧
      readFrames ((frames payloads).take cut) =
        (whole, tornTail (cut - (frames whole).length))) ∧
    FrameError.headerTruncated.message = "frame header truncated" ∧
    FrameError.payloadTruncated.message = "frame payload truncated" := by
  have cutOff : ∀ cut ≤ (frames payloads).length, ∃ whole, LieBefore whole payloads cut ∧
      readFrames ((frames payloads).take cut) =
        (whole, tornTail (cut - (frames whole).length)) :=
    fun cut inside => readFramesFrom_take_frames allowed [] inside
  refine ⟨?_, ?_, cutOff, rfl, rfl⟩
  · rw [addFrames_eq_some allowed]
    simp [length_frames]
  · rcases cutOff (frames payloads).length (Nat.le_refl _) with ⟨whole, before, read⟩
    rw [before.eq_of_whole_file, List.take_length, Nat.sub_self] at read
    exact read

/-- An empty payload, a payload that is a frame itself, and a payload that starts with the mark. -/
theorem addFrames_and_readFrames_take_of_nested :
    let payloads : List (List UInt8) := [[], frame [7], wordBytes frameMark ++ [1]]
    (∀ payload ∈ payloads, payload.length ≤ maxPayloadSize) ∧
      addFrames [] payloads = some ([0, 12, 37], frames payloads) ∧
      readFrames (frames payloads) = (payloads, none) ∧
      (∀ cut ≤ (frames payloads).length, ∃ whole, LieBefore whole payloads cut ∧
        readFrames ((frames payloads).take cut) =
          (whole, tornTail (cut - (frames whole).length))) ∧
      FrameError.headerTruncated.message = "frame header truncated" ∧
      FrameError.payloadTruncated.message = "frame payload truncated" := by
  intro payloads
  have allowed : ∀ payload ∈ payloads, payload.length ≤ maxPayloadSize := by
    simp [payloads, length_frame, frameHeaderSize, wordBytes, maxPayloadSize]
  exact ⟨allowed, addFrames_and_readFrames_take payloads allowed⟩

end RowLog
