import RowLog.Log.Checksum

/-!
# Frames

A log file is a list of frames. A frame is a header of twelve bytes, namely a mark, the length of
the payload and its checksum, each as four bytes with the lowest first, and then the payload. Main
definitions: `frame` writes one payload, `addFrames` writes payloads of a size that is allowed, and
`readFrames` reads a file back, up to its end or to the first frame that is damaged.
-/

namespace RowLog

def frameMark : UInt32 := 0x50495452

def frameHeaderSize : Nat := 12

def maxPayloadSize : Nat := 256 * 1024 * 1024

/-- What can be wrong with a frame. -/
inductive FrameError
  | headerTruncated
  | markMismatch
  | lengthTooLarge
  | payloadTruncated
  | checksumMismatch
  deriving DecidableEq

def FrameError.message : FrameError → String
  | .headerTruncated => "frame header truncated"
  | .markMismatch => "frame magic mismatch"
  | .lengthTooLarge => "frame length exceeds limit"
  | .payloadTruncated => "frame payload truncated"
  | .checksumMismatch => "frame payload checksum mismatch"

/-- The four bytes of a word, the lowest first. -/
def wordBytes (word : UInt32) : List UInt8 :=
  [word.toUInt8, (word >>> 8).toUInt8, (word >>> 16).toUInt8, (word >>> 24).toUInt8]

/-- The word of four bytes, the lowest first. -/
def wordOfBytes (first second third fourth : UInt8) : UInt32 :=
  first.toUInt32 ||| second.toUInt32 <<< 8 ||| third.toUInt32 <<< 16 ||| fourth.toUInt32 <<< 24

def frame (payload : List UInt8) : List UInt8 :=
  wordBytes frameMark ++ wordBytes (UInt32.ofNat payload.length) ++
    wordBytes (Checksum.ofBytes payload) ++ payload

theorem length_frame (payload : List UInt8) :
    (frame payload).length = frameHeaderSize + payload.length := by
  simp only [frame, wordBytes, frameHeaderSize, List.length_append, List.length_cons,
    List.length_nil]

def frames (payloads : List (List UInt8)) : List UInt8 :=
  payloads.flatMap frame

/-- Adds the frame of a payload to the bytes of a file, and says where it starts. A payload that is
too large is refused. -/
def addFrame (bytes payload : List UInt8) : Option (Nat × List UInt8) :=
  if payload.length ≤ maxPayloadSize then some (bytes.length, bytes ++ frame payload) else none

/-- Adds the frames of payloads to the bytes of a file, and says where each of them starts. -/
def addFrames (bytes : List UInt8) : List (List UInt8) → Option (List Nat × List UInt8)
  | [] => some ([], bytes)
  | payload :: rest => do
      let (start, longer) ← addFrame bytes payload
      let (starts, all) ← addFrames longer rest
      return (start :: starts, all)

/-- The payload after a header whose words are read, and the bytes after it. -/
def readPayload (mark length checksum : UInt32) (bytes : List UInt8) :
    Except FrameError (List UInt8 × List UInt8) :=
  if mark != frameMark then .error .markMismatch
  else if maxPayloadSize < length.toNat then .error .lengthTooLarge
  else
    let payload := bytes.take length.toNat
    if payload.length != length.toNat then .error .payloadTruncated
    else if Checksum.ofBytes payload != checksum then .error .checksumMismatch
    else .ok (payload, bytes.drop length.toNat)

/-- The payload of the first frame of a file that is not at its end, and the bytes after it. -/
def readFrame : List UInt8 → Except FrameError (List UInt8 × List UInt8)
  | m₀ :: m₁ :: m₂ :: m₃ :: l₀ :: l₁ :: l₂ :: l₃ :: c₀ :: c₁ :: c₂ :: c₃ :: rest =>
      readPayload (wordOfBytes m₀ m₁ m₂ m₃) (wordOfBytes l₀ l₁ l₂ l₃) (wordOfBytes c₀ c₁ c₂ c₃) rest
  | _ => .error .headerTruncated

theorem length_readPayload {mark length checksum : UInt32} {bytes payload rest : List UInt8}
    (read : readPayload mark length checksum bytes = .ok (payload, rest)) :
    rest.length ≤ bytes.length := by
  simp only [readPayload] at read
  repeat' split at read
  all_goals simp_all
  rw [← read.2, List.length_drop]
  omega

theorem length_readFrame {bytes payload rest : List UInt8}
    (read : readFrame bytes = .ok (payload, rest)) : rest.length < bytes.length := by
  unfold readFrame at read
  split at read
  · have := length_readPayload read
    simp only [List.length_cons]
    omega
  · simp at read

/-- The payloads of a file, after those already found, which are given last first, and what is wrong
with the first damaged frame, if there is one. -/
def readFramesFrom (found : List (List UInt8)) (bytes : List UInt8) :
    List (List UInt8) × Option FrameError :=
  if bytes.isEmpty then (found.reverse, none)
  else
    match read : readFrame bytes with
    | .ok (payload, rest) =>
        have := length_readFrame read
        readFramesFrom (payload :: found) rest
    | .error error => (found.reverse, some error)
termination_by bytes.length

/-- The payloads of a file, and what is wrong with the first damaged frame, if there is one. -/
def readFrames (bytes : List UInt8) : List (List UInt8) × Option FrameError :=
  readFramesFrom [] bytes

end RowLog
