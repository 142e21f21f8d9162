/-!
# Text as bytes

`Utf8.encode` writes a text as bytes, `Utf8.decode?` reads a text back and refuses bytes that
encode none, and `Utf8.repair` reads any bytes, putting U+FFFD for what is ill formed. Main
statement: reading what was written gives the text back.
-/

namespace RowLog.Utf8

def encodeChars (characters : List Char) : List UInt8 :=
  characters.flatMap String.utf8EncodeChar

def encode (text : String) : List UInt8 :=
  encodeChars text.toList

@[simp]
theorem encodeChars_nil : encodeChars [] = [] := rfl

@[simp]
theorem encodeChars_cons (head : Char) (tail : List Char) :
    encodeChars (head :: tail) = String.utf8EncodeChar head ++ encodeChars tail := rfl

@[simp]
theorem encodeChars_append (left right : List Char) :
    encodeChars (left ++ right) = encodeChars left ++ encodeChars right := by
  simp [encodeChars]

@[simp]
theorem encode_ofList (characters : List Char) :
    encode (String.ofList characters) = encodeChars characters := by
  simp [encode]

theorem encode_append (left right : String) :
    encode (left ++ right) = encode left ++ encode right := by
  simp [encode]

/-- The text that the bytes encode, if they are well formed. -/
def decode? (bytes : List UInt8) : Option String :=
  String.fromUTF8? bytes.toByteArray

theorem decode?_encodeChars (characters : List Char) :
    decode? (encodeChars characters) = some (String.ofList characters) := by
  have valid : (encodeChars characters).toByteArray.IsValidUTF8 :=
    ByteArray.isValidUTF8_utf8Encode (l := characters)
  simp only [decode?, String.fromUTF8?, valid, ↓reduceDIte, Option.some.injEq]
  apply String.toByteArray_inj.mp
  rw [String.toByteArray_ofList]
  rfl

@[simp]
theorem decode?_encode (text : String) : decode? (encode text) = some text := by
  rw [encode, decode?_encodeChars, String.ofList_toList]

theorem encode_injective {left right : String} (same : encode left = encode right) :
    left = right := by
  have := decode?_encode left
  rw [same, decode?_encode] at this
  exact (Option.some.inj this).symm

theorem encode_of_decode? {bytes : List UInt8} {text : String}
    (decoded : decode? bytes = some text) : encode text = bytes := by
  unfold decode? String.fromUTF8? at decoded
  split at decoded
  · have contents := congrArg String.toByteArray (Option.some.inj decoded)
    have encoded : (encode text).toByteArray = text.toByteArray := by
      rw [← String.ofList_toList (s := text), String.toByteArray_ofList, String.ofList_toList]
      rfl
    apply List.toByteArray_inj.mp
    rw [encoded, ← contents]
    rfl
  · contradiction

/-- Whether a byte continues a character that an earlier byte starts. -/
def isContinuation (byte : UInt8) : Bool :=
  0x80 ≤ byte && byte < 0xc0

/-- Whether the second byte may follow the first in a character of two bytes or more: the shorter
forms, the surrogates and the codes past the last character are excluded. -/
def continues (first second : UInt8) : Bool :=
  if first == 0xe0 then 0xa0 ≤ second && second < 0xc0
  else if first == 0xed then 0x80 ≤ second && second < 0xa0
  else if first == 0xf0 then 0x90 ≤ second && second < 0xc0
  else if first == 0xf4 then 0x80 ≤ second && second < 0x90
  else isContinuation second

/-- The number of bytes in the character that a byte starts, and zero if it starts none. -/
def sequenceLength (first : UInt8) : Nat :=
  if first < 0x80 then 1
  else if first < 0xc2 then 0
  else if first < 0xe0 then 2
  else if first < 0xf0 then 3
  else if first < 0xf5 then 4
  else 0

def payload (byte : UInt8) : Nat :=
  byte.toNat % 64

/-- The character at the start of the bytes that begin with `first`, or `none` if the longest start
of a character found there is incomplete, and the number of further bytes that it takes up. -/
def leading (first : UInt8) (rest : List UInt8) : Option Char × Nat :=
  match sequenceLength first, rest with
  | 1, _ => (some (Char.ofNat first.toNat), 0)
  | 2, second :: _ =>
      if isContinuation second then
        (some (Char.ofNat (first.toNat % 32 * 64 + payload second)), 1)
      else (none, 0)
  | 3, second :: third :: _ =>
      if !continues first second then (none, 0)
      else if !isContinuation third then (none, 1)
      else
        (some (Char.ofNat ((first.toNat % 16 * 64 + payload second) * 64 + payload third)), 2)
  | 3, [second] => (none, if continues first second then 1 else 0)
  | 4, second :: third :: fourth :: _ =>
      if !continues first second then (none, 0)
      else if !isContinuation third then (none, 1)
      else if !isContinuation fourth then (none, 2)
      else
        (some (Char.ofNat (((first.toNat % 8 * 64 + payload second) * 64 + payload third) * 64 +
          payload fourth)), 3)
  | 4, [second, third] =>
      (none, if !continues first second then 0 else if isContinuation third then 2 else 1)
  | 4, [second] => (none, if continues first second then 1 else 0)
  | _, _ => (none, 0)

/-- The characters of any bytes, where every longest incomplete start of a character and every byte
that can start none is read as U+FFFD. -/
def repairChars : List UInt8 → List Char
  | [] => []
  | first :: rest =>
      let (character, further) := leading first rest
      character.getD '\ufffd' :: repairChars (rest.drop further)
termination_by bytes => bytes.length
decreasing_by
  rw [List.length_drop, List.length_cons]
  omega

/-- The text of any bytes: what they encode if they are well formed, and otherwise their text with
U+FFFD in place of what is ill formed. -/
def repair (bytes : List UInt8) : String :=
  (decode? bytes).getD (String.ofList (repairChars bytes))

@[simp]
theorem repair_encode (text : String) : repair (encode text) = text := by
  simp [repair]

theorem eq_nil_of_repair {bytes : List UInt8} (empty : repair bytes = "") : bytes = [] := by
  unfold repair at empty
  cases decoded : decode? bytes with
  | some text =>
      rw [decoded, Option.getD_some] at empty
      rw [← encode_of_decode? decoded, empty]
      rfl
  | none =>
      rw [decoded, Option.getD_none] at empty
      cases bytes with
      | nil => rfl
      | cons first rest => simp [repairChars] at empty

end RowLog.Utf8
