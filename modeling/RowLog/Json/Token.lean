import RowLog.Json.Numeral
import RowLog.Text.Utf8

/-!
# The tokens of a document

A document is read from bytes. `Token.scan` splits them into tokens, leaving out the blanks between
them, and fails where no token starts. A string is kept by the text it denotes; a string may be
well formed and yet denote none, because its bytes encode no text or because an escape in it is half
of a pair. Such a string may stand where its text is not asked for.
-/

namespace RowLog.Json

def ascii (character : Char) : UInt8 :=
  UInt8.ofNat character.toNat

/-- The smallest parts of a document. -/
inductive Token
  | openBrace
  | closeBrace
  | openBracket
  | closeBracket
  | comma
  | colon
  | null
  | bool (value : Bool)
  | number (numeral : Numeral)
  /-- A string by the text it denotes, if it denotes one. -/
  | string (text : Option String)
  deriving DecidableEq

/-- A part of a string: one byte of text, or a code unit of 16 bits written as an escape. -/
inductive StringPart
  | byte (value : UInt8)
  | unit (code : Nat)
  deriving DecidableEq

def hexDigit? (byte : UInt8) : Option Nat :=
  if ascii '0' ≤ byte && byte ≤ ascii '9' then some (byte.toNat - 48)
  else if ascii 'a' ≤ byte && byte ≤ ascii 'f' then some (byte.toNat - 87)
  else if ascii 'A' ≤ byte && byte ≤ ascii 'F' then some (byte.toNat - 55)
  else none

def codeUnit? (first second third fourth : UInt8) : Option Nat := do
  let first ← hexDigit? first
  let second ← hexDigit? second
  let third ← hexDigit? third
  let fourth ← hexDigit? fourth
  return ((first * 16 + second) * 16 + third) * 16 + fourth

def escapedByte? (byte : UInt8) : Option UInt8 :=
  if byte == ascii '"' || byte == ascii '\\' || byte == ascii '/' then some byte
  else if byte == ascii 'b' then some 8
  else if byte == ascii 'f' then some 12
  else if byte == ascii 'n' then some 10
  else if byte == ascii 'r' then some 13
  else if byte == ascii 't' then some 9
  else none

/-- The parts of a string up to its closing quote, and the bytes after it. The parts that are
already read are given last first. -/
def scanString (parts : List StringPart) : List UInt8 → Option (List StringPart × List UInt8)
  | [] => none
  | byte :: rest =>
      if byte == ascii '"' then some (parts.reverse, rest)
      else if byte == ascii '\\' then
        match rest with
        | [] => none
        | letter :: rest =>
            if letter == ascii 'u' then
              match rest with
              | first :: second :: third :: fourth :: rest =>
                  match codeUnit? first second third fourth with
                  | some code => scanString (.unit code :: parts) rest
                  | none => none
              | _ => none
            else
              match escapedByte? letter with
              | some escaped => scanString (.byte escaped :: parts) rest
              | none => none
      else if byte < 0x20 then none
      else scanString (.byte byte :: parts) rest

/-- Whether a code unit is the first or the second half of a pair. -/
def isHighHalf (code : Nat) : Bool := 0xd800 ≤ code && code < 0xdc00

@[inherit_doc isHighHalf]
def isLowHalf (code : Nat) : Bool := 0xdc00 ≤ code && code < 0xe000

/-- The bytes of the text that the parts of a string denote: halves of a pair are joined, and a half
without its other half denotes nothing. The bytes before are given last first. -/
def stringBytes? (bytes : List UInt8) : List StringPart → Option (List UInt8)
  | [] => some bytes.reverse
  | .byte byte :: rest => stringBytes? (byte :: bytes) rest
  | .unit code :: rest =>
      if isHighHalf code then
        match rest with
        | .unit second :: rest =>
            if isLowHalf second then
              let joined := 0x10000 + (code - 0xd800) * 1024 + (second - 0xdc00)
              stringBytes? ((String.utf8EncodeChar (Char.ofNat joined)).reverse ++ bytes) rest
            else none
        | _ => none
      else if isLowHalf code then none
      else stringBytes? ((String.utf8EncodeChar (Char.ofNat code)).reverse ++ bytes) rest

def stringText? (parts : List StringPart) : Option String :=
  (stringBytes? [] parts).bind Utf8.decode?

def isDigit (byte : UInt8) : Bool :=
  ascii '0' ≤ byte && byte ≤ ascii '9'

/-- The digits at the start of the bytes, and the bytes after them. -/
def scanDigits (bytes : List UInt8) : List Nat × List UInt8 :=
  ((bytes.takeWhile isDigit).map fun digit => digit.toNat - 48, bytes.dropWhile isDigit)

/-- The fraction at the start of the bytes, which has a digit if it has a point. -/
def scanFraction : List UInt8 → Option (List Nat × List UInt8)
  | [] => some ([], [])
  | byte :: rest =>
      if byte == ascii '.' then
        match scanDigits rest with
        | ([], _) => none
        | scanned => some scanned
      else some ([], byte :: rest)

def scanSign : List UInt8 → Bool × List UInt8
  | [] => (false, [])
  | byte :: rest =>
      if byte == ascii '-' then (true, rest)
      else if byte == ascii '+' then (false, rest)
      else (false, byte :: rest)

/-- The exponent at the start of the bytes, which has a digit if it has its letter. -/
def scanExponent : List UInt8 → Option (Option Int × List UInt8)
  | [] => some (none, [])
  | byte :: rest =>
      if byte == ascii 'e' || byte == ascii 'E' then
        let (negative, rest) := scanSign rest
        match scanDigits rest with
        | ([], _) => none
        | (digits, rest) =>
            let magnitude : Int := digitsValue 0 digits
            some (some (if negative then -magnitude else magnitude), rest)
      else some (none, byte :: rest)

/-- A numeral whose sign is read, and the bytes after it. Its first digit is zero only if no other
digit stands before the point. -/
def scanNumeral (negative : Bool) (bytes : List UInt8) : Option (Numeral × List UInt8) :=
  match scanDigits bytes with
  | ([], _) => none
  | (0 :: _ :: _, _) => none
  | (whole, rest) => do
      let (fraction, rest) ← scanFraction rest
      let (exponent, rest) ← scanExponent rest
      return (⟨negative, whole, fraction, exponent⟩, rest)

/-- The bytes after a word, if they start with it. -/
def dropWord? : (word : List Char) → (bytes : List UInt8) → Option (List UInt8)
  | [], bytes => some bytes
  | _ :: _, [] => none
  | letter :: word, byte :: bytes => if byte == ascii letter then dropWord? word bytes else none

def isGap (byte : UInt8) : Bool :=
  byte == ascii ' ' || byte == ascii '\n' || byte == ascii '\t' || byte == ascii '\r'

def punctuation? (byte : UInt8) : Option Token :=
  if byte == ascii '{' then some .openBrace
  else if byte == ascii '}' then some .closeBrace
  else if byte == ascii '[' then some .openBracket
  else if byte == ascii ']' then some .closeBracket
  else if byte == ascii ',' then some .comma
  else if byte == ascii ':' then some .colon
  else none

/-- The token of the rest of a word whose first letter is read. -/
def scanWord (first : UInt8) (rest : List UInt8) : Option (Token × List UInt8) :=
  if first == ascii 'n' then (dropWord? ['u', 'l', 'l'] rest).map (Prod.mk .null)
  else if first == ascii 't' then (dropWord? ['r', 'u', 'e'] rest).map (Prod.mk (.bool true))
  else if first == ascii 'f' then
    (dropWord? ['a', 'l', 's', 'e'] rest).map (Prod.mk (.bool false))
  else none

/-- The token that starts with the byte `first`, and the bytes after it. -/
def Token.scanOne (first : UInt8) (rest : List UInt8) : Option (Token × List UInt8) :=
  match punctuation? first with
  | some token => some (token, rest)
  | none =>
      if first == ascii '"' then
        (scanString [] rest).map fun scanned => (.string (stringText? scanned.1), scanned.2)
      else if first == ascii '-' then
        (scanNumeral true rest).map fun scanned => (.number scanned.1, scanned.2)
      else if isDigit first then
        (scanNumeral false (first :: rest)).map fun scanned => (.number scanned.1, scanned.2)
      else scanWord first rest

/-!
Every scanner leaves a rest that is shorter than what it was given, so a scan ends.
-/

theorem length_scanString {parts found : List StringPart} {bytes rest : List UInt8}
    (scanned : scanString parts bytes = some (found, rest)) : rest.length < bytes.length := by
  fun_induction scanString parts bytes <;> simp_all <;> omega

theorem length_scanDigits (bytes : List UInt8) :
    (scanDigits bytes).1.length + (scanDigits bytes).2.length = bytes.length := by
  simp only [scanDigits, List.length_map]
  rw [← List.length_append, List.takeWhile_append_dropWhile]

theorem length_scanFraction {bytes rest : List UInt8} {fraction : List Nat}
    (scanned : scanFraction bytes = some (fraction, rest)) : rest.length ≤ bytes.length := by
  unfold scanFraction at scanned
  split at scanned
  · simp_all
  · rename_i byte tail
    have shorter := length_scanDigits tail
    split at scanned
    · split at scanned <;> simp_all
      omega
    · simp_all

theorem length_scanSign (bytes : List UInt8) : (scanSign bytes).2.length ≤ bytes.length := by
  unfold scanSign
  split
  · simp
  · split
    · simp
    · split <;> simp

theorem length_scanExponent {bytes rest : List UInt8} {exponent : Option Int}
    (scanned : scanExponent bytes = some (exponent, rest)) : rest.length ≤ bytes.length := by
  unfold scanExponent at scanned
  split at scanned
  · simp_all
  · rename_i byte tail
    have afterSign := length_scanSign tail
    have afterDigits := length_scanDigits (scanSign tail).2
    split at scanned
    · simp only at scanned
      split at scanned <;> simp_all
      omega
    · simp_all

theorem length_scanNumeral {negative : Bool} {bytes rest : List UInt8} {numeral : Numeral}
    (scanned : scanNumeral negative bytes = some (numeral, rest)) :
    rest.length < bytes.length := by
  unfold scanNumeral at scanned
  have afterDigits := length_scanDigits bytes
  split at scanned
  · simp at scanned
  · simp at scanned
  · rename_i whole afterWhole nonempty _ digits
    rw [digits] at afterDigits
    simp only [Option.bind_eq_bind, Option.bind_eq_some_iff, Prod.exists] at scanned
    obtain ⟨fraction, afterFraction, scannedFraction, exponent, afterExponent, scannedExponent,
      result⟩ := scanned
    have first := length_scanFraction scannedFraction
    have second := length_scanExponent scannedExponent
    have some_digit : whole.length ≠ 0 := by
      intro noDigit
      exact nonempty (List.length_eq_zero_iff.mp noDigit)
    simp only [Option.pure_def, Option.some.injEq, Prod.mk.injEq] at result
    rw [result.2] at second
    simp only at afterDigits
    omega

theorem length_dropWord? {word : List Char} {bytes rest : List UInt8}
    (dropped : dropWord? word bytes = some rest) : rest.length ≤ bytes.length := by
  fun_induction dropWord? word bytes <;> simp_all
  omega

theorem length_scanWord {first : UInt8} {bytes rest : List UInt8} {token : Token}
    (scanned : scanWord first bytes = some (token, rest)) : rest.length ≤ bytes.length := by
  unfold scanWord at scanned
  repeat' split at scanned
  all_goals simp at scanned
  all_goals exact length_dropWord? scanned.1

theorem Token.length_scanOne {first : UInt8} {bytes rest : List UInt8} {token : Token}
    (scanned : scanOne first bytes = some (token, rest)) : rest.length ≤ bytes.length := by
  unfold scanOne at scanned
  split at scanned
  · simp_all
  · split at scanned
    · simp only [Option.map_eq_some_iff, Prod.mk.injEq, Prod.exists] at scanned
      obtain ⟨_, _, string, _, rfl⟩ := scanned
      exact Nat.le_of_lt (length_scanString string)
    · split at scanned
      · simp only [Option.map_eq_some_iff, Prod.mk.injEq, Prod.exists] at scanned
        obtain ⟨_, _, numeral, _, rfl⟩ := scanned
        exact Nat.le_of_lt (length_scanNumeral numeral)
      · split at scanned
        · simp only [Option.map_eq_some_iff, Prod.mk.injEq, Prod.exists] at scanned
          obtain ⟨_, _, numeral, _, rfl⟩ := scanned
          exact Nat.le_of_lt_succ (length_scanNumeral numeral)
        · exact length_scanWord scanned

/-- The tokens of the bytes, after those already found, which are given last first. -/
def Token.scanFrom (found : List Token) : List UInt8 → Option (List Token)
  | [] => some found.reverse
  | first :: rest =>
      if isGap first then scanFrom found rest
      else
        match scanned : scanOne first rest with
        | some (token, after) =>
            have := length_scanOne scanned
            scanFrom (token :: found) after
        | none => none
termination_by bytes => bytes.length

/-- The tokens of a document; `none` if some part of the bytes is no token. -/
def Token.scan (bytes : List UInt8) : Option (List Token) :=
  scanFrom [] bytes

end RowLog.Json
