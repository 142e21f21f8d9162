import RowLog.Proofs.JsonText

/-!
# Reading the tokens of a written document

The text of a string, a number or a word is read as the one token that it stands for, whatever
follows it that may follow a value. A string is written character by character; each character is
read back as one or more parts of a string, and these denote the bytes of the character.
-/

namespace RowLog

namespace Utf8

theorem utf8EncodeChar_of_lt {character : Char} (small : character.toNat < 128) :
    String.utf8EncodeChar character = [UInt8.ofNat character.toNat] := by
  have small : character.val.toNat ≤ 127 := Nat.le_of_lt_succ small
  simp only [String.utf8EncodeChar, small, if_true]
  rfl

theorem encodeChars_of_lt {characters : List Char}
    (small : ∀ character ∈ characters, character.toNat < 128) :
    encodeChars characters = characters.map fun character => UInt8.ofNat character.toNat := by
  induction characters with
  | nil => rfl
  | cons character rest ih =>
      rw [encodeChars_cons, utf8EncodeChar_of_lt (small character (by simp)),
        ih fun other otherMem => small other (by simp [otherMem])]
      rfl

/-- All bytes of a longer character are outside ASCII. -/
theorem le_of_mem_utf8EncodeChar {character : Char} (large : 128 ≤ character.toNat) {byte : UInt8}
    (byteMem : byte ∈ String.utf8EncodeChar character) : 128 ≤ byte.toNat := by
  have large : ¬character.val.toNat ≤ 127 := Nat.not_le_of_lt large
  have bound : character.val.toNat < 0x110000 := by
    rcases character.valid with below | ⟨_, below⟩ <;> simp only [UInt32.toNat] at * <;> omega
  simp only [String.utf8EncodeChar, large, if_false] at byteMem
  split at byteMem
  · simp only [List.mem_cons, List.not_mem_nil, or_false] at byteMem
    rcases byteMem with rfl | rfl <;> simp only [UInt8.toNat_ofNat'] <;> omega
  · split at byteMem
    · simp only [List.mem_cons, List.not_mem_nil, or_false] at byteMem
      rcases byteMem with rfl | rfl | rfl <;> simp only [UInt8.toNat_ofNat'] <;> omega
    · simp only [List.mem_cons, List.not_mem_nil, or_false] at byteMem
      rcases byteMem with rfl | rfl | rfl | rfl <;> simp only [UInt8.toNat_ofNat'] <;> omega

end Utf8

namespace Json

open Utf8

section Strings

variable {read : List StringPart} {rest : List UInt8}

/-- Bytes that are neither quotes nor backslashes nor controls are read as themselves. -/
theorem scanString_bytes {bytes : List UInt8}
    (plain : ∀ byte ∈ bytes, byte ≠ ascii '"' ∧ byte ≠ ascii '\\' ∧ ¬byte < 0x20) :
    scanString read (bytes ++ rest) =
      scanString ((bytes.map StringPart.byte).reverse ++ read) rest := by
  induction bytes generalizing read with
  | nil => rfl
  | cons byte bytes ih =>
      rcases plain byte (by simp) with ⟨notQuote, notBackslash, notControl⟩
      rw [List.cons_append, scanString.eq_def]
      simp only [beq_eq_false_iff_ne.mpr notQuote, beq_eq_false_iff_ne.mpr notBackslash, notControl,
        Bool.false_eq_true, if_false]
      rw [ih fun other otherMem => plain other (by simp [otherMem])]
      simp

theorem stringBytes?_bytes (denoted bytes : List UInt8) (parts : List StringPart) :
    stringBytes? denoted (bytes.map StringPart.byte ++ parts) =
      stringBytes? (bytes.reverse ++ denoted) parts := by
  induction bytes generalizing denoted with
  | nil => rfl
  | cons byte bytes ih =>
      rw [List.map_cons, List.cons_append, stringBytes?, ih]
      simp

/-- Whether a text is read as given parts of a string, which denote given bytes. -/
structure IsReadAs (text : List Char) (parts : List StringPart) (bytes : List UInt8) : Prop where
  scanString_eq : ∀ read rest,
    scanString read (encodeChars text ++ rest) = scanString (parts.reverse ++ read) rest
  stringBytes?_eq : ∀ denoted later,
    stringBytes? denoted (parts ++ later) = stringBytes? (bytes.reverse ++ denoted) later

theorem IsReadAs.append {first second : List Char} {parts others : List StringPart}
    {bytes more : List UInt8} (firstRead : IsReadAs first parts bytes)
    (secondRead : IsReadAs second others more) :
    IsReadAs (first ++ second) (parts ++ others) (bytes ++ more) where
  scanString_eq read rest := by
    rw [encodeChars_append, List.append_assoc, firstRead.scanString_eq, secondRead.scanString_eq]
    simp
  stringBytes?_eq denoted later := by
    rw [List.append_assoc, firstRead.stringBytes?_eq, secondRead.stringBytes?_eq]
    simp

theorem isReadAs_plain {character : Char} (notQuote : character ≠ '"')
    (notBackslash : character ≠ '\\') (notControl : ¬character < ' ') :
    IsReadAs [character] ((String.utf8EncodeChar character).map .byte)
      (String.utf8EncodeChar character) := by
  have bytes : ∀ byte ∈ String.utf8EncodeChar character,
      byte ≠ ascii '"' ∧ byte ≠ ascii '\\' ∧ ¬byte < 0x20 := by
    intro byte byteMem
    by_cases small : character.toNat < 128
    · rw [utf8EncodeChar_of_lt small, List.mem_singleton] at byteMem
      have back : Char.ofNat byte.toNat = character := by
        rw [byteMem, UInt8.toNat_ofNat', Nat.mod_eq_of_lt (by omega), Char.ofNat_toNat]
      refine ⟨?_, ?_, ?_⟩
      · rintro rfl
        exact notQuote back.symm
      · rintro rfl
        exact notBackslash back.symm
      · intro control
        apply notControl
        rw [Char.lt_def, UInt32.lt_iff_toNat_lt]
        rw [byteMem, UInt8.lt_iff_toNat_lt, UInt8.toNat_ofNat', Nat.mod_eq_of_lt (by omega)]
          at control
        exact control
    · have large := le_of_mem_utf8EncodeChar (Nat.le_of_not_lt small) byteMem
      refine ⟨?_, ?_, ?_⟩
      · rintro rfl
        exact absurd large (by decide)
      · rintro rfl
        exact absurd large (by decide)
      · rw [UInt8.not_lt, UInt8.le_iff_toNat_le]
        exact Nat.le_trans (by decide) large
  constructor
  · intro read rest
    rw [encodeChars_cons, encodeChars_nil, List.append_nil, scanString_bytes bytes]
  · intro denoted later
    exact stringBytes?_bytes denoted _ later

theorem backslash_ne_quote : (ascii '\\' == ascii '"') = false := by decide

theorem isReadAs_letter {letter : Char} {byte : UInt8} (small : letter.toNat < 128)
    (notUnit : (ascii letter == ascii 'u') = false)
    (escaped : escapedByte? (ascii letter) = some byte) :
    IsReadAs ['\\', letter] [.byte byte] [byte] := by
  constructor
  · intro read rest
    rw [encodeChars_cons, encodeChars_cons, utf8EncodeChar_of_lt small]
    change scanString read (ascii '\\' :: ascii letter :: rest) = _
    rw [scanString.eq_def]
    simp only [backslash_ne_quote, notUnit, escaped, Bool.false_eq_true, if_false, beq_self_eq_true,
      if_true]
    rfl
  · intro denoted later
    rfl

theorem isReadAs_unit {code : Nat} (control : code < 32) :
    IsReadAs ['\\', 'u', '0', '0', Nat.digitChar (code / 16), Nat.digitChar (code % 16)]
      [.unit code] (String.utf8EncodeChar (Char.ofNat code)) := by
  have digits : ∀ code < 32, (Nat.digitChar (code / 16)).toNat < 128 ∧
      (Nat.digitChar (code % 16)).toNat < 128 ∧
      codeUnit? (ascii '0') (ascii '0') (ascii (Nat.digitChar (code / 16)))
        (ascii (Nat.digitChar (code % 16))) = some code := by
    decide
  rcases digits code control with ⟨highSmall, lowSmall, unitEq⟩
  constructor
  · intro read rest
    simp only [encodeChars_cons, utf8EncodeChar_of_lt highSmall, utf8EncodeChar_of_lt lowSmall]
    change scanString read (ascii '\\' :: ascii 'u' :: ascii '0' :: ascii '0' ::
      ascii (Nat.digitChar (code / 16)) :: ascii (Nat.digitChar (code % 16)) :: rest) = _
    rw [scanString.eq_def]
    simp only [backslash_ne_quote, unitEq, Bool.false_eq_true, if_false, beq_self_eq_true, if_true]
    rfl
  · intro denoted later
    have notHalf : isHighHalf code = false ∧ isLowHalf code = false := by
      simp only [isHighHalf, isLowHalf, Bool.and_eq_false_iff, decide_eq_false_iff_not]
      omega
    rw [List.cons_append, List.nil_append, stringBytes?.eq_def]
    simp [notHalf]

theorem exists_isReadAs_escapeChar (character : Char) :
    ∃ parts, IsReadAs (escapeChar character) parts (String.utf8EncodeChar character) := by
  unfold escapeChar
  split
  · next isQuote =>
      rw [beq_iff_eq.mp isQuote]
      exact ⟨_, isReadAs_letter (by decide) (by decide) rfl⟩
  next notQuote =>
  split
  · next isBackslash =>
      rw [beq_iff_eq.mp isBackslash]
      exact ⟨_, isReadAs_letter (by decide) (by decide) rfl⟩
  next notBackslash =>
  iterate 5
    split
    · next special =>
        rw [beq_iff_eq.mp special]
        exact ⟨_, isReadAs_letter (by decide) (by decide) rfl⟩
  split
  · next control =>
      have small : character.toNat < 32 := control
      have unit := isReadAs_unit small
      rw [Char.ofNat_toNat] at unit
      exact ⟨_, unit⟩
  · next notControl =>
      exact ⟨_, isReadAs_plain (by simpa using notQuote) (by simpa using notBackslash) notControl⟩

theorem exists_isReadAs_escaped (characters : List Char) :
    ∃ parts, IsReadAs (characters.flatMap escapeChar) parts (encodeChars characters) := by
  induction characters with
  | nil => exact ⟨[], fun _ _ => rfl, fun _ _ => rfl⟩
  | cons character rest ih =>
      rcases exists_isReadAs_escapeChar character with ⟨parts, firstRead⟩
      rcases ih with ⟨others, restRead⟩
      exact ⟨parts ++ others, firstRead.append restRead⟩

/-- A written string is read as its text. -/
theorem scanString_stringChars (text : String) (rest : List UInt8) :
    (scanString [] (encodeChars (text.toList.flatMap escapeChar) ++ ascii '"' :: rest)).map
        (fun scanned => (stringText? scanned.1, scanned.2)) = some (some text, rest) := by
  rcases exists_isReadAs_escaped text.toList with ⟨parts, isRead⟩
  have denotes : stringBytes? [] parts = some (encodeChars text.toList) := by
    have := isRead.stringBytes?_eq [] []
    simpa [stringBytes?] using this
  have closed : scanString (parts.reverse ++ []) (ascii '"' :: rest) = some (parts, rest) := by
    rw [scanString.eq_def]
    simp
  rw [isRead.scanString_eq, closed]
  simp [stringText?, denotes, decode?_encodeChars]

end Strings

section Numerals

theorem toNat_lt_of_isDigit {character : Char} (digit : character.isDigit = true) :
    character.toNat < 128 := by
  simp only [Char.isDigit, Bool.and_eq_true, decide_eq_true_eq, ge_iff_le] at digit
  have upper := UInt32.le_iff_toNat_le.mp digit.2
  exact Nat.lt_of_le_of_lt upper (by decide)

theorem isDigit_ascii {character : Char} (digit : character.isDigit = true) :
    isDigit (ascii character) = true ∧ (ascii character).toNat = character.toNat := by
  have small := toNat_lt_of_isDigit digit
  have same : (ascii character).toNat = character.toNat := by
    rw [ascii, UInt8.toNat_ofNat', Nat.mod_eq_of_lt (by omega)]
  simp only [Char.isDigit, Bool.and_eq_true, decide_eq_true_eq, ge_iff_le] at digit
  have lower := UInt32.le_iff_toNat_le.mp digit.1
  have upper := UInt32.le_iff_toNat_le.mp digit.2
  refine ⟨?_, same⟩
  simp only [isDigit, Bool.and_eq_true, decide_eq_true_eq, UInt8.le_iff_toNat_le, same]
  exact ⟨lower, upper⟩

/-- The bytes that a value may be followed by. -/
theorem head_of_endsValue {rest : List Char} (ends : EndsValue rest) :
    encodeChars rest = [] ∨ ∃ byte bytes, encodeChars rest = byte :: bytes ∧
      byte ∈ followers.map ascii := by
  cases rest with
  | nil => exact .inl rfl
  | cons character rest =>
      have follows : character ∈ followers := ends character rfl
      have small : character.toNat < 128 := by
        have all : followers.all (fun follower => follower.toNat < 128) = true := by decide
        simpa using List.all_eq_true.mp all character follows
      rw [encodeChars_cons, utf8EncodeChar_of_lt small]
      exact .inr ⟨ascii character, encodeChars rest, rfl, List.mem_map_of_mem follows⟩

theorem eq_false_of_follows {test : UInt8 → Bool}
    (never : (followers.map ascii).any test = false) :
    ∀ byte ∈ followers.map ascii, test byte = false := by
  simpa only [List.any_eq_false, Bool.not_eq_true] using never

theorem scanDigits_append {digits : List Char} (areDigits : IsDigits digits) {rest : List Char}
    (ends : EndsValue rest) :
    scanDigits (encodeChars (digits ++ rest)) =
      (digits.map fun digit => digit.toNat - '0'.toNat, encodeChars rest) := by
  have noDigit : ∀ byte ∈ followers.map ascii, isDigit byte = false :=
    eq_false_of_follows (by decide)
  have restDigits : (encodeChars rest).takeWhile isDigit = [] ∧
      (encodeChars rest).dropWhile isDigit = encodeChars rest := by
    rcases head_of_endsValue ends with nothing | ⟨byte, bytes, restEq, follows⟩
    · simp [nothing]
    · simp [restEq, noDigit byte follows]
  have encoded : encodeChars digits = digits.map ascii :=
    encodeChars_of_lt fun digit digitMem => toNat_lt_of_isDigit (areDigits digit digitMem)
  have allDigits : ∀ byte ∈ digits.map ascii, isDigit byte = true := by
    rw [List.forall_mem_map]
    exact fun digit digitMem => (isDigit_ascii (areDigits digit digitMem)).1
  rw [scanDigits, encodeChars_append, encoded, List.takeWhile_append_of_pos allDigits,
    List.dropWhile_append_of_pos allDigits, restDigits.1, restDigits.2, List.append_nil,
    List.map_map, Prod.mk.injEq]
  refine ⟨?_, rfl⟩
  apply List.map_congr_left
  intro digit digitMem
  rw [Function.comp, (isDigit_ascii (areDigits digit digitMem)).2]
  rfl

theorem scanFraction_of_endsValue {rest : List Char} (ends : EndsValue rest) :
    scanFraction (encodeChars rest) = some ([], encodeChars rest) := by
  have noPoint : ∀ byte ∈ followers.map ascii, (byte == ascii '.') = false :=
    eq_false_of_follows (by decide)
  rcases head_of_endsValue ends with nothing | ⟨byte, bytes, restEq, follows⟩
  · rw [nothing, scanFraction]
  · rw [restEq, scanFraction, noPoint byte follows]
    rfl

theorem scanExponent_of_endsValue {rest : List Char} (ends : EndsValue rest) :
    scanExponent (encodeChars rest) = some (none, encodeChars rest) := by
  have noLetter : ∀ byte ∈ followers.map ascii,
      (byte == ascii 'e' || byte == ascii 'E') = false :=
    eq_false_of_follows (by decide)
  rcases head_of_endsValue ends with nothing | ⟨byte, bytes, restEq, follows⟩
  · rw [nothing, scanExponent]
  · rw [restEq, scanExponent, noLetter byte follows]
    rfl

/-- A written number starts with zero only if it is zero. -/
theorem toDigits_eq_zero_cons {value : Nat} {tail : List Char}
    (startsWithZero : Nat.toDigits 10 value = '0' :: tail) : tail = [] := by
  induction value using Nat.strongRecOn generalizing tail with
  | ind value ih =>
      by_cases single : value < 10
      · rw [Nat.toDigits_of_lt_base single] at startsWithZero
        exact (List.cons.inj startsWithZero).2.symm
      · rw [Nat.toDigits_of_base_le (by decide) (Nat.le_of_not_lt single)] at startsWithZero
        exfalso
        cases leading : Nat.toDigits 10 (value / 10) with
        | nil => exact Nat.toDigits_ne_nil leading
        | cons head others =>
            rw [leading, List.cons_append] at startsWithZero
            rcases List.cons.inj startsWithZero with ⟨rfl, -⟩
            have noOthers := ih (value / 10) (by omega) leading
            have isZero : value / 10 = 0 := by
              rw [← Nat.ofDigitChars_ten_toDigits (n := value / 10), leading, noOthers]
              rfl
            omega

theorem scanNumeral_toDigits (negative : Bool) (value : Nat) {rest : List Char}
    (ends : EndsValue rest) :
    scanNumeral negative (encodeChars (Nat.toDigits 10 value ++ rest)) =
      some (⟨negative, (Nat.toDigits 10 value).map fun digit => digit.toNat - '0'.toNat, [], none⟩,
        encodeChars rest) := by
  rw [scanNumeral, scanDigits_append (isDigits_toDigits value) ends]
  split
  · next noDigits => simp [Nat.toDigits_ne_nil] at noDigits
  · next next others _ scanned =>
      exfalso
      cases written : Nat.toDigits 10 value with
      | nil => exact Nat.toDigits_ne_nil written
      | cons head tail =>
          have isDigit : head.isDigit = true := isDigits_toDigits value head (by simp [written])
          simp only [written, List.map_cons, Prod.mk.injEq, List.cons.injEq] at scanned
          have headEq : head = '0' := by
            have lower : '0'.toNat ≤ head.toNat := by
              simp only [Char.isDigit, Bool.and_eq_true, decide_eq_true_eq, ge_iff_le] at isDigit
              exact UInt32.le_iff_toNat_le.mp isDigit.1
            rw [← Char.ofNat_toNat head, Nat.le_antisymm (by omega) lower]
            rfl
          subst headEq
          simp [toDigits_eq_zero_cons written] at scanned
  · next whole after _ _ scanned =>
      rcases Prod.mk.inj scanned with ⟨rfl, rfl⟩
      rw [scanFraction_of_endsValue ends]
      simp only [Option.bind_eq_bind, Option.bind_some]
      rw [scanExponent_of_endsValue ends]
      rfl

theorem digitsValue_toDigits (value : Nat) :
    digitsValue 0 ((Nat.toDigits 10 value).map fun digit => digit.toNat - '0'.toNat) = value := by
  have same : digitsValue 0 ((Nat.toDigits 10 value).map fun digit => digit.toNat - '0'.toNat) =
      Nat.ofDigitChars 10 (Nat.toDigits 10 value) 0 := by
    simp only [digitsValue, Nat.ofDigitChars, List.foldl_map, Nat.mul_comm]
  rw [same, Nat.ofDigitChars_ten_toDigits]

/-- The numeral of an integer of 64 bits, signed or not, denotes that integer. -/
theorem integer?_ofInt {value : Int} (lower : -0x8000000000000000 ≤ value)
    (upper : value < 0x10000000000000000) : (Numeral.ofInt value).integer? = some value := by
  have magnitude : digitsValue 0 (Numeral.ofInt value).whole = value.natAbs :=
    digitsValue_toDigits value.natAbs
  have plain : ((Numeral.ofInt value).fraction != [] || (Numeral.ofInt value).exponent.isSome) =
      false := rfl
  rw [Numeral.integer?, plain, magnitude]
  simp only [Bool.false_eq_true, if_false]
  by_cases negative : value < 0
  · have sign : (Numeral.ofInt value).negative = true := decide_eq_true negative
    have fits : (value.natAbs != 0 && decide (value.natAbs ≤ 0x8000000000000000)) = true := by
      rw [Bool.and_eq_true, bne_iff_ne, decide_eq_true_eq]
      omega
    simp only [sign, fits, Bool.not_true, Bool.false_eq_true, if_false, if_true, Option.some.injEq]
    omega
  · have sign : (Numeral.ofInt value).negative = false := decide_eq_false negative
    have fits : value.natAbs < 0x10000000000000000 := by omega
    simp only [sign, fits, Bool.not_false, if_true, Option.some.injEq]
    omega

end Numerals

section Tokens

variable {found : List Token}

theorem scanFrom_cons {first : UInt8} {rest after : List UInt8} {token : Token}
    (noGap : isGap first = false) (scanned : Token.scanOne first rest = some (token, after)) :
    Token.scanFrom found (first :: rest) = Token.scanFrom (token :: found) after := by
  rw [Token.scanFrom, noGap]
  simp only [Bool.false_eq_true, if_false]
  split
  · next other remaining scannedOther =>
      rw [scanned, Option.some.injEq, Prod.mk.injEq] at scannedOther
      rw [scannedOther.1, scannedOther.2]
  · next nothing =>
      rw [scanned] at nothing
      contradiction

/-- Whether a text is read as given tokens, whatever follows it that may follow a value. -/
def IsScannedAs (text : List Char) (tokens : List Token) : Prop :=
  ∀ found rest, EndsValue rest →
    Token.scanFrom found (encodeChars (text ++ rest)) =
      Token.scanFrom (tokens.reverse ++ found) (encodeChars rest)

/-- Whether a character is the mark that is written for a token. -/
def IsMark (mark : Char) (token : Token) : Prop :=
  mark.toNat < 128 ∧ isGap (ascii mark) = false ∧ punctuation? (ascii mark) = some token

instance (mark : Char) (token : Token) : Decidable (IsMark mark token) :=
  inferInstanceAs (Decidable (_ ∧ _ ∧ _))

theorem scanFrom_mark {mark : Char} {token : Token} (isMark : IsMark mark token)
    (rest : List Char) :
    Token.scanFrom found (encodeChars (mark :: rest)) =
      Token.scanFrom (token :: found) (encodeChars rest) := by
  rcases isMark with ⟨small, noGap, tokenEq⟩
  rw [encodeChars_cons, utf8EncodeChar_of_lt small]
  apply scanFrom_cons noGap
  change Token.scanOne (ascii mark) (encodeChars rest) = _
  rw [Token.scanOne, tokenEq]

theorem scanFrom_stringChars (text : String) (rest : List Char) :
    Token.scanFrom found (encodeChars (stringChars text ++ rest)) =
      Token.scanFrom (.string (some text) :: found) (encodeChars rest) := by
  have scanned : Token.scanOne (ascii '"')
      (encodeChars (text.toList.flatMap escapeChar) ++ ascii '"' :: encodeChars rest) =
        some (.string (some text), encodeChars rest) := by
    have read := scanString_stringChars text (encodeChars rest)
    rw [Option.map_eq_some_iff] at read
    rcases read with ⟨⟨parts, after⟩, read, result⟩
    rw [Prod.mk.injEq] at result
    change (scanString [] _).map
      (fun scanned => (Token.string (stringText? scanned.1), scanned.2)) = _
    rw [read, Option.map_some, result.1, result.2]
  have bytes : encodeChars (stringChars text ++ rest) = ascii '"' ::
      (encodeChars (text.toList.flatMap escapeChar) ++ ascii '"' :: encodeChars rest) := by
    simp only [stringChars, List.cons_append, encodeChars_cons, encodeChars_append, encodeChars_nil,
      List.append_assoc]
    rfl
  rw [bytes]
  exact scanFrom_cons (by decide) scanned

theorem isScannedAs_stringChars (text : String) :
    IsScannedAs (stringChars text) [.string (some text)] :=
  fun _ rest _ => scanFrom_stringChars text rest

/-- A digit starts no token but a number. -/
theorem only_number_of_isDigit {byte : UInt8} (digit : isDigit byte = true) :
    isGap byte = false ∧ punctuation? byte = none ∧ (byte == ascii '"') = false ∧
      (byte == ascii '-') = false := by
  have all : ∀ code < 58, 48 ≤ code →
      isGap (UInt8.ofNat code) = false ∧ punctuation? (UInt8.ofNat code) = none ∧
        (UInt8.ofNat code == ascii '"') = false ∧ (UInt8.ofNat code == ascii '-') = false := by
    decide
  simp only [isDigit, Bool.and_eq_true, decide_eq_true_eq, UInt8.le_iff_toNat_le] at digit
  rw [← UInt8.ofNat_toNat (x := byte)]
  exact all byte.toNat (Nat.lt_succ_of_le digit.2) digit.1

theorem isScannedAs_intChars (value : Int) :
    IsScannedAs (intChars value) [.number (Numeral.ofInt value)] := by
  intro found rest ends
  have scanned := scanNumeral_toDigits (decide (value < 0)) value.natAbs ends
  by_cases negative : value < 0
  · simp only [intChars, negative, if_true, decide_true] at scanned ⊢
    have minus : Token.scanOne (ascii '-') (encodeChars (Nat.toDigits 10 value.natAbs ++ rest)) =
        some (.number (Numeral.ofInt value), encodeChars rest) := by
      change (scanNumeral true _).map _ = _
      rw [scanned, Numeral.ofInt, decide_eq_true negative]
      rfl
    exact scanFrom_cons (by decide) minus
  · rcases startsWithDigit_toDigits value.natAbs with ⟨head, tail, written, digit⟩
    have small := toNat_lt_of_isDigit digit
    have byteDigit : isDigit (ascii head) = true := (isDigit_ascii digit).1
    rcases only_number_of_isDigit byteDigit with ⟨noGap, noMark, notQuote, notMinus⟩
    have bytes : encodeChars (Nat.toDigits 10 value.natAbs ++ rest) =
        ascii head :: encodeChars (tail ++ rest) := by
      rw [written, List.cons_append, encodeChars_cons, utf8EncodeChar_of_lt small]
      rfl
    simp only [intChars, negative, if_false, List.nil_append, decide_false] at scanned ⊢
    rw [bytes] at scanned ⊢
    apply scanFrom_cons noGap
    rw [Token.scanOne, noMark]
    simp only [notQuote, notMinus, byteDigit, scanned, Bool.false_eq_true, if_false, if_true]
    rw [Numeral.ofInt, decide_eq_false negative]
    rfl

theorem isScannedAs_null : IsScannedAs ['n', 'u', 'l', 'l'] [.null] :=
  fun _ _ _ => scanFrom_cons (by decide) rfl

theorem isScannedAs_true : IsScannedAs ['t', 'r', 'u', 'e'] [.bool true] :=
  fun _ _ _ => scanFrom_cons (by decide) rfl

theorem isScannedAs_false : IsScannedAs ['f', 'a', 'l', 's', 'e'] [.bool false] :=
  fun _ _ _ => scanFrom_cons (by decide) rfl

end Tokens

end Json

end RowLog
