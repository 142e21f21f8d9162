import RowLog.Proofs.StatementTokens

/-!
# Tokens as they are printed

Tokens are printed one after the other, with a blank between two of them unless one is a mark that
stands close to its neighbour. The scanner gives back the tokens that are printed, whatever
characters their names and literals have, and these can be all the tokens that any text has. Main
statements: `Token.scan_printAll` and `Token.isProper_iff_exists_scan`.
-/

namespace RowLog.Schema

/-- The characters of a literal between single quotes, where a quote is doubled and a backslash
stands before another one. -/
def escapeLiteral (text : List Char) : List Char :=
  text.flatMap fun character =>
    if character = '\'' then ['\'', '\'']
    else if character = '\\' then ['\\', '\\']
    else [character]

theorem scanLiteral_escapeLiteral (text rest : List Char) (stops : rest.head? ≠ some '\'') :
    scanLiteral '\'' (escapeLiteral text ++ '\'' :: rest) = some (text, rest) := by
  induction text with
  | nil =>
      cases rest with
      | nil => rfl
      | cons next rest =>
          have different : next ≠ '\'' := by simpa using stops
          simp [escapeLiteral, scanLiteral, different]
  | cons character text ih =>
      have escaped : escapeLiteral (character :: text) =
          (if character = '\'' then ['\'', '\''] else if character = '\\' then ['\\', '\\']
            else [character]) ++ escapeLiteral text := rfl
      rw [escaped, List.append_assoc]
      by_cases quote : character = '\''
      · simp [scanLiteral, quote, ih]
      · by_cases backslash : character = '\\'
        · simp [scanLiteral, backslash, ih]
        · rw [if_neg quote, if_neg backslash, List.singleton_append, scanLiteral.eq_def]
          simp [quote, backslash, ih]

/-- Whether a character is no part of a word and starts neither a name, a literal nor, whatever
comes next, a comment. -/
def isMark (character : Char) : Bool :=
  !(isBlank character || ['#', nameQuote, '\'', '"'].contains character || isWordChar character)

theorem isWordChar_eq_false_of_mem_blankRanges :
    ∀ range ∈ blankRanges, ∀ code ∈ List.range' range.1 (range.2 + 1 - range.1),
      isWordChar (Char.ofNat code) = false := by
  decide +kernel

/-- No blank is a character of words. -/
theorem isBlank_eq_false_of_isWordChar {letter : Char} (isWord : isWordChar letter = true) :
    isBlank letter = false := by
  cases blank : isBlank letter with
  | false => rfl
  | true =>
      rcases CodeRanges.contains_iff.mp blank with ⟨range, rangeMem, low, high⟩
      have codeMem : letter.toNat ∈ List.range' range.1 (range.2 + 1 - range.1) := by
        rw [List.mem_range'_1]
        omega
      have noWord := isWordChar_eq_false_of_mem_blankRanges range rangeMem letter.toNat codeMem
      rw [Char.ofNat_toNat, isWord] at noWord
      contradiction

namespace Token

/-- Whether a text can have a token. -/
def IsProper : Token → Prop
  | .word text => IsPlainWord text
  | .quoted _ => True
  | .literal _ => True
  | .punct character => isMark character = true

instance : (token : Token) → Decidable token.IsProper
  | .word text => inferInstanceAs (Decidable (IsPlainWord text))
  | .quoted _ => isTrue trivial
  | .literal _ => isTrue trivial
  | .punct character => inferInstanceAs (Decidable (isMark character = true))

def print : Token → List Char
  | .word text => text.toList
  | .quoted name => (quoteName name).toList
  | .literal text => '\'' :: escapeLiteral text.toList ++ ['\'']
  | .punct character => [character]

/-- Whether two tokens are printed without a blank between them. -/
def IsTight (first second : Token) : Prop :=
  first ∈ [.punct '(', .punct '.'] ∨
    second ∈ [.punct ',', .punct ';', .punct '.', .punct ')']

instance (first second : Token) : Decidable (IsTight first second) :=
  inferInstanceAs (Decidable (_ ∨ _))

def printAll : List Token → List Char
  | [] => []
  | [token] => token.print
  | first :: second :: rest =>
      first.print ++ (if IsTight first second then [] else [' ']) ++ printAll (second :: rest)

/-- Whether a token ends where some text goes on. -/
def EndsBefore (rest : List Char) : Token → Prop
  | .word _ => ∀ next ∈ rest.head?, isWordChar next = false
  | .quoted _ => rest.head? ≠ some nameQuote
  | .literal _ => rest.head? ≠ some '\''
  | .punct character => (character = '-' → rest.head? ≠ some '-') ∧
      (character = '/' → rest.head? ≠ some '*')

variable {token : Token} {rest : List Char}

theorem scan_literal (text : String) (stops : rest.head? ≠ some '\'') :
    scan ((Token.literal text).print ++ rest) = (scan rest).map (.literal text :: ·) := by
  have scanned : scanOne '\'' (escapeLiteral text.toList ++ '\'' :: rest) =
      .ok (some (.literal text), rest) := by
    have noBlank : isBlank '\'' = false := by decide +kernel
    have noName : ('\'' == nameQuote) = false := by decide
    simp [scanOne, noBlank, noName, scanLiteral_escapeLiteral _ _ stops]
  rw [print, List.cons_append, List.cons_append, List.append_assoc, List.singleton_append,
    scan_cons scanned]
  rfl

theorem scan_mark {character : Char} (mark : isMark character = true)
    (noComment : (Token.punct character).EndsBefore rest) :
    scan (character :: rest) = (scan rest).map (.punct character :: ·) := by
  rcases noComment with ⟨noLine, noBlock⟩
  have scanned : scanOne character rest = .ok (some (.punct character), rest) := by
    simp only [isMark, Bool.not_eq_true', Bool.or_eq_false_iff, List.contains_eq_mem,
      decide_eq_false_iff_not, List.mem_cons, List.not_mem_nil, not_or] at mark
    rcases mark with ⟨⟨noBlank, hash, backquote, quote, doubleQuote, -⟩, noWord⟩
    have noLine : ¬(character = '-' ∧ rest.head? = some '-') := fun both => noLine both.1 both.2
    have noBlock : ¬(character = '/' ∧ rest.head? = some '*') := fun both => noBlock both.1 both.2
    simp [scanOne, noBlank, noWord, hash, backquote, quote, doubleQuote, noLine, noBlock]
  rw [scan_cons scanned]
  rfl

theorem scan_print (proper : token.IsProper) (ends : token.EndsBefore rest) :
    scan (token.print ++ rest) = (scan rest).map (token :: ·) := by
  cases token with
  | word text => exact scan_word proper ends
  | quoted name => exact scan_quoteName name ends
  | literal text => exact scan_literal text ends
  | punct character => exact scan_mark proper ends

theorem endsBefore_nil (token : Token) : token.EndsBefore [] := by
  cases token <;> simp [EndsBefore]

theorem endsBefore_blank (token : Token) (rest : List Char) : token.EndsBefore (' ' :: rest) := by
  have noWord : isWordChar ' ' = false := by decide +kernel
  cases token <;> simp [EndsBefore, noWord, nameQuote]

/-- A token ends before a mark that stands close to it. -/
theorem endsBefore_mark {mark : Char} (isOne : mark ∈ [',', ';', '.', ')']) (token : Token)
    (rest : List Char) : token.EndsBefore (mark :: rest) := by
  have differ : [',', ';', '.', ')'].all (fun mark =>
      !isWordChar mark && !([nameQuote, '\'', '-', '*'].contains mark)) = true := by
    decide +kernel
  have differs := List.all_eq_true.mp differ mark isOne
  simp only [Bool.and_eq_true, Bool.not_eq_true', List.contains_eq_mem, decide_eq_false_iff_not,
    List.mem_cons, List.not_mem_nil, or_false, not_or] at differs
  cases token <;> simp [EndsBefore, differs]

theorem exists_printAll_cons (token : Token) (tokens : List Token) :
    ∃ rest, printAll (token :: tokens) = token.print ++ rest := by
  cases tokens with
  | nil => exact ⟨[], by simp [printAll]⟩
  | cons second tokens => exact ⟨_, List.append_assoc _ _ _⟩

theorem endsBefore_printAll {first second : Token} (tight : IsTight first second)
    (tokens : List Token) : first.EndsBefore (printAll (second :: tokens)) := by
  rcases tight with opens | closes
  · simp only [List.mem_cons, List.not_mem_nil, or_false] at opens
    rcases opens with rfl | rfl <;> simp [EndsBefore]
  · rcases exists_printAll_cons second tokens with ⟨rest, printed⟩
    rw [printed]
    simp only [List.mem_cons, List.not_mem_nil, or_false] at closes
    rcases closes with rfl | rfl | rfl | rfl <;> exact endsBefore_mark (by simp) first rest

/-- The tokens that are printed are the tokens that are scanned. -/
theorem scan_printAll (tokens : List Token) (proper : ∀ token ∈ tokens, token.IsProper) :
    scan (printAll tokens) = .ok tokens := by
  induction tokens using printAll.induct with
  | case1 => rw [printAll, scan]
  | case2 token =>
      have scanned := scan_print (proper token (by simp)) (endsBefore_nil token)
      rwa [List.append_nil, scan] at scanned
  | case3 first second tokens ih =>
      have later := ih fun token tokenMem => proper token (by simp_all)
      have isProper := proper first (by simp)
      rw [printAll, List.append_assoc]
      split
      · next tight =>
          rw [List.nil_append, scan_print isProper (endsBefore_printAll tight tokens), later]
          rfl
      · rw [List.singleton_append, scan_print isProper (endsBefore_blank first _), scan_blank,
          later]
        rfl

/-! ### The tokens that a text can have -/

theorem scan_cons_error {first : Char} {error : SyntaxError}
    (failed : scanOne first rest = .error error) : scan (first :: rest) = .error error := by
  rw [scan]
  split
  · next scanned =>
      rw [failed] at scanned
      contradiction
  · next otherFailed => exact congrArg _ (Except.error.inj (otherFailed.symm.trans failed))

theorem isProper_of_scanOne {first : Char} {text after : List Char}
    (scanned : scanOne first text = .ok (some token, after)) : token.IsProper := by
  unfold scanOne at scanned
  repeat' split at scanned
  all_goals simp only [Except.ok.injEq, Prod.mk.injEq, Option.some.injEq, reduceCtorEq,
    false_and] at scanned
  · rw [← scanned.1]
    trivial
  · rw [← scanned.1]
    trivial
  · next isWord =>
      rw [← scanned.1]
      have areLetters : ∀ letter ∈ first :: text.takeWhile isWordChar, isWordChar letter = true :=
        List.forall_mem_cons.mpr ⟨isWord, List.all_eq_true.mp List.all_takeWhile⟩
      refine ⟨by simp, ?_⟩
      simp only [String.toList_ofList, List.all_eq_true]
      intro letter letterMem
      have isLetter := areLetters letter letterMem
      simp [isLetter, isBlank_eq_false_of_isWordChar isLetter]
  · rw [← scanned.1]
    simp_all [IsProper, isMark]

theorem isProper_of_scan {text : List Char} {tokens : List Token}
    (scanned : scan text = .ok tokens) : ∀ token ∈ tokens, token.IsProper := by
  induction text using scan.induct generalizing tokens with
  | case1 =>
      rw [scan] at scanned
      cases scanned
      simp
  | case2 first text found after foundEq _ others othersEq ih =>
      rw [scan_cons foundEq, othersEq] at scanned
      cases scanned
      intro token tokenMem
      rcases List.mem_append.mp tokenMem with isFirst | isLater
      · rw [Option.mem_toList.mp isFirst] at foundEq
        exact isProper_of_scanOne foundEq
      · exact ih othersEq token isLater
  | case3 first text found after foundEq _ error errorEq _ =>
      rw [scan_cons foundEq, errorEq] at scanned
      contradiction
  | case4 first text error errorEq =>
      rw [scan_cons_error errorEq] at scanned
      contradiction

/-- The proper tokens are those that some text has. -/
theorem isProper_iff_exists_scan :
    token.IsProper ↔ ∃ text tokens, scan text = .ok tokens ∧ token ∈ tokens := by
  constructor
  · intro proper
    exact ⟨printAll [token], [token], scan_printAll _ (by simpa using proper), by simp⟩
  · rintro ⟨text, tokens, scanned, tokenMem⟩
    exact isProper_of_scan scanned token tokenMem

end Token

end RowLog.Schema
