import RowLog.Text.Alphanumeric
import RowLog.Text.Blank
import RowLog.Text.Literal

/-!
# The tokens of a schema statement

The text of a statement is split into words, quoted names, string literals and single characters of
punctuation. Blanks and comments separate tokens and are left out. Main definition: `Token.scan`.
-/

namespace RowLog.Schema

/-- The smallest parts of a statement. -/
inductive Token
  | word (text : String)
  | quoted (text : String)
  | literal (text : String)
  | punct (character : Char)
  deriving DecidableEq

def Token.describe : Token → String
  | .word text => s!"Word({Literal.ofString text})"
  | .quoted text => s!"Quoted({Literal.ofString text})"
  | .literal text => s!"Str({Literal.ofString text})"
  | .punct character => s!"Punct({Literal.ofChar character})"

/-- How the token at some place is shown in a message, where the place may be the end. -/
def describePlace : Option Token → String
  | some token => s!"Some({token.describe})"
  | none => "None"

/-- What can be wrong with a statement. -/
inductive SyntaxError
  | unterminatedComment
  | unterminatedName
  | unterminatedLiteral
  | unexpected (token : Token)
  | expectedKeyword (keyword : String) (found : Option Token)
  | expectedPunct (character : Char) (found : Option Token)
  | expectedName (found : Option Token)
  | unbalanced
  | unsupported (found : Option Token)
  | unsupportedCreate (found : Option Token)
  | unsupportedDrop (found : Option Token)
  | missingColumns
  | lateUse
  | severalStatements
  | noStatement
  /-- A table is named without a database, and none is in use. -/
  | noDatabase
  deriving DecidableEq

def SyntaxError.message : SyntaxError → String
  | .unterminatedComment => "unterminated comment"
  | .unterminatedName => "unterminated quoted identifier"
  | .unterminatedLiteral => "unterminated string literal"
  | .unexpected token => s!"unexpected {token.describe}"
  | .expectedKeyword keyword found => s!"expected {keyword}, found {describePlace found}"
  | .expectedPunct character found => s!"expected `{character}`, found {describePlace found}"
  | .expectedName found => s!"expected identifier, found {describePlace found}"
  | .unbalanced => "unbalanced parentheses"
  | .unsupported found => s!"unsupported statement starting at {describePlace found}"
  | .unsupportedCreate found => s!"unsupported CREATE statement at {describePlace found}"
  | .unsupportedDrop found => s!"unsupported DROP statement at {describePlace found}"
  | .missingColumns => "CREATE TABLE without a column list"
  | .lateUse => "USE must precede the DDL statement"
  | .severalStatements => "more than one DDL statement"
  | .noStatement => "no DDL statement"
  | .noDatabase => "no database selected"

def nameQuote : Char := '\x60'

def isWordChar (character : Char) : Bool :=
  isAlphanumeric character || character == '_' || character == '$'

def afterComment : List Char → Option (List Char)
  | '*' :: '/' :: rest => some rest
  | _ :: rest => afterComment rest
  | [] => none

/-- A name up to its closing quote, and the text after it. A doubled quote stands for one. -/
def scanName : List Char → Option (List Char × List Char)
  | [] => none
  | character :: rest =>
      if character == nameQuote then
        match rest with
        | second :: after =>
            if second == nameQuote then
              (scanName after).map fun scanned => (nameQuote :: scanned.1, scanned.2)
            else some ([], second :: after)
        | [] => some ([], [])
      else (scanName rest).map fun scanned => (character :: scanned.1, scanned.2)

/-- A literal up to its closing quote, and the text after it. A doubled quote stands for one, and a
backslash makes the next character stand for itself. -/
def scanLiteral (quote : Char) : List Char → Option (List Char × List Char)
  | [] => none
  | character :: rest =>
      if character == '\\' then
        match rest with
        | escaped :: after =>
            (scanLiteral quote after).map fun scanned => (escaped :: scanned.1, scanned.2)
        | [] => none
      else if character == quote then
        match rest with
        | second :: after =>
            if second == quote then
              (scanLiteral quote after).map fun scanned => (quote :: scanned.1, scanned.2)
            else some ([], second :: after)
        | [] => some ([], [])
      else (scanLiteral quote rest).map fun scanned => (character :: scanned.1, scanned.2)

def afterLine (text : List Char) : List Char :=
  text.dropWhile (· != '\n')

/-- The token at the start of a text with the given first character, if it is no blank or comment,
and the text after it. -/
def Token.scanOne (first : Char) (rest : List Char) :
    Except SyntaxError (Option Token × List Char) :=
  if isBlank first then .ok (none, rest)
  else if first == '#' || (first == '-' && rest.head? == some '-') then
    .ok (none, afterLine rest)
  else if first == '/' && rest.head? == some '*' then
    match afterComment rest.tail with
    | some after => .ok (none, after)
    | none => .error .unterminatedComment
  else if first == nameQuote then
    match scanName rest with
    | some (name, after) => .ok (some (.quoted (String.ofList name)), after)
    | none => .error .unterminatedName
  else if first == '\'' || first == '"' then
    match scanLiteral first rest with
    | some (text, after) => .ok (some (.literal (String.ofList text)), after)
    | none => .error .unterminatedLiteral
  else if isWordChar first then
    .ok (some (.word (String.ofList (first :: rest.takeWhile isWordChar))),
      rest.dropWhile isWordChar)
  else .ok (some (.punct first), rest)

theorem length_afterComment {text rest : List Char} (found : afterComment text = some rest) :
    rest.length ≤ text.length := by
  fun_induction afterComment text <;> simp_all <;> omega

theorem length_scanName {text name rest : List Char} (found : scanName text = some (name, rest)) :
    rest.length ≤ text.length := by
  fun_induction scanName text generalizing name <;> simp_all
  all_goals grind

theorem length_scanLiteral {quote : Char} {text literal rest : List Char}
    (found : scanLiteral quote text = some (literal, rest)) : rest.length ≤ text.length := by
  fun_induction scanLiteral quote text generalizing literal <;> simp_all
  all_goals grind

theorem length_afterLine (text : List Char) : (afterLine text).length ≤ text.length :=
  (List.dropWhile_sublist _).length_le

theorem Token.length_scanOne {first : Char} {text rest : List Char} {token : Option Token}
    (found : scanOne first text = .ok (token, rest)) : rest.length ≤ text.length := by
  unfold scanOne at found
  repeat' split at found
  all_goals simp only [Except.ok.injEq, Prod.mk.injEq, reduceCtorEq] at found
  · exact Nat.le_of_eq (congrArg List.length found.2.symm)
  · rw [← found.2]
    exact length_afterLine text
  · rename_i after comment
    rw [← found.2]
    have := length_afterComment comment
    simp only [List.length_tail] at this
    omega
  · rename_i name after scanned
    rw [← found.2]
    exact length_scanName scanned
  · rename_i literal after scanned
    rw [← found.2]
    exact length_scanLiteral scanned
  · rw [← found.2]
    exact (List.dropWhile_sublist _).length_le
  · exact Nat.le_of_eq (congrArg List.length found.2.symm)

def Token.scan : List Char → Except SyntaxError (List Token)
  | [] => .ok []
  | first :: rest =>
      match found : scanOne first rest with
      | .ok (token, after) =>
          have := length_scanOne found
          match scan after with
          | .ok tokens => .ok (token.toList ++ tokens)
          | .error error => .error error
      | .error error => .error error
termination_by text => text.length

end RowLog.Schema
