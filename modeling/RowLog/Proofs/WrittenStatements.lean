import Mathlib.Data.List.Forall2
import Mathlib.Data.List.ReduceOption
import RowLog.Schema.Ddl

/-!
# Statements as they are written

What a statement is made of is told by signs: keywords, names and marks. A keyword is written in
either case, a name between backquotes or, unless it is a reserved word, without them. What a parser
reads is told by the signs before it and those that it leaves, whatever tokens they are written
with, so that parsers are followed sign by sign. Main statement: `Ddl.parse_of_isWrittenAs`.
-/

namespace RowLog.Schema

/-- What stands at one place of a statement. -/
inductive Sign
  | keyword (word : String)
  | name (text : String)
  | mark (character : Char)
  deriving DecidableEq

/-- The words that are keywords where a name may stand. -/
def reservedWords : List String :=
  ["PRIMARY", "UNIQUE", "KEY", "INDEX", "USING", "FOREIGN", "CHECK"]

/-- Whether a token is how a sign is written. -/
def Token.Writes : Token → Sign → Prop
  | .word text, .keyword keyword => sameIgnoringCase text keyword = true
  | .word text, .name name =>
      text = name ∧ ∀ reserved ∈ reservedWords, sameIgnoringCase text reserved = false
  | .quoted text, .name name => text = name
  | .punct character, .mark mark => character = mark
  | _, _ => False

instance (token : Token) (sign : Sign) : Decidable (token.Writes sign) := by
  cases token <;> cases sign <;> unfold Token.Writes <;> infer_instance

/-- Whether tokens are how signs are written, one by one. -/
abbrev Token.WriteAll (tokens : List Token) (signs : List Sign) : Prop :=
  List.Forall₂ Token.Writes tokens signs

namespace Sign

/-- Whether a sign may be taken for one of some keywords. -/
def mayBe (keywords : List String) : Sign → Bool
  | keyword word => keywords.any fun keyword => sameIgnoringCase word keyword
  | name _ => !keywords.all fun keyword => reservedWords.contains keyword
  | mark _ => false

/-- A table as it is referred to. -/
def ofTable (ref : TableRef) : List Sign :=
  match ref.schema with
  | some schema => [name schema, mark '.', name ref.name]
  | none => [name ref.name]

/-- Names with commas between them. -/
def ofNames : List String → List Sign
  | [] => []
  | [first] => [name first]
  | first :: second :: rest => name first :: mark ',' :: ofNames (second :: rest)

/-- The columns of an index, in parentheses. -/
def ofColumns (columns : List String) : List Sign :=
  mark '(' :: (ofNames columns ++ [mark ')'])

theorem length_le_length_ofNames (names : List String) : names.length ≤ (ofNames names).length := by
  induction names with
  | nil => simp
  | cons first rest ih =>
      cases rest with
      | nil => simp [ofNames]
      | cons second rest =>
          simp only [ofNames, List.length_cons] at ih ⊢
          omega

end Sign

namespace Parser

variable {α β : Type} {keywords : List String} {word : String} {sign : Sign}
  {before middle after signs : List Sign} {character : Char}

theorem isKeyword_of_writes {token : Token} (writes : token.Writes (.keyword word))
    (keyword : String) : isKeyword keyword token = sameIgnoringCase word keyword := by
  cases token with
  | word text =>
      change sameIgnoringCase text word = true at writes
      rw [sameIgnoringCase_iff] at writes
      simp [isKeyword, sameIgnoringCase, writes]
  | quoted text => contradiction
  | literal text => contradiction
  | punct character => contradiction

theorem isKeyword_eq_false {token : Token} (writes : token.Writes sign)
    (differs : sign.mayBe keywords = false) :
    (keywords.any fun keyword => isKeyword keyword token) = false := by
  cases sign with
  | keyword word =>
      simp only [isKeyword_of_writes writes]
      exact differs
  | name text =>
      simp only [Sign.mayBe, Bool.not_eq_false', List.all_eq_true, List.contains_iff_mem] at differs
      rw [List.any_eq_false]
      intro keyword keywordMem
      cases token with
      | word text => simp [isKeyword, writes.2 keyword (differs keyword keywordMem)]
      | quoted text => simp [isKeyword]
      | literal text => contradiction
      | punct character => contradiction
  | mark mark =>
      cases token with
      | punct character => simp [isKeyword]
      | word text => contradiction
      | quoted text => contradiction
      | literal text => contradiction

theorem eq_punct_iff {token : Token} (writes : token.Writes sign) :
    token = .punct character ↔ sign = .mark character := by
  cases token <;> cases sign <;> simp_all [Token.Writes]

/-- Whether a parser reads a value from whatever is written with some signs, and leaves what is
written with some others. -/
def Reads (parser : Parser α) (before : List Sign) (value : α) (after : List Sign) : Prop :=
  ∀ tokens, Token.WriteAll tokens before →
    ∃ rest, parser tokens = .ok (value, rest) ∧ Token.WriteAll rest after

namespace Reads

theorem pure (value : α) (signs : List Sign) :
    Reads (Pure.pure value : Parser α) signs value signs :=
  fun tokens writes => ⟨tokens, rfl, writes⟩

theorem bind {parser : Parser α} {next : α → Parser β} {value : α} {final : β}
    (first : Reads parser before value middle) (later : Reads (next value) middle final after) :
    Reads (parser >>= next) before final after := by
  intro tokens writes
  rcases first tokens writes with ⟨between, firstEq, betweenWrites⟩
  rcases later between betweenWrites with ⟨rest, laterEq, restWrites⟩
  refine ⟨rest, ?_, restWrites⟩
  simp [Bind.bind, StateT.bind, Except.bind, firstEq, laterEq]

theorem map {parser : Parser α} {value : α} (read : Reads parser before value after)
    (change : α → β) : Reads (change <$> parser) before (change value) after := by
  intro tokens writes
  rcases read tokens writes with ⟨rest, readEq, restWrites⟩
  refine ⟨rest, ?_, restWrites⟩
  simp [Functor.map, StateT.map, Bind.bind, Except.bind, Pure.pure, Except.pure, readEq]

theorem keyword (among : (.keyword word : Sign).mayBe keywords = true) :
    Reads (eatKeyword keywords) (.keyword word :: signs) true signs := by
  intro tokens writes
  cases writes with
  | @cons token _ rest _ first restWrites =>
      refine ⟨rest, ?_, restWrites⟩
      have isAmong : (keywords.any fun keyword => isKeyword keyword token) = true := by
        simp only [isKeyword_of_writes first]
        exact among
      simp [eatKeyword, isAmong]

theorem noKeyword (differs : sign.mayBe keywords = false) :
    Reads (eatKeyword keywords) (sign :: signs) false (sign :: signs) := by
  intro tokens writes
  refine ⟨tokens, ?_, writes⟩
  cases writes with
  | cons first rest => simp [eatKeyword, isKeyword_eq_false first differs]

theorem notAtKeyword (differs : sign.mayBe keywords = false) :
    Reads (Parser.atKeyword keywords) (sign :: signs) false (sign :: signs) := by
  intro tokens writes
  refine ⟨tokens, ?_, writes⟩
  cases writes with
  | cons first rest =>
      simp only [Parser.atKeyword, List.head?_cons, Option.any_some,
        isKeyword_eq_false first differs]

theorem expectKeyword (same : sameIgnoringCase word expected = true) :
    Reads (expectKeyword expected) (.keyword word :: signs) () signs := by
  intro tokens writes
  cases writes with
  | cons first rest =>
      exact ⟨_, by simp [Parser.expectKeyword, isKeyword_of_writes first, same], rest⟩

theorem name (text : String) (signs : List Sign) :
    Reads Parser.name (.name text :: signs) text signs := by
  intro tokens writes
  cases writes with
  | @cons token _ rest _ first restWrites =>
      refine ⟨rest, ?_, restWrites⟩
      cases token with
      | word written => simp [Parser.name, first.1]
      | quoted written => simp [Parser.name, show written = text from first]
      | literal written => contradiction
      | punct character => contradiction

theorem atPunct (character : Char) (signs : List Sign) :
    Reads (atPunct character) (.mark character :: signs) true (.mark character :: signs) := by
  intro tokens writes
  refine ⟨tokens, ?_, writes⟩
  cases writes with
  | cons first rest => simp [Parser.atPunct, (eq_punct_iff first).mpr rfl]

theorem notAtPunct (differs : sign ≠ .mark character) :
    Reads (Parser.atPunct character) (sign :: signs) false (sign :: signs) := by
  intro tokens writes
  refine ⟨tokens, ?_, writes⟩
  cases writes with
  | cons first rest =>
      have isNot := mt (eq_punct_iff first).mp differs
      simp [Parser.atPunct, isNot]

theorem punct (character : Char) (signs : List Sign) :
    Reads (eatPunct character) (.mark character :: signs) true signs := by
  intro tokens writes
  cases writes with
  | cons first rest => exact ⟨_, by simp [eatPunct, eq_punct_iff first], rest⟩

theorem noPunct (differs : sign ≠ .mark character) :
    Reads (eatPunct character) (sign :: signs) false (sign :: signs) := by
  intro tokens writes
  refine ⟨tokens, ?_, writes⟩
  cases writes with
  | cons first rest => simp [eatPunct, eq_punct_iff first, differs]

theorem noPunct_end (character : Char) : Reads (eatPunct character) [] false [] := by
  intro tokens writes
  refine ⟨tokens, ?_, writes⟩
  cases writes with
  | nil => rfl

theorem expectPunct (character : Char) (signs : List Sign) :
    Reads (expectPunct character) (.mark character :: signs) () signs := by
  intro tokens writes
  cases writes with
  | cons first rest => exact ⟨_, by simp [Parser.expectPunct, eq_punct_iff first], rest⟩

theorem expectEnd : Reads expectEnd [] () [] := by
  intro tokens writes
  refine ⟨tokens, ?_, writes⟩
  cases writes with
  | nil => rfl

theorem skipElement_end : Reads skipElement [] () [] := by
  intro tokens writes
  refine ⟨tokens, ?_, writes⟩
  cases writes with
  | nil => rfl

/-! ### Tables and columns -/

theorem tableRef (ref : TableRef) (differs : sign ≠ .mark '.') :
    Reads tableRef (Sign.ofTable ref ++ sign :: signs) ref (sign :: signs) := by
  rcases ref with ⟨schema, text⟩
  cases schema with
  | none => exact (name text _).bind ((noPunct differs).bind (pure _ _))
  | some schema =>
      exact (name schema _).bind ((punct '.' _).bind ((name text _).bind (pure _ _)))

/-- A column as a part of an index, before a comma or the closing parenthesis. -/
theorem keyPart (column : String) (isEnd : character ≠ '(') (signs : List Sign) :
    Reads keyPart (.name column :: .mark character :: signs) (some column)
      (.mark character :: signs) := by
  have noGroup : Sign.mark character ≠ .mark '(' := by simpa using isEnd
  exact (notAtPunct (by simp)).bind ((name column _).bind ((notAtPunct noGroup).bind
    ((pure (some column) _).bind ((noKeyword rfl).bind (pure _ _)))))

theorem commaList (columns : List String) (fuel : Nat) (notEmpty : columns ≠ [])
    (enough : columns.length ≤ fuel + 1) :
    Reads (commaList Parser.keyPart fuel) (Sign.ofNames columns ++ .mark ')' :: signs)
      (columns.map some) (.mark ')' :: signs) := by
  induction columns generalizing fuel with
  | nil => contradiction
  | cons first rest ih =>
      cases rest with
      | nil =>
          have part := keyPart first (by decide : ')' ≠ '(') signs
          cases fuel with
          | zero => exact part.bind (pure _ _)
          | succ fuel => exact part.bind ((noPunct (by simp)).bind (pure _ _))
      | cons second rest =>
          cases fuel with
          | zero => simp at enough
          | succ fuel =>
              have part := keyPart first (by decide : ',' ≠ '(')
                (Sign.ofNames (second :: rest) ++ .mark ')' :: signs)
              have others := ih fuel (by simp) (by simpa using enough)
              exact part.bind ((punct ',' _).bind (others.bind (pure _ _)))

theorem keyColumns {columns : List String} (notEmpty : columns ≠ []) (signs : List Sign) :
    Reads keyColumns (Sign.ofColumns columns ++ signs) columns signs := by
  have parts : Reads (commaSeparated Parser.keyPart) (Sign.ofNames columns ++ .mark ')' :: signs)
      (columns.map some) (.mark ')' :: signs) := by
    intro tokens writes
    have length := writes.length_eq
    have shorter := Sign.length_le_length_ofNames columns
    simp only [List.length_append, List.length_cons] at length
    exact commaList columns tokens.length notEmpty (by omega) tokens writes
  have all : Reads keyParts (Sign.ofColumns columns ++ signs) (columns.map some) signs := by
    rw [Sign.ofColumns, List.cons_append, List.append_assoc]
    exact (expectPunct '(' _).bind (parts.bind ((expectPunct ')' _).bind (pure _ _)))
  have columnsEq : (columns.map some).reduceOption = columns := by
    simp [List.reduceOption]
  have read : Reads Parser.keyColumns (Sign.ofColumns columns ++ signs)
      (columns.map some).reduceOption signs :=
    all.bind (pure _ _)
  rwa [columnsEq] at read

end Reads

end Parser

namespace Ddl

/-- Whether a text is a statement that is written with some signs, after another one that selects a
database if one is given. Blanks, comments and empty statements do not matter. -/
def IsWrittenAs (text : String) (schema : Option String) (signs : List Sign) : Prop :=
  ∃ tokens, Token.scan text.toList = .ok tokens ∧
    List.Forall₂ Token.WriteAll ((splitStatements tokens).filter fun part => !part.isEmpty)
      ((schema.toList.map fun schema => [.keyword "USE", .name schema]) ++ [signs])

instance (text : String) (schema : Option String) (signs : List Sign) :
    Decidable (IsWrittenAs text schema signs) :=
  match scanned : Token.scan text.toList with
  | .ok tokens =>
      decidable_of_iff (List.Forall₂ Token.WriteAll
          ((splitStatements tokens).filter fun part => !part.isEmpty)
          ((schema.toList.map fun schema => [.keyword "USE", .name schema]) ++ [signs]))
        (by simp [IsWrittenAs, scanned])
  | .error _ => isFalse (by simp [IsWrittenAs, scanned])

theorem ofParts_of_reads {schema : Option String} {sign : Sign} {signs after : List Sign}
    {statement : Statement} {part : List Token}
    (read : Parser.Reads Parser.statement (sign :: signs) statement after)
    (noUse : sign.mayBe ["USE"] = false) (writes : Token.WriteAll part (sign :: signs)) :
    ofParts schema none [part] = .ok ⟨schema, statement⟩ := by
  have keeps : Parser.Reads (Parser.eatKeyword ["USE"]) (sign :: signs) false (sign :: signs) :=
    .noKeyword noUse
  rcases keeps part writes with ⟨rest, useEq, restWrites⟩
  rcases read rest restWrites with ⟨left, statementEq, -⟩
  simp [ofParts, useEq, statementEq, bind, Except.bind]

theorem parse_of_isWrittenAs {text : String} {schema : Option String} {sign : Sign}
    {signs after : List Sign} {statement : Statement}
    (written : IsWrittenAs text schema (sign :: signs))
    (read : Parser.Reads Parser.statement (sign :: signs) statement after)
    (noUse : sign.mayBe ["USE"] = false) : parse text = .ok ⟨schema, statement⟩ := by
  rcases written with ⟨tokens, scanned, parts⟩
  have partsEq : ofTokens tokens = .ok ⟨schema, statement⟩ := by
    unfold ofTokens
    generalize (splitStatements tokens).filter _ = found at parts
    cases schema with
    | none =>
        rcases List.forall₂_cons_right_iff.mp parts with ⟨part, rest, writes, restEq, rfl⟩
        rw [List.forall₂_nil_right_iff.mp restEq]
        exact ofParts_of_reads read noUse writes
    | some schema =>
        rcases List.forall₂_cons_right_iff.mp parts with ⟨use, rest, useWrites, restEq, rfl⟩
        rcases List.forall₂_cons_right_iff.mp restEq with ⟨part, others, writes, othersEq, rfl⟩
        rw [List.forall₂_nil_right_iff.mp othersEq]
        have selects : Parser.Reads (Parser.eatKeyword ["USE"]) [.keyword "USE", .name schema] true
            [.name schema] :=
          .keyword (by decide)
        rcases selects use useWrites with ⟨nameTokens, useEq, nameWrites⟩
        have clause : Parser.Reads Parser.useClause [.name schema] schema [] :=
          (Parser.Reads.name schema []).bind (Parser.Reads.expectEnd.bind (.pure _ _))
        rcases clause nameTokens nameWrites with ⟨nothing, clauseEq, -⟩
        simp only [ofParts, useEq, clauseEq, bind, Except.bind, Option.isSome_none,
          Bool.false_eq_true, if_false, if_true]
        exact ofParts_of_reads read noUse writes
  simp [parse, Ddl.read, scanned, partsEq, bind, Except.bind, Except.mapError]

end Ddl

end RowLog.Schema
