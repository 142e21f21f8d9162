import Mathlib.Data.List.Forall2
import RowLog.Proofs.Lists
import RowLog.Schema.Ddl

/-!
# The elements of a list

The elements of a list start after its commas, those inside parentheses apart. What a parser reads
of an element has no such comma, so a list is read element by element. Main statement:
`Parser.forall₂_commaList`.
-/

namespace RowLog.Schema

/-- The places after the commas of a list, up to its end. Of the parentheses around a place, `depth`
are open. -/
def laterElements : (depth : Nat) → List Token → List (List Token)
  | _, [] => []
  | 0, token :: rest =>
      if token = .punct ',' then rest :: laterElements 0 rest
      else if token = .punct '(' then laterElements 1 rest
      else if token = .punct ')' then []
      else laterElements 0 rest
  | depth + 1, token :: rest =>
      if token = .punct '(' then laterElements (depth + 2) rest
      else if token = .punct ')' then laterElements depth rest
      else laterElements (depth + 1) rest

/-- The places where the elements of a list start. -/
def elementStarts (tokens : List Token) : List (List Token) :=
  tokens :: laterElements 0 tokens

/-- The first parentheses and what follows. -/
def fromGroup (tokens : List Token) : List Token :=
  tokens.dropWhile (· ≠ .punct '(')

namespace Parser

/-- An index after its name. -/
def indexColumns (indexName : Option String) (primary unique : Bool) : Parser IndexDef := do
  if ← eatKeyword ["USING"] then let _ ← name
  let columns ← keyColumns
  skipElement
  return ⟨indexName, primary, unique, columns⟩

variable {α β γ : Type} {tokens rest : List Token}

/-! ### What has been read -/

theorem bind_eq_ok {parser : Parser α} {next : α → Parser β} {final : β}
    (read : (parser >>= next) tokens = .ok (final, rest)) :
    ∃ value middle, parser tokens = .ok (value, middle) ∧
      next value middle = .ok (final, rest) := by
  rcases bind_eq_ok_iff.mp read with ⟨⟨value, middle⟩, first, later⟩
  exact ⟨value, middle, first, later⟩

theorem eatKeyword_eq_ok {keywords : List String} {found : Bool}
    (read : eatKeyword keywords tokens = .ok (found, rest)) :
    (found = true ∧ ∃ token, tokens = token :: rest ∧
      (keywords.any fun keyword => isKeyword keyword token) = true) ∨
    (found = false ∧ rest = tokens ∧ ∀ token ∈ tokens.head?,
      (keywords.any fun keyword => isKeyword keyword token) = false) := by
  unfold eatKeyword at read
  split at read
  · split at read
    · next token _ isOne =>
        cases read
        exact .inl ⟨rfl, token, rfl, isOne⟩
    · next isNot =>
        cases read
        exact .inr ⟨rfl, rfl, by simpa using isNot⟩
  · cases read
    exact .inr ⟨rfl, rfl, by simp⟩

theorem expectKeyword_eq_ok {keyword : String} {value : Unit}
    (read : expectKeyword keyword tokens = .ok (value, rest)) :
    ∃ token, tokens = token :: rest ∧ isKeyword keyword token = true := by
  unfold expectKeyword at read
  split at read
  · split at read
    · next token _ isOne =>
        cases read
        exact ⟨token, rfl, isOne⟩
    · contradiction
  · contradiction

theorem eatPunct_eq_ok {character : Char} {found : Bool}
    (read : eatPunct character tokens = .ok (found, rest)) :
    (found = true ∧ tokens = .punct character :: rest) ∨ (found = false ∧ rest = tokens) := by
  unfold eatPunct at read
  split at read
  · split at read
    · next isOne =>
        cases read
        exact .inl ⟨rfl, by rw [isOne]⟩
    · cases read
      exact .inr ⟨rfl, rfl⟩
  · cases read
    exact .inr ⟨rfl, rfl⟩

theorem eq_of_expectPunct {character : Char} {value : Unit}
    (read : expectPunct character tokens = .ok (value, rest)) :
    tokens = .punct character :: rest := by
  unfold expectPunct at read
  split at read
  · split at read
    · next isOne =>
        cases read
        rw [isOne]
    · contradiction
  · contradiction

theorem eq_nil_of_expectEnd {value : Unit} (read : expectEnd tokens = .ok (value, rest)) :
    tokens = [] := by
  unfold expectEnd at read
  split at read
  · contradiction
  · rfl

/-! ### What parsers leave as it was -/

/-- Whether what is measured where a parser stops is what is measured where it starts. -/
def Carries (before after : List Token → γ) (parser : Parser α) : Prop :=
  ∀ tokens value rest, parser tokens = .ok (value, rest) → after rest = before tokens

/-- Whether only parentheses and commas are measured. -/
def IsStructural (measure : List Token → γ) : Prop :=
  ∀ token rest, token ∉ [.punct '(', .punct ')', .punct ','] →
    measure (token :: rest) = measure rest

theorem isStructural_fromGroup : IsStructural fromGroup := by
  intro token rest notStructural
  rw [fromGroup, List.dropWhile_cons_of_pos (by simp_all), fromGroup]

theorem isStructural_laterElements (depth : Nat) : IsStructural (laterElements depth) := by
  intro token rest notStructural
  cases depth <;> simp_all [laterElements]

namespace Carries

variable {measure before middle after : List Token → γ}

theorem pure (value : α) : Carries measure measure (Pure.pure value : Parser α) := by
  intro tokens found rest read
  rw [← (Prod.mk.inj (Except.ok.inj read)).2]

theorem bind {parser : Parser α} {next : α → Parser β} (first : Carries before middle parser)
    (later : ∀ value, Carries middle after (next value)) :
    Carries before after (parser >>= next) := by
  intro tokens final rest read
  rcases bind_eq_ok read with ⟨value, between, firstEq, laterEq⟩
  exact (later value between final rest laterEq).trans (first tokens value between firstEq)

theorem map {parser : Parser α} (first : Carries measure measure parser) (change : α → β) :
    Carries measure measure (change <$> parser) := by
  rw [map_eq_pure_bind]
  exact first.bind fun value => pure (change value)

theorem ite {condition : Prop} [Decidable condition] {yes no : Parser α}
    (yesCarries : Carries before after yes) (noCarries : Carries before after no) :
    Carries before after (if condition then yes else no) := by
  split
  · exact yesCarries
  · exact noCarries

theorem atKeyword (keywords : List String) : Carries measure measure (atKeyword keywords) := by
  intro tokens value rest read
  rw [← (Prod.mk.inj (Except.ok.inj read)).2]

theorem atPunct (character : Char) : Carries measure measure (atPunct character) := by
  intro tokens value rest read
  rw [← (Prod.mk.inj (Except.ok.inj read)).2]

/-! ### Names and keywords -/

variable {depth : Nat}

theorem notStructural_of_isKeyword {keyword : String} {token : Token}
    (isOne : isKeyword keyword token = true) :
    token ∉ [.punct '(', .punct ')', .punct ','] := by
  cases token <;> simp_all [isKeyword]

theorem notStructural_of_any {keywords : List String} {token : Token}
    (isOne : (keywords.any fun keyword => isKeyword keyword token) = true) :
    token ∉ [.punct '(', .punct ')', .punct ','] := by
  rcases List.any_eq_true.mp isOne with ⟨keyword, -, isKeyword⟩
  exact notStructural_of_isKeyword isKeyword

theorem eatKeyword (structural : IsStructural measure) (keywords : List String) :
    Carries measure measure (eatKeyword keywords) := by
  intro tokens value rest read
  rcases eatKeyword_eq_ok read with ⟨-, token, rfl, isOne⟩ | ⟨-, rfl, -⟩
  · exact (structural _ _ (notStructural_of_any isOne)).symm
  · rfl

theorem afterKeywords (structural : IsStructural measure) {keywords : List String}
    {tokens rest : List Token} (found : afterKeywords? keywords tokens = some rest) :
    measure rest = measure tokens := by
  fun_induction afterKeywords? keywords tokens with
  | case1 tokens => rw [← Option.some.inj found]
  | case2 keyword keywords token tokens isOne ih =>
      exact (ih found).trans (structural _ _ (notStructural_of_isKeyword isOne)).symm
  | case3 keyword keywords token tokens isNot => contradiction
  | case4 keyword keywords => contradiction

theorem eatKeywords (structural : IsStructural measure) (keywords : List String) :
    Carries measure measure (eatKeywords keywords) := by
  intro tokens value rest read
  unfold Parser.eatKeywords at read
  split at read
  · next found =>
      cases read
      exact afterKeywords structural found
  · cases read
    rfl

theorem expectKeyword (structural : IsStructural measure) (keyword : String) :
    Carries measure measure (expectKeyword keyword) := by
  intro tokens value rest read
  rcases expectKeyword_eq_ok read with ⟨token, rfl, isOne⟩
  exact (structural _ _ (notStructural_of_isKeyword isOne)).symm

theorem name (structural : IsStructural measure) : Carries measure measure name := by
  intro tokens value rest read
  unfold Parser.name at read
  split at read
  · cases read
    exact (structural _ _ (by simp)).symm
  · cases read
    exact (structural _ _ (by simp)).symm
  · contradiction
  · contradiction

theorem eatPunct {character : Char} (structural : IsStructural measure)
    (notStructural : Token.punct character ∉ [.punct '(', .punct ')', .punct ',']) :
    Carries measure measure (eatPunct character) := by
  intro tokens value rest read
  rcases eatPunct_eq_ok read with ⟨-, rfl⟩ | ⟨-, rfl⟩
  · exact (structural _ _ notStructural).symm
  · rfl

theorem tableRef (structural : IsStructural measure) : Carries measure measure tableRef :=
  (name structural).bind fun _ => (eatPunct structural (by decide)).bind fun _ =>
    ite ((name structural).bind fun _ => pure _) (pure _)

theorem constraintName (structural : IsStructural measure) :
    Carries measure measure constraintName :=
  (eatKeyword structural _).bind fun _ =>
    ite ((atKeyword _).bind fun _ => ite ((name structural).bind fun _ => pure _) (pure _)) (pure _)

theorem position (structural : IsStructural measure) : Carries measure measure position :=
  (eatKeyword structural _).bind fun _ => ite (pure _) ((eatKeyword structural _).bind fun _ =>
    ite ((name structural).bind fun _ => pure _) (pure _))

/-! ### Groups and elements -/

theorem laterElements_open (depth : Nat) (rest : List Token) :
    laterElements depth (.punct '(' :: rest) = laterElements (depth + 1) rest := by
  cases depth <;> simp [laterElements]

theorem laterElements_close (depth : Nat) (rest : List Token) :
    laterElements (depth + 1) (.punct ')' :: rest) = laterElements depth rest := by
  simp [laterElements]

theorem laterElements_inside {token : Token} (notOpen : token ≠ .punct '(')
    (notClose : token ≠ .punct ')') (depth : Nat) (rest : List Token) :
    laterElements (depth + 1) (token :: rest) = laterElements (depth + 1) rest := by
  simp [laterElements, notOpen, notClose]

theorem laterElements_closeGroups {opened : Nat} {tokens rest : List Token}
    (closed : closeGroups opened tokens = .ok rest) :
    laterElements depth rest = laterElements (depth + opened) tokens := by
  fun_induction closeGroups opened tokens with
  | case1 tokens =>
      cases closed
      rfl
  | case2 opened => contradiction
  | case3 opened rest' ih =>
      rw [laterElements_open]
      exact ih closed
  | case4 opened rest' _ ih =>
      rw [Nat.add_succ, laterElements_close]
      exact ih closed
  | case5 opened token rest' notOpen notClose ih =>
      rw [Nat.add_succ, laterElements_inside notOpen notClose]
      exact ih closed

theorem laterElements_plain {token : Token}
    (notEnd : ¬(token = .punct ',' ∨ token = .punct ')')) (notOpen : token ≠ .punct '(')
    (depth : Nat) (rest : List Token) :
    laterElements depth (token :: rest) = laterElements depth rest :=
  isStructural_laterElements depth token rest (by simp_all)

theorem laterElements_elementEnd {opened : Nat} {tokens rest : List Token}
    (ended : elementEnd opened tokens = .ok rest) :
    laterElements depth rest = laterElements (depth + opened) tokens := by
  fun_induction elementEnd opened tokens with
  | case1 =>
      cases ended
      rfl
  | case2 opened => contradiction
  | case3 token rest' isEnd =>
      cases ended
      rfl
  | case4 rest' _ ih =>
      rw [laterElements_open]
      exact ih ended
  | case5 token rest' notEnd notOpen ih =>
      rw [laterElements_plain notEnd notOpen]
      exact ih ended
  | case6 opened rest' ih =>
      rw [laterElements_open]
      exact ih ended
  | case7 opened rest' _ ih =>
      rw [Nat.add_succ, laterElements_close]
      exact ih ended
  | case8 opened token rest' notOpen notClose ih =>
      rw [Nat.add_succ, laterElements_inside notOpen notClose]
      exact ih ended

theorem laterElements_columnOptions {opened : Nat} {column found : ColumnDef}
    {tokens rest : List Token} (read : columnOptions opened column tokens = .ok (found, rest)) :
    laterElements depth rest = laterElements (depth + opened) tokens := by
  -- A keyword is one token, or two if `KEY` follows; none of them is measured.
  have key (second : Token) (rest : List Token) (isKey : isKeyword "KEY" second = true) :
      laterElements (depth + 0) (second :: rest) = laterElements (depth + 0) rest :=
    isStructural_laterElements _ _ _ (notStructural_of_isKeyword isKey)
  fun_induction columnOptions opened column tokens with
  | case1 column =>
      cases read
      rfl
  | case2 opened _ => contradiction
  | case3 opened column rest' ih =>
      rw [laterElements_open]
      exact ih read
  | case4 opened column rest' _ ih =>
      rw [Nat.add_succ, laterElements_close]
      exact ih read
  | case5 opened column token rest' notOpen notClose ih =>
      rw [Nat.add_succ, laterElements_inside notOpen notClose]
      exact ih read
  | case6 column token rest' isEnd =>
      cases read
      rfl
  | case7 column rest' _ ih =>
      rw [laterElements_open]
      exact ih read
  | case8 column token rest' _ _ isPosition =>
      cases read
      rfl
  | case9 column token _ _ _ _ => contradiction
  | case10 column token notEnd notOpen _ _ second rest' isKey ih =>
      rw [laterElements_plain notEnd notOpen, key second rest' isKey]
      exact ih read
  | case11 column token _ _ _ _ second rest' _ => contradiction
  | case12 column token notEnd notOpen _ _ _ =>
      cases read
      rw [laterElements_plain notEnd notOpen]
      rfl
  | case13 column token notEnd notOpen _ _ _ second rest' isKey ih =>
      rw [laterElements_plain notEnd notOpen, key second rest' isKey]
      exact ih read
  | case14 column token notEnd notOpen _ _ _ second rest' _ ih =>
      rw [laterElements_plain notEnd notOpen]
      exact ih read
  | case15 column token rest' notEnd notOpen _ _ _ _ ih =>
      rw [laterElements_plain notEnd notOpen]
      exact ih read
  | case16 column token rest' notEnd notOpen _ _ _ _ _ ih =>
      rw [laterElements_plain notEnd notOpen]
      exact ih read
  | case17 column token rest' notEnd notOpen _ _ _ _ _ ih =>
      rw [laterElements_plain notEnd notOpen]
      exact ih read

theorem expectOpen (depth : Nat) :
    Carries (laterElements depth) (laterElements (depth + 1)) (expectPunct '(') := by
  intro tokens value rest read
  rw [eq_of_expectPunct read, laterElements_open]

theorem expectClose (depth : Nat) :
    Carries (laterElements (depth + 1)) (laterElements depth) (expectPunct ')') := by
  intro tokens value rest read
  rw [eq_of_expectPunct read, laterElements_close]

theorem skipGroup (depth : Nat) :
    Carries (laterElements depth) (laterElements depth) skipGroup := by
  refine (expectOpen depth).bind fun _ => ?_
  intro tokens value rest read
  rcases map_eq_ok_iff.mp read with ⟨left, closed, same⟩
  cases same
  exact laterElements_closeGroups closed

theorem skipElement (depth : Nat) :
    Carries (laterElements depth) (laterElements depth) skipElement := by
  intro tokens value rest read
  rcases map_eq_ok_iff.mp read with ⟨left, ended, same⟩
  cases same
  exact laterElements_elementEnd ended

theorem comma (depth : Nat) :
    Carries (laterElements (depth + 1)) (laterElements (depth + 1)) (Parser.eatPunct ',') := by
  intro tokens value rest read
  rcases eatPunct_eq_ok read with ⟨-, rfl⟩ | ⟨-, rfl⟩
  · rw [laterElements_inside (by simp) (by simp)]
  · rfl

/-- The commas of a list inside parentheses are not measured. -/
theorem commaSeparated {item : Parser α} {depth : Nat}
    (carries : Carries (laterElements (depth + 1)) (laterElements (depth + 1)) item) :
    Carries (laterElements (depth + 1)) (laterElements (depth + 1)) (commaSeparated item) := by
  have list (fuel : Nat) : Carries (laterElements (depth + 1)) (laterElements (depth + 1))
      (commaList item fuel) := by
    induction fuel with
    | zero => exact carries.bind fun _ => pure _
    | succ fuel ih =>
        exact carries.bind fun _ => (comma depth).bind fun _ =>
          ite (ih.bind fun _ => pure _) (pure _)
  intro tokens value rest read
  exact list tokens.length tokens value rest read

theorem keyPart (depth : Nat) :
    Carries (laterElements depth) (laterElements depth) keyPart := by
  have structural := isStructural_laterElements depth
  refine (atPunct _).bind fun _ => ite ((skipGroup depth).bind fun _ => (pure _).bind fun _ =>
    (eatKeyword structural _).bind fun _ => pure _) ((name structural).bind fun _ =>
      (atPunct _).bind fun _ => ite ((skipGroup depth).bind fun _ => (pure _).bind fun _ =>
        (eatKeyword structural _).bind fun _ => pure _) ((pure _).bind fun _ =>
          (eatKeyword structural _).bind fun _ => pure _))

theorem keyParts (depth : Nat) :
    Carries (laterElements depth) (laterElements depth) keyParts :=
  (expectOpen depth).bind fun _ => (commaSeparated (keyPart (depth + 1))).bind fun _ =>
    (expectClose depth).bind fun _ => pure _

theorem keyColumns (depth : Nat) :
    Carries (laterElements depth) (laterElements depth) keyColumns :=
  (keyParts depth).bind fun _ => pure _

theorem indexColumns (depth : Nat) (indexName : Option String) (primary unique : Bool) :
    Carries (laterElements depth) (laterElements depth)
      (indexColumns indexName primary unique) := by
  have structural := isStructural_laterElements depth
  have last := (keyColumns depth).bind fun columns => (skipElement depth).bind fun _ =>
    pure (⟨indexName, primary, unique, columns⟩ : IndexDef)
  exact (eatKeyword structural _).bind fun _ => ite ((name structural).bind fun _ => last) last

theorem indexBody (depth : Nat) (primary unique : Bool) :
    Carries (laterElements depth) (laterElements depth) (indexBody primary unique) :=
  (atPunct _).bind fun _ => (atKeyword _).bind fun _ =>
    ite ((pure _).bind fun _ => indexColumns depth _ _ _)
      (((name (isStructural_laterElements depth)).map some).bind fun _ => indexColumns depth _ _ _)

theorem columnDef (depth : Nat) :
    Carries (laterElements depth) (laterElements depth) columnDef := by
  have structural := isStructural_laterElements depth
  refine (name structural).bind fun _ => (name structural).bind fun _ => ?_
  intro tokens value rest read
  exact laterElements_columnOptions read

theorem indexElement? (depth : Nat) :
    Carries (laterElements depth) (laterElements depth) indexElement? := by
  have structural := isStructural_laterElements depth
  exact (eatKeyword structural _).bind fun _ => ite
    ((expectKeyword structural _).bind fun _ => (indexBody depth _ _).bind fun _ => pure _)
    ((eatKeyword structural _).bind fun _ => ite
      ((eatKeyword structural _).bind fun _ => (indexBody depth _ _).bind fun _ => pure _)
      ((eatKeyword structural _).bind fun _ => ite
        ((indexBody depth _ _).bind fun _ => pure _) (pure _)))

theorem tableElement (depth : Nat) :
    Carries (laterElements depth) (laterElements depth) tableElement := by
  have structural := isStructural_laterElements depth
  refine (constraintName structural).bind fun _ => (indexElement? depth).bind fun found => ?_
  cases found with
  | some index => exact pure _
  | none =>
      exact (atKeyword _).bind fun _ => ite ((skipElement depth).bind fun _ => pure _)
        ((columnDef depth).bind fun _ => pure _)

theorem ifOpen {yes no : Parser α} {depth : Nat} {after : List Token → List (List Token)}
    (yesCarries : Carries (laterElements (depth + 1)) after yes)
    (noCarries : Carries (laterElements depth) after no) :
    Carries (laterElements depth) after (do
      if ← Parser.eatPunct '(' then yes else no) := by
  intro tokens value rest read
  rcases bind_eq_ok read with ⟨opened, between, eaten, later⟩
  rcases eatPunct_eq_ok eaten with ⟨rfl, rfl⟩ | ⟨rfl, rfl⟩
  · rw [laterElements_open]
    exact yesCarries between value rest later
  · exact noCarries between value rest later

theorem addSpec (depth : Nat) : Carries (laterElements depth) (laterElements depth) addSpec := by
  have structural := isStructural_laterElements depth
  refine (constraintName structural).bind fun _ => (indexElement? depth).bind fun found => ?_
  cases found with
  | some index => exact pure _
  | none =>
      exact (atKeyword _).bind fun _ => ite (pure _) ((eatKeyword structural _).bind fun _ => ifOpen
        ((commaSeparated (columnDef (depth + 1))).bind fun _ => (expectClose depth).bind fun _ =>
          pure _)
        ((columnDef depth).bind fun _ => (position structural).bind fun _ => pure _))

theorem dropSpec {measure : List Token → γ} (structural : IsStructural measure) :
    Carries measure measure dropSpec :=
  (eatKeyword structural _).bind fun _ => ite
    ((expectKeyword structural _).bind fun _ => pure _)
    ((eatKeyword structural _).bind fun _ => ite ((name structural).bind fun _ => pure _)
      ((atKeyword _).bind fun _ => ite (pure _)
        ((eatKeyword structural _).bind fun _ => (name structural).bind fun _ => pure _)))

theorem renameSpec {measure : List Token → γ} (structural : IsStructural measure) :
    Carries measure measure renameSpec := by
  exact (eatKeyword structural _).bind fun _ => ite
    ((name structural).bind fun _ => (expectKeyword structural _).bind fun _ =>
      (name structural).bind fun _ => pure _)
    ((eatKeyword structural _).bind fun _ => ite
      ((name structural).bind fun _ => (expectKeyword structural _).bind fun _ =>
        (name structural).bind fun _ => pure _)
      ((eatKeyword structural _).bind fun _ => (tableRef structural).bind fun _ => pure _))

theorem alterSpec (depth : Nat) :
    Carries (laterElements depth) (laterElements depth) alterSpec := by
  have structural := isStructural_laterElements depth
  exact (eatKeyword structural _).bind fun _ => ite (addSpec depth)
    ((eatKeyword structural _).bind fun _ => ite (dropSpec structural)
      ((eatKeyword structural _).bind fun _ => ite
        ((eatKeyword structural _).bind fun _ => (columnDef depth).bind fun _ =>
          (position structural).bind fun _ => pure _)
        ((eatKeyword structural _).bind fun _ => ite
          ((eatKeyword structural _).bind fun _ => (name structural).bind fun _ =>
            (columnDef depth).bind fun _ => (position structural).bind fun _ => pure _)
          ((eatKeyword structural _).bind fun _ => ite (renameSpec structural) (pure _)))))

end Carries

/-! ### Reading a list -/

theorem laterElements_comma (rest : List Token) :
    laterElements 0 (.punct ',' :: rest) = elementStarts rest := by
  simp [laterElements, elementStarts]

/-- The items of a list are read where its elements start. -/
theorem forall₂_commaList {item : Parser α} {fuel : Nat} {values : List α}
    (carries : Carries (laterElements 0) (laterElements 0) item)
    (read : commaList item fuel tokens = .ok (values, .punct ')' :: rest)) :
    List.Forall₂ (fun start value => ∃ left, item start = .ok (value, left))
      (elementStarts tokens) values := by
  have last : laterElements 0 (.punct ')' :: rest) = [] := by simp [laterElements]
  induction fuel generalizing tokens values with
  | zero =>
      rcases bind_eq_ok read with ⟨value, left, itemEq, same⟩
      cases same
      rw [elementStarts, ← carries _ _ _ itemEq, last]
      exact .cons ⟨_, itemEq⟩ .nil
  | succ fuel ih =>
      rcases bind_eq_ok read with ⟨value, left, itemEq, later⟩
      rcases bind_eq_ok later with ⟨isComma, after, commaEq, others⟩
      rcases eatPunct_eq_ok commaEq with ⟨rfl, leftEq⟩ | ⟨rfl, same⟩
      · rcases bind_eq_ok others with ⟨values, _, othersEq, same⟩
        cases same
        rw [elementStarts, ← carries _ _ _ itemEq, leftEq, laterElements_comma]
        exact .cons ⟨_, itemEq⟩ (ih othersEq)
      · cases others
        rw [elementStarts, ← carries _ _ _ itemEq, ← same, last]
        exact .cons ⟨_, itemEq⟩ .nil

end Parser

end RowLog.Schema
