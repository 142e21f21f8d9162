import RowLog.Schema.Route

/-!
# The tokens of statements that are written out

The statements for the single tables of a schema change are written with keywords, each with a blank
after it, and with quoted names. Such a text is split into the tokens that it is written from,
whatever characters the names have, and it is read as the statement that is meant. Main statements:
`Ddl.parse_dropText` and `Ddl.parse_renameText`.
-/

namespace RowLog.Schema

namespace Token

variable {first : Char} {rest after : List Char}

theorem scan_cons {token : Option Token} (scanned : scanOne first rest = .ok (token, after)) :
    scan (first :: rest) = (scan after).map (token.toList ++ ·) := by
  rw [scan]
  split
  · next otherToken other otherScanned =>
      rw [scanned, Except.ok.injEq, Prod.mk.injEq] at otherScanned
      rcases otherScanned with ⟨rfl, rfl⟩
      cases scan after <;> rfl
  · next error failed =>
      rw [scanned] at failed
      contradiction

theorem scan_blank (rest : List Char) : scan (' ' :: rest) = scan rest := by
  have scanned : scanOne ' ' rest = .ok (none, rest) := rfl
  rw [scan_cons scanned]
  cases scan rest <;> rfl

/-- A character of a word starts a word, unless it is a blank. -/
theorem scanOne_of_isWordChar (isWord : isWordChar first = true) (noBlank : isBlank first = false) :
    scanOne first rest =
      .ok (some (.word (String.ofList (first :: rest.takeWhile isWordChar))),
        rest.dropWhile isWordChar) := by
  have differs (mark : Char) (noWord : isWordChar mark = false) : first ≠ mark := by
    rintro rfl
    rw [isWord] at noWord
    contradiction
  have hash := differs '#' (by decide +kernel)
  have minus := differs '-' (by decide +kernel)
  have slash := differs '/' (by decide +kernel)
  have backquote := differs nameQuote (by decide +kernel)
  have quote := differs '\'' (by decide +kernel)
  have doubleQuote := differs '"' (by decide +kernel)
  simp [scanOne, noBlank, isWord, hash, minus, slash, backquote, quote, doubleQuote]

/-- Whether a text is a word that no blank splits. -/
def IsPlainWord (word : String) : Prop :=
  word.toList ≠ [] ∧ word.toList.all (fun letter => isWordChar letter && !isBlank letter) = true

instance (word : String) : Decidable (IsPlainWord word) :=
  inferInstanceAs (Decidable (_ ∧ _))

theorem scan_word {word : String} (plain : IsPlainWord word)
    (ends : ∀ next ∈ rest.head?, isWordChar next = false) :
    scan (word.toList ++ rest) = (scan rest).map (.word word :: ·) := by
  rcases plain with ⟨notEmpty, areLetters⟩
  have isWord : ∀ letter ∈ word.toList, isWordChar letter = true ∧ isBlank letter = false := by
    simpa using areLetters
  -- The first letter tells that a word starts, and what follows the last one starts another token.
  rcases List.exists_cons_of_ne_nil notEmpty with ⟨first, letters, lettersEq⟩
  rw [lettersEq] at isWord
  have start := isWord first (by simp)
  have inside : ∀ letter ∈ letters, isWordChar letter = true := fun letter letterMem =>
    (isWord letter (by simp [letterMem])).1
  have taken : rest.takeWhile isWordChar = [] ∧ rest.dropWhile isWordChar = rest := by
    cases rest with
    | nil => exact ⟨rfl, rfl⟩
    | cons next rest => simp [ends next (by simp)]
  rw [lettersEq, List.cons_append, scan_cons (scanOne_of_isWordChar start.1 start.2),
    List.takeWhile_append_of_pos inside, List.dropWhile_append_of_pos inside, taken.1, taken.2,
    List.append_nil, ← lettersEq, String.ofList_toList]
  rfl

theorem scan_word_blank {word : String} (plain : IsPlainWord word) (rest : List Char) :
    scan (word.toList ++ ' ' :: rest) = (scan rest).map (.word word :: ·) := by
  have blankEnds : isWordChar ' ' = false := by decide +kernel
  rw [scan_word plain (by simp [blankEnds]), scan_blank]

theorem scan_words {words : List String} (plain : ∀ word ∈ words, IsPlainWord word)
    (rest : List Char) :
    scan ((words.flatMap fun word => word.toList ++ [' ']) ++ rest) =
      (scan rest).map (words.map .word ++ ·) := by
  induction words with
  | nil =>
      rw [List.flatMap_nil, List.nil_append]
      cases scan rest <;> rfl
  | cons word words ih =>
      have later := ih fun other otherMem => plain other (by simp [otherMem])
      rw [List.flatMap_cons, List.append_assoc, List.append_assoc, List.singleton_append,
        scan_word_blank (plain word (by simp)), later]
      cases scan rest <;> rfl

theorem scan_quoteName (name : String) (stops : rest.head? ≠ some nameQuote) :
    scan ((quoteName name).toList ++ rest) = (scan rest).map (.quoted name :: ·) := by
  have text : (quoteName name).toList ++ rest =
      nameQuote :: (doubleQuotes name.toList ++ nameQuote :: rest) := by
    simp [quoteName]
  have scanned : scanOne nameQuote (doubleQuotes name.toList ++ nameQuote :: rest) =
      .ok (some (.quoted name), rest) := by
    have noBlank : isBlank nameQuote = false := by decide +kernel
    have noHash : (nameQuote == '#') = false := by decide
    have noMinus : (nameQuote == '-') = false := by decide
    have noSlash : (nameQuote == '/') = false := by decide
    simp [scanOne, noBlank, noHash, noMinus, noSlash, scanName_doubleQuotes _ _ stops]
  rw [text, scan_cons scanned]
  rfl

/-- The tokens of a table name with its database. -/
def ofTable (name : QualifiedName) : List Token :=
  [.quoted name.schema, .punct '.', .quoted name.table]

theorem scan_quoteTable (name : QualifiedName) (stops : rest.head? ≠ some nameQuote) :
    scan ((quoteTable name).toList ++ rest) = (scan rest).map (ofTable name ++ ·) := by
  have text : (quoteTable name).toList ++ rest =
      (quoteName name.schema).toList ++ '.' :: ((quoteName name.table).toList ++ rest) := by
    simp [quoteTable]
  have dot (rest : List Char) : scanOne '.' rest = .ok (some (.punct '.'), rest) := rfl
  rw [text, scan_quoteName _ (by simp [nameQuote]), scan_cons (dot _), scan_quoteName _ stops]
  cases scan rest <;> rfl

theorem scan_quoteTable_end (name : QualifiedName) :
    scan (quoteTable name).toList = .ok (ofTable name) := by
  have scanned := scan_quoteTable name (by simp : [].head? ≠ some nameQuote)
  rw [List.append_nil, scan] at scanned
  exact scanned

/-- The words before the name in a statement that drops a table. -/
def dropWords (ifExists : Bool) : List String :=
  ["DROP", "TABLE"] ++ if ifExists then ["IF", "EXISTS"] else []

theorem scan_dropText (ifExists : Bool) (name : QualifiedName) :
    scan (dropText ifExists name).toList =
      .ok ((dropWords ifExists).map .word ++ ofTable name) := by
  have text : (dropText ifExists name).toList =
      ((dropWords ifExists).flatMap fun word => word.toList ++ [' ']) ++
        (quoteTable name).toList := by
    cases ifExists <;> simp [dropText, dropWords]
  have plain : ∀ word ∈ dropWords ifExists, IsPlainWord word := by
    cases ifExists <;> decide +kernel
  rw [text, scan_words plain, scan_quoteTable_end]
  rfl

theorem scan_renameText (source target : QualifiedName) :
    scan (renameText source target).toList =
      .ok ([.word "RENAME", .word "TABLE"] ++ ofTable source ++ .word "TO" :: ofTable target) := by
  have text : (renameText source target).toList =
      (["RENAME", "TABLE"].flatMap fun word => word.toList ++ [' ']) ++
        ((quoteTable source).toList ++ ' ' ::
          ("TO".toList ++ ' ' :: (quoteTable target).toList)) := by
    simp [renameText]
  rw [text, scan_words (by decide +kernel), scan_quoteTable _ (by simp [nameQuote]), scan_blank,
    scan_word_blank (by decide +kernel), scan_quoteTable_end]
  rfl

end Token

/-- A table that is named with its database. -/
def TableRef.ofName (name : QualifiedName) : TableRef :=
  ⟨some name.schema, name.table⟩

namespace Ddl

theorem ofTokens_dropTable (ifExists : Bool) (name : QualifiedName) :
    ofTokens ((Token.dropWords ifExists).map .word ++ Token.ofTable name) =
      .ok ⟨none, .dropTable [.ofName name] ifExists⟩ := by
  cases ifExists <;> rfl

theorem ofTokens_renameTable (source target : QualifiedName) :
    ofTokens ([.word "RENAME", .word "TABLE"] ++ Token.ofTable source ++
        .word "TO" :: Token.ofTable target) =
      .ok ⟨none, .renameTable [(.ofName source, .ofName target)]⟩ := by
  rfl

theorem parse_dropText (ifExists : Bool) (name : QualifiedName) :
    parse (dropText ifExists name) = .ok ⟨none, .dropTable [.ofName name] ifExists⟩ := by
  simp only [parse, read, Token.scan_dropText, bind, Except.bind, ofTokens_dropTable]
  rfl

theorem parse_renameText (source target : QualifiedName) :
    parse (renameText source target) =
      .ok ⟨none, .renameTable [(.ofName source, .ofName target)]⟩ := by
  simp only [parse, read, Token.scan_renameText, bind, Except.bind, ofTokens_renameTable]
  rfl

@[simp]
theorem resolve_ofName (ddl : Ddl) (name : QualifiedName) :
    ddl.resolve (.ofName name) = .ok name := rfl

theorem route_dropText (ifExists : Bool) (name : QualifiedName) :
    route (dropText ifExists name) = .ok [.ofTable name (dropText ifExists name)] := by
  simp [route, parse_dropText, bind, Except.bind, routes, pure, Except.pure]

theorem route_renameText (source target : QualifiedName) :
    route (renameText source target) = .ok [.ofTable target (renameText source target)] := by
  simp [route, parse_renameText, bind, Except.bind, routes, pure, Except.pure]

end Ddl

end RowLog.Schema
