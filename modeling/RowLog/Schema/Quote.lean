import RowLog.Schema.QualifiedName
import RowLog.Schema.Token

/-!
# Names as they are written in a statement

A name between backquotes is read as that name whatever characters it has. Main statement: reading
a quoted name gives the name back and stops right after it.
-/

namespace RowLog.Schema

def doubleQuotes (name : List Char) : List Char :=
  name.flatMap fun character => if character == nameQuote then [nameQuote, nameQuote] else [character]

def quoteName (name : String) : String :=
  String.ofList (nameQuote :: doubleQuotes name.toList ++ [nameQuote])

/-- A table name with its database, both between backquotes. -/
def quoteTable (name : QualifiedName) : String :=
  quoteName name.schema ++ "." ++ quoteName name.table

theorem doubleQuotes_cons (character : Char) (name : List Char) :
    doubleQuotes (character :: name) =
      (if character == nameQuote then [nameQuote, nameQuote] else [character]) ++
        doubleQuotes name := rfl

theorem scanName_doubleQuotes (name rest : List Char) (stops : rest.head? ≠ some nameQuote) :
    scanName (doubleQuotes name ++ nameQuote :: rest) = some (name, rest) := by
  induction name with
  | nil =>
      cases rest with
      | nil => simp [doubleQuotes, scanName]
      | cons next rest =>
          have different : next ≠ nameQuote := by simpa using stops
          simp [doubleQuotes, scanName, different]
  | cons character name ih =>
      rw [doubleQuotes_cons]
      by_cases quote : character = nameQuote
      · simp [scanName, quote, ih]
      · simp only [beq_iff_eq, quote, ↓reduceIte, List.cons_append, List.nil_append]
        rw [scanName.eq_def]
        simp [quote, ih]

end RowLog.Schema
