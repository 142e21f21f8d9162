import Mathlib.Data.List.Forall2
import RowLog.Json.Fields
import RowLog.Proofs.WrittenTokens

/-!
# Reading written documents

A text is that of a document if its tokens are read, whatever follows it that may follow a value,
and the tokens are the document wherever one may stand. The text of an array or an object is put
together from the texts inside it; so what is written as a document is read as that document.
-/

namespace RowLog.Json

open Utf8

/-- Whether given tokens are a document wherever one may stand. -/
def AreTokensOf (tokens : List Token) (document : Document) : Prop :=
  ∀ stack, Machine.run ⟨stack, .document⟩ tokens = some (Machine.complete stack document)

/-- Whether a text is that of a document. -/
def IsTextOf (text : List Char) (document : Document) : Prop :=
  ∃ tokens, IsScannedAs text tokens ∧ AreTokensOf tokens document

/-- Whether a text is that of a member of an object: its name, a colon and its document. -/
def IsTextOfMember (text : String × List Char) (member : Member) : Prop :=
  member.1 = some text.1 ∧ IsTextOf text.2 member.2

theorem parse_of_isTextOf {text : List Char} {document : Document}
    (isText : IsTextOf text document) :
    Document.parse (encodeChars text) = some document := by
  rcases isText with ⟨tokens, scanned, areTokens⟩
  have read : Token.scan (encodeChars text) = some tokens := by
    have := scanned [] [] (by simp [EndsValue])
    rw [List.append_nil, encodeChars_nil, Token.scanFrom] at this
    simpa [Token.scan] using this
  rw [Document.parse, read, Option.bind_some, Document.ofTokens?, Machine.start, areTokens]
  rfl

section Scanning

variable {first second : List Char} {tokens others : List Token}

theorem EndsValue.append (ends : EndsValue first) (later : EndsValue second) :
    EndsValue (first ++ second) := by
  cases first with
  | nil => exact later
  | cons head tail => exact ends

theorem IsScannedAs.append (firstScanned : IsScannedAs first tokens)
    (secondScanned : IsScannedAs second others) (ends : EndsValue second) :
    IsScannedAs (first ++ second) (tokens ++ others) := by
  intro found rest restEnds
  rw [List.append_assoc, firstScanned _ _ (ends.append restEnds), secondScanned _ _ restEnds]
  simp

theorem IsScannedAs.cons {mark : Char} {token : Token} (scanned : IsScannedAs first tokens)
    (isMark : IsMark mark token) : IsScannedAs (mark :: first) (token :: tokens) := by
  intro found rest ends
  rw [List.cons_append, scanFrom_mark isMark, scanned _ _ ends]
  simp

theorem isScannedAs_nil : IsScannedAs [] [] := fun _ _ _ => rfl

theorem IsScannedAs.member (scanned : IsScannedAs first tokens) (name : String) :
    IsScannedAs (stringChars name ++ ':' :: first) (.string (some name) :: .colon :: tokens) := by
  intro found rest ends
  rw [List.append_assoc, scanFrom_stringChars, List.cons_append,
    scanFrom_mark (by decide : IsMark ':' .colon), scanned _ _ ends]
  simp

end Scanning

theorem isTextOf_null : IsTextOf ['n', 'u', 'l', 'l'] .null :=
  ⟨_, isScannedAs_null, fun _ => rfl⟩

theorem isTextOf_true : IsTextOf ['t', 'r', 'u', 'e'] (.bool true) :=
  ⟨_, isScannedAs_true, fun _ => rfl⟩

theorem isTextOf_false : IsTextOf ['f', 'a', 'l', 's', 'e'] (.bool false) :=
  ⟨_, isScannedAs_false, fun _ => rfl⟩

theorem isTextOf_intChars (value : Int) :
    IsTextOf (intChars value) (.number (Numeral.ofInt value)) :=
  ⟨_, isScannedAs_intChars value, fun _ => rfl⟩

theorem isTextOf_stringChars (text : String) :
    IsTextOf (stringChars text) (.string (some text)) :=
  ⟨_, isScannedAs_stringChars text, fun _ => rfl⟩

section Arrays

/-- The items of an array after the first one, up to the closing bracket. -/
theorem exists_tokens_afterItem {texts : List (List Char)} {documents : List Document}
    (areTexts : List.Forall₂ IsTextOf texts documents) :
    ∃ tokens, IsScannedAs (texts.flatMap (fun next => ',' :: next) ++ [']']) tokens ∧
      ∀ stack items, Machine.run ⟨stack, .afterItem items⟩ tokens =
        some (Machine.complete stack (.array (items.reverse ++ documents))) := by
  induction areTexts with
  | nil =>
      refine ⟨[.closeBracket], isScannedAs_nil.cons (by decide), ?_⟩
      intro stack items
      rw [List.append_nil]
      rfl
  | @cons text document texts documents isText _ ih =>
      rcases isText with ⟨tokens, scanned, areTokens⟩
      rcases ih with ⟨others, othersScanned, closes⟩
      refine ⟨.comma :: (tokens ++ others), ?_, ?_⟩
      · have ends := endsValue_further (by decide : ']' ∈ closers) texts []
        have inside := scanned.append othersScanned ends
        simpa using inside.cons (by decide : IsMark ',' .comma)
      · intro stack items
        have next := areTokens (.array items :: stack)
        change Machine.run ⟨.array items :: stack, .document⟩ (tokens ++ others) = _
        rw [Machine.run_append, next, Option.bind_some]
        change Machine.run ⟨stack, .afterItem (document :: items)⟩ others = _
        rw [closes]
        simp

/-- The first item of an array is read as any document. -/
theorem run_firstItem {tokens : List Token} {document : Document} (stack : List Frame)
    (areTokens : AreTokensOf tokens document) :
    Machine.run ⟨stack, .firstItem⟩ tokens = some ⟨stack, .afterItem [document]⟩ := by
  have read := areTokens (.array [] :: stack)
  cases tokens with
  | nil => simp [Machine.run, Machine.complete] at read
  | cons token rest =>
      have same : Machine.step ⟨stack, .firstItem⟩ token =
          Machine.step ⟨.array [] :: stack, .document⟩ token := by
        cases token with
        | closeBracket => simp [Machine.run, Machine.step, Machine.begin] at read
        | _ => rfl
      rw [Machine.run, same]
      exact read

theorem isTextOf_array {texts : List (List Char)} {documents : List Document}
    (areTexts : List.Forall₂ IsTextOf texts documents) :
    IsTextOf (arrayChars texts) (.array documents) := by
  cases areTexts with
  | nil =>
      refine ⟨[.openBracket, .closeBracket], ?_, fun _ => rfl⟩
      exact (isScannedAs_nil.cons (by decide)).cons (by decide)
  | @cons text document texts documents isText areTexts =>
      rcases isText with ⟨tokens, scanned, areTokens⟩
      rcases exists_tokens_afterItem areTexts with ⟨others, othersScanned, closes⟩
      refine ⟨.openBracket :: (tokens ++ others), ?_, ?_⟩
      · have ends := endsValue_further (by decide : ']' ∈ closers) texts []
        have inside := scanned.append othersScanned ends
        simpa [arrayChars, separated] using
          inside.cons (by decide : IsMark '[' .openBracket)
      · intro stack
        change Machine.run ⟨stack, .firstItem⟩ (tokens ++ others) = _
        rw [Machine.run_append, run_firstItem stack areTokens, Option.bind_some, closes]
        rfl

theorem isTextOf_array_map {α : Type} {write : α → List Char} {document : α → Document}
    {items : List α} (each : ∀ item ∈ items, IsTextOf (write item) (document item)) :
    IsTextOf (arrayChars (items.map write)) (.array (items.map document)) := by
  apply isTextOf_array
  rw [List.forall₂_map_left_iff, List.forall₂_map_right_iff, List.forall₂_same]
  exact each

end Arrays

section Objects

theorem exists_tokens_afterMember {texts : List (String × List Char)} {members : List Member}
    (areTexts : List.Forall₂ IsTextOfMember texts members) :
    ∃ tokens, IsScannedAs ((texts.map fun member => stringChars member.1 ++ ':' :: member.2).flatMap
        (fun next => ',' :: next) ++ ['\x7d']) tokens ∧
      ∀ stack before, Machine.run ⟨stack, .afterMember before⟩ tokens =
        some (Machine.complete stack (.object (before.reverse ++ members))) := by
  induction areTexts with
  | nil =>
      refine ⟨[.closeBrace], isScannedAs_nil.cons (by decide), ?_⟩
      intro stack before
      rw [List.append_nil]
      rfl
  | @cons text member texts members isText _ ih =>
      rcases text with ⟨name, text⟩
      rcases member with ⟨key, document⟩
      rcases isText with ⟨rfl, tokens, scanned, areTokens⟩
      rcases ih with ⟨others, othersScanned, closes⟩
      refine ⟨.comma :: .string (some name) :: .colon :: (tokens ++ others), ?_, ?_⟩
      · have ends := endsValue_further (by decide : '\x7d' ∈ closers)
          (texts.map fun member => stringChars member.1 ++ ':' :: member.2) []
        have inside := (scanned.member name).append othersScanned ends
        simpa using inside.cons (by decide : IsMark ',' .comma)
      · intro stack before
        have next := areTokens (.object before (some name) :: stack)
        change Machine.run ⟨.object before (some name) :: stack, .document⟩ (tokens ++ others) = _
        rw [Machine.run_append, next, Option.bind_some]
        change Machine.run ⟨stack, .afterMember ((some name, document) :: before)⟩ others = _
        rw [closes]
        simp

theorem isTextOf_object {texts : List (String × List Char)} {members : List Member}
    (areTexts : List.Forall₂ IsTextOfMember texts members) :
    IsTextOf (objectChars texts) (.object members) := by
  cases areTexts with
  | nil =>
      refine ⟨[.openBrace, .closeBrace], ?_, fun _ => rfl⟩
      exact (isScannedAs_nil.cons (by decide)).cons (by decide)
  | @cons text member texts members isText areTexts =>
      rcases text with ⟨name, text⟩
      rcases member with ⟨key, document⟩
      rcases isText with ⟨rfl, tokens, scanned, areTokens⟩
      rcases exists_tokens_afterMember areTexts with ⟨others, othersScanned, closes⟩
      refine ⟨.openBrace :: .string (some name) :: .colon :: (tokens ++ others), ?_, ?_⟩
      · have ends := endsValue_further (by decide : '\x7d' ∈ closers)
          (texts.map fun member => stringChars member.1 ++ ':' :: member.2) []
        have inside := (scanned.member name).append othersScanned ends
        simpa [objectChars, separated] using
          inside.cons (by decide : IsMark '\x7b' .openBrace)
      · intro stack
        have next := areTokens (.object [] (some name) :: stack)
        change Machine.run ⟨.object [] (some name) :: stack, .document⟩ (tokens ++ others) = _
        rw [Machine.run_append, next, Option.bind_some]
        exact closes stack [(some name, document)]

end Objects

end RowLog.Json
