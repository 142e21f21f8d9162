import RowLog.Row.Key
import Mathlib.Data.List.Basic

/-!
# Prefix codes

In a prefix code, no word starts another one, so whatever follows a word, it is clear where the word
ends and what it stands for. Escaped characters form such a code, words of one length do, and so do
sequences of words up to a mark that starts no word. It follows that the key of a row tells its
segments.
-/

namespace RowLog

/-- Whether each text that starts with a word of the code starts with only one. -/
def IsPrefixCode {α : Type} (code : α → List Char) : Prop :=
  ∀ {first second rest others}, code first ++ rest = code second ++ others →
    first = second ∧ rest = others

namespace IsPrefixCode

variable {α : Type} {code : α → List Char}

theorem of_length (size : Nat) (lengths : ∀ item, (code item).length = size)
    (codeInjective : Function.Injective code) : IsPrefixCode code := by
  intro first second rest others same
  have parts := List.append_inj same (by rw [lengths, lengths])
  exact ⟨codeInjective parts.1, parts.2⟩

/-- A mark in front of every word changes nothing. -/
theorem cons (isCode : IsPrefixCode code) (mark : Char) :
    IsPrefixCode fun item => mark :: code item := by
  intro first second rest others same
  rw [List.cons_append, List.cons_append, List.cons.injEq] at same
  exact isCode same.2

/-- Sequences of words form a code if a mark follows them that starts no word. -/
theorem flatMap_append (isCode : IsPrefixCode code) {mark : Char}
    (apart : ∀ item, ∃ head tail, code item = head :: tail ∧ head ≠ mark) :
    IsPrefixCode fun items : List α => items.flatMap code ++ [mark] := by
  have started (item : α) (items : List α) {rest others : List Char} :
      (item :: items).flatMap code ++ [mark] ++ rest ≠ [mark] ++ others := by
    rcases apart item with ⟨head, tail, wordEq, headNe⟩
    intro same
    simp only [List.flatMap_cons, wordEq, List.cons_append, List.nil_append, List.append_assoc,
      List.cons.injEq] at same
    exact headNe same.1
  intro first second rest others same
  induction first generalizing second with
  | nil =>
      cases second with
      | nil => exact ⟨rfl, by simpa using same⟩
      | cons item items => exact absurd same.symm (started item items)
  | cons item items ih =>
      cases second with
      | nil => exact absurd same (started item items)
      | cons other remaining =>
          simp only [List.flatMap_cons, List.append_assoc] at same
          rcases isCode same with ⟨rfl, later⟩
          rcases ih (by simpa using later) with ⟨rfl, restEq⟩
          exact ⟨rfl, restEq⟩

theorem flatMap_injective (isCode : IsPrefixCode code) (nonempty : ∀ item, code item ≠ []) :
    Function.Injective fun items : List α => items.flatMap code := by
  intro first second same
  induction first generalizing second with
  | nil =>
      cases second with
      | nil => rfl
      | cons item items => simp [nonempty] at same
  | cons item items ih =>
      cases second with
      | nil => simp [nonempty] at same
      | cons other remaining =>
          simp only [List.flatMap_cons] at same
          rcases isCode same with ⟨rfl, later⟩
          rw [ih later]

end IsPrefixCode

/-- How a character is written inside a segment of a key. -/
def escapeInSegment (character : Char) : List Char :=
  if character == keySeparator || character == '\\' then ['\\', character] else [character]

theorem isPrefixCode_escapeInSegment : IsPrefixCode escapeInSegment := by
  intro first second rest others same
  unfold escapeInSegment at same
  split at same <;> split at same <;> grind

theorem isPrefixCode_segment :
    IsPrefixCode fun segment => escapeSegment segment ++ [keySeparator] := by
  apply isPrefixCode_escapeInSegment.flatMap_append
  intro character
  unfold escapeInSegment
  split
  · exact ⟨'\\', [character], rfl, by decide⟩
  · next plain =>
      refine ⟨character, [], rfl, ?_⟩
      rintro rfl
      simp at plain

/-- No two lists of segments make one key. -/
theorem keyOfSegments_injective : Function.Injective keyOfSegments := by
  intro first second same
  apply isPrefixCode_segment.flatMap_injective
  · simp
  · exact String.ofList_injective same

theorem isPrefixCode_hexByte :
    IsPrefixCode fun byte : UInt8 =>
      [Nat.digitChar (byte.toNat / 16), Nat.digitChar (byte.toNat % 16)] := by
  apply IsPrefixCode.of_length 2 (fun _ => rfl)
  intro first second same
  simp only [List.cons.injEq, and_true] at same
  have digit : ∀ left < 16, ∀ right < 16,
      Nat.digitChar left = Nat.digitChar right → left = right := by
    decide
  have firstLt := first.toNat_lt
  have secondLt := second.toNat_lt
  have high := digit _ (by omega) _ (by omega) same.1
  have low := digit _ (by omega) _ (by omega) same.2
  apply UInt8.toNat_inj.mp
  omega

theorem hexBytes_injective : Function.Injective hexBytes :=
  isPrefixCode_hexByte.flatMap_injective (by simp)

end RowLog
