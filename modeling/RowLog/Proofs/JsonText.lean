import RowLog.Proofs.PrefixCodes
import RowLog.Proofs.WrittenNumbers

/-!
# Values of JSON documents and their texts

Two values with one text are the same. What follows a value inside a document starts with a comma or
a closing bracket; no number contains such a character, a string ends at its closing quote, and an
array or an object at its closing bracket. So it is clear where a value ends, whatever follows it,
and by induction on the value its text tells what it is.
-/

namespace RowLog.Json

def closers : List Char := [']', '\x7d']

/-- The characters that may follow a value inside a document. -/
def followers : List Char := ',' :: closers

/-- Whether a value of a document may end before a text. -/
def EndsValue (rest : List Char) : Prop :=
  ∀ character ∈ rest.head?, character ∈ followers

/-- Whether a value can be told by its text, whatever follows it. -/
def IsToldBy {α : Type} (code : α → List Char) (item : α) : Prop :=
  ∀ {other rest others}, EndsValue rest → EndsValue others →
    code item ++ rest = code other ++ others → item = other ∧ rest = others

section Escapes

/-- The characters that are not written as themselves inside a string. -/
def escapedChars : List Char :=
  '"' :: '\\' :: (List.range 32).map Char.ofNat

theorem escapeChar_eq_of_notMem {character : Char} (plain : character ∉ escapedChars) :
    escapeChar character = [character] := by
  have control : ¬character < ' ' := by
    intro isControl
    apply plain
    apply List.mem_cons_of_mem
    apply List.mem_cons_of_mem
    rw [List.mem_map]
    exact ⟨character.toNat, List.mem_range.mpr isControl, Char.ofNat_toNat character⟩
  have apart {other : Char} (isEscaped : other ∈ escapedChars) : (character == other) = false := by
    rw [beq_eq_false_iff_ne]
    rintro rfl
    exact plain isEscaped
  unfold escapeChar
  rw [apart (by decide), apart (by decide), apart (by decide), apart (by decide),
    apart (by decide), apart (by decide), apart (by decide)]
  simp [control]

theorem exists_escapeChar_eq {character : Char} (isEscaped : character ∈ escapedChars) :
    ∃ tail, escapeChar character = '\\' :: tail := by
  have all : (escapedChars.all fun character =>
      (escapeChar character).head? == some '\\') = true := by
    decide
  apply List.head?_eq_some_iff.mp
  simpa using List.all_eq_true.mp all character isEscaped

theorem isPrefixCode_escapeChar : IsPrefixCode escapeChar := by
  have all : (escapedChars.all fun first => escapedChars.all fun second =>
      !(escapeChar first).isPrefixOf (escapeChar second) || first == second) = true := by
    decide +kernel
  have apart : ∀ first ∈ escapedChars, ∀ second ∈ escapedChars,
      escapeChar first <+: escapeChar second → first = second := by
    intro first firstEscaped second secondEscaped before
    have row := List.all_eq_true.mp all first firstEscaped
    have same := List.all_eq_true.mp row second secondEscaped
    simpa [List.isPrefixOf_iff_prefix.mpr before] using same
  intro first second rest others same
  by_cases firstEscaped : first ∈ escapedChars
  · by_cases secondEscaped : second ∈ escapedChars
    · have firstEq : first = second := by
        rcases List.prefix_or_prefix_of_prefix (List.prefix_append _ rest)
          (same ▸ List.prefix_append _ others) with before | after
        · exact apart first firstEscaped second secondEscaped before
        · exact (apart second secondEscaped first firstEscaped after).symm
      subst firstEq
      exact ⟨rfl, List.append_cancel_left same⟩
    · rcases exists_escapeChar_eq firstEscaped with ⟨tail, firstEq⟩
      rw [firstEq, escapeChar_eq_of_notMem secondEscaped] at same
      rw [← (List.cons.inj same).1] at secondEscaped
      exact absurd (by decide) secondEscaped
  · rw [escapeChar_eq_of_notMem firstEscaped] at same
    by_cases secondEscaped : second ∈ escapedChars
    · rcases exists_escapeChar_eq secondEscaped with ⟨tail, secondEq⟩
      rw [secondEq] at same
      rw [(List.cons.inj same).1] at firstEscaped
      exact absurd (by decide) firstEscaped
    · rw [escapeChar_eq_of_notMem secondEscaped] at same
      exact List.cons.inj same

theorem isPrefixCode_stringChars : IsPrefixCode stringChars := by
  have characters : IsPrefixCode fun characters : List Char =>
      characters.flatMap escapeChar ++ ['"'] := by
    apply isPrefixCode_escapeChar.flatMap_append
    intro character
    by_cases isEscaped : character ∈ escapedChars
    · rcases exists_escapeChar_eq isEscaped with ⟨tail, wordEq⟩
      exact ⟨'\\', tail, wordEq, by decide⟩
    · refine ⟨character, [], escapeChar_eq_of_notMem isEscaped, ?_⟩
      rintro rfl
      exact isEscaped (by decide)
  intro first second rest others same
  rcases (characters.cons '"') same with ⟨textEq, restEq⟩
  exact ⟨String.toList_inj.mp textEq, restEq⟩

end Escapes

section Numbers

theorem startsWithDigit_toDigits (value : Nat) : StartsWithDigit (Nat.toDigits 10 value) :=
  (isDigits_toDigits value).startsWithDigit Nat.toDigits_ne_nil

theorem intChars_injective : Function.Injective intChars := by
  intro first second same
  rcases sign_append_inj (startsWithDigit_toDigits _) (startsWithDigit_toDigits _) same with
    ⟨sign, digitsEq⟩
  have := toDigits_injective digitsEq
  omega

theorem mem_intChars (value : Int) : ∀ character ∈ intChars value,
    character.isDigit = true ∨ character = '-' := by
  intro character characterMem
  rcases List.mem_append.mp characterMem with signMem | digitMem
  · split at signMem
    · exact .inr (List.mem_singleton.mp signMem)
    · simp at signMem
  · exact .inl (isDigits_toDigits _ character digitMem)

theorem intChars_ne_write (value : Int) (number : Binary64) :
    intChars value ≠ jsonLayout.write number := by
  intro same
  have characters := mem_intChars value
  rw [same] at characters
  rcases DecimalLayout.mark_mem_write jsonLayout rfl number with pointMem | markMem
  · exact absurd (characters '.' pointMem) (by decide)
  · exact absurd (characters 'e' markMem) (by decide)

end Numbers

section Sequences

/-- A text without a character that may follow a value is told from what follows it. -/
theorem append_inj_of_endsValue {first second rest others : List Char}
    (firstPlain : ∀ character ∈ first, character ∉ followers)
    (secondPlain : ∀ character ∈ second, character ∉ followers)
    (ends : EndsValue rest) (otherEnds : EndsValue others)
    (same : first ++ rest = second ++ others) : first = second ∧ rest = others := by
  induction first generalizing second with
  | nil =>
      cases second with
      | nil => exact ⟨rfl, same⟩
      | cons head tail =>
          rw [List.nil_append] at same
          exact absurd (ends head (by simp [same])) (secondPlain head (by simp))
  | cons head tail ih =>
      cases second with
      | nil =>
          rw [List.nil_append] at same
          exact absurd (otherEnds head (by simp [← same])) (firstPlain head (by simp))
      | cons other remaining =>
          rcases List.cons.inj same with ⟨rfl, later⟩
          rcases ih (fun character mem => firstPlain character (by simp [mem]))
            (fun character mem => secondPlain character (by simp [mem])) later with ⟨rfl, restEq⟩
          exact ⟨rfl, restEq⟩

variable {α : Type} {code : α → List Char} {stop : Char}

theorem endsValue_cons {character : Char} (isEnd : character ∈ followers)
    (rest : List Char) : EndsValue (character :: rest) := by
  intro head headMem
  rw [← Option.some.inj headMem]
  exact isEnd

theorem endsValue_further (stops : stop ∈ closers) (words : List (List Char))
    (rest : List Char) : EndsValue (words.flatMap (fun next => ',' :: next) ++ stop :: rest) := by
  cases words with
  | nil => exact endsValue_cons (List.mem_cons_of_mem _ stops) rest
  | cons word words => exact endsValue_cons (by decide) _

theorem further_append_inj {items others : List α} {rest remaining : List Char}
    (stops : stop ∈ closers) (told : ∀ item ∈ items, IsToldBy code item)
    (same : (items.map code).flatMap (fun next => ',' :: next) ++ stop :: rest =
      (others.map code).flatMap (fun next => ',' :: next) ++ stop :: remaining) :
    items = others ∧ rest = remaining := by
  have notComma : stop ≠ ',' := by
    rintro rfl
    exact absurd stops (by decide)
  induction items generalizing others with
  | nil =>
      cases others with
      | nil => exact ⟨rfl, (List.cons.inj same).2⟩
      | cons other others => exact absurd (List.cons.inj same).1 notComma
  | cons item items ih =>
      cases others with
      | nil => exact absurd (List.cons.inj same).1.symm notComma
      | cons other others =>
          simp only [List.map_cons, List.flatMap_cons, List.cons_append, List.append_assoc,
            List.cons.injEq, true_and] at same
          rcases told item (by simp) (endsValue_further stops _ rest)
            (endsValue_further stops _ remaining) same with ⟨rfl, later⟩
          rcases ih (fun item itemMem => told item (by simp [itemMem])) later with ⟨rfl, restEq⟩
          exact ⟨rfl, restEq⟩

/-- Items between commas and up to a closing bracket are told if each of them is. -/
theorem separated_append_inj {items others : List α} {rest remaining : List Char}
    (stops : stop ∈ closers) (told : ∀ item ∈ items, IsToldBy code item)
    (opens : ∀ item, ∃ head tail, code item = head :: tail ∧ head ≠ stop)
    (same : separated (items.map code) ++ stop :: rest =
      separated (others.map code) ++ stop :: remaining) :
    items = others ∧ rest = remaining := by
  have starts (item : α) (words : List (List Char)) (after before : List Char) :
      separated (code item :: words) ++ after ≠ stop :: before := by
    rcases opens item with ⟨head, tail, wordEq, headNe⟩
    intro same
    rw [separated, wordEq] at same
    exact headNe (List.cons.inj same).1
  cases items with
  | nil =>
      cases others with
      | nil => exact ⟨rfl, (List.cons.inj same).2⟩
      | cons other others => exact absurd same.symm (starts other _ _ _)
  | cons item items =>
      cases others with
      | nil => exact absurd same (starts item _ _ _)
      | cons other others =>
          simp only [List.map_cons, separated, List.append_assoc] at same
          rcases told item (by simp) (endsValue_further stops _ rest)
            (endsValue_further stops _ remaining) same with ⟨rfl, later⟩
          rcases further_append_inj stops (fun item itemMem => told item (by simp [itemMem])) later
            with ⟨rfl, restEq⟩
          exact ⟨rfl, restEq⟩

end Sequences

namespace Value

theorem itemChars_eq_map (items : List Value) : itemChars items = items.map chars := by
  induction items with
  | nil => rfl
  | cons item rest ih => rw [itemChars, ih, List.map_cons]

theorem memberChars_eq_map (members : List (String × Value)) :
    memberChars members = members.map fun member => (member.1, chars member.2) := by
  induction members with
  | nil => rfl
  | cons member rest ih => rw [memberChars, ih, List.map_cons]

/-- What the first character of a text tells of the value there: `t` stands for both truth values,
and no character for all numbers. -/
def openingOf (head : Char) : Option Char :=
  if head.isDigit ∨ head = '-' then none else if head = 'f' then some 't' else some head

def opening : Value → Option Char
  | .null => some 'n'
  | .bool _ => some 't'
  | .integer _ => none
  | .float _ => none
  | .string _ => some '"'
  | .array _ => some '['
  | .object _ => some '\x7b'

theorem exists_chars_eq (value : Value) :
    ∃ head tail, value.chars = head :: tail ∧ openingOf head = value.opening := by
  have number {negative : Prop} [Decidable negative] {digits : List Char}
      (starts : StartsWithDigit digits) :
      ∃ head tail, (if negative then ['-'] else []) ++ digits = head :: tail ∧
        openingOf head = none := by
    rcases starts with ⟨head, tail, rfl, isDigit⟩
    split
    · exact ⟨'-', head :: tail, rfl, rfl⟩
    · exact ⟨head, tail, rfl, if_pos (.inl isDigit)⟩
  cases value with
  | null => exact ⟨'n', _, rfl, rfl⟩
  | bool value =>
      cases value with
      | true => exact ⟨'t', _, rfl, rfl⟩
      | false => exact ⟨'f', _, rfl, rfl⟩
  | integer value => exact number (startsWithDigit_toDigits _)
  | float value =>
      rcases DecimalLayout.exists_writtenNumber_eq jsonLayout value with ⟨text, textEq, starts, -⟩
      rw [chars, textEq]
      exact number starts
  | string text => exact ⟨'"', _, rfl, rfl⟩
  | array items => exact ⟨'[', _, rfl, rfl⟩
  | object members => exact ⟨'\x7b', _, rfl, rfl⟩

theorem exists_chars_eq_ne (value : Value) {stop : Char} (stops : stop ∈ closers) :
    ∃ head tail, value.chars = head :: tail ∧ head ≠ stop := by
  rcases exists_chars_eq value with ⟨head, tail, charsEq, openingEq⟩
  refine ⟨head, tail, charsEq, ?_⟩
  rintro rfl
  simp only [closers, List.mem_cons, List.not_mem_nil, or_false] at stops
  rcases stops with rfl | rfl
  · cases value <;> simp [opening, openingOf] at openingEq
  · cases value <;> simp [opening, openingOf] at openingEq

variable {value other : Value} {rest others : List Char}

theorem opening_eq (same : value.chars ++ rest = other.chars ++ others) :
    value.opening = other.opening := by
  rcases exists_chars_eq value with ⟨head, tail, charsEq, openingEq⟩
  rcases exists_chars_eq other with ⟨otherHead, otherTail, otherEq, otherOpening⟩
  rw [charsEq, otherEq] at same
  rw [← openingEq, ← otherOpening, (List.cons.inj same).1]

theorem chars_plain_of_number (number : value.opening = none) :
    ∀ character ∈ value.chars, character ∉ followers := by
  have characters : ∀ character ∈ value.chars, DecimalLayout.IsNumberChar character := by
    intro character characterMem
    cases value with
    | integer value =>
        rcases mem_intChars _ character characterMem with isDigit | rfl
        · exact .inl isDigit
        · exact .inr (by decide)
    | float value => exact DecimalLayout.mem_write jsonLayout value character characterMem
    | _ => simp [opening] at number
  intro character characterMem isEnd
  have isNumber := characters character characterMem
  simp only [followers, closers, List.mem_cons, List.not_mem_nil, or_false] at isEnd
  rcases isEnd with rfl | rfl | rfl <;> exact absurd isNumber (by decide)

/-- Integers and floating-point numbers have texts of their own. -/
theorem eq_of_number (number : value.opening = none) (otherNumber : other.opening = none)
    (same : value.chars = other.chars) : value = other := by
  cases value with
  | integer value =>
      cases other with
      | integer other =>
          have valueEq : value.value = other.value := intChars_injective same
          cases value
          cases other
          simpa using valueEq
      | float other => exact absurd same (intChars_ne_write _ _)
      | _ => simp [opening] at otherNumber
  | float value =>
      cases other with
      | integer other => exact absurd same.symm (intChars_ne_write _ _)
      | float other => rw [DecimalLayout.write_injective jsonLayout same]
      | _ => simp [opening] at otherNumber
  | _ => simp [opening] at number

theorem isToldBy_of_number (number : value.opening = none) : IsToldBy chars value := by
  intro other rest others ends otherEnds same
  have otherNumber : other.opening = none := (opening_eq same).symm.trans number
  rcases append_inj_of_endsValue (chars_plain_of_number number) (chars_plain_of_number otherNumber)
    ends otherEnds same with ⟨charsEq, restEq⟩
  exact ⟨eq_of_number number otherNumber charsEq, restEq⟩

theorem isToldBy_member {member : String × Value} (told : IsToldBy chars member.2) :
    IsToldBy (fun member : String × Value => stringChars member.1 ++ ':' :: chars member.2)
      member := by
  intro other rest others ends otherEnds same
  simp only [List.append_assoc] at same
  rcases isPrefixCode_stringChars same with ⟨nameEq, later⟩
  rcases told ends otherEnds (List.cons.inj later).2 with ⟨valueEq, restEq⟩
  exact ⟨Prod.ext nameEq valueEq, restEq⟩

theorem isToldBy_null : IsToldBy chars null := by
  intro other rest others _ _ same
  have opened := opening_eq same
  cases other with
  | null => exact ⟨rfl, List.append_cancel_left same⟩
  | _ => simp [opening] at opened

theorem isToldBy_bool (value : Bool) : IsToldBy chars (.bool value) := by
  intro other rest others _ _ same
  have opened := opening_eq same
  cases other with
  | bool other =>
      have valueEq : value = other := by
        cases value <;> cases other
        · rfl
        · simp [chars] at same
        · simp [chars] at same
        · rfl
      subst valueEq
      exact ⟨rfl, List.append_cancel_left same⟩
  | _ => simp [opening] at opened

theorem isToldBy_string (text : String) : IsToldBy chars (.string text) := by
  intro other rest others _ _ same
  have opened := opening_eq same
  cases other with
  | string otherText =>
      rcases isPrefixCode_stringChars same with ⟨rfl, restEq⟩
      exact ⟨rfl, restEq⟩
  | _ => simp [opening] at opened

theorem isToldBy_array {items : List Value} (told : ∀ item ∈ items, IsToldBy chars item) :
    IsToldBy chars (.array items) := by
  intro other rest others _ _ same
  have opened := opening_eq same
  cases other with
  | array remaining =>
      simp only [chars, arrayChars, itemChars_eq_map, List.cons_append, List.append_assoc,
        List.nil_append, List.cons.injEq, true_and] at same
      have stops : ']' ∈ closers := by decide
      rcases separated_append_inj stops told (fun item => exists_chars_eq_ne item stops) same
        with ⟨rfl, restEq⟩
      exact ⟨rfl, restEq⟩
  | _ => simp [opening] at opened

theorem isToldBy_object {members : List (String × Value)}
    (told : ∀ member ∈ members, IsToldBy chars member.2) : IsToldBy chars (.object members) := by
  intro other rest others _ _ same
  have opened := opening_eq same
  cases other with
  | object remaining =>
      simp only [chars, objectChars, memberChars_eq_map, List.map_map, List.cons_append,
        List.append_assoc, List.nil_append, List.cons.injEq, true_and] at same
      have stops : '\x7d' ∈ closers := by decide
      rcases separated_append_inj stops
        (fun member memberMem => isToldBy_member (told member memberMem))
        (fun member => ⟨'"', _, rfl, by decide⟩) same with ⟨rfl, restEq⟩
      exact ⟨rfl, restEq⟩
  | _ => simp [opening] at opened

theorem isToldBy_chars : ∀ value : Value, IsToldBy chars value
  | .null => isToldBy_null
  | .bool value => isToldBy_bool value
  | .integer _ => isToldBy_of_number rfl
  | .float _ => isToldBy_of_number rfl
  | .string text => isToldBy_string text
  | .array _ => isToldBy_array fun item _ => isToldBy_chars item
  | .object _ => isToldBy_object fun member _ => isToldBy_chars member.2
termination_by value => sizeOf value
decreasing_by
  · have := List.sizeOf_lt_of_mem ‹item ∈ _›
    simp only [array.sizeOf_spec]
    omega
  · have := List.sizeOf_lt_of_mem ‹member ∈ _›
    rcases member with ⟨name, value⟩
    simp only [object.sizeOf_spec, Prod.mk.sizeOf_spec] at this ⊢
    omega

/-- Values with one text are the same. -/
theorem chars_injective : Function.Injective chars := by
  intro value other same
  have ends : EndsValue [] := by simp [EndsValue]
  exact (isToldBy_chars value ends ends (by rw [same])).1

end Value

end RowLog.Json
