import RowLog.Proofs.Lists
import RowLog.Proofs.PrintedTokens

/-!
# Line breaks, blanks and comments between tokens

A text that is split into whole tokens has nothing left open except a comment to the end of its
line, so what follows a line break behind it is split as if it stood alone. Blanks and whole
comments there change nothing, neither in the tokens nor in the statement that is read, and on the
same line they do what a line break does. Main statement: `Token.scan_lines_and_read_gap`.
-/

namespace RowLog.Schema

section

variable {text after rest : List Char} {next : Char}

theorem afterComment_append (found : afterComment text = some after) (rest : List Char) :
    afterComment (text ++ rest) = some (after ++ rest) := by
  fun_induction afterComment text with
  | case1 remaining =>
      rw [Option.some.injEq] at found
      rw [List.cons_append, List.cons_append, afterComment, found]
  | case2 first remaining noEnd ih =>
      have later := ih found
      rw [List.cons_append, afterComment]
      · exact later
      · intro others starts remainingEq
        cases remaining with
        | nil => contradiction
        | cons second others =>
            rw [List.cons_append, List.cons.injEq] at remainingEq
            exact noEnd others starts (by rw [remainingEq.1])
  | case3 => contradiction

/-- The mark that ends a comment is found where it first stands. -/
theorem afterComment_of_notInfix (noEnd : ¬['*', '/'] <:+: text) (rest : List Char) :
    afterComment (text ++ '*' :: '/' :: rest) = some rest := by
  induction text with
  | nil => rfl
  | cons first text ih =>
      have later := ih fun inside => noEnd (List.infix_cons inside)
      rw [List.cons_append, afterComment]
      · exact later
      · intro others starts textEq
        cases text with
        | nil => simp at textEq
        | cons second text =>
            rw [List.cons_append, List.cons.injEq] at textEq
            apply noEnd
            rw [starts, textEq.1]
            exact ⟨[], text, rfl⟩

theorem afterComment_suffix (found : afterComment text = some after) : after <:+ text := by
  fun_induction afterComment text with
  | case1 remaining =>
      rw [Option.some.injEq] at found
      rw [found]
      exact (List.suffix_cons _ _).trans (List.suffix_cons _ _)
  | case2 first remaining noEnd ih => exact (ih found).trans (List.suffix_cons _ _)
  | case3 => contradiction

theorem afterLine_eq_nil (noEnd : '\n' ∉ text) : afterLine text = [] := by
  have passed : ∀ letter ∈ text, (letter != '\n') = true := by
    intro letter letterMem
    simpa using ne_of_mem_of_not_mem letterMem noEnd
  rw [← List.append_nil text, afterLine, List.dropWhile_append_of_pos passed]
  rfl

theorem afterLine_append (ended : '\n' ∉ text → next = '\n') (rest : List Char) :
    afterLine (text ++ next :: rest) = afterLine text ++ next :: rest := by
  induction text with
  | nil =>
      rw [ended (by simp)]
      rfl
  | cons first text ih =>
      by_cases isBreak : first = '\n'
      · simp [afterLine, isBreak]
      · have later := ih fun noBreak => ended (by simp [Ne.symm isBreak, noBreak])
        simpa [afterLine, isBreak] using later

/-- One more character of a name or literal is read before the others. -/
theorem exists_of_map_cons {scanned : Option (List Char × List Char)} {first : Char}
    {found : List Char}
    (mapped : (scanned.map fun parts => (first :: parts.1, parts.2)) = some (found, after)) :
    ∃ others, scanned = some (others, after) ∧ found = first :: others := by
  rcases Option.map_eq_some_iff.mp mapped with ⟨⟨others, remaining⟩, scannedEq, parts⟩
  rw [Prod.mk.injEq] at parts
  exact ⟨others, by rw [scannedEq, ← parts.2], parts.1.symm⟩

theorem scanName_suffix {name : List Char} (found : scanName text = some (name, after)) :
    after <:+ text := by
  fun_induction scanName text generalizing name with
  | case1 => contradiction
  | case2 first isQuote second remaining doubled ih =>
      rcases exists_of_map_cons found with ⟨others, later, rfl⟩
      exact (ih later).trans ((List.suffix_cons _ _).trans (List.suffix_cons _ _))
  | case3 first isQuote second remaining single =>
      rw [Option.some.injEq, Prod.mk.injEq] at found
      rw [← found.2]
      exact List.suffix_cons _ _
  | case4 first isQuote =>
      rw [Option.some.injEq, Prod.mk.injEq] at found
      rw [← found.2]
      exact List.nil_suffix
  | case5 first remaining noQuote ih =>
      rcases exists_of_map_cons found with ⟨others, later, rfl⟩
      exact (ih later).trans (List.suffix_cons _ _)

theorem scanName_append {name : List Char} (found : scanName text = some (name, after))
    (stops : rest.head? ≠ some nameQuote) :
    scanName (text ++ rest) = some (name, after ++ rest) := by
  fun_induction scanName text generalizing name with
  | case1 => contradiction
  | case2 first isQuote second remaining doubled ih =>
      rcases exists_of_map_cons found with ⟨others, later, rfl⟩
      simp [scanName, isQuote, doubled, ih later]
  | case3 first isQuote second remaining single =>
      rw [Option.some.injEq, Prod.mk.injEq] at found
      simp [scanName, isQuote, single, ← found.1, ← found.2]
  | case4 first isQuote =>
      rw [Option.some.injEq, Prod.mk.injEq] at found
      cases rest with
      | nil => simp [scanName, isQuote, ← found.1, ← found.2]
      | cons next rest =>
          have differs : next ≠ nameQuote := by simpa using stops
          simp [scanName, isQuote, differs, ← found.1, ← found.2]
  | case5 first remaining noQuote ih =>
      rcases exists_of_map_cons found with ⟨others, later, rfl⟩
      rw [List.cons_append, scanName.eq_def]
      simp [noQuote, ih later]

theorem scanLiteral_suffix {quote : Char} {literal : List Char}
    (found : scanLiteral quote text = some (literal, after)) : after <:+ text := by
  fun_induction scanLiteral quote text generalizing literal with
  | case1 => contradiction
  | case2 first isBackslash escaped remaining ih =>
      rcases exists_of_map_cons found with ⟨others, later, rfl⟩
      exact (ih later).trans ((List.suffix_cons _ _).trans (List.suffix_cons _ _))
  | case3 => contradiction
  | case4 first noBackslash isQuote second remaining doubled ih =>
      rcases exists_of_map_cons found with ⟨others, later, rfl⟩
      exact (ih later).trans ((List.suffix_cons _ _).trans (List.suffix_cons _ _))
  | case5 first noBackslash isQuote second remaining single =>
      rw [Option.some.injEq, Prod.mk.injEq] at found
      rw [← found.2]
      exact List.suffix_cons _ _
  | case6 first noBackslash isQuote =>
      rw [Option.some.injEq, Prod.mk.injEq] at found
      rw [← found.2]
      exact List.nil_suffix
  | case7 first remaining noBackslash noQuote ih =>
      rcases exists_of_map_cons found with ⟨others, later, rfl⟩
      exact (ih later).trans (List.suffix_cons _ _)

theorem scanLiteral_append {quote : Char} {literal : List Char}
    (found : scanLiteral quote text = some (literal, after)) (stops : rest.head? ≠ some quote) :
    scanLiteral quote (text ++ rest) = some (literal, after ++ rest) := by
  fun_induction scanLiteral quote text generalizing literal with
  | case1 => contradiction
  | case2 first isBackslash escaped remaining ih =>
      rcases exists_of_map_cons found with ⟨others, later, rfl⟩
      simp [scanLiteral, isBackslash, ih later]
  | case3 => contradiction
  | case4 first noBackslash isQuote second remaining doubled ih =>
      rcases exists_of_map_cons found with ⟨others, later, rfl⟩
      simp [scanLiteral, noBackslash, isQuote, doubled, ih later]
  | case5 first noBackslash isQuote second remaining single =>
      rw [Option.some.injEq, Prod.mk.injEq] at found
      simp [scanLiteral, noBackslash, isQuote, single, ← found.1, ← found.2]
  | case6 first noBackslash isQuote =>
      rw [Option.some.injEq, Prod.mk.injEq] at found
      cases rest with
      | nil => simp [scanLiteral, noBackslash, isQuote, ← found.1, ← found.2]
      | cons next rest =>
          have differs : next ≠ quote := by simpa using stops
          simp [scanLiteral, noBackslash, isQuote, differs, ← found.1, ← found.2]
  | case7 first remaining noBackslash noQuote ih =>
      rcases exists_of_map_cons found with ⟨others, later, rfl⟩
      rw [List.cons_append, scanLiteral.eq_def]
      simp [noBackslash, noQuote, ih later]

theorem splitWord_append (noWord : isWordChar next = false) (text rest : List Char) :
    (text ++ next :: rest).takeWhile isWordChar = text.takeWhile isWordChar ∧
      (text ++ next :: rest).dropWhile isWordChar =
        text.dropWhile isWordChar ++ next :: rest := by
  induction text with
  | nil => simp [noWord]
  | cons first text ih =>
      cases isWord : isWordChar first with
      | true => simp [isWord, ih]
      | false => simp [isWord]

end

/-- Whether a character belongs to no token that starts before it, whichever this is. -/
structure EndsToken (next : Char) : Prop where
  noWord : isWordChar next = false
  noQuote : next ∉ [nameQuote, '\'', '"']
  noStar : next ≠ '*'

namespace Token

variable {first next : Char} {text after : List Char} {token : Option Token}

/-- Whether a comment to the end of the line is open at the end of a text. -/
def endsInComment : List Char → Bool
  | [] => false
  | first :: rest =>
      match found : scanOne first rest with
      | .ok (token, after) =>
          have := length_scanOne found
          token.isNone && after.isEmpty && (first == '#' || first == '-') || endsInComment after
      | .error _ => false
termination_by text => text.length

theorem endsInComment_cons (scanned : scanOne first text = .ok (token, after)) :
    endsInComment (first :: text) =
      (token.isNone && after.isEmpty && (first == '#' || first == '-') || endsInComment after) := by
  rw [endsInComment]
  split
  · next otherScanned =>
      rw [scanned, Except.ok.injEq, Prod.mk.injEq] at otherScanned
      rw [otherScanned.1, otherScanned.2]
  · next failed =>
      rw [scanned] at failed
      contradiction

theorem endsInComment_of_line (scanned : scanOne first text = .ok (none, []))
    (opens : (first == '#' || first == '-' && text.head? == some '-') = true) :
    endsInComment (first :: text) = true := by
  simp only [Bool.or_eq_true, Bool.and_eq_true] at opens
  rcases opens with hash | ⟨dash, -⟩
  · simp [endsInComment_cons scanned, hash]
  · simp [endsInComment_cons scanned, dash]

/-- What is read at the start of a text ends before a character behind the text, if this ends a
token. -/
theorem scanOne_append (scanned : scanOne first text = .ok (token, after)) (ends : EndsToken next)
    (apart : (first :: text).getLast? = some '-' → next ≠ '-')
    (closed : endsInComment (first :: text) = true → next = '\n') (rest : List Char) :
    scanOne first (text ++ next :: rest) = .ok (token, after ++ next :: rest) := by
  -- The character does not open a comment together with the one before it.
  have dashes : (first == '-' && (text ++ next :: rest).head? == some '-') =
      (first == '-' && text.head? == some '-') := by
    cases text with
    | nil =>
        have noDash (isDash : first = '-') : next ≠ '-' := apart (by rw [isDash]; rfl)
        simpa using noDash
    | cons second text => rfl
  have star : ((text ++ next :: rest).head? == some '*') = (text.head? == some '*') := by
    cases text with
    | nil => simpa using ends.noStar
    | cons second text => rfl
  have one := scanned
  unfold scanOne at scanned ⊢
  rw [dashes, star]
  repeat' split at scanned
  all_goals simp only [Except.ok.injEq, Prod.mk.injEq, reduceCtorEq] at scanned
  all_goals rcases scanned with ⟨rfl, rfl⟩
  · next isBlank => simp [isBlank]
  · next noBlank isLine =>
      have ended (noEnd : '\n' ∉ text) : next = '\n' := by
        rw [afterLine_eq_nil noEnd] at one
        exact closed (endsInComment_of_line one isLine)
      simp [noBlank, isLine, afterLine_append ended]
  · next noBlank noLine isBlock _ _ found =>
      have notEmpty : text ≠ [] := by
        rintro rfl
        simp at isBlock
      simp [noBlank, noLine, isBlock, List.tail_append_of_ne_nil notEmpty,
        afterComment_append found]
  · next noBlank noLine noBlock isName _ _ _ found =>
      have stops : (next :: rest).head? ≠ some nameQuote := fun same =>
        ends.noQuote (by simp [Option.some.inj same])
      simp [noBlank, noLine, noBlock, isName, scanName_append found stops]
  · next noBlank noLine noBlock noName isQuote _ _ _ found =>
      have stops : (next :: rest).head? ≠ some first := by
        intro same
        rw [Bool.or_eq_true, beq_iff_eq, beq_iff_eq] at isQuote
        apply ends.noQuote
        rcases isQuote with rfl | rfl
        · simp [Option.some.inj same]
        · simp [Option.some.inj same]
      simp [noBlank, noLine, noBlock, noName, isQuote, scanLiteral_append found stops]
  · next noBlank noLine noBlock noName noQuote isWord =>
      simp [noBlank, noLine, noBlock, noName, noQuote, isWord,
        splitWord_append ends.noWord text rest]
  · next noBlank noLine noBlock noName noQuote noWord =>
      simp [noBlank, noLine, noBlock, noName, noQuote, noWord]

theorem scanOne_suffix (scanned : scanOne first text = .ok (token, after)) : after <:+ text := by
  unfold scanOne at scanned
  repeat' split at scanned
  all_goals simp only [Except.ok.injEq, Prod.mk.injEq, reduceCtorEq] at scanned
  all_goals rcases scanned with ⟨rfl, rfl⟩
  · exact List.suffix_refl _
  · exact List.dropWhile_suffix _
  · next found => exact (afterComment_suffix found).trans (List.tail_suffix text)
  · next found => exact scanName_suffix found
  · next found => exact scanLiteral_suffix found
  · exact List.dropWhile_suffix _
  · exact List.suffix_refl _

/-- The first token of a text that is split, with the others. -/
theorem exists_scanOne_of_scan {tokens : List Token} (scanned : scan (first :: text) = .ok tokens) :
    ∃ token after later, scanOne first text = .ok (token, after) ∧ scan after = .ok later ∧
      tokens = token.toList ++ later := by
  cases one : scanOne first text with
  | error error =>
      rw [scan_cons_error one] at scanned
      contradiction
  | ok parts =>
      rcases parts with ⟨token, after⟩
      rw [scan_cons one, map_eq_ok_iff] at scanned
      rcases scanned with ⟨later, laterEq, tokensEq⟩
      exact ⟨token, after, later, rfl, laterEq, tokensEq.symm⟩

/-- What is no token is left out. -/
theorem scan_of_none (scanned : scanOne first text = .ok (none, after)) :
    scan (first :: text) = scan after := by
  rw [scan_cons scanned]
  cases scan after <;> rfl

theorem scan_line_break (rest : List Char) : scan ('\n' :: rest) = scan rest :=
  scan_of_none rfl

/-- Whole tokens are split apart from what stands behind them, if this starts with a character that
belongs neither to the last token nor to a comment that is open or opens with it. -/
theorem scan_append {tokens : List Token} (scanned : scan text = .ok tokens)
    (ends : EndsToken next) (apart : text.getLast? = some '-' → next ≠ '-')
    (closed : endsInComment text = true → next = '\n') (rest : List Char) :
    scan (text ++ next :: rest) = (scan (next :: rest)).map (tokens ++ ·) := by
  induction length : text.length using Nat.strongRecOn generalizing text tokens with
  | ind size ih =>
      cases text with
      | nil =>
          rw [scan, Except.ok.injEq] at scanned
          rw [List.nil_append, ← scanned]
          cases scan (next :: rest) <;> rfl
      | cons first text =>
          rcases exists_scanOne_of_scan scanned with ⟨token, after, later, one, laterEq, rfl⟩
          have shorter := length_scanOne one
          rw [List.length_cons] at length
          have lastApart : after.getLast? = some '-' → next ≠ '-' := by
            intro last
            apply apart
            rcases scanOne_suffix one with ⟨before, rfl⟩
            simp [List.getLast?_cons, List.getLast?_append, last]
          have lastClosed (opened : endsInComment after = true) : next = '\n' := by
            apply closed
            rw [endsInComment_cons one, opened, Bool.or_true]
          rw [List.cons_append, scan_cons (scanOne_append one ends apart closed rest),
            ih after.length (by omega) laterEq lastApart lastClosed rfl]
          cases scan (next :: rest) with
          | error error => rfl
          | ok tokens => simp [Except.map]

/-- Behind a line break after whole tokens, a text is split as if it stood alone. -/
theorem scan_append_line_break {tokens : List Token} (scanned : scan text = .ok tokens)
    (rest : List Char) :
    scan (text ++ '\n' :: rest) = (scan rest).map (tokens ++ ·) := by
  have ends : EndsToken '\n' := ⟨by decide +kernel, by decide, by decide⟩
  rw [scan_append scanned ends (fun _ => by decide) (fun _ => rfl), scan_line_break]

/-- A text of blanks and whole comments. -/
inductive IsGap : List Char → Prop
  | nil : IsGap []
  | blank {character : Char} {rest : List Char} (isBlank : isBlank character = true)
      (gap : IsGap rest) : IsGap (character :: rest)
  | line {opening comment rest : List Char} (opens : opening ∈ [['#'], ['-', '-']])
      (noEnd : '\n' ∉ comment) (gap : IsGap rest) : IsGap (opening ++ comment ++ '\n' :: rest)
  | block {comment rest : List Char} (noEnd : ¬['*', '/'] <:+: comment) (gap : IsGap rest) :
      IsGap (['/', '*'] ++ comment ++ ['*', '/'] ++ rest)

theorem scan_gap_append (gap : IsGap text) (rest : List Char) :
    scan (text ++ rest) = scan rest := by
  induction gap with
  | nil => rfl
  | @blank character text isBlank gap ih =>
      have scanned : scanOne character (text ++ rest) = .ok (none, text ++ rest) := by
        simp [scanOne, isBlank]
      rw [List.cons_append, scan_of_none scanned, ih]
  | @line opening comment text opens noEnd gap ih =>
      have ended : afterLine (comment ++ '\n' :: (text ++ rest)) = '\n' :: (text ++ rest) := by
        rw [afterLine_append fun _ => rfl, afterLine_eq_nil noEnd]
        rfl
      have opened : scan (opening ++ (comment ++ '\n' :: (text ++ rest))) =
          scan ('\n' :: (text ++ rest)) := by
        simp only [List.mem_cons, List.not_mem_nil, or_false] at opens
        rcases opens with rfl | rfl
        · exact (scan_of_none rfl).trans (congrArg scan ended)
        · exact (scan_of_none rfl).trans (congrArg scan ended)
      rw [List.append_assoc, List.append_assoc, List.cons_append, opened, scan_line_break, ih]
  | @block comment text noEnd gap ih =>
      have ended := afterComment_of_notInfix noEnd (text ++ rest)
      have opened : scan ('/' :: '*' :: (comment ++ '*' :: '/' :: (text ++ rest))) =
          scan (text ++ rest) := by
        apply scan_of_none
        have noBlank : isBlank '/' = false := by decide +kernel
        simp [scanOne, noBlank, ended]
      simpa [ih] using opened

/-- What starts with a blank or a comment ends the token before it. -/
theorem IsGap.endsToken (gap : IsGap (next :: after)) : EndsToken next := by
  generalize textEq : next :: after = text at gap
  cases gap with
  | nil => contradiction
  | @blank character text isBlank gap =>
      rw [(List.cons.inj textEq).1]
      have differs {sign : Char} (noBlank : RowLog.isBlank sign = false) : character ≠ sign := by
        rintro rfl
        rw [noBlank] at isBlank
        contradiction
      refine ⟨?_, ?_, differs (by decide +kernel)⟩
      · cases isWord : isWordChar character with
        | false => rfl
        | true => simp [isBlank_eq_false_of_isWordChar isWord] at isBlank
      · intro isQuote
        simp only [List.mem_cons, List.not_mem_nil, or_false] at isQuote
        rcases isQuote with same | same | same
        · exact differs (by decide +kernel) same
        · exact differs (by decide +kernel) same
        · exact differs (by decide +kernel) same
  | @line opening comment text opens noEnd gap =>
      simp only [List.mem_cons, List.not_mem_nil, or_false] at opens
      rcases opens with rfl | rfl
      · rw [(List.cons.inj textEq).1]
        exact ⟨by decide +kernel, by decide, by decide⟩
      · rw [(List.cons.inj textEq).1]
        exact ⟨by decide +kernel, by decide, by decide⟩
  | block noEnd gap =>
      rw [(List.cons.inj textEq).1]
      exact ⟨by decide +kernel, by decide, by decide⟩

/-- Blanks and comments may follow a token on its line. -/
theorem scan_append_of_isGap {between : List Char} {tokens : List Token}
    (scanned : scan text = .ok tokens) (gap : IsGap between) (notEmpty : between ≠ [])
    (closed : endsInComment text = false)
    (apart : text.getLast? = some '-' → between.head? ≠ some '-') (rest : List Char) :
    scan (text ++ (between ++ rest)) = (scan rest).map (tokens ++ ·) := by
  cases between with
  | nil => contradiction
  | cons next others =>
      have isApart : text.getLast? = some '-' → next ≠ '-' := by
        intro last isDash
        exact apart last (by rw [isDash]; rfl)
      have isClosed : endsInComment text = true → next = '\n' := by
        intro opened
        rw [closed] at opened
        contradiction
      rw [← scan_gap_append gap rest]
      exact scan_append scanned gap.endsToken isApart isClosed (others ++ rest)

/-- Behind whole tokens and a line break, a text is split as if it stood alone, into its tokens or
with its error. Blanks and whole comments in between change neither the tokens nor the statement
that is read. On the line of the tokens they do the same, unless a comment to the end of the line
is open there or a dash stands right before the dashes of theirs. -/
theorem scan_lines_and_read_gap {first : String} {tokens : List Token}
    (scanned : scan first.toList = .ok tokens) (rest : String) :
    scan (first ++ "\n" ++ rest).toList = (scan rest.toList).map (tokens ++ ·) ∧
      (∀ gap : String, IsGap gap.toList →
        scan (first ++ "\n" ++ gap ++ rest).toList = scan (first ++ "\n" ++ rest).toList ∧
          Ddl.read (first ++ "\n" ++ gap ++ rest) = Ddl.read (first ++ "\n" ++ rest)) ∧
      ∀ gap : String, IsGap gap.toList → gap ≠ "" → endsInComment first.toList = false →
        (first.toList.getLast? = some '-' → gap.toList.head? ≠ some '-') →
        scan (first ++ gap ++ rest).toList = scan (first ++ "\n" ++ rest).toList ∧
          Ddl.read (first ++ gap ++ rest) = Ddl.read (first ++ "\n" ++ rest) := by
  have lines (rest : String) :
      scan (first ++ "\n" ++ rest).toList = (scan rest.toList).map (tokens ++ ·) := by
    simpa using scan_append_line_break scanned rest.toList
  have read_eq {text other : String} (same : scan text.toList = scan other.toList) :
      Ddl.read text = Ddl.read other := by
    rw [Ddl.read, Ddl.read, same]
  refine ⟨lines rest, ?_, ?_⟩
  · intro gap isGap
    have same : scan (first ++ "\n" ++ gap ++ rest).toList =
        scan (first ++ "\n" ++ rest).toList := by
      rw [String.append_assoc, lines, lines, String.toList_append, scan_gap_append isGap]
    exact ⟨same, read_eq same⟩
  · intro gap isGap notEmpty closed apart
    have same : scan (first ++ gap ++ rest).toList = scan (first ++ "\n" ++ rest).toList := by
      rw [lines, String.append_assoc, String.toList_append, String.toList_append]
      exact scan_append_of_isGap scanned isGap (by simpa using notEmpty) closed apart _
    exact ⟨same, read_eq same⟩

/-- The first line ends in a comment with a quote in it. Behind it stand a block comment with stars,
a blank and a comment to the end of the line. The same may stand on the first line if this has no
comment. -/
theorem scan_lines_and_read_gap_of_open_comment :
    let start := "use `a``b`; create table t"
    let first := start ++ " -- it's"
    let gap := "/**;**/\t#*/ '\n"
    let rest := "(x int)"
    let tokens : List Token :=
      [.word "use", .quoted "a`b", .punct ';', .word "create", .word "table", .word "t"]
    let ddl : Ddl := ⟨some "a`b", .createTable ⟨none, "t"⟩ false [⟨"x", false, false, false⟩] []⟩
    scan first.toList = .ok tokens ∧ IsGap gap.toList ∧
      scan (first ++ "\n" ++ rest).toList =
        .ok (tokens ++ [.punct '(', .word "x", .word "int", .punct ')']) ∧
      Ddl.read (first ++ "\n" ++ gap ++ rest) = .ok ddl ∧
      scan start.toList = .ok tokens ∧ endsInComment start.toList = false ∧
      Ddl.read (start ++ gap ++ rest) = .ok ddl := by
  intro start first gap rest tokens ddl
  have scanned : scan first.toList = .ok tokens := by decide +kernel
  have startScanned : scan start.toList = .ok tokens := by decide +kernel
  have closed : endsInComment start.toList = false := by decide +kernel
  have isGap : IsGap gap.toList := by
    have parts : gap.toList = ['/', '*'] ++ ['*', ';', '*'] ++ ['*', '/'] ++
        '\t' :: (['#'] ++ ['*', '/', ' ', '\''] ++ '\n' :: []) := by
      decide
    rw [parts]
    exact .block (by decide) (.blank (by decide) (.line (by simp) (by decide) .nil))
  rcases scan_lines_and_read_gap scanned rest with ⟨lines, gaps, -⟩
  rcases scan_lines_and_read_gap startScanned rest with ⟨-, -, sameLine⟩
  have split : scan rest.toList = .ok [.punct '(', .word "x", .word "int", .punct ')'] := by
    decide +kernel
  have read : Ddl.read (first ++ "\n" ++ rest) = .ok ddl := by decide +kernel
  have startRead : Ddl.read (start ++ "\n" ++ rest) = .ok ddl := by decide +kernel
  rw [split] at lines
  exact ⟨scanned, isGap, lines, (gaps gap isGap).2.trans read, startScanned, closed,
    (sameLine gap isGap (by decide) closed (by decide)).2.trans startRead⟩

end Token

end RowLog.Schema
