import SchemaBindings.Proofs.Naming.Boundary
/-!
# Snake case by substitution and by position

A name is put into snake case by two substitutions of patterns, each from left to right without
overlaps, followed by lower case. A pattern is a character of a class with some pieces behind it,
and a match gets an underscore behind its first character (`Boundary.mark`). The two scans of a name
are these substitutions (`mark_wordBoundary`, `mark_capitalBoundary`), and what they do together can
be said of each position on its own: it gets an underscore exactly when a word starts there
(`markWordStarts_eq`). So snake case is the lower case of a name whose word starts are marked, each
once and nothing else (`snake_eq_lower_markWordStarts`).
-/

set_option autoImplicit false
set_option relaxedAutoImplicit false

namespace SchemaBindings.Naming

open SchemaBindings.Text

/-! ### Patterns and their substitution -/

/-- A piece of a pattern: one character of a class, or a run of at least one of them. -/
inductive Piece where
  | one (inClass : Char → Bool)
  | run (inClass : Char → Bool)

/-- The lengths a piece can take at the front of a text. A run takes as much as it can first, and
then gives back one character after the other. -/
def Piece.lengths : Piece → List Char → List Nat
  | one inClass, text => if text.head?.any inClass then [1] else []
  | run inClass, text => (List.range (text.takeWhile inClass).length).reverse.map (· + 1)

/-- The lengths of the matches of pieces in a row, in the order in which they are tried. -/
def matchLengths : List Piece → List Char → List Nat
  | [], _ => [0]
  | piece :: pieces, text =>
    (piece.lengths text).flatMap fun length ↦
      (matchLengths pieces (text.drop length)).map (length + ·)

/-- A pattern that looks for a place between two characters: one of a class before it, and some
pieces behind it. -/
structure Boundary where
  before : Char → Bool
  behind : List Piece

namespace Boundary

/-- The length of what the pieces behind a character take in the first match that is found. -/
def matchLength? (boundary : Boundary) (c : Char) (rest : List Char) : Option Nat :=
  if boundary.before c then (matchLengths boundary.behind rest).head? else none

/-- Puts an underscore at the place in each match of a text whose first `taken` characters belong to
a match already. -/
def markFrom (boundary : Boundary) : (taken : Nat) → List Char → List Char
  | _, [] => []
  | taken + 1, c :: rest => c :: boundary.markFrom taken rest
  | 0, c :: rest =>
    match boundary.matchLength? c rest with
    | some length => c :: '_' :: boundary.markFrom length rest
    | none => c :: boundary.markFrom 0 rest

/-- Puts an underscore at the place in each match of a text. -/
def mark (boundary : Boundary) (text : List Char) : List Char :=
  boundary.markFrom 0 text

end Boundary

/-- Any character but a line feed before a capital with lower-case letters behind it. -/
def wordBoundary : Boundary where
  before := (· != '\n')
  behind := [.one isUpperLetter, .run isLowerLetter]

/-- A lower-case letter or a digit before a capital. -/
def capitalBoundary : Boundary where
  before := isWordTail
  behind := [.one isUpperLetter]

/-! ### Matches -/

theorem matchLengths_one_cons (inClass : Char → Bool) (pieces : List Piece) (c : Char)
    (rest : List Char) :
    matchLengths (.one inClass :: pieces) (c :: rest) =
      if inClass c then (matchLengths pieces rest).map (1 + ·) else [] := by
  cases hc : inClass c <;> simp [matchLengths, Piece.lengths, hc]

/-- A run takes all there is: no piece behind it asks for a character back. -/
theorem head?_matchLengths_run (inClass : Char → Bool) (text : List Char) :
    (matchLengths [.run inClass] text).head? =
      if text.head?.any inClass then some (text.takeWhile inClass).length else none := by
  cases text with
  | nil => rfl
  | cons c rest =>
    cases hc : inClass c <;> simp [matchLengths, Piece.lengths, hc, List.range_succ]

theorem matchLength?_capitalBoundary (c d : Char) (rest : List Char) :
    capitalBoundary.matchLength? c (d :: rest) =
      if isWordTail c && isUpperLetter d then some 1 else none := by
  simp only [Boundary.matchLength?, capitalBoundary, matchLengths_one_cons]
  cases isWordTail c <;> cases isUpperLetter d <;> rfl

theorem matchLength?_wordBoundary (c d : Char) (rest : List Char) :
    wordBoundary.matchLength? c (d :: rest) =
      if c != '\n' && isUpperLetter d && rest.head?.any isLowerLetter then
        some ((rest.takeWhile isLowerLetter).length + 1)
      else none := by
  simp only [Boundary.matchLength?, wordBoundary, matchLengths_one_cons]
  cases c != '\n' <;> cases isUpperLetter d <;> cases hrun : rest.head?.any isLowerLetter <;>
    simp [head?_matchLengths_run, hrun, Nat.add_comm]

/-! ### The scans are substitutions -/

theorem mark_capitalBoundary (name : List Char) :
    capitalBoundary.mark name = breakBeforeCapitals name := by
  unfold Boundary.mark
  fun_induction breakBeforeCapitals name with
  | case1 c d rest hmatch ih =>
    rw [Boundary.markFrom, matchLength?_capitalBoundary, isWordTail, if_pos hmatch]
    simp only [Boundary.markFrom, ih]
  | case2 c d rest hmatch ih =>
    rw [Boundary.markFrom, matchLength?_capitalBoundary, isWordTail, if_neg hmatch]
    simp only [ih]
  | case3 short hshort =>
    rcases short with _ | ⟨c, _ | ⟨d, rest⟩⟩
    · rfl
    · rw [Boundary.markFrom, show capitalBoundary.matchLength? c [] = none from ite_self none]
      rfl
    · exact absurd rfl (hshort c d rest)

/-- The number of lower-case letters at the front of a name that belong to a match already. -/
def takenLetters (inTail : Bool) (name : List Char) : Nat :=
  if inTail then (name.takeWhile isLowerLetter).length else 0

theorem takenLetters_cons_of_pos {inTail : Bool} {c : Char}
    (hskip : (inTail && isLowerLetter c) = true) (rest : List Char) :
    takenLetters inTail (c :: rest) = takenLetters true rest + 1 := by
  rw [Bool.and_eq_true] at hskip
  simp [takenLetters, hskip.1, hskip.2]

theorem takenLetters_cons_of_neg {inTail : Bool} {c : Char}
    (hskip : ¬(inTail && isLowerLetter c) = true) (rest : List Char) :
    takenLetters inTail (c :: rest) = 0 := by
  cases inTail with
  | false => rfl
  | true =>
    rw [Bool.true_and] at hskip
    rw [takenLetters, if_pos rfl, List.takeWhile_cons_of_neg hskip, List.length_nil]

/-- A match takes at least three characters, so a shorter text stays as it is. -/
theorem markFrom_wordBoundary_of_length_lt (taken : Nat) {short : List Char}
    (hshort : short.length < 3) : wordBoundary.markFrom taken short = short := by
  have hnone (c : Char) : wordBoundary.matchLength? c [] = none := ite_self none
  have hlone (c d : Char) : wordBoundary.matchLength? c [d] = none := by
    rw [matchLength?_wordBoundary, List.head?_nil, Option.any_none, Bool.and_false]
    rfl
  rcases short with _ | ⟨c, _ | ⟨d, _ | ⟨e, rest⟩⟩⟩
  · rfl
  · cases taken <;> simp [Boundary.markFrom, hnone]
  · rcases taken with _ | _ | taken <;> simp [Boundary.markFrom, hnone, hlone]
  · exact absurd hshort (by simp)

/-- The scan remembers with one bit that a match has taken the lower-case letters at the front; the
substitution counts them. -/
theorem markFrom_wordBoundary (inTail : Bool) (name : List Char) :
    wordBoundary.markFrom (takenLetters inTail name) name = breakBeforeWords inTail name := by
  fun_induction breakBeforeWords inTail name with
  | case1 inTail c d e rest hskip ih =>
    rw [takenLetters_cons_of_pos hskip, Boundary.markFrom, ih]
  | case2 inTail c d e rest hskip hmatch ih =>
    have hlower : isLowerLetter e = true := by
      rw [Bool.and_eq_true] at hmatch
      exact hmatch.2
    have htaken : ((e :: rest).takeWhile isLowerLetter).length = takenLetters true rest + 1 := by
      rw [List.takeWhile_cons_of_pos hlower]
      rfl
    -- The capital and the letter behind it are passed over, then as many letters as the run took.
    rw [takenLetters_cons_of_neg hskip, Boundary.markFrom, matchLength?_wordBoundary,
      List.head?_cons, Option.any_some, if_pos hmatch, htaken]
    simp only [Boundary.markFrom, ih]
  | case3 inTail c d e rest hskip hmatch ih =>
    rw [takenLetters_cons_of_neg hskip, Boundary.markFrom, matchLength?_wordBoundary,
      List.head?_cons, Option.any_some, if_neg hmatch]
    exact congrArg (c :: ·) ih
  | case4 inTail short hshort =>
    apply markFrom_wordBoundary_of_length_lt
    rcases short with _ | ⟨c, _ | ⟨d, _ | ⟨e, rest⟩⟩⟩
    · simp
    · simp
    · simp
    · exact absurd rfl (hshort c d e rest)

theorem mark_wordBoundary (name : List Char) :
    wordBoundary.mark name = breakBeforeWords false name :=
  markFrom_wordBoundary false name

/-! ### The positions of word starts -/

/-- A word starts at a position: it is not the first, a capital stands there, and it follows a
lower-case letter or a digit, or a lower-case letter follows it and no line feed precedes it. -/
def IsWordStart (name : List Char) (position : Nat) : Prop :=
  1 ≤ position ∧ name[position]?.any isUpperLetter = true ∧
    (name[position - 1]?.any isWordTail = true ∨
      name[position + 1]?.any isLowerLetter = true ∧ name[position - 1]? ≠ some '\n')

instance (name : List Char) : DecidablePred (IsWordStart name) := fun position ↦
  inferInstanceAs (Decidable (1 ≤ position ∧ name[position]?.any isUpperLetter = true ∧
    (name[position - 1]?.any isWordTail = true ∨
      name[position + 1]?.any isLowerLetter = true ∧ name[position - 1]? ≠ some '\n')))

/-- A name with an underscore before each character at which a word starts. -/
def markWordStarts (name : List Char) : List Char :=
  name.zipIdx.flatMap fun (c, position) ↦
    if IsWordStart name position then ['_', c] else [c]

theorem isWordStart_append_iff (front : List Char) (c : Char) (rest : List Char) :
    IsWordStart (front ++ c :: rest) front.length ↔
      beginsWord front.getLast? c rest.head? = true := by
  rcases List.eq_nil_or_concat front with rfl | ⟨init, b, rfl⟩
  · simp [IsWordStart, beginsWord]
  · have hbefore : (init.concat b ++ c :: rest)[init.length]? = some b := by simp
    have hat : (init.concat b ++ c :: rest)[init.length + 1]? = some c := by simp
    have hafter : (init.concat b ++ c :: rest)[init.length + 2]? = rest.head? := by
      rw [List.getElem?_append_right (by simp), List.head?_eq_getElem?]
      simp
    simp only [IsWordStart, List.length_concat, Nat.add_sub_cancel, hbefore, hat, hafter]
    simp [beginsWord, and_comm]

/-- Whether a word starts at a position is seen from its neighbours, so one scan with the character
before it in hand marks them all. -/
theorem flatMap_zipIdx_eq_breakWords (front rest : List Char) :
    ((rest.zipIdx front.length).flatMap fun (c, position) ↦
        if IsWordStart (front ++ rest) position then ['_', c] else [c]) =
      breakWords front.getLast? rest := by
  induction rest generalizing front with
  | nil => rfl
  | cons c rest ih =>
    have hnext := ih (front ++ [c])
    rw [List.append_assoc, List.singleton_append, List.length_append, List.length_singleton,
      List.getLast?_concat] at hnext
    rw [List.zipIdx_cons, List.flatMap_cons, hnext, breakWords, consApart]
    simp only [isWordStart_append_iff]
    split_ifs <;> rfl

theorem markWordStarts_eq (name : List Char) : markWordStarts name = breakWords none name :=
  flatMap_zipIdx_eq_breakWords [] name

/-! ### Snake case -/

/-- Snake case: two substitutions and lower case, or the lower case of the name in which each word
start, and nothing else, has got an underscore. -/
theorem snake_eq_lower_markWordStarts (name : List Char) :
    snake name = lower (capitalBoundary.mark (wordBoundary.mark name)) ∧
      snake name = lower (markWordStarts name) := by
  constructor
  · rw [mark_wordBoundary, mark_capitalBoundary, snake]
  · rw [snake, breakBeforeCapitals_breakBeforeWords, markWordStarts_eq]

example : snake "parseXMLDoc2Go\nBar".toList = "parse_xml_doc2_go\nbar".toList := by decide

end SchemaBindings.Naming
