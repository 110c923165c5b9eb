import Mathlib.Data.List.SplitBy
import SchemaBindings.Proofs.Text.Blank
import SchemaBindings.Text.Line
/-!
# The lines of a text

The lines of a text are its runs of characters over which no line ends (`splitLines_eq_splitBy`), so
what is known of runs holds of lines. A text that is put together from lines, each ended by a line
feed, splits into these lines when no line holds a break (`splitLines_ended`). `codeLines` keeps the
lines of a text that are neither blank nor comments; on such a text it is a filter of the lines
(`codeLines_ended`).

Whatever breaks the pieces of a text hold, no line goes across a line feed, so the lines of pieces
in a row are those of each piece (`splitLines_append`, `splitLines_ended_flatMap`).
-/

set_option autoImplicit false
set_option relaxedAutoImplicit false

namespace SchemaBindings.Text

/-! ### Plain text -/

/-- Characters that neither end a line nor open a comment. -/
def IsPlain (c : Char) : Prop :=
  isBreak c = false ∧ c ≠ '#'

/-- A text of plain characters. -/
def IsPlainText (text : List Char) : Prop :=
  ∀ c ∈ text, IsPlain c

instance (c : Char) : Decidable (IsPlain c) :=
  inferInstanceAs (Decidable (isBreak c = false ∧ c ≠ '#'))

instance (text : List Char) : Decidable (IsPlainText text) :=
  List.decidableBAll IsPlain text

@[simp] theorem isPlainText_nil : IsPlainText [] := by
  simp [IsPlainText]

@[simp] theorem isPlainText_cons_iff (c : Char) (text : List Char) :
    IsPlainText (c :: text) ↔ IsPlain c ∧ IsPlainText text := by
  simp [IsPlainText]

@[simp] theorem isPlainText_append_iff (first second : List Char) :
    IsPlainText (first ++ second) ↔ IsPlainText first ∧ IsPlainText second := by
  simp [IsPlainText, or_imp, forall_and]

/-! ### Lines are runs -/

/-- Every break is white space. -/
theorem isBlank_of_isBreak {c : Char} (hbreak : isBreak c = true) : isBlank c = true := by
  simp only [isBreak, isBlank, Bool.or_eq_true, Bool.and_eq_true, decide_eq_true_eq,
    beq_iff_eq] at hbreak ⊢
  omega

/-- Whether a line goes on from one character to the next. -/
def goesOn (c d : Char) : Bool :=
  !isBreak c || (c == '\r' && d == '\n')

theorem goesOn_eq_false_iff {c d : Char} :
    goesOn c d = false ↔ isBreak c = true ∧ (c = '\r' → d ≠ '\n') := by
  simp [goesOn]

theorem goesOn_of_not_isBreak {c : Char} (hc : isBreak c = false) (d : Char) :
    goesOn c d = true := by
  rw [goesOn, hc, Bool.not_false, Bool.true_or]

theorem goesOn_lineFeed (d : Char) : goesOn '\n' d = false :=
  goesOn_eq_false_iff.mpr ⟨by decide, fun heq ↦ absurd heq (by decide)⟩

/-- Characters that end no line may stand in front of the characters of a line. -/
theorem isChain_goesOn_append {front line : List Char} (hfront : ∀ c ∈ front, isBreak c = false)
    (hline : line.IsChain fun c d ↦ goesOn c d = true) :
    (front ++ line).IsChain fun c d ↦ goesOn c d = true := by
  induction front with
  | nil => exact hline
  | cons c front ih =>
    rw [List.forall_mem_cons] at hfront
    rw [List.cons_append, List.isChain_cons]
    exact ⟨fun d _ ↦ goesOn_of_not_isBreak hfront.1 d, ih hfront.2⟩

/-- A character that ends no line stands in the first line of the text behind it. -/
theorem splitBy_goesOn_cons {c : Char} (hc : isBreak c = false) (rest : List Char) :
    (c :: rest).splitBy goesOn = consToFirst c (rest.splitBy goesOn) := by
  obtain ⟨hflatten, hnil, hlines, hends⟩ := List.splitBy_eq_iff.mp (Eq.refl (rest.splitBy goesOn))
  rw [List.splitBy_eq_iff]
  cases hsplit : rest.splitBy goesOn with
  | nil =>
    rw [hsplit] at hflatten
    rw [hflatten]
    simp [consToFirst]
  | cons line lines =>
    rw [hsplit] at hflatten hnil hlines hends
    rw [List.forall_mem_cons] at hlines
    have hne : line ≠ [] := fun heq ↦ hnil (heq ▸ List.mem_cons_self)
    refine ⟨congrArg (c :: ·) hflatten, ?_, ?_, ?_⟩
    · simpa [consToFirst] using List.not_mem_of_not_mem_cons hnil
    · have hfront : ∀ d ∈ [c], isBreak d = false := by simpa using hc
      rw [consToFirst, List.forall_mem_cons]
      exact ⟨isChain_goesOn_append hfront hlines.1, hlines.2⟩
    · rw [consToFirst, List.isChain_cons]
      rw [List.isChain_cons] at hends
      refine ⟨fun next hnext ↦ ?_, hends.2⟩
      obtain ⟨_, hsome, hend⟩ := hends.1 next hnext
      exact ⟨List.cons_ne_nil c line, hsome, by rwa [List.getLast_cons hne]⟩

/-- The lines of a text are the runs over which a line goes on. -/
theorem splitLines_eq_splitBy (text : List Char) : splitLines text = text.splitBy goesOn := by
  fun_induction splitLines text with
  | case1 => rfl
  | case2 rest ih =>
    have hpair := List.splitBy_append (r := goesOn) (l := ['\r', '\n']) (m := rest)
      (by simp [goesOn_lineFeed])
    rw [ih]
    exact hpair.symm
  | case3 c rest hpair hbreak ih =>
    -- A break on its own: had it been the first half of a pair, the case before would apply.
    have hlone : ∀ d ∈ rest.head?, goesOn c d = false := by
      intro d hd
      refine goesOn_eq_false_iff.mpr ⟨hbreak, fun hreturn hfeed ↦ ?_⟩
      obtain ⟨tail, heq⟩ := List.head?_eq_some_iff.mp hd
      exact hpair tail hreturn (hfeed ▸ heq)
    have hsplit := List.splitBy_append (r := goesOn) (l := [c]) (m := rest) (by simpa using hlone)
    rw [ih]
    exact hsplit.symm
  | case4 c rest hpair hbreak ih =>
    rw [ih, splitBy_goesOn_cons (Bool.eq_false_iff.mpr hbreak)]

/-- The lines of a text put together are the text. -/
theorem flatten_splitLines (text : List Char) : (splitLines text).flatten = text := by
  rw [splitLines_eq_splitBy, List.flatten_splitBy]

/-- A line feed ends a line, whatever stands before and behind it. -/
theorem splitLines_append (front rest : List Char) :
    splitLines (front ++ '\n' :: rest) = splitLines (front ++ ['\n']) ++ splitLines rest := by
  rw [splitLines_eq_splitBy, splitLines_eq_splitBy, splitLines_eq_splitBy,
    ← List.splitBy_append, List.append_assoc, List.singleton_append]
  intro c hc d _
  rw [List.getLast?_concat, Option.mem_def, Option.some_inj] at hc
  rw [← hc, goesOn_lineFeed]

/-! ### Lines ended by line feeds -/

/-- A line without breaks ends at the line feed after it. -/
theorem splitLines_append_lineFeed {line : List Char} (hline : ∀ c ∈ line, isBreak c = false)
    (rest : List Char) :
    splitLines (line ++ '\n' :: rest) = (line ++ ['\n']) :: splitLines rest := by
  have hone : splitLines (line ++ ['\n']) = [line ++ ['\n']] := by
    rw [splitLines_eq_splitBy]
    exact List.splitBy_of_isChain (List.append_ne_nil_of_right_ne_nil line (List.cons_ne_nil _ _))
      (isChain_goesOn_append hline (List.isChain_singleton _))
  rw [splitLines_append, hone, List.singleton_append]

theorem lineBody_append_lineFeed {line : List Char} (hline : ∀ c ∈ line, isBreak c = false) :
    lineBody (line ++ ['\n']) = line := by
  rw [lineBody, List.takeWhile_append_of_pos fun c hc ↦ by rw [hline c hc]; rfl]
  simp [show isBreak '\n' = true by decide]

/-- The lines of a text, each ended by a line feed. -/
def ended (lines : List (List Char)) : List Char :=
  lines.flatMap (· ++ ['\n'])

@[simp] theorem ended_nil : ended [] = [] := rfl

@[simp] theorem ended_cons (line : List Char) (lines : List (List Char)) :
    ended (line :: lines) = line ++ '\n' :: ended lines := by
  simp [ended]

@[simp] theorem ended_append (first second : List (List Char)) :
    ended (first ++ second) = ended first ++ ended second := by
  simp [ended]

theorem ended_flatMap {α : Type} (items : List α) (lines : α → List (List Char)) :
    ended (items.flatMap lines) = items.flatMap fun item ↦ ended (lines item) := by
  rw [ended, List.flatMap_assoc]
  rfl

theorem splitLines_ended {lines : List (List Char)}
    (hlines : ∀ line ∈ lines, ∀ c ∈ line, isBreak c = false) :
    splitLines (ended lines) = lines.map (· ++ ['\n']) := by
  induction lines with
  | nil => rfl
  | cons line lines ih =>
    rw [List.forall_mem_cons] at hlines
    rw [ended_cons, splitLines_append_lineFeed hlines.1, ih hlines.2, List.map_cons]

/-- The lines that a text is put together from are those into which it splits. -/
theorem map_lineBody_splitLines_ended {lines : List (List Char)}
    (hlines : ∀ line ∈ lines, ∀ c ∈ line, isBreak c = false) :
    (splitLines (ended lines)).map lineBody = lines := by
  rw [splitLines_ended hlines, List.map_map]
  calc lines.map (lineBody ∘ (· ++ ['\n'])) = lines.map id :=
        List.map_congr_left fun line hline ↦ lineBody_append_lineFeed (hlines line hline)
    _ = lines := List.map_id lines

/-! ### Pieces with breaks of their own -/

/-- The lines of pieces in a row are those of each piece. -/
theorem splitLines_ended_append (first second : List (List Char)) :
    splitLines (ended (first ++ second)) =
      splitLines (ended first) ++ splitLines (ended second) := by
  induction first with
  | nil => rfl
  | cons piece rest ih =>
    rw [List.cons_append, ended_cons, ended_cons, splitLines_append piece (ended rest),
      splitLines_append piece, ih, List.append_assoc]

theorem splitLines_ended_flatMap {α : Type} (items : List α) (pieces : α → List (List Char)) :
    splitLines (ended (items.flatMap pieces)) =
      items.flatMap fun item ↦ splitLines (ended (pieces item)) := by
  induction items with
  | nil => rfl
  | cons item rest ih =>
    rw [List.flatMap_cons, splitLines_ended_append, ih, List.flatMap_cons]

/-! ### Lines of code -/

/-- Whether a line is neither blank nor a comment, whose first character that is not white space is
a number sign. -/
def isCode (line : List Char) : Bool :=
  !isAllBlank line && (trimLeft line).head? != some '#'

/-- The lines of a text, without their breaks, that are neither blank nor comments. -/
def codeLines (text : List Char) : List (List Char) :=
  ((splitLines text).map lineBody).filter isCode

theorem codeLines_ended {lines : List (List Char)}
    (hlines : ∀ line ∈ lines, ∀ c ∈ line, isBreak c = false) :
    codeLines (ended lines) = lines.filter isCode := by
  rw [codeLines, map_lineBody_splitLines_ended hlines]

/-- A line of plain text with a character that is not white space. -/
def IsStatement (line : List Char) : Prop :=
  IsPlainText line ∧ ∃ c ∈ line, isBlank c = false

theorem IsStatement.isBreak_eq_false {line : List Char} (hline : IsStatement line) {c : Char}
    (hc : c ∈ line) : isBreak c = false :=
  (hline.1 c hc).1

theorem IsStatement.isCode {line : List Char} (hline : IsStatement line) : isCode line = true := by
  obtain ⟨hplain, c, hmem, hblank⟩ := hline
  have hnotBlank : isAllBlank line = false :=
    (isAllBlank_eq_false_iff line).mpr ⟨c, hmem, hblank⟩
  have hhead : (trimLeft line).head? ≠ some '#' := by
    intro heq
    have hin : '#' ∈ line := (List.dropWhile_suffix _).subset (List.mem_of_head? heq)
    exact (hplain '#' hin).2 rfl
  rw [Text.isCode, hnotBlank, Bool.not_false, Bool.true_and, bne_iff_ne]
  exact hhead

/-- Whether the first character of a line that is not white space is a number sign. -/
def isComment (line : List Char) : Bool :=
  (trimLeft line).head? == some '#'

/-- The lines of a text, with their breaks, that are not comments. -/
def uncommented (text : List Char) : List (List Char) :=
  (splitLines text).filter fun line ↦ !isComment line

/-- A number sign behind nothing but white space makes a line a comment. -/
theorem isComment_append {indent : List Char} (hindent : isAllBlank indent = true)
    (text : List Char) : isComment (indent ++ '#' :: text) = true := by
  have hhead : trimLeft (indent ++ '#' :: text) = '#' :: text := by
    rw [trimLeft, List.dropWhile_append_of_pos (List.all_eq_true.mp hindent)]
    rfl
  rw [isComment, hhead]
  rfl

theorem isCode_comment {indent : List Char} (hindent : isAllBlank indent = true)
    (text : List Char) : isCode (indent ++ '#' :: text) = false := by
  have hcomment := isComment_append hindent text
  unfold isComment at hcomment
  rw [isCode, bne, hcomment, Bool.not_true, Bool.and_false]

theorem isCode_nil : isCode [] = false := rfl

end SchemaBindings.Text
