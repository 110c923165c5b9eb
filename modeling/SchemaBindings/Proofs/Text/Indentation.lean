import SchemaBindings.Proofs.Text.Line
/-!
# Indented texts

A text is indented line by line. The prefix of a line brings no break with it and never stands
between the two characters of a pair, so the lines of an indented text are the indented lines of the
text (`splitLines_indentBy`). Indenting twice therefore adds up, and an indented text gives the text
back: its lines keep their ends and their number, those that hold white space only are as they were,
and every other one stands behind the spaces of the level (`indentBlock_reversible`).
-/

set_option autoImplicit false
set_option relaxedAutoImplicit false

namespace SchemaBindings.Text

/-! ### One line -/

/-- The break at the end of a line. -/
def lineEnd (line : List Char) : List Char :=
  line.dropWhile fun c ↦ !isBreak c

/-- A line without the first `count` characters, unless it holds white space only. -/
def dedentLine (count : Nat) (line : List Char) : List Char :=
  if isAllBlank line then line else line.drop count

/-- What indenting by a number of spaces does to a line. -/
structure IsIndented (count : Nat) (line indented : List Char) : Prop where
  lineEnd_eq : lineEnd indented = lineEnd line
  blank : isAllBlank line = true → indented = line
  visible : isAllBlank line = false → indented = List.replicate count ' ' ++ line

theorem indentation_natCast (level : Nat) :
    indentation level = List.replicate (spacesPerLevel * level) ' ' := by
  rw [indentation, Int.toNat_natCast, Nat.mul_comm]

theorem eq_space_of_mem_indentation {level : Int} {c : Char} (hc : c ∈ indentation level) :
    c = ' ' :=
  List.eq_of_mem_replicate hc

theorem isAllBlank_indentation (level : Int) : isAllBlank (indentation level) = true := by
  rw [isAllBlank_iff]
  intro c hc
  rw [eq_space_of_mem_indentation hc]
  decide

theorem isAllBlank_indentLine (level : Int) (line : List Char) :
    isAllBlank (indentLine level line) = isAllBlank line := by
  unfold indentLine
  split_ifs
  · rfl
  · rw [isAllBlank_append, isAllBlank_indentation, Bool.true_and]

theorem indentLine_zero (line : List Char) : indentLine 0 line = line := by
  rw [indentLine]
  exact ite_self line

/-- The prefixes of a line add up, since they leave open whether it holds white space only. -/
theorem indentLine_indentLine (first second : Nat) (line : List Char) :
    indentLine second (indentLine first line) = indentLine (first + second : Nat) line := by
  by_cases hblank : isAllBlank line = true
  · simp only [indentLine, hblank, if_true]
  · have hspaces :
        indentation second ++ indentation first = indentation (first + second : Nat) := by
      rw [indentation_natCast, indentation_natCast, indentation_natCast,
        List.replicate_append_replicate, ← Nat.mul_add, Nat.add_comm]
    rw [indentLine, isAllBlank_indentLine, if_neg hblank, indentLine, if_neg hblank, indentLine,
      if_neg hblank, ← List.append_assoc, hspaces]

theorem lineEnd_indentLine (level : Int) (line : List Char) :
    lineEnd (indentLine level line) = lineEnd line := by
  unfold indentLine
  split_ifs
  · rfl
  · refine List.dropWhile_append_of_pos fun c hc ↦ ?_
    rw [eq_space_of_mem_indentation hc]
    decide

theorem isIndented_indentLine (level : Nat) (line : List Char) :
    IsIndented (spacesPerLevel * level) line (indentLine level line) where
  lineEnd_eq := lineEnd_indentLine level line
  blank := fun hblank ↦ if_pos hblank
  visible := fun hvisible ↦ by
    rw [indentLine, if_neg (by rw [hvisible]; exact Bool.false_ne_true), indentation_natCast]

theorem dedentLine_indentLine (level : Nat) (line : List Char) :
    dedentLine (spacesPerLevel * level) (indentLine level line) = line := by
  rw [dedentLine, isAllBlank_indentLine]
  split_ifs with hblank
  · exact if_pos hblank
  · rw [indentLine, if_neg hblank, indentation_natCast]
    exact List.drop_left' List.length_replicate

/-! ### The lines of an indented text -/

theorem indentLine_ne_nil {level : Int} {line : List Char} (hline : line ≠ []) :
    indentLine level line ≠ [] := by
  unfold indentLine
  split_ifs
  · exact hline
  · exact List.append_ne_nil_of_right_ne_nil _ hline

theorem getLast_indentLine {level : Int} {line : List Char} (hline : line ≠ []) :
    (indentLine level line).getLast (indentLine_ne_nil hline) = line.getLast hline := by
  simp only [indentLine]
  split_ifs
  · rfl
  · exact List.getLast_append_of_ne_nil _ hline

/-- A line begins as before or with a space. -/
theorem head_indentLine (level : Int) {line : List Char} (hline : line ≠ []) :
    (indentLine level line).head (indentLine_ne_nil hline) = line.head hline ∨
      (indentLine level line).head (indentLine_ne_nil hline) = ' ' := by
  simp only [indentLine]
  split_ifs
  · exact Or.inl rfl
  · by_cases hnone : indentation level = []
    · exact Or.inl (by simp only [hnone, List.nil_append])
    · rw [List.head_append_of_ne_nil hnone]
      exact Or.inr (eq_space_of_mem_indentation (List.head_mem hnone))

/-- Where a line ends before some character, it ends before a space: no prefix joins two lines. -/
theorem goesOn_space {c d : Char} (hend : goesOn c d = false) : goesOn c ' ' = false :=
  goesOn_eq_false_iff.mpr ⟨(goesOn_eq_false_iff.mp hend).1, fun _ ↦ by decide⟩

theorem isChain_indentLine {level : Int} {line : List Char}
    (hline : line.IsChain fun c d ↦ goesOn c d = true) :
    (indentLine level line).IsChain fun c d ↦ goesOn c d = true := by
  unfold indentLine
  split_ifs
  · exact hline
  · refine isChain_goesOn_append (fun c hc ↦ ?_) hline
    rw [eq_space_of_mem_indentation hc]
    decide

/-- The lines of an indented text are the indented lines of the text. -/
theorem splitLines_indentBy (level : Int) (text : List Char) :
    splitLines (indentBy level text) = (splitLines text).map (indentLine level) := by
  obtain ⟨-, hnil, hlines, hends⟩ := List.splitBy_eq_iff.mp (splitLines_eq_splitBy text).symm
  rw [splitLines_eq_splitBy, indentBy, List.flatMap_def]
  refine List.splitBy_flatten ?_ ?_ ?_
  · intro hmem
    obtain ⟨line, hline, heq⟩ := List.mem_map.mp hmem
    exact indentLine_ne_nil (ne_of_mem_of_not_mem hline hnil) heq
  · rw [List.forall_mem_map]
    exact fun line hline ↦ isChain_indentLine (hlines line hline)
  · -- Two lines stay apart: the first ends as before, the second begins as before or with a space.
    rw [List.isChain_map]
    refine hends.imp fun line next hend ↦ ?_
    obtain ⟨hline, hnext, hend⟩ := hend
    refine ⟨indentLine_ne_nil hline, indentLine_ne_nil hnext, ?_⟩
    rw [getLast_indentLine hline]
    rcases head_indentLine level hnext with hhead | hhead
    · rw [hhead, hend]
    · rw [hhead, goesOn_space hend]

/-- A text is put together from its lines. -/
theorem flatMap_splitLines_eq_self {edit : List Char → List Char}
    (hedit : ∀ line, edit line = line) (text : List Char) :
    (splitLines text).flatMap edit = text := by
  rw [List.flatMap_def, List.map_congr_left fun line _ ↦ hedit line, List.map_id',
    flatten_splitLines]

/-- Level zero needs no case of its own. -/
theorem indentBlock_eq_indentBy (level : Int) (text : List Char) :
    indentBlock level text = indentBy level text := by
  unfold indentBlock
  split_ifs with hzero
  · rw [hzero, indentBy, flatMap_splitLines_eq_self indentLine_zero]
  · rfl

theorem splitLines_indentBlock (level : Int) (text : List Char) :
    splitLines (indentBlock level text) = (splitLines text).map (indentLine level) := by
  rw [indentBlock_eq_indentBy, splitLines_indentBy]

/-! ### Texts -/

theorem indentBlock_indentBlock (first second : Nat) (text : List Char) :
    indentBlock second (indentBlock first text) = indentBlock (first + second : Nat) text := by
  rw [indentBlock_eq_indentBy second, indentBy, splitLines_indentBlock, indentBlock_eq_indentBy,
    indentBy, List.flatMap_map]
  exact List.flatMap_congr fun line _ ↦ indentLine_indentLine first second line

theorem flatMap_dedentLine (level : Nat) (text : List Char) :
    (splitLines (indentBlock level text)).flatMap (dedentLine (spacesPerLevel * level)) = text := by
  rw [splitLines_indentBlock, List.flatMap_map]
  exact flatMap_splitLines_eq_self (dedentLine_indentLine level) text

/-- Indenting twice adds up, and an indented text gives the text back: it has as many lines with the
same ends, those of white space only are unchanged and the others stand behind four spaces a level;
without these spaces they are the text. -/
theorem indentBlock_reversible (text : List Char) (first second level : Nat) :
    indentBlock second (indentBlock first text) = indentBlock (first + second : Nat) text ∧
      (splitLines (indentBlock level text)).length = (splitLines text).length ∧
      List.Forall₂ (IsIndented (4 * level)) (splitLines text)
        (splitLines (indentBlock level text)) ∧
      (splitLines (indentBlock level text)).flatMap (dedentLine (4 * level)) = text := by
  refine ⟨indentBlock_indentBlock first second text, ?_, ?_, flatMap_dedentLine level text⟩
  · rw [splitLines_indentBlock, List.length_map]
  · rw [splitLines_indentBlock, List.forall₂_map_right_iff, List.forall₂_same]
    exact fun line _ ↦ isIndented_indentLine level line

example : indentBlock 1 "a\r\n \u2028b\rc".toList = "    a\r\n \u2028    b\r    c".toList := by
  decide

end SchemaBindings.Text
