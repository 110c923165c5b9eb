import Mathlib.Data.Nat.Basic
import Mathlib.Tactic.SplitIfs
import SchemaBindings.Proofs.Text.Line
import SchemaBindings.Text.Case
/-!
# Letter case keeps text plain

No case mapping makes a line break or a number sign of a plain character, so upper and lower case
keep a plain text plain (`isPlainText_upper`, `isPlainText_lower`). Within ASCII the mappings move a
letter to a letter; beyond it the tables are checked entry by entry, a run by its two ends.
-/

set_option autoImplicit false
set_option relaxedAutoImplicit false

namespace SchemaBindings.Text

/-! ### Plain code points -/

/-- The code points of line breaks and of the number sign. -/
def markRanges : List (Nat × Nat) :=
  [(0x0a, 0x0d), (0x1c, 0x1e), (0x23, 0x23), (0x85, 0x85), (0x2028, 0x2029)]

theorem isPlain_iff (c : Char) : IsPlain c ↔ inRanges markRanges c.toNat = false := by
  have hsign : c = '#' ↔ c.toNat = 0x23 := by
    rw [← Char.toNat_inj]
    rfl
  simp only [IsPlain, isBreak, inRanges, markRanges, ne_eq, hsign, List.any_cons, List.any_nil,
    Bool.or_eq_false_iff, Bool.and_eq_false_iff, decide_eq_false_iff_not, beq_eq_false_iff_ne,
    and_true]
  omega

/-- A number that is no code point stands for the null character, which is plain. -/
theorem isPlain_ofNat {code : Nat} (hcode : inRanges markRanges code = false) :
    IsPlain (Char.ofNat code) := by
  rw [isPlain_iff]
  by_cases hvalid : code.isValidChar
  · have heq : (Char.ofNat code).toNat = code := by
      rw [Char.ofNat, dif_pos hvalid]
      rfl
    rw [heq]
    exact hcode
  · rw [Char.ofNat, dif_neg hvalid]
    decide

/-- From the sign after the number sign to the end of ASCII there are no marks. -/
theorem isPlain_ofNat_of_ascii {code : Nat} (hlow : 0x24 ≤ code) (hhigh : code < 0x80) :
    IsPlain (Char.ofNat code) := by
  apply isPlain_ofNat
  simp only [inRanges, markRanges, List.any_cons, List.any_nil, Bool.or_eq_false_iff,
    Bool.and_eq_false_iff, decide_eq_false_iff_not, and_true]
  omega

/-! ### Tables -/

/-- Whether a run of code points lands outside the marks, on one side of each range of them. -/
def runAvoidsMarks (run : Nat × Nat × Nat × Int) : Bool :=
  markRanges.all fun (low, high) ↦
    high < run.1 + run.2.2.2 || run.2.1 + run.2.2.2 < low

/-- Whether a table of sequences and a list of runs lead to plain characters only. -/
def tablesAvoidMarks (sequences : List (Nat × List Nat)) (runs : List (Nat × Nat × Nat × Int)) :
    Bool :=
  sequences.all (fun entry ↦ entry.2.all fun code ↦ !inRanges markRanges code) &&
    runs.all runAvoidsMarks

theorem tablesAvoidMarks_upper : tablesAvoidMarks upperSequences upperRuns = true := by
  decide

theorem tablesAvoidMarks_lower : tablesAvoidMarks lowerSequences lowerRuns = true := by
  decide

/-- A code point outside the marks is moved by no run onto a mark. -/
theorem inRanges_mapByRuns {runs : List (Nat × Nat × Nat × Int)}
    (hruns : runs.all runAvoidsMarks = true) {code : Nat}
    (hcode : inRanges markRanges code = false) :
    inRanges markRanges (mapByRuns runs code) = false := by
  unfold mapByRuns
  split
  · next first last step offset hfound =>
    have hmember := List.all_eq_true.mp hruns _ (List.mem_of_find?_eq_some hfound)
    have hinside := List.find?_some hfound
    simp only [runAvoidsMarks, List.all_eq_true, Bool.or_eq_true, decide_eq_true_eq] at hmember
    simp only [Bool.and_eq_true, decide_eq_true_eq] at hinside
    -- The marks begin above zero, so a sum below zero, which counts as zero, is no mark either.
    have hpositive : ∀ range ∈ markRanges, 0 < range.1 := by decide
    rw [inRanges, List.any_eq_false]
    intro range hrange hwithin
    have hside := hmember range hrange
    have hlow := hpositive range hrange
    simp only [Bool.and_eq_true, decide_eq_true_eq] at hwithin
    omega
  · exact hcode

theorem isPlain_of_mem_mapByTables {sequences : List (Nat × List Nat)}
    {runs : List (Nat × Nat × Nat × Int)} (htables : tablesAvoidMarks sequences runs = true)
    {c d : Char} (hc : IsPlain c) (hd : d ∈ mapByTables sequences runs c) : IsPlain d := by
  rw [tablesAvoidMarks, Bool.and_eq_true] at htables
  unfold mapByTables at hd
  split at hd
  · next codes hlookup =>
    obtain ⟨code, hcode, rfl⟩ := List.mem_map.mp hd
    obtain ⟨before, after, hsplit, -⟩ := List.lookup_eq_some_iff.mp hlookup
    have hentry := List.all_eq_true.mp htables.1 (c.toNat, codes) (by simp [hsplit])
    have hmark := List.all_eq_true.mp hentry code hcode
    exact isPlain_ofNat (by simpa using hmark)
  · rw [List.mem_singleton.mp hd]
    exact isPlain_ofNat (inRanges_mapByRuns htables.2 ((isPlain_iff c).mp hc))

/-! ### Letters of ASCII -/

theorem isUpperLetter_iff (c : Char) :
    isUpperLetter c = true ↔ 0x41 ≤ c.toNat ∧ c.toNat ≤ 0x5a := by
  rw [isUpperLetter, Bool.and_eq_true, decide_eq_true_eq, decide_eq_true_eq]
  exact Iff.rfl

theorem isLowerLetter_iff (c : Char) :
    isLowerLetter c = true ↔ 0x61 ≤ c.toNat ∧ c.toNat ≤ 0x7a := by
  rw [isLowerLetter, Bool.and_eq_true, decide_eq_true_eq, decide_eq_true_eq]
  exact Iff.rfl

/-! ### Upper and lower case -/

theorem isPlain_of_mem_upperChar {c d : Char} (hc : IsPlain c) (hd : d ∈ upperChar c) :
    IsPlain d := by
  unfold upperChar at hd
  split_ifs at hd with hascii hletter
  · rw [isLowerLetter_iff] at hletter
    rw [List.mem_singleton.mp hd]
    exact isPlain_ofNat_of_ascii (by omega) (by omega)
  · rw [List.mem_singleton.mp hd]
    exact hc
  · exact isPlain_of_mem_mapByTables tablesAvoidMarks_upper hc hd

theorem isPlain_of_mem_lowerChar {c d : Char} (hc : IsPlain c) (hd : d ∈ lowerChar c) :
    IsPlain d := by
  unfold lowerChar at hd
  split_ifs at hd with hascii hletter
  · rw [isUpperLetter_iff] at hletter
    rw [List.mem_singleton.mp hd]
    exact isPlain_ofNat_of_ascii (by omega) (by omega)
  · rw [List.mem_singleton.mp hd]
    exact hc
  · exact isPlain_of_mem_mapByTables tablesAvoidMarks_lower hc hd

theorem isPlainText_upper {text : List Char} (htext : IsPlainText text) :
    IsPlainText (upper text) := by
  intro d hd
  obtain ⟨c, hc, hmapped⟩ := List.mem_flatMap.mp hd
  exact isPlain_of_mem_upperChar (htext c hc) hmapped

/-- Both forms of the small sigma are plain. -/
theorem isPlainText_lowerAfter (before : List Char) {text : List Char}
    (htext : IsPlainText text) : IsPlainText (lowerAfter before text) := by
  induction text generalizing before with
  | nil => exact isPlainText_nil
  | cons c rest ih =>
    rw [isPlainText_cons_iff] at htext
    rw [lowerAfter, isPlainText_append_iff]
    refine ⟨?_, ih (c :: before) htext.2⟩
    split_ifs
    · decide
    · decide
    · exact fun d hd ↦ isPlain_of_mem_lowerChar htext.1 hd

theorem isPlainText_lower {text : List Char} (htext : IsPlainText text) :
    IsPlainText (lower text) :=
  isPlainText_lowerAfter [] htext

end SchemaBindings.Text
