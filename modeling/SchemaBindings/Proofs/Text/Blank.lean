import Mathlib.Data.List.TakeWhile
import SchemaBindings.Text.Blank
/-!
# Trimmed texts

A trimmed text is a part of the text (`trim_sublist`), and nothing is left of it exactly when the
text is all white space (`trim_eq_nil_iff`). Trimming at the end stops at the last character that is
not blank (`trimRight_append`). What is left begins and ends with a character that is not blank
(`isTrimmed_trim`), and blanks around a text change nothing (`trim_append_append`).
-/

set_option autoImplicit false
set_option relaxedAutoImplicit false

namespace SchemaBindings.Text

theorem isAllBlank_iff (text : List Char) :
    isAllBlank text = true ↔ ∀ c ∈ text, isBlank c = true :=
  List.all_eq_true

theorem isAllBlank_eq_false_iff (text : List Char) :
    isAllBlank text = false ↔ ∃ c ∈ text, isBlank c = false := by
  simp only [isAllBlank, List.all_eq_false, Bool.not_eq_true]

/-- A character that is not white space differs from one that is. -/
theorem ne_of_isBlank {c d : Char} (hc : isBlank c = false) (hd : isBlank d = true) : c ≠ d := by
  rintro rfl
  rw [hc] at hd
  exact Bool.false_ne_true hd

/-- A text is all white space when its other characters come from a text that is. -/
theorem isAllBlank_of_mem {text other : List Char}
    (hmem : ∀ c ∈ text, isBlank c = false → c ∈ other) (hother : isAllBlank other = true) :
    isAllBlank text = true := by
  rw [isAllBlank_iff] at hother ⊢
  intro c hc
  by_contra hvisible
  rw [Bool.not_eq_true] at hvisible
  exact ne_of_isBlank hvisible (hother c (hmem c hc hvisible)) rfl

theorem trimRight_sublist (text : List Char) : (trimRight text).Sublist text := by
  induction text with
  | nil => exact List.Sublist.refl []
  | cons c rest ih =>
    rw [trimRight]
    split
    · split
      · exact List.nil_sublist _
      · exact (List.nil_sublist rest).cons_cons c
    · next heq =>
      rw [← heq]
      exact ih.cons_cons c

theorem trim_sublist (text : List Char) : (trim text).Sublist text :=
  (trimRight_sublist (trimLeft text)).trans (List.dropWhile_sublist isBlank)

theorem trimRight_eq_nil_iff (text : List Char) :
    trimRight text = [] ↔ isAllBlank text = true := by
  induction text with
  | nil => exact iff_of_true rfl rfl
  | cons c rest ih =>
    rw [trimRight, isAllBlank, List.all_cons, Bool.and_eq_true, ← isAllBlank, ← ih]
    cases hrest : trimRight rest with
    | nil => simp
    | cons d kept => simp

theorem trim_eq_nil_iff (text : List Char) : trim text = [] ↔ isAllBlank text = true := by
  rw [trim, trimRight_eq_nil_iff, isAllBlank_iff, isAllBlank_iff]
  constructor
  · intro hbehind c hc
    rw [← List.takeWhile_append_dropWhile (p := isBlank) (l := text)] at hc
    rcases List.mem_append.mp hc with hfront | hmem
    · exact List.mem_takeWhile_imp hfront
    · exact hbehind c hmem
  · intro htext c hc
    exact htext c ((List.dropWhile_sublist isBlank).subset hc)

/-- Trimming stops at the last character that is not blank. -/
theorem trimRight_append {c : Char} (hc : isBlank c = false) (text : List Char)
    {blanks : List Char} (hblanks : isAllBlank blanks = true) :
    trimRight (text ++ c :: blanks) = text ++ [c] := by
  induction text with
  | nil =>
    rw [List.nil_append, trimRight, (trimRight_eq_nil_iff blanks).mpr hblanks]
    exact if_neg (by rw [hc]; exact Bool.false_ne_true)
  | cons d rest ih =>
    rw [List.cons_append, trimRight, ih]
    cases rest <;> rfl

/-! ### Trimmed at both ends -/

/-- Neither the first nor the last character of a text is white space. -/
def IsTrimmed (text : List Char) : Prop :=
  (∀ c ∈ text.head?, isBlank c = false) ∧ ∀ c ∈ text.getLast?, isBlank c = false

theorem isAllBlank_append (first second : List Char) :
    isAllBlank (first ++ second) = (isAllBlank first && isAllBlank second) :=
  List.all_append

/-- A text that is not all white space has a last character that is not. -/
theorem isAllBlank_or_exists_last (text : List Char) :
    isAllBlank text = true ∨ ∃ front c blanks,
      text = front ++ c :: blanks ∧ isBlank c = false ∧ isAllBlank blanks = true := by
  induction text with
  | nil => exact Or.inl rfl
  | cons d rest ih =>
    rcases ih with hrest | ⟨front, c, blanks, rfl, hc, hblanks⟩
    · by_cases hd : isBlank d = true
      · exact Or.inl (by rw [isAllBlank, List.all_cons, hd, ← isAllBlank, hrest, Bool.true_and])
      · exact Or.inr ⟨[], d, rest, rfl, Bool.eq_false_iff.mpr hd, hrest⟩
    · exact Or.inr ⟨d :: front, c, blanks, rfl, hc, hblanks⟩

/-- What trimming takes away is the white space at the front and white space at the end. -/
theorem exists_eq_append_trim (text : List Char) :
    ∃ blanks, isAllBlank blanks = true ∧ text = text.takeWhile isBlank ++ trim text ++ blanks := by
  rcases isAllBlank_or_exists_last (trimLeft text) with hnone | ⟨front, c, blanks, heq, hc, hblanks⟩
  · refine ⟨trimLeft text, hnone, ?_⟩
    rw [trim, (trimRight_eq_nil_iff _).mpr hnone, List.append_nil]
    exact List.takeWhile_append_dropWhile.symm
  · refine ⟨blanks, hblanks, ?_⟩
    calc text = text.takeWhile isBlank ++ trimLeft text := List.takeWhile_append_dropWhile.symm
      _ = text.takeWhile isBlank ++ trim text ++ blanks := by
        rw [trim, heq, trimRight_append hc front hblanks, List.append_assoc, List.append_assoc,
          List.singleton_append]

theorem trim_isInfix (text : List Char) : trim text <:+: text := by
  obtain ⟨blanks, -, htext⟩ := exists_eq_append_trim text
  exact ⟨text.takeWhile isBlank, blanks, htext.symm⟩

theorem isTrimmed_trim (text : List Char) : IsTrimmed (trim text) := by
  rcases isAllBlank_or_exists_last (trimLeft text) with hnone | ⟨front, c, blanks, heq, hc, hblanks⟩
  · rw [trim, (trimRight_eq_nil_iff _).mpr hnone]
    exact ⟨fun _ hmem ↦ absurd hmem (by simp), fun _ hmem ↦ absurd hmem (by simp)⟩
  · have htrim : trim text = front ++ [c] := by rw [trim, heq, trimRight_append hc front hblanks]
    have hhead : (trim text).head? = (trimLeft text).head? := by
      rw [htrim, heq, List.head?_append, List.head?_append]
      rfl
    constructor
    · intro d hd
      rw [hhead, Option.mem_def, trimLeft] at hd
      have hfirst := List.head?_dropWhile_not isBlank text
      rwa [hd] at hfirst
    · intro d hd
      rw [htrim, List.getLast?_concat, Option.mem_def, Option.some_inj] at hd
      exact hd ▸ hc

/-- A trimmed text comes back when blanks around it are trimmed. -/
theorem trim_append_append_of_isTrimmed {front text back : List Char}
    (hfront : isAllBlank front = true) (htext : IsTrimmed text) (hback : isAllBlank back = true) :
    trim (front ++ text ++ back) = text := by
  have hleft (rest : List Char) : trimLeft (front ++ rest) = trimLeft rest :=
    List.dropWhile_append_of_pos (List.all_eq_true.mp hfront)
  rcases List.eq_nil_or_concat text with rfl | ⟨init, last, rfl⟩
  · rw [trim_eq_nil_iff, List.append_nil, isAllBlank_append, hfront, hback]
    rfl
  · rw [List.concat_eq_append] at htext ⊢
    have hlast : isBlank last = false := htext.2 last (by rw [List.getLast?_concat]; rfl)
    have hkept : trimLeft (init ++ [last] ++ back) = init ++ last :: back := by
      rw [List.append_assoc, List.singleton_append, trimLeft]
      cases init with
      | nil => exact List.dropWhile_cons_of_neg (by simp [hlast])
      | cons first init =>
        have hfirst : isBlank first = false := htext.1 first rfl
        exact List.dropWhile_cons_of_neg (by simp [hfirst])
    rw [trim, List.append_assoc, hleft, hkept, trimRight_append hlast init hback]

theorem trim_of_isTrimmed {text : List Char} (htext : IsTrimmed text) : trim text = text := by
  have hempty : isAllBlank [] = true := rfl
  have hnothing := trim_append_append_of_isTrimmed hempty htext hempty
  rwa [List.nil_append, List.append_nil] at hnothing

/-- Blanks around a text make no difference to what trimming leaves. -/
theorem trim_append_append {front back : List Char} (hfront : isAllBlank front = true)
    (text : List Char) (hback : isAllBlank back = true) :
    trim (front ++ text ++ back) = trim text := by
  obtain ⟨blanks, hblanks, htext⟩ := exists_eq_append_trim text
  have hlead : isAllBlank (text.takeWhile isBlank) = true :=
    List.all_eq_true.mpr fun _ hc ↦ List.mem_takeWhile_imp hc
  calc trim (front ++ text ++ back)
      = trim ((front ++ text.takeWhile isBlank) ++ trim text ++ (blanks ++ back)) := by
        conv => lhs; rw [htext]
        simp only [List.append_assoc]
    _ = trim text := by
        refine trim_append_append_of_isTrimmed ?_ (isTrimmed_trim text) ?_
        · rw [isAllBlank_append, hfront, hlead, Bool.true_and]
        · rw [isAllBlank_append, hblanks, hback, Bool.true_and]

end SchemaBindings.Text
