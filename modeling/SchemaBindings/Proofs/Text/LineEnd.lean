import Mathlib.Data.List.Infix
import SchemaBindings.Text.Line
/-!
# Unified line ends

Writing every line end as a line feed goes piece by piece, unless a pair is torn apart
(`unifyLineEnds_append`), and brings no two characters together that stand apart
(`isInfix_of_isInfix_unifyLineEnds`).
-/

set_option autoImplicit false
set_option relaxedAutoImplicit false

namespace SchemaBindings.Text

theorem unifyLineEnds_cons {c : Char} (hc : c ≠ '\r') (rest : List Char) :
    unifyLineEnds (c :: rest) = c :: unifyLineEnds rest := by
  rw [unifyLineEnds]
  · exact fun _ heq _ ↦ hc heq
  · exact hc

theorem unifyLineEnds_eq_self {text : List Char} (htext : '\r' ∉ text) :
    unifyLineEnds text = text := by
  induction text with
  | nil => rfl
  | cons c rest ih =>
    rw [List.mem_cons, not_or] at htext
    rw [unifyLineEnds_cons (Ne.symm htext.1), ih htext.2]

theorem unifyLineEnds_eq_nil_iff {text : List Char} : unifyLineEnds text = [] ↔ text = [] := by
  fun_cases unifyLineEnds text <;> simp

/-- Line ends are unified piece by piece when no piece ends between the characters of a pair. -/
theorem unifyLineEnds_append {first : List Char} (hlast : first.getLast? ≠ some '\r')
    (second : List Char) :
    unifyLineEnds (first ++ second) = unifyLineEnds first ++ unifyLineEnds second := by
  have hbehind {c : Char} {rest : List Char} (hlast : (c :: rest).getLast? ≠ some '\r') :
      rest.getLast? ≠ some '\r' := by
    intro heq
    rw [List.getLast?_cons, heq] at hlast
    exact hlast rfl
  fun_induction unifyLineEnds first with
  | case1 => rfl
  | case2 rest ih => exact congrArg _ (ih (hbehind (hbehind hlast)))
  | case3 rest hpair ih =>
    cases rest with
    | nil => exact absurd rfl hlast
    | cons c rest =>
      have hc : c ≠ '\n' := fun heq ↦ hpair rest (by rw [heq])
      rw [List.cons_append, List.cons_append, unifyLineEnds, ← List.cons_append,
        ih (hbehind hlast), List.cons_append]
      exact fun _ heq ↦ hc (List.cons.inj heq).1
  | case4 c rest hpair hreturn ih =>
    rw [List.cons_append, unifyLineEnds_cons hreturn, ih (hbehind hlast), List.cons_append]

theorem isPrefix_of_isPrefix_unifyLineEnds {word text : List Char} (hword : '\n' ∉ word)
    (hfront : word <+: unifyLineEnds text) : word <+: text := by
  fun_induction unifyLineEnds text generalizing word with
  | case1 => exact hfront
  | case2 rest ih =>
    cases word with
    | nil => exact List.nil_prefix
    | cons c word =>
      rw [List.cons_prefix_cons] at hfront
      exact absurd (hfront.1 ▸ List.mem_cons_self) hword
  | case3 rest hpair ih =>
    cases word with
    | nil => exact List.nil_prefix
    | cons c word =>
      rw [List.cons_prefix_cons] at hfront
      exact absurd (hfront.1 ▸ List.mem_cons_self) hword
  | case4 c rest hpair hreturn ih =>
    cases word with
    | nil => exact List.nil_prefix
    | cons d word =>
      rw [List.cons_prefix_cons] at hfront ⊢
      exact ⟨hfront.1, ih (List.not_mem_of_not_mem_cons hword) hfront.2⟩

theorem isInfix_of_isInfix_lineFeed_cons {word text : List Char} (hword : '\n' ∉ word)
    (hwithin : word <:+: '\n' :: text) : word <:+: text := by
  rcases List.infix_cons_iff.mp hwithin with hfront | hbehind
  · cases word with
    | nil => exact List.nil_infix
    | cons c word =>
      rw [List.cons_prefix_cons] at hfront
      exact absurd (hfront.1 ▸ List.mem_cons_self) hword
  · exact hbehind

/-- A word without a line feed stands in a text if it stands there with unified line ends. -/
theorem isInfix_of_isInfix_unifyLineEnds {word text : List Char} (hword : '\n' ∉ word)
    (hwithin : word <:+: unifyLineEnds text) : word <:+: text := by
  fun_induction unifyLineEnds text with
  | case1 => exact hwithin
  | case2 rest ih =>
    have hrest := ih (isInfix_of_isInfix_lineFeed_cons hword hwithin)
    exact hrest.trans ((List.suffix_cons _ _).trans (List.suffix_cons _ _)).isInfix
  | case3 rest hpair ih =>
    have hrest := ih (isInfix_of_isInfix_lineFeed_cons hword hwithin)
    exact hrest.trans (List.suffix_cons _ _).isInfix
  | case4 c rest hpair hreturn ih =>
    rcases List.infix_cons_iff.mp hwithin with hfront | hbehind
    · rw [← unifyLineEnds_cons hreturn] at hfront
      exact (isPrefix_of_isPrefix_unifyLineEnds hword hfront).isInfix
    · exact (ih hbehind).trans (List.suffix_cons _ _).isInfix

/-- A text that ends in a character other than a line feed once its line ends are unified ends in it
before. -/
theorem getLast?_of_getLast?_unifyLineEnds {c : Char} (hc : c ≠ '\n') {text : List Char}
    (hlast : (unifyLineEnds text).getLast? = some c) : text.getLast? = some c := by
  have hline {rest : List Char} (hlast : ('\n' :: rest).getLast? = some c) :
      rest.getLast? = some c := by
    rw [List.getLast?_cons] at hlast
    cases hrest : rest.getLast? with
    | none =>
      rw [hrest] at hlast
      exact absurd (Option.some.inj hlast).symm hc
    | some d =>
      rw [hrest] at hlast
      exact hlast
  fun_induction unifyLineEnds text with
  | case1 => exact hlast
  | case2 rest ih => simp [List.getLast?_cons, ih (hline hlast)]
  | case3 rest hpair ih => simp [List.getLast?_cons, ih (hline hlast)]
  | case4 d rest hpair hreturn ih =>
    rw [List.getLast?_cons] at hlast
    cases hrest : (unifyLineEnds rest).getLast? with
    | none =>
      have hnil := unifyLineEnds_eq_nil_iff.mp (List.getLast?_eq_none_iff.mp hrest)
      rw [hrest] at hlast
      rw [hnil]
      exact hlast
    | some e =>
      rw [hrest] at hlast
      rw [List.getLast?_cons, ih (hrest.trans hlast)]
      rfl

end SchemaBindings.Text
