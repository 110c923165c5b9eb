import SchemaBindings.Proofs.Source.Place
import SchemaBindings.Proofs.Text.Line
import SchemaBindings.Proofs.Text.LineEnd
/-!
# Lines that leave the same tokens

Two texts may stand behind a line with the same effect when they leave the same tokens wherever they
begin between two lines (`SameTokens`). A line that no string or backslash carries over its end
keeps this in front of them, and a comment line may stand in front of one of them only; so lists of
lines that differ in comments leave the same tokens (`LinesAlike`).
-/

set_option autoImplicit false
set_option relaxedAutoImplicit false

namespace SchemaBindings.Source

open SchemaBindings.Text

/-! ### Texts behind a line -/

/-- Two texts that leave the same tokens wherever they begin between two lines. -/
def SameTokens (first second : List Char) : Prop :=
  ∀ place : Place, place.IsFresh → place.tokens first = place.tokens second

theorem SameTokens.refl (text : List Char) : SameTokens text text :=
  fun _ _ ↦ rfl

theorem SameTokens.trans {first second third : List Char} (hfirst : SameTokens first second)
    (hsecond : SameTokens second third) : SameTokens first third :=
  fun place hfresh ↦ (hfirst place hfresh).trans (hsecond place hfresh)

/-- Behind a passage texts that leave the same tokens still do. -/
theorem SameTokens.append {first second : List Char} (hsame : SameTokens first second)
    {text : List Char} (hpassage : IsPassage text) :
    SameTokens (text ++ first) (text ++ second) := by
  intro place _
  rcases hpassage.tokens_append place with hrefused | ⟨found, next, hfresh, htokens⟩
  · rw [hrefused, hrefused]
  · rw [htokens, htokens, hsame next hfresh]

theorem sameTokens_comment {comment : List Char} (hcomment : '\n' ∉ comment)
    (behind : List Char) : SameTokens ("    #".toList ++ comment ++ '\n' :: behind) behind :=
  fun _ hfresh ↦ tokens_comment hfresh hcomment behind

/-! ### Lines -/

/-- A line that no string or backslash carries over its end. -/
@[mk_iff]
structure EndsItself (line : List Char) : Prop where
  notContinued : line.getLast? ≠ some '\\'
  notPaired : line.getLast? ≠ some '\r'
  shortQuotes : ¬ HasLongQuote line

instance (line : List Char) : Decidable (EndsItself line) :=
  decidable_of_iff _ (endsItself_iff line).symm

theorem EndsItself.isPassage {line : List Char} (hline : EndsItself line) :
    IsPassage (unifyLineEnds (line ++ ['\n'])) := by
  have hquotes {quote : Char} (hquote : '\n' ∉ [quote, quote, quote])
      (hwithin : [quote, quote, quote] <:+: unifyLineEnds (line ++ ['\n'])) :
      [quote, quote, quote] <:+: line := by
    rcases List.infix_concat_iff.mp (isInfix_of_isInfix_unifyLineEnds hquote hwithin) with
      ⟨front, hend⟩ | hwithin
    · have hlast := congrArg List.getLast? hend
      rw [List.getLast?_append, List.getLast?_concat] at hlast
      exact absurd (by simpa using hlast.symm) hquote
    · exact hwithin
  refine ⟨?_, ?_, fun hlong ↦ hline.shortQuotes ?_⟩
  · rw [unifyLineEnds_append hline.notPaired]
    exact List.suffix_append _ ['\n']
  · rw [unifyLineEnds_append hline.notPaired]
    rintro ⟨front, hend⟩
    have hslash : front ++ ['\\'] = unifyLineEnds line :=
      List.append_cancel_right ((List.append_assoc front ['\\'] ['\n']).trans hend)
    refine hline.notContinued (getLast?_of_getLast?_unifyLineEnds (by decide) ?_)
    rw [← hslash, List.getLast?_concat]
  · exact hlong.imp (hquotes (by decide)) (hquotes (by decide))

/-- The first lines leave the same tokens as the second, and so do two texts behind them that leave
the same tokens. -/
def LinesAlike (first second : List (List Char)) : Prop :=
  ∀ behind others, SameTokens behind others →
    SameTokens (unifyLineEnds (ended first) ++ behind) (unifyLineEnds (ended second) ++ others)

theorem getLast?_ended_ne (lines : List (List Char)) : (ended lines).getLast? ≠ some '\r' := by
  rcases List.eq_nil_or_concat lines with rfl | ⟨front, line, rfl⟩
  · simp
  · rw [List.concat_eq_append, ended_append, ended_cons, ended_nil,
      ← List.append_assoc, List.getLast?_concat]
    decide

theorem unifyLineEnds_ended_append (first second : List (List Char)) :
    unifyLineEnds (ended (first ++ second)) =
      unifyLineEnds (ended first) ++ unifyLineEnds (ended second) := by
  rw [ended_append, unifyLineEnds_append (getLast?_ended_ne first)]

namespace LinesAlike

variable {first second third fourth : List (List Char)}

theorem nil : LinesAlike [] [] :=
  fun _ _ hsame ↦ hsame

theorem append (hfront : LinesAlike first second) (hback : LinesAlike third fourth) :
    LinesAlike (first ++ third) (second ++ fourth) := by
  intro behind others hsame
  rw [unifyLineEnds_ended_append, unifyLineEnds_ended_append, List.append_assoc, List.append_assoc]
  exact hfront _ _ (hback _ _ hsame)

theorem flatMap {α : Type} {items : List α} {lines others : α → List (List Char)}
    (hlines : ∀ item ∈ items, LinesAlike (lines item) (others item)) :
    LinesAlike (items.flatMap lines) (items.flatMap others) := by
  induction items with
  | nil => exact nil
  | cons item items ih =>
    rw [List.forall_mem_cons] at hlines
    exact hlines.1.append (ih hlines.2)

theorem of_endsItself {lines : List (List Char)} (hlines : ∀ line ∈ lines, EndsItself line) :
    LinesAlike lines lines := by
  induction lines with
  | nil => exact nil
  | cons line lines ih =>
    rw [List.forall_mem_cons] at hlines
    have hline : LinesAlike [line] [line] := by
      intro behind others hsame
      rw [ended_cons, ended_nil]
      exact hsame.append hlines.1.isPassage
    exact hline.append (ih hlines.2)

/-- A comment leaves no tokens. -/
theorem comment {comment : List Char} (hcomment : ∀ c ∈ comment, isBreak c = false) :
    LinesAlike ["    # ".toList ++ comment] [] := by
  intro behind others hsame
  have hfeed : '\n' ∉ ' ' :: comment := by
    rw [List.mem_cons, not_or]
    exact ⟨by decide, fun hmem ↦ absurd (hcomment _ hmem) (by decide)⟩
  have hreturn : '\r' ∉ "    #".toList ++ (' ' :: comment) ++ ['\n'] := by
    simp only [List.mem_append, List.mem_cons, not_or]
    exact ⟨⟨by decide, by decide, fun hmem ↦ absurd (hcomment _ hmem) (by decide)⟩, by decide⟩
  have hline : ended ["    # ".toList ++ comment] =
      "    #".toList ++ (' ' :: comment) ++ ['\n'] := by
    simp
  rw [hline, unifyLineEnds_eq_self hreturn, List.append_assoc]
  exact (sameTokens_comment hfeed behind).trans hsame

end LinesAlike

end SchemaBindings.Source
