import SchemaBindings.Proofs.Source.Lexeme
/-!
# Places in a text

Tokens are read step by step, each at a place in the text. Every step comes closer to the end
(`Place.stepsLeft`), so that the tokens from a place on are those of one step and those from the
next place on, whatever the bound on the steps (`Place.tokens_eq`).

A step at the front of a passage does not look behind the passage (`Place.StepsIn`). By induction a
whole passage is refused, or leaves its tokens and leads to a place between two lines, whatever
stands behind it (`IsPassage.tokens_append`). Between two lines blank lines and comments leave no
tokens.
-/

set_option autoImplicit false
set_option relaxedAutoImplicit false

namespace SchemaBindings.Source

open SchemaBindings.Text

/-! ### Indentation -/

theorem measure?_suffix {kept : Nat} {line found : Indentation} {text rest : List Char}
    (hread : measure? kept line text = some (found, rest)) : rest <:+ text := by
  fun_induction measure? kept line text with
  | case1 kept line text ih => exact (ih hread).trans (List.suffix_cons _ _)
  | case2 kept line text ih => exact (ih hread).trans (List.suffix_cons _ _)
  | case3 kept line text ih => exact (ih hread).trans (List.suffix_cons _ _)
  | case4 => cases hread
  | case5 kept line text hmore ih =>
    exact (ih hread).trans ((List.suffix_cons _ _).trans (List.suffix_cons _ _))
  | case6 => cases hread
  | case7 =>
    cases hread
    exact List.suffix_rfl

theorem measure?_append {kept : Nat} {line : Indentation} {text : List Char}
    (hpassage : IsPassage text) (behind : List Char) :
    measure? kept line (text ++ behind) =
      (measure? kept line text).map fun (found, rest) ↦ (found, rest ++ behind) := by
  fun_induction measure? kept line text with
  | case1 kept line text ih => exact ih (hpassage.tail (by decide))
  | case2 kept line text ih => exact ih (hpassage.tail (by decide))
  | case3 kept line text ih => exact ih (hpassage.tail (by decide))
  | case4 kept line text hend =>
    exact absurd (List.isEmpty_iff.mp hend) hpassage.afterBackslash.ne_nil
  | case5 kept line text hmore ih =>
    have hmore' : ¬ (text ++ behind).isEmpty = true := by
      rw [List.isEmpty_iff] at hmore ⊢
      exact List.append_ne_nil_of_left_ne_nil hmore behind
    rw [← ih hpassage.afterBackslash, List.cons_append, List.cons_append, measure?, if_neg hmore']
  | case6 kept line text hfeed =>
    cases text with
    | nil => exact absurd rfl (hpassage.tail (by decide)).ne_nil
    | cons c text =>
      have hc : c ≠ '\n' := fun heq ↦ hfeed text (by rw [heq])
      simp [measure?, hc]
  | case7 kept line text hspace htab hform hline hslash =>
    cases text with
    | nil => exact absurd rfl hpassage.ne_nil
    | cons c text =>
      rw [List.cons_append, measure?]
      · rfl
      · exact fun _ heq ↦ hspace text (by rw [(List.cons.inj heq).1])
      · exact fun _ heq ↦ htab text (by rw [(List.cons.inj heq).1])
      · exact fun _ heq ↦ hform text (by rw [(List.cons.inj heq).1])
      · exact fun _ heq ↦ hslash text (by rw [(List.cons.inj heq).1])
      · exact fun _ heq ↦ hslash text (by rw [(List.cons.inj heq).1])

theorem ne_nil_of_measure? {kept : Nat} {line found : Indentation} {text rest : List Char}
    (hpassage : IsPassage text) (hread : measure? kept line text = some (found, rest)) :
    rest ≠ [] := by
  fun_induction measure? kept line text with
  | case1 kept line text ih => exact ih (hpassage.tail (by decide)) hread
  | case2 kept line text ih => exact ih (hpassage.tail (by decide)) hread
  | case3 kept line text ih => exact ih (hpassage.tail (by decide)) hread
  | case4 => cases hread
  | case5 kept line text hmore ih => exact ih hpassage.afterBackslash hread
  | case6 => cases hread
  | case7 =>
    cases hread
    exact hpassage.ne_nil

/-! ### Steps -/

/-- The number of steps that may still be taken at a place, one at the start of a line and at most
two for each character. -/
def Place.stepsLeft : Place → List Char → Nat
  | line _, text => 2 * text.length + 1
  | inside _ _, text => 2 * text.length

theorem skipComment_suffix (text : List Char) : skipComment text <:+ text :=
  List.dropWhile_suffix _

/-- What a step leaves of a text is the end of it, and fewer steps are left. -/
theorem lineStep_suffix {levels : List Indentation} {text rest : List Char} {tokens : List Token}
    {next : Place} (hstep : lineStep levels text = .on tokens next rest) :
    rest <:+ text ∧ next.stepsLeft rest < (Place.line levels).stepsLeft text := by
  have hpassed {mark : Char} {after rest : List Char} (hafter : mark :: after <:+ text)
      (hrest : rest <:+ after) :
      rest <:+ text ∧ (Place.line levels).stepsLeft rest < (Place.line levels).stepsLeft text := by
    have hlength := hafter.length_le
    have hlength' := hrest.length_le
    rw [List.length_cons] at hlength
    exact ⟨hrest.trans ((List.suffix_cons mark after).trans hafter), by
      simp only [Place.stepsLeft]; omega⟩
  unfold lineStep at hstep
  split at hstep
  · cases hstep
  · cases hstep
  · next hread =>
    cases hstep
    exact hpassed (measure?_suffix hread) List.suffix_rfl
  · next after hread =>
    split at hstep
    · cases hstep
    · next hskip =>
      cases hstep
      have hafter := skipComment_suffix after
      rw [hskip] at hafter
      exact hpassed (measure?_suffix hread) ((List.suffix_cons _ _).trans hafter)
  · next hread =>
    split at hstep
    · cases hstep
    · cases hstep
      have hrest := measure?_suffix hread
      have hlength := hrest.length_le
      exact ⟨hrest, by simp only [Place.stepsLeft]; omega⟩

theorem lineEndStep_suffix {levels : List Indentation} {expected : List String}
    {text rest : List Char} {tokens : List Token} {next : Place}
    (hstep : lineEndStep levels expected text = .on tokens next rest) : rest = text := by
  unfold lineEndStep at hstep
  split_ifs at hstep <;> cases hstep <;> rfl

theorem tokenStep_suffix {levels : List Indentation} {expected : List String}
    {text rest : List Char} {tokens : List Token} {next : Place}
    (hstep : tokenStep levels expected text = .on tokens next rest) :
    rest <:+ text ∧ next.stepsLeft rest < (Place.inside levels expected).stepsLeft text := by
  unfold tokenStep at hstep
  split at hstep
  · cases hstep
  · next hread =>
    obtain ⟨hrest, hlength⟩ := lexeme?_suffix hread
    split at hstep
    · cases hstep
    · cases hstep
      exact ⟨hrest, by simp only [Place.stepsLeft]; omega⟩

theorem insideStep_suffix {levels : List Indentation} {expected : List String}
    {text rest : List Char} {tokens : List Token} {next : Place}
    (hstep : insideStep levels expected text = .on tokens next rest) :
    rest <:+ text ∧ next.stepsLeft rest < (Place.inside levels expected).stepsLeft text := by
  have hpassed {c : Char} {text rest : List Char} (next : Place) (hrest : rest <:+ text) :
      rest <:+ c :: text ∧
        next.stepsLeft rest < (Place.inside levels expected).stepsLeft (c :: text) := by
    have hlength := hrest.length_le
    refine ⟨hrest.trans (List.suffix_cons c text), ?_⟩
    cases next <;> simp only [Place.stepsLeft, List.length_cons] <;> omega
  unfold insideStep at hstep
  split at hstep
  · split_ifs at hstep
  · cases hstep
    exact hpassed _ List.suffix_rfl
  · cases hstep
    exact hpassed _ List.suffix_rfl
  · cases hstep
    exact hpassed _ List.suffix_rfl
  · next text =>
    cases hstep
    exact hpassed _ (skipComment_suffix text)
  · rw [lineEndStep_suffix hstep]
    exact hpassed _ List.suffix_rfl
  · cases hstep
    exact hpassed _ (List.suffix_cons _ _)
  · cases hstep
  · exact tokenStep_suffix hstep

theorem Place.step_suffix {place next : Place} {text rest : List Char} {tokens : List Token}
    (hstep : place.step text = .on tokens next rest) :
    rest <:+ text ∧ next.stepsLeft rest < place.stepsLeft text := by
  cases place with
  | line levels => exact lineStep_suffix hstep
  | inside levels expected => exact insideStep_suffix hstep

theorem Place.tokensWithin_eq {fuel other : Nat} {place : Place} {text : List Char}
    (hfuel : place.stepsLeft text < fuel) (hother : place.stepsLeft text < other) :
    place.tokensWithin fuel text = place.tokensWithin other text := by
  induction fuel generalizing other place text with
  | zero => exact absurd hfuel (Nat.not_lt_zero _)
  | succ fuel ih =>
    cases other with
    | zero => exact absurd hother (Nat.not_lt_zero _)
    | succ other =>
      rw [tokensWithin, tokensWithin]
      cases hstep : place.step text with
      | ended tokens => rfl
      | refused => rfl
      | on tokens next rest =>
        have hless := (step_suffix hstep).2
        have hsame : next.tokensWithin fuel rest = next.tokensWithin other rest :=
          ih (by omega) (by omega)
        simp only [hsame]

theorem Place.stepsLeft_lt (place : Place) (text : List Char) :
    place.stepsLeft text < 2 * text.length + 2 := by
  cases place <;> simp only [stepsLeft] <;> omega

/-- The tokens from a place on are those of one step and those from the next place on. -/
theorem Place.tokens_eq (place : Place) (text : List Char) :
    place.tokens text =
      match place.step text with
      | .ended left => some left
      | .on found next rest => (next.tokens rest).map (found ++ ·)
      | .refused => none := by
  rw [tokens, tokensWithin]
  cases hstep : place.step text with
  | ended left => rfl
  | refused => rfl
  | on found next rest =>
    have hless := (step_suffix hstep).2
    have hbound := place.stepsLeft_lt text
    dsimp only
    rw [tokens, tokensWithin_eq (by omega) (next.stepsLeft_lt rest)]

/-! ### Passages -/

/-- A place between two lines: none has begun, or brackets are open. -/
def Place.IsFresh : Place → Prop
  | line _ => True
  | inside _ expected => expected ≠ []

/-- A step at the front of a text is the same whatever stands behind the text. It is refused, or
leaves a passage, or leaves nothing and leads to a place between two lines. -/
def Place.StepsIn (place : Place) (text : List Char) : Prop :=
  (∀ behind, place.step (text ++ behind) = .refused) ∨
    ∃ tokens next rest,
      (∀ behind, place.step (text ++ behind) = .on tokens next (rest ++ behind)) ∧
        (IsPassage rest ∨ rest = [] ∧ next.IsFresh)

/-- What follows a line feed in a passage is nothing or a passage. -/
theorem IsPassage.after_cons {c : Char} {rest : List Char} (hpassage : IsPassage (c :: rest)) :
    IsPassage rest ∨ rest = [] := by
  by_cases hrest : rest = []
  · exact .inr hrest
  · exact .inl (hpassage.of_suffix (List.suffix_cons c rest) hrest)

/-- A comment in a passage ends at a line feed of the passage. -/
theorem IsPassage.exists_skipComment {text : List Char} (hpassage : IsPassage text) :
    ∃ rest, IsPassage ('\n' :: rest) ∧
      ∀ behind, skipComment (text ++ behind) = '\n' :: (rest ++ behind) := by
  have hskips : Skips fun text ↦ some (skipComment text) := skips_dropWhile (by decide)
  have hfeed := hskips.lineFeed text _ hpassage.mem rfl
  have hrest := hpassage.of_suffix (skipComment_suffix text) (List.ne_nil_of_mem hfeed)
  cases hskip : skipComment text with
  | nil =>
    rw [hskip] at hrest
    exact absurd rfl hrest.ne_nil
  | cons c rest =>
    have hc : c = '\n' := by
      have hhead := List.head?_dropWhile_not (fun d : Char ↦ d != '\n') text
      rw [← skipComment, hskip] at hhead
      simpa using hhead
    subst hc
    refine ⟨rest, hskip ▸ hrest, fun behind ↦ ?_⟩
    have happend := Option.some.inj (hskips.append text behind hpassage.mem)
    rw [happend, hskip]
    rfl

theorem stepsIn_line {text : List Char} (hpassage : IsPassage text) (levels : List Indentation) :
    (Place.line levels).StepsIn text := by
  simp only [Place.StepsIn, Place.step, lineStep, measure?_append hpassage]
  cases hread : measure? 0 ⟨0, 0⟩ text with
  | none => exact .inl fun behind ↦ rfl
  | some found =>
    obtain ⟨line, rest⟩ := found
    have hrest := hpassage.of_suffix (measure?_suffix hread) (ne_nil_of_measure? hpassage hread)
    cases rest with
    | nil => exact absurd rfl hrest.ne_nil
    | cons c rest =>
      simp only [Option.map_some, List.cons_append]
      by_cases hfeed : c = '\n'
      · subst hfeed
        exact .inr ⟨[], .line levels, rest, fun behind ↦ rfl,
          hrest.after_cons.imp_right fun hnil ↦ ⟨hnil, trivial⟩⟩
      by_cases hmark : c = '#'
      · subst hmark
        obtain ⟨next, hnext, hskip⟩ := (hrest.tail hfeed).exists_skipComment
        refine .inr ⟨[], .line levels, next, fun behind ↦ ?_,
          hnext.after_cons.imp_right fun hnil ↦ ⟨hnil, trivial⟩⟩
        simp only [hskip]
      cases hlevels : adjust line levels with
      | none => exact .inl fun behind ↦ by simp [hfeed, hmark, hlevels]
      | some adjusted =>
        obtain ⟨changes, levels⟩ := adjusted
        exact .inr ⟨changes, .inside levels [], c :: rest,
          fun behind ↦ by simp [hfeed, hmark, hlevels], .inl hrest⟩

theorem stepsIn_token {text : List Char} (hpassage : IsPassage text) (levels : List Indentation)
    (expected : List String) :
    (∀ behind, tokenStep levels expected (text ++ behind) = .refused) ∨
      ∃ tokens next rest,
        (∀ behind, tokenStep levels expected (text ++ behind) = .on tokens next (rest ++ behind)) ∧
          IsPassage rest := by
  simp only [tokenStep, lexeme?_append hpassage]
  cases hread : lexeme? text with
  | none => exact .inl fun behind ↦ rfl
  | some found =>
    obtain ⟨token, after⟩ := found
    simp only [Option.map_some]
    cases afterToken? expected token with
    | none => exact .inl fun behind ↦ rfl
    | some expected =>
      exact .inr ⟨[token], .inside levels expected, after, fun behind ↦ rfl,
        hpassage.of_suffix (lexeme?_suffix hread).1 (ne_nil_of_lexeme? hpassage hread)⟩

/-- The characters with which no token begins inside a logical line. -/
def skippedMarks : List Char := [' ', '\t', '\x0c', '#', '\n', '\\']

/-- A token begins at any other character. -/
theorem insideStep_eq_tokenStep {c : Char} (hc : c ∉ skippedMarks) (levels : List Indentation)
    (expected : List String) (rest : List Char) :
    insideStep levels expected (c :: rest) = tokenStep levels expected (c :: rest) := by
  simp only [skippedMarks, List.mem_cons, List.not_mem_nil, or_false, not_or] at hc
  rw [insideStep] <;> simp [hc]

/-! ### Steps inside a logical line, by the first character -/

section Inside

variable {rest : List Char} (levels : List Indentation) (expected : List String)

/-- A character that is passed over leaves the passage behind it. -/
theorem stepsIn_passed {c : Char} (hpassage : IsPassage (c :: rest)) (hc : c ≠ '\n')
    (hstep : ∀ rest, insideStep levels expected (c :: rest) =
      .on [] (.inside levels expected) rest) :
    (Place.inside levels expected).StepsIn (c :: rest) :=
  .inr ⟨[], .inside levels expected, rest, fun _ ↦ hstep _, .inl (hpassage.tail hc)⟩

theorem stepsIn_comment (hpassage : IsPassage ('#' :: rest)) :
    (Place.inside levels expected).StepsIn ('#' :: rest) := by
  obtain ⟨next, hnext, hskip⟩ := (hpassage.tail (by decide)).exists_skipComment
  refine .inr ⟨[], .inside levels expected, '\n' :: next, fun behind ↦ ?_, .inl hnext⟩
  simp only [List.cons_append, Place.step, insideStep, hskip]

/-- A line feed ends the logical line, or stands between brackets. -/
theorem stepsIn_lineFeed (hpassage : IsPassage ('\n' :: rest)) :
    (Place.inside levels expected).StepsIn ('\n' :: rest) := by
  cases expected with
  | nil =>
    exact .inr ⟨[.newline], .line levels, rest, fun behind ↦ rfl,
      hpassage.after_cons.imp_right fun hnil ↦ ⟨hnil, trivial⟩⟩
  | cons closing expected =>
    exact .inr ⟨[], .inside levels (closing :: expected), rest, fun behind ↦ rfl,
      hpassage.after_cons.imp_right fun hnil ↦ ⟨hnil, List.cons_ne_nil _ _⟩⟩

/-- A backslash joins two lines of the passage, or it is refused. -/
theorem stepsIn_backslash (hpassage : IsPassage ('\\' :: rest)) :
    (Place.inside levels expected).StepsIn ('\\' :: rest) := by
  cases rest with
  | nil => exact absurd rfl (hpassage.tail (by decide)).ne_nil
  | cons c rest =>
    by_cases hc : c = '\n'
    · subst hc
      have hrest := hpassage.afterBackslash
      cases rest with
      | nil => exact absurd rfl hrest.ne_nil
      | cons d rest =>
        exact .inr ⟨[], .inside levels expected, d :: rest, fun behind ↦ rfl, .inl hrest⟩
    · exact .inl fun behind ↦ by simp [Place.step, insideStep, hc]

theorem stepsIn_inside {text : List Char} (hpassage : IsPassage text) :
    (Place.inside levels expected).StepsIn text := by
  cases text with
  | nil => exact absurd rfl hpassage.ne_nil
  | cons c rest =>
    by_cases hc : c ∈ skippedMarks
    · simp only [skippedMarks, List.mem_cons, List.not_mem_nil, or_false] at hc
      rcases hc with rfl | rfl | rfl | rfl | rfl | rfl
      · exact stepsIn_passed levels expected hpassage (by decide) fun rest ↦ rfl
      · exact stepsIn_passed levels expected hpassage (by decide) fun rest ↦ rfl
      · exact stepsIn_passed levels expected hpassage (by decide) fun rest ↦ rfl
      · exact stepsIn_comment levels expected hpassage
      · exact stepsIn_lineFeed levels expected hpassage
      · exact stepsIn_backslash levels expected hpassage
    · have hsteps := stepsIn_token hpassage levels expected
      simp only [List.cons_append, ← insideStep_eq_tokenStep hc] at hsteps
      exact hsteps.imp_right fun ⟨tokens, next, rest, hstep, hrest⟩ ↦
        ⟨tokens, next, rest, hstep, .inl hrest⟩

end Inside

theorem stepsIn_of_isPassage {text : List Char} (hpassage : IsPassage text) (place : Place) :
    place.StepsIn text := by
  cases place with
  | line levels => exact stepsIn_line hpassage levels
  | inside levels expected => exact stepsIn_inside levels expected hpassage

/-- A passage is refused, whatever stands behind it, or it leaves its tokens and leads to a place
between two lines. -/
theorem IsPassage.tokens_append {text : List Char} (hpassage : IsPassage text) (place : Place) :
    (∀ behind, place.tokens (text ++ behind) = none) ∨
      ∃ found, ∃ next : Place, next.IsFresh ∧
        ∀ behind, place.tokens (text ++ behind) = (next.tokens behind).map (found ++ ·) := by
  induction hleft : place.stepsLeft text using Nat.strong_induction_on generalizing place text with
  | _ left ih =>
    rcases stepsIn_of_isPassage hpassage place with hrefused | ⟨found, next, rest, hstep, hrest⟩
    · exact .inl fun behind ↦ by rw [Place.tokens_eq, hrefused]
    · rcases hrest with hrest | ⟨rfl, hfresh⟩
      · have hnone := hstep []
        rw [List.append_nil, List.append_nil] at hnone
        have hless := (Place.step_suffix hnone).2
        rcases ih _ (hleft ▸ hless) hrest next rfl with hrefused | ⟨others, last, hfresh, htokens⟩
        · exact .inl fun behind ↦ by rw [Place.tokens_eq, hstep]; simp only [hrefused]; rfl
        · refine .inr ⟨found ++ others, last, hfresh, fun behind ↦ ?_⟩
          rw [Place.tokens_eq, hstep]
          simp only [htokens, Option.map_map, Function.comp_def, List.append_assoc]
      · exact .inr ⟨found, next, hfresh, fun behind ↦ by rw [Place.tokens_eq, hstep]; rfl⟩

/-! ### Lines without tokens -/

theorem tokens_of_step {place next : Place} {text rest : List Char}
    (hstep : place.step text = .on [] next rest) : place.tokens text = next.tokens rest := by
  rw [Place.tokens_eq, hstep]
  simp only [List.nil_append, Option.map_id_fun', id]

theorem tokens_space (levels : List Indentation) (expected : List String) (rest : List Char) :
    (Place.inside levels expected).tokens (' ' :: rest) =
      (Place.inside levels expected).tokens rest :=
  tokens_of_step rfl

/-- Between two lines a line feed leaves no token. -/
theorem tokens_lineFeed {place : Place} (hfresh : place.IsFresh) (behind : List Char) :
    place.tokens ('\n' :: behind) = place.tokens behind := by
  cases place with
  | line levels => exact tokens_of_step rfl
  | inside levels expected =>
    cases expected with
    | nil => exact absurd rfl hfresh
    | cons closing expected => exact tokens_of_step rfl

/-- Between two lines a line with nothing but a comment leaves no token. -/
theorem tokens_comment {place : Place} (hfresh : place.IsFresh) {comment : List Char}
    (hcomment : '\n' ∉ comment) (behind : List Char) :
    place.tokens ("    #".toList ++ comment ++ '\n' :: behind) = place.tokens behind := by
  have hskip : skipComment (comment ++ '\n' :: behind) = '\n' :: behind := by
    rw [skipComment, List.dropWhile_append_of_pos]
    · rfl
    · intro c hc
      rw [bne_iff_ne]
      rintro rfl
      exact hcomment hc
  rw [List.append_assoc]
  cases place with
  | line levels =>
    have hmeasure : measure? 0 ⟨0, 0⟩ ("    #".toList ++ (comment ++ '\n' :: behind)) =
        some (⟨4, 4⟩, '#' :: (comment ++ '\n' :: behind)) := rfl
    refine tokens_of_step ?_
    rw [Place.step, lineStep, hmeasure]
    simp only [hskip]
  | inside levels expected =>
    have hmark : (Place.inside levels expected).step ('#' :: (comment ++ '\n' :: behind)) =
        .on [] (.inside levels expected) ('\n' :: behind) := by
      simp only [Place.step, insideStep, hskip]
    change (Place.inside levels expected).tokens
      (' ' :: ' ' :: ' ' :: ' ' :: '#' :: (comment ++ '\n' :: behind)) = _
    rw [tokens_space, tokens_space, tokens_space, tokens_space, tokens_of_step hmark,
      tokens_lineFeed hfresh]

/-! ### Given passages -/

/-- The tokens that a text leaves from a place on, and the place that it leads to, in at most `fuel`
steps. -/
def Place.through : (fuel : Nat) → Place → List Char → Option (List Token × Place)
  | _, place, [] => some ([], place)
  | 0, _, _ => none
  | fuel + 1, place, text =>
    match place.step text with
    | .on found next rest =>
      (through fuel next rest).map fun (others, last) ↦ (found ++ others, last)
    | .ended _ | .refused => none

/-- A passage leaves the same tokens whatever stands behind it. -/
theorem IsPassage.tokens_of_through {fuel : Nat} {place last : Place} {text : List Char}
    {found : List Token} (hpassage : IsPassage text)
    (hthrough : place.through fuel text = some (found, last)) (behind : List Char) :
    place.tokens (text ++ behind) = (last.tokens behind).map (found ++ ·) := by
  induction fuel generalizing place text found with
  | zero =>
    cases text with
    | nil => exact absurd rfl hpassage.ne_nil
    | cons c rest => cases hthrough
  | succ fuel ih =>
    cases text with
    | nil => exact absurd rfl hpassage.ne_nil
    | cons c rest =>
      simp only [Place.through] at hthrough
      rcases stepsIn_of_isPassage hpassage place with hrefused | ⟨first, next, rest, hstep, hrest⟩
      · have hnone := hrefused []
        rw [List.append_nil] at hnone
        rw [hnone] at hthrough
        cases hthrough
      · have hnone := hstep []
        rw [List.append_nil, List.append_nil] at hnone
        rw [hnone] at hthrough
        obtain ⟨⟨others, last'⟩, hothers, heq⟩ := Option.map_eq_some_iff.mp hthrough
        cases heq
        rw [Place.tokens_eq, hstep]
        rcases hrest with hrest | ⟨rfl, -⟩
        · simp only [ih hrest hothers, Option.map_map, Function.comp_def, List.append_assoc]
        · have hdone : next.through fuel [] = some ([], next) := by cases fuel <;> rfl
          rw [hdone] at hothers
          cases hothers
          rw [List.append_nil, List.nil_append]

/-! ### The start of a line and of a token -/

theorem measure?_cons {c : Char} (hc : c ∉ skippedMarks) (line : Indentation)
    (rest : List Char) : measure? 0 line (c :: rest) = some (line, c :: rest) := by
  simp only [skippedMarks, List.mem_cons, List.not_mem_nil, or_false, not_or] at hc
  rw [measure?] <;> simp [hc]

section Start

variable {c : Char} (hc : c ∉ skippedMarks) (rest : List Char) {levels after : List Indentation}
  {changes : List Token}
include hc

theorem tokens_measured {text : List Char} {line : Indentation}
    (hmeasure : measure? 0 ⟨0, 0⟩ text = some (line, c :: rest))
    (hlevels : adjust line levels = some (changes, after)) :
    (Place.line levels).tokens text =
      ((Place.inside after []).tokens (c :: rest)).map (changes ++ ·) := by
  simp only [skippedMarks, List.mem_cons, List.not_mem_nil, or_false, not_or] at hc
  rw [Place.tokens_eq, Place.step, lineStep, hmeasure]
  simp [hc, hlevels]

theorem tokens_lineStart (hlevels : adjust ⟨0, 0⟩ levels = some (changes, after)) :
    (Place.line levels).tokens (c :: rest) =
      ((Place.inside after []).tokens (c :: rest)).map (changes ++ ·) :=
  tokens_measured hc rest (measure?_cons hc _ rest) hlevels

/-- Four spaces at the start of a line are an indentation. -/
theorem tokens_indented (hlevels : adjust ⟨4, 4⟩ levels = some (changes, after)) :
    (Place.line levels).tokens ("    ".toList ++ c :: rest) =
      ((Place.inside after []).tokens (c :: rest)).map (changes ++ ·) :=
  tokens_measured hc rest (measure?_cons hc ⟨4, 4⟩ rest) hlevels

end Start

theorem tokens_token {c : Char} (hc : c ∉ skippedMarks) {rest behind : List Char} {token : Token}
    (hread : lexeme? (c :: rest) = some (token, behind)) {expected after : List String}
    (hafter : afterToken? expected token = some after) (levels : List Indentation) :
    (Place.inside levels expected).tokens (c :: rest) =
      ((Place.inside levels after).tokens behind).map ([token] ++ ·) := by
  rw [Place.tokens_eq, Place.step, insideStep_eq_tokenStep hc, tokenStep, hread]
  simp only [hafter]

end SchemaBindings.Source
