import SchemaBindings.Proofs.Comment
/-!
# White space around a description

The length of a description is taken before it is trimmed, so white space around it counts: one
space at the front and one at the end, whatever the padding holds. `spread` is the text of which the
length is taken, and `stripped` what trimming would leave of it. Padding does not change what is
left (`stripped_padded`), but it can make a text too long, and a space in front takes a place of
what is kept (`ofDescription_eq`). So a padded description has another comment exactly when one of
the two happens and the cut shows (`ofDescription_padded_eq_iff`); at most 118 characters are safe.
-/

set_option autoImplicit false
set_option relaxedAutoImplicit false

namespace SchemaBindings.Comment

open SchemaBindings.Text

/-- A description with one space for each run of white space, also at its ends. -/
def spread (text : List Char) : List Char :=
  collapse false (clean text)

/-- A description cleaned and trimmed, of any length. -/
def stripped (text : List Char) : List Char :=
  trim (spread text)

/-- The number of spaces in front of a description whose length is taken, none or one. -/
def opening (text : List Char) : Nat :=
  ((spread text).takeWhile isBlank).length

/-- What is kept of a description that is too long, with its ellipsis. -/
def shortened (text : List Char) : List Char :=
  (stripped text).take (117 - opening text) ++ ['.', '.', '.']

/-! ### Spaces at the ends -/

/-- White space side by side is a single character. -/
theorem length_le_one_of_isSpaced {blanks : List Char} (hspaced : IsSpaced blanks)
    (hblanks : isAllBlank blanks = true) : blanks.length ≤ 1 := by
  rw [isAllBlank_iff] at hblanks
  rcases blanks with _ | ⟨c, _ | ⟨d, rest⟩⟩
  · exact Nat.zero_le 1
  · exact Nat.le_refl 1
  · obtain ⟨hnext, -⟩ := List.isChain_cons.mp hspaced
    have hd := hnext d rfl (hblanks c (by simp))
    exact absurd rfl (ne_of_isBlank hd (hblanks d (by simp)))

/-- A description of which the length is taken is what trimming leaves, between at most one space
at the front and at most one at the end. -/
theorem exists_spread_eq (text : List Char) :
    ∃ front back, isAllBlank front = true ∧ isAllBlank back = true ∧
      spread text = front ++ stripped text ++ back ∧ front.length = opening text ∧
        front.length ≤ 1 ∧ back.length ≤ 1 := by
  obtain ⟨back, hback, heq⟩ := exists_eq_append_trim (spread text)
  have hfront : isAllBlank ((spread text).takeWhile isBlank) = true :=
    List.all_eq_true.mpr fun _ hc ↦ List.mem_takeWhile_imp hc
  have hspaced : IsSpaced (spread text) := isSpaced_collapse false (clean text)
  have hstart : IsSpaced ((spread text).takeWhile isBlank) :=
    List.IsChain.prefix hspaced <| List.takeWhile_prefix _
  have hrest : IsSpaced back := List.IsChain.suffix hspaced ⟨_, heq.symm⟩
  exact ⟨_, back, hfront, hback, heq, rfl, length_le_one_of_isSpaced hstart hfront,
    length_le_one_of_isSpaced hrest hback⟩

theorem opening_le_one (text : List Char) : opening text ≤ 1 := by
  obtain ⟨front, -, -, -, -, hopening, hfront, -⟩ := exists_spread_eq text
  exact hopening ▸ hfront

theorem length_spread_le (text : List Char) :
    (spread text).length ≤ (stripped text).length + 2 := by
  obtain ⟨front, back, -, -, heq, -, hfront, hback⟩ := exists_spread_eq text
  rw [heq, List.length_append, List.length_append]
  omega

/-- Something of a text that is too long is kept, so it still begins with no space, and it ends in
the ellipsis. -/
theorem isTrimmed_shortened {text : List Char} (hlong : 119 ≤ (stripped text).length) :
    IsTrimmed (shortened text) := by
  have hopening := opening_le_one text
  obtain ⟨first, rest, hcons⟩ := List.exists_cons_of_length_pos (l := stripped text) (by omega)
  constructor
  · intro c hc
    refine (isTrimmed_trim (spread text)).1 c ?_
    rw [shortened, List.head?_append, List.head?_take, if_neg (by omega), hcons] at hc
    rwa [← stripped, hcons]
  · intro c hc
    rw [shortened, List.getLast?_append] at hc
    cases hc
    decide

/-- The comment of a description: all of it when it fits with the spaces around it, else as much as
fits behind the space in front. -/
theorem ofDescription_eq (text : List Char) :
    ofDescription text = if (spread text).length ≤ 120 then stripped text else shortened text := by
  change trim (shorten (spread text)) = _
  by_cases hfits : (spread text).length ≤ 120
  · rw [if_pos hfits, shorten, maxLength, if_neg (Nat.not_lt.mpr hfits), stripped]
  · obtain ⟨front, back, hfront, -, heq, hopening, hone, -⟩ := exists_spread_eq text
    have hspread := length_spread_le text
    have hlong : 119 ≤ (stripped text).length := by omega
    have htake : (spread text).take 117 = front ++ (stripped text).take (117 - opening text) := by
      rw [heq, List.append_assoc, List.take_append, List.take_of_length_le (by omega), hopening,
        List.take_append_of_le_length (by omega)]
    calc trim (shorten (spread text))
        = trim (front ++ shortened text ++ []) := by
          rw [shorten, maxLength, if_pos (Nat.lt_of_not_le hfits), cutLength, htake, shortened,
            List.append_assoc, List.append_nil]
      _ = shortened text :=
          trim_append_append_of_isTrimmed hfront (isTrimmed_shortened hlong) rfl
      _ = if (spread text).length ≤ 120 then stripped text else shortened text :=
          (if_neg hfits).symm

/-! ### Padding -/

theorem clean_append (first second : List Char) :
    clean (first ++ second) = clean first ++ clean second := by
  rw [clean, List.map_append, List.filter_append, clean, clean]

theorem isAllBlank_clean {blanks : List Char} (hblanks : isAllBlank blanks = true) :
    isAllBlank (clean blanks) = true :=
  isAllBlank_of_mem (fun _ hmem hc ↦ ((mem_clean_iff hc blanks).mp hmem).1) hblanks

theorem isAllBlank_collapse {blanks : List Char} (hblanks : isAllBlank blanks = true)
    (afterBlank : Bool) : isAllBlank (collapse afterBlank blanks) = true :=
  isAllBlank_of_mem (fun _ hmem hc ↦ (mem_collapse_iff hc afterBlank blanks).mp hmem) hblanks

/-- White space at the end of a text adds at most white space at the end. -/
theorem exists_collapse_append {blanks : List Char} (hblanks : isAllBlank blanks = true)
    (afterBlank : Bool) (text : List Char) :
    ∃ back, isAllBlank back = true ∧
      collapse afterBlank (text ++ blanks) = collapse afterBlank text ++ back := by
  induction text generalizing afterBlank with
  | nil => exact ⟨_, isAllBlank_collapse hblanks afterBlank, rfl⟩
  | cons c rest ih =>
    rw [List.cons_append, collapse, collapse]
    by_cases hc : isBlank c = true
    · obtain ⟨back, hback, heq⟩ := ih true
      refine ⟨back, hback, ?_⟩
      rw [if_pos hc, if_pos hc, heq]
      cases afterBlank <;> rfl
    · obtain ⟨back, hback, heq⟩ := ih false
      exact ⟨back, hback, by rw [if_neg hc, if_neg hc, heq, List.cons_append]⟩

/-- White space behind a space that has been written leaves no trace. -/
theorem collapse_true_append {blanks : List Char} (hblanks : isAllBlank blanks = true)
    (text : List Char) : collapse true (blanks ++ text) = collapse true text := by
  induction blanks with
  | nil => rfl
  | cons c blanks ih =>
    rw [isAllBlank, List.all_cons, Bool.and_eq_true] at hblanks
    rw [List.cons_append, collapse, if_pos hblanks.1, if_pos rfl, ih hblanks.2]

/-- At the front of a text a space has been written or not. -/
theorem collapse_false_eq (text : List Char) :
    collapse false text = collapse true text ∨ collapse false text = ' ' :: collapse true text := by
  cases text with
  | nil => exact Or.inl rfl
  | cons c rest =>
    by_cases hc : isBlank c = true
    · refine Or.inr ?_
      rw [collapse, collapse, if_pos hc, if_pos hc, if_pos rfl, if_neg Bool.false_ne_true]
    · refine Or.inl ?_
      rw [collapse, collapse, if_neg hc, if_neg hc]

/-- White space at the front of a text adds at most a space at the front. -/
theorem exists_append_collapse {blanks : List Char} (hblanks : isAllBlank blanks = true)
    (text : List Char) :
    ∃ front, isAllBlank front = true ∧
      collapse false (blanks ++ text) = front ++ collapse false text := by
  cases blanks with
  | nil => exact ⟨[], rfl, rfl⟩
  | cons c blanks =>
    rw [isAllBlank, List.all_cons, Bool.and_eq_true] at hblanks
    have hcollapsed : collapse false (c :: blanks ++ text) = ' ' :: collapse true text := by
      rw [List.cons_append, collapse, if_pos hblanks.1, if_neg Bool.false_ne_true,
        collapse_true_append hblanks.2]
    rcases collapse_false_eq text with heq | heq
    · exact ⟨[' '], rfl, by rw [hcollapsed, heq, List.singleton_append]⟩
    · exact ⟨[], rfl, by rw [hcollapsed, heq, List.nil_append]⟩

section Padded

variable {front back : List Char} (hfront : isAllBlank front = true)
  (hback : isAllBlank back = true)

include hfront hback

/-- Padding adds white space to what is trimmed, and nothing else. -/
theorem exists_spread_padded_eq (text : List Char) :
    ∃ before behind, isAllBlank before = true ∧ isAllBlank behind = true ∧
      spread (front ++ text ++ back) = before ++ spread text ++ behind := by
  obtain ⟨before, hbefore, hopened⟩ :=
    exists_append_collapse (isAllBlank_clean hfront) (clean text)
  obtain ⟨behind, hbehind, hclosed⟩ :=
    exists_collapse_append (isAllBlank_clean hback) false (clean front ++ clean text)
  refine ⟨before, behind, hbefore, hbehind, ?_⟩
  rw [spread, clean_append, clean_append, hclosed, hopened, spread]

theorem stripped_padded (text : List Char) :
    stripped (front ++ text ++ back) = stripped text := by
  obtain ⟨before, behind, hbefore, hbehind, heq⟩ := exists_spread_padded_eq hfront hback text
  rw [stripped, heq, trim_append_append hbefore _ hbehind, stripped]

theorem length_spread_le_padded (text : List Char) :
    (spread text).length ≤ (spread (front ++ text ++ back)).length := by
  obtain ⟨before, behind, -, -, heq⟩ := exists_spread_padded_eq hfront hback text
  rw [heq, List.length_append, List.length_append]
  omega

/-- Two texts that are both too long are cut alike when the same space stands in front. -/
theorem shortened_padded_eq_iff {text : List Char} (hlong : 120 < (spread text).length) :
    shortened (front ++ text ++ back) = shortened text ↔
      opening (front ++ text ++ back) = opening text := by
  have hsame := stripped_padded hfront hback text
  have hspread := length_spread_le text
  have hfirst := opening_le_one (front ++ text ++ back)
  have hsecond := opening_le_one text
  constructor
  · intro heq
    have hlength := congrArg List.length heq
    rw [shortened, shortened, hsame, List.length_append, List.length_append, List.length_take,
      List.length_take] at hlength
    omega
  · intro heq
    rw [shortened, shortened, hsame, heq]

/-- White space around a description matters exactly when the description is too long with it, and
either the cut shows or it was too long already and is now cut behind a space in front. What
trimming leaves is the same, so up to 118 characters nothing is ever cut. -/
theorem ofDescription_padded_eq_iff (text : List Char) :
    stripped (front ++ text ++ back) = stripped text ∧
      ((stripped text).length ≤ 118 →
        ofDescription (front ++ text ++ back) = stripped text ∧
          ofDescription text = stripped text) ∧
      (ofDescription (front ++ text ++ back) = ofDescription text ↔
        (spread (front ++ text ++ back)).length ≤ 120 ∨
          if (spread text).length ≤ 120 then shortened (front ++ text ++ back) = stripped text
          else opening (front ++ text ++ back) = opening text) := by
  have hsame := stripped_padded hfront hback text
  have hmore := length_spread_le_padded hfront hback text
  refine ⟨hsame, fun hshort ↦ ?_, ?_⟩
  · have hpadded := length_spread_le (front ++ text ++ back)
    rw [hsame] at hpadded
    rw [ofDescription_eq, if_pos (by omega), ofDescription_eq, if_pos (by omega)]
    exact ⟨hsame, rfl⟩
  · rw [ofDescription_eq, ofDescription_eq]
    by_cases hpadded : (spread (front ++ text ++ back)).length ≤ 120
    · rw [if_pos hpadded, if_pos (hmore.trans hpadded), hsame]
      exact iff_of_true rfl (Or.inl hpadded)
    · rw [if_neg hpadded, or_iff_right hpadded]
      by_cases hfits : (spread text).length ≤ 120
      · rw [if_pos hfits, if_pos hfits]
      · rw [if_neg hfits, if_neg hfits]
        exact shortened_padded_eq_iff hfront hback (Nat.lt_of_not_le hfits)

end Padded

/-- A description of 120 characters without white space. -/
def fullLine : List Char :=
  List.replicate 120 'x'

/-- The line feed at the end makes the description too long, and the cut shows. -/
theorem ofDescription_padded_eq_iff_fullLine :
    isAllBlank [] = true ∧ isAllBlank ['\n'] = true ∧
      ofDescription ([] ++ fullLine ++ ['\n']) ≠ ofDescription fullLine := by
  have hfront : isAllBlank [] = true := rfl
  have hback : isAllBlank ['\n'] = true := rfl
  obtain ⟨-, -, hiff⟩ := ofDescription_padded_eq_iff hfront hback fullLine
  refine ⟨hfront, hback, fun heq ↦ ?_⟩
  rcases hiff.mp heq with hfits | hcut
  · exact absurd hfits (by decide +kernel)
  · rw [if_pos (by decide +kernel)] at hcut
    exact absurd hcut (by decide +kernel)

/-- A description that fits in a comment is cut when a line feed stands behind it. -/
theorem ofDescription_lineFeed_cut :
    isAllBlank ['\n'] = true ∧ (stripped (fullLine ++ ['\n'])).length = 120 ∧
      ofDescription fullLine = fullLine ∧
      ofDescription (fullLine ++ ['\n']) = List.replicate 117 'x' ++ ['.', '.', '.'] := by
  decide +kernel

end SchemaBindings.Comment
