import Mathlib.Data.List.Chain
import Mathlib.Tactic.SplitIfs
import SchemaBindings.Comment
import SchemaBindings.Proofs.Text.Line
/-!
# The form of a comment

Whatever a description holds, its comment has no line break in it (`isBreak_of_mem_ofDescription`):
every break is white space, and the only white space that a comment keeps is the space. Something is
left of a description exactly when it holds a character that is neither white space nor an asterisk
(`ofDescription_ne_nil_iff`).

A comment is in normal form (`IsNormal`): words with one space between them, without asterisks, in
at most 120 characters. The texts in normal form are exactly those that are their own comments
(`ofDescription_isNormal`). Cutting keeps the form, because an ellipsis holds no white space, and
trimming comes last.
-/

set_option autoImplicit false
set_option relaxedAutoImplicit false

namespace SchemaBindings.Comment

open SchemaBindings.Text

/-- The only white space that is left when runs of white space are replaced is the space. -/
theorem eq_space_of_mem_collapse {afterBlank : Bool} {text : List Char} {c : Char}
    (hc : c ∈ collapse afterBlank text) (hblank : isBlank c = true) : c = ' ' := by
  induction text generalizing afterBlank with
  | nil => exact absurd hc List.not_mem_nil
  | cons d rest ih =>
    rw [collapse] at hc
    split_ifs at hc with hd hafter
    · exact ih hc
    · rcases List.mem_cons.mp hc with rfl | hrest
      · rfl
      · exact ih hrest
    · rcases List.mem_cons.mp hc with rfl | hrest
      · exact absurd hblank hd
      · exact ih hrest

theorem mem_shorten {text : List Char} {c : Char} (hc : c ∈ shorten text) : c ∈ text ∨ c = '.' := by
  unfold shorten at hc
  split_ifs at hc
  · rcases List.mem_append.mp hc with hkept | hdots
    · exact Or.inl (List.mem_of_mem_take hkept)
    · exact Or.inr (by simpa using hdots)
  · exact Or.inl hc

theorem isBreak_of_mem_ofDescription {text : List Char} {c : Char}
    (hc : c ∈ ofDescription text) : isBreak c = false := by
  have hshortened := (trim_sublist _).subset hc
  by_contra hbreak
  rw [Bool.not_eq_false] at hbreak
  rcases mem_shorten hshortened with hcollapsed | rfl
  · have hspace := eq_space_of_mem_collapse hcollapsed (isBlank_of_isBreak hbreak)
    rw [hspace] at hbreak
    exact absurd hbreak (by decide)
  · exact absurd hbreak (by decide)

/-! ### What is left of a description -/

theorem mem_clean_iff {c : Char} (hc : isBlank c = false) (text : List Char) :
    c ∈ clean text ↔ c ∈ text ∧ c ≠ '*' := by
  have hreturn : c ≠ '\r' := ne_of_isBlank hc rfl
  have hspace : c ≠ ' ' := ne_of_isBlank hc rfl
  have hfeed : c ≠ '\n' := ne_of_isBlank hc rfl
  have hmap : c ∈ text.map (fun d ↦ if d = '\n' then ' ' else d) ↔ c ∈ text := by
    rw [List.mem_map]
    constructor
    · rintro ⟨d, hd, heq⟩
      split_ifs at heq
      · exact absurd heq.symm hspace
      · exact heq ▸ hd
    · exact fun hmem ↦ ⟨c, hmem, if_neg hfeed⟩
  rw [clean, List.mem_filter, hmap]
  simp [hreturn]

theorem mem_collapse_iff {c : Char} (hc : isBlank c = false) (afterBlank : Bool)
    (text : List Char) : c ∈ collapse afterBlank text ↔ c ∈ text := by
  have hspace : c ≠ ' ' := ne_of_isBlank hc rfl
  induction text generalizing afterBlank with
  | nil => simp [collapse]
  | cons d rest ih =>
    rw [collapse]
    by_cases hd : isBlank d = true
    · have hne : c ≠ d := ne_of_isBlank hc hd
      cases afterBlank <;> simp [hd, ih, hspace, hne]
    · simp [hd, ih]

/-- Apart from white space a comment holds characters of its description and the points of an
ellipsis. -/
theorem mem_of_mem_ofDescription {text : List Char} {c : Char} (hc : c ∈ ofDescription text)
    (hblank : isBlank c = false) : c ∈ text ∨ c = '.' := by
  have hshortened := (trim_sublist _).subset hc
  refine (mem_shorten hshortened).imp_left fun hcollapsed ↦ ?_
  exact ((mem_clean_iff hblank text).mp ((mem_collapse_iff hblank false _).mp hcollapsed)).1

/-- At most one space is left of white space. -/
theorem length_collapse_le_one {text : List Char} (htext : isAllBlank text = true)
    (afterBlank : Bool) : (collapse afterBlank text).length ≤ if afterBlank then 0 else 1 := by
  induction text generalizing afterBlank with
  | nil => simp [collapse]
  | cons c rest ih =>
    rw [isAllBlank, List.all_cons, Bool.and_eq_true] at htext
    have hrest := ih htext.2 true
    rw [collapse, if_pos htext.1]
    cases afterBlank <;> simpa using hrest

/-- Cutting a text does not make it blank, and a blank text is too short to be cut. -/
theorem isAllBlank_shorten_collapse (text : List Char) :
    isAllBlank (shorten (collapse false text)) = isAllBlank text := by
  rw [Bool.eq_iff_iff]
  constructor
  · intro hblank
    by_contra hvisible
    rw [Bool.not_eq_true, isAllBlank_eq_false_iff] at hvisible
    obtain ⟨c, hmem, hc⟩ := hvisible
    unfold shorten at hblank
    rw [isAllBlank_iff] at hblank
    split_ifs at hblank
    · exact absurd (hblank '.' (by simp)) (by decide)
    · rw [hblank c ((mem_collapse_iff hc false text).mpr hmem)] at hc
      cases hc
  · intro hblank
    have hlength : (collapse false text).length ≤ 1 := length_collapse_le_one hblank false
    rw [shorten, if_neg (by unfold maxLength; omega)]
    exact isAllBlank_of_mem (fun c hmem hc ↦ (mem_collapse_iff hc false text).mp hmem) hblank

/-- A comment is left of a description exactly when a character of it is neither white space nor an
asterisk. -/
theorem ofDescription_ne_nil_iff (text : List Char) :
    ofDescription text ≠ [] ↔ ∃ c ∈ text, isBlank c = false ∧ c ≠ '*' := by
  rw [ofDescription, Ne, trim_eq_nil_iff, isAllBlank_shorten_collapse, Bool.not_eq_true,
    isAllBlank_eq_false_iff]
  constructor
  · rintro ⟨c, hmem, hc⟩
    have hclean := (mem_clean_iff hc text).mp hmem
    exact ⟨c, hclean.1, hc, hclean.2⟩
  · rintro ⟨c, hmem, hc, hstar⟩
    exact ⟨c, (mem_clean_iff hc text).mpr ⟨hmem, hstar⟩, hc⟩

/-! ### The normal form -/

/-- No two characters side by side are both white space. -/
def IsSpaced (text : List Char) : Prop :=
  text.IsChain fun c d ↦ isBlank c = true → isBlank d = false

/-- Words on one line with one space between them, without asterisks, in at most 120 characters. -/
structure IsNormal (text : List Char) : Prop where
  isBreak_eq_false : ∀ c ∈ text, isBreak c = false
  star_notMem : '*' ∉ text
  isSpaced : IsSpaced text
  eq_space : ∀ c ∈ text, isBlank c = true → c = ' '
  isTrimmed : IsTrimmed text
  length_le : text.length ≤ 120

/-- Behind a space that has been written the next character is not white space. -/
theorem isBlank_eq_false_of_mem_head?_collapse {text : List Char} {c : Char}
    (hc : c ∈ (collapse true text).head?) : isBlank c = false := by
  induction text with
  | nil => exact absurd hc (by simp [collapse])
  | cons d rest ih =>
    by_cases hd : isBlank d = true
    · rw [collapse, if_pos hd, if_pos rfl] at hc
      exact ih hc
    · rw [collapse, if_neg hd, List.head?_cons, Option.mem_def, Option.some_inj] at hc
      exact hc ▸ Bool.eq_false_iff.mpr hd

theorem isSpaced_collapse (afterBlank : Bool) (text : List Char) :
    IsSpaced (collapse afterBlank text) := by
  induction text generalizing afterBlank with
  | nil => exact List.isChain_nil
  | cons c rest ih =>
    rw [collapse]
    split_ifs with hc hafter
    · exact ih true
    · exact List.isChain_cons.mpr ⟨fun d hd _ ↦ isBlank_eq_false_of_mem_head?_collapse hd, ih true⟩
    · exact List.isChain_cons.mpr ⟨fun d _ hblank ↦ absurd hblank hc, ih false⟩

theorem isSpaced_shorten {text : List Char} (htext : IsSpaced text) : IsSpaced (shorten text) := by
  unfold shorten
  split_ifs
  · refine List.isChain_append.mpr ⟨htext.take cutLength, by simp [isBlank], ?_⟩
    intro c _ d hd _
    rw [List.head?_cons, Option.mem_def, Option.some_inj] at hd
    exact hd ▸ rfl
  · exact htext

theorem length_shorten_le (text : List Char) : (shorten text).length ≤ 120 := by
  unfold shorten
  split_ifs with hlong
  · rw [List.length_append, List.length_take, List.length_cons, List.length_cons,
      List.length_singleton]
    unfold cutLength
    omega
  · exact Nat.le_of_not_lt hlong

theorem isNormal_ofDescription (text : List Char) : IsNormal (ofDescription text) where
  isBreak_eq_false _ hc := isBreak_of_mem_ofDescription hc
  star_notMem hstar := by
    rcases mem_shorten ((trim_sublist _).subset hstar) with hcollapsed | hpoint
    · exact ((mem_clean_iff rfl text).mp ((mem_collapse_iff rfl false _).mp hcollapsed)).2 rfl
    · exact absurd hpoint (by decide)
  isSpaced :=
    List.IsChain.infix (isSpaced_shorten (isSpaced_collapse false (clean text))) (trim_isInfix _)
  eq_space c hc hblank := by
    rcases mem_shorten ((trim_sublist _).subset hc) with hcollapsed | rfl
    · exact eq_space_of_mem_collapse hcollapsed hblank
    · exact absurd hblank (by decide)
  isTrimmed := isTrimmed_trim _
  length_le := (trim_sublist _).length_le.trans (length_shorten_le _)

/-- A text that does not begin with white space is read alike behind a space and behind none. -/
theorem collapse_true_eq {text : List Char} (htext : ∀ c ∈ text.head?, isBlank c = false) :
    collapse true text = collapse false text := by
  cases text with
  | nil => rfl
  | cons c rest => rw [collapse, collapse, htext c rfl, if_neg Bool.false_ne_true,
      if_neg Bool.false_ne_true]

theorem collapse_eq_self {text : List Char} (hspaced : IsSpaced text)
    (hspace : ∀ c ∈ text, isBlank c = true → c = ' ') : collapse false text = text := by
  induction text with
  | nil => rfl
  | cons c rest ih =>
    obtain ⟨hnext, hrest⟩ := List.isChain_cons.mp hspaced
    rw [List.forall_mem_cons] at hspace
    have htail := ih hrest hspace.2
    by_cases hc : isBlank c = true
    · rw [collapse, if_pos hc, if_neg Bool.false_ne_true,
        collapse_true_eq fun d hd ↦ hnext d hd hc, htail, hspace.1 hc]
    · rw [collapse, if_neg hc, htail]

/-- A text in normal form is its own comment. -/
theorem IsNormal.ofDescription_eq {text : List Char} (htext : IsNormal text) :
    ofDescription text = text := by
  have hne {c : Char} (hc : c ∈ text) {mark : Char} (hmark : isBreak mark = true) : c ≠ mark := by
    rintro rfl
    rw [htext.isBreak_eq_false c hc] at hmark
    exact Bool.false_ne_true hmark
  have hmap : text.map (fun c ↦ if c = '\n' then ' ' else c) = text := by
    calc text.map (fun c ↦ if c = '\n' then ' ' else c) = text.map id :=
          List.map_congr_left fun c hc ↦ if_neg (hne hc (by decide))
      _ = text := List.map_id text
  have hclean : clean text = text := by
    rw [clean, hmap, List.filter_eq_self]
    intro c hc
    have hreturn : c ≠ '\r' := hne hc (by decide)
    have hstar : c ≠ '*' := fun heq ↦ htext.star_notMem (heq ▸ hc)
    rw [bne_iff_ne.mpr hreturn, bne_iff_ne.mpr hstar, Bool.and_self]
  have hshort : shorten text = text := if_neg (Nat.not_lt.mpr htext.length_le)
  rw [ofDescription, hclean, collapse_eq_self htext.isSpaced htext.eq_space, hshort,
    trim_of_isTrimmed htext.isTrimmed]

/-- The comment of a description is in normal form, is empty exactly when the description holds
nothing but white space and asterisks, and is its own comment; only texts in normal form are. -/
theorem ofDescription_isNormal (text : List Char) :
    IsNormal (ofDescription text) ∧
      (ofDescription text = [] ↔ ∀ c ∈ text, isBlank c = true ∨ c = '*') ∧
      ofDescription (ofDescription text) = ofDescription text ∧
      (ofDescription text = text ↔ IsNormal text) := by
  have hnormal := isNormal_ofDescription text
  refine ⟨hnormal, ?_, hnormal.ofDescription_eq, fun heq ↦ heq ▸ hnormal, fun htext ↦ ?_⟩
  · rw [← not_iff_not, ← ne_eq, ofDescription_ne_nil_iff]
    push Not
    simp only [ne_eq, Bool.not_eq_true]
  · exact htext.ofDescription_eq

end SchemaBindings.Comment
