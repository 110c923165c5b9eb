import Mathlib.Data.List.Basic
import Mathlib.Data.List.Find
import Mathlib.Data.List.Infix
import Mathlib.Tactic.MkIffOfInductiveProp
import Mathlib.Tactic.SplitIfs
import SchemaBindings.Source.Token
/-!
# Reading tokens at the front of a text

A token is read off the front of a text, and all that can carry it over the end of a line is a
string between three quotes, or a backslash before the line feed. A passage is a text that ends in a
line feed and has neither of these (`IsPassage`). A token that begins in a passage ends in it, so
that it does not matter what stands behind the passage (`lexeme?_append`, `ne_nil_of_lexeme?`).

Numbers and operators never reach over a line feed, passage or not; `Skips` and `Reads` say this of
a function, and are put together as the functions are.
-/

set_option autoImplicit false
set_option relaxedAutoImplicit false

namespace SchemaBindings.Source

open SchemaBindings.Text

/-! ### Functions that take the front of a text -/

/-- A function that skips the front of a text: what it leaves is the end of the text, it does not
look behind the next line feed, and it does not skip that line feed. -/
structure Skips (skip : List Char → Option (List Char)) : Prop where
  suffix : ∀ text rest, skip text = some rest → rest <:+ text
  append : ∀ text behind, '\n' ∈ text → skip (text ++ behind) = (skip text).map (· ++ behind)
  lineFeed : ∀ text rest, '\n' ∈ text → skip text = some rest → '\n' ∈ rest

/-- A function that reads a value from the front of a text, with the properties of `Skips`. -/
structure Reads {α : Type} (read : List Char → Option (α × List Char)) : Prop where
  suffix : ∀ text value rest, read text = some (value, rest) → rest <:+ text
  append : ∀ text behind, '\n' ∈ text →
    read (text ++ behind) = (read text).map fun (value, rest) ↦ (value, rest ++ behind)
  lineFeed : ∀ text value rest, '\n' ∈ text → read text = some (value, rest) → '\n' ∈ rest

section Composition

variable {α : Type} {first second : List Char → Option (List Char)}
  {read : List Char → Option (α × List Char)}

theorem Skips.bind (hfirst : Skips first) (hsecond : Skips second) :
    Skips fun text ↦ (first text).bind second := by
  refine ⟨fun text rest hrest ↦ ?_, fun text behind hfeed ↦ ?_, fun text rest hfeed hrest ↦ ?_⟩
  · obtain ⟨middle, hmiddle, hrest⟩ := Option.bind_eq_some_iff.mp hrest
    exact (hsecond.suffix middle rest hrest).trans (hfirst.suffix text middle hmiddle)
  · rw [hfirst.append text behind hfeed]
    cases hmiddle : first text with
    | none => rfl
    | some middle => exact hsecond.append middle behind (hfirst.lineFeed text middle hfeed hmiddle)
  · obtain ⟨middle, hmiddle, hrest⟩ := Option.bind_eq_some_iff.mp hrest
    exact hsecond.lineFeed middle rest (hfirst.lineFeed text middle hfeed hmiddle) hrest

theorem Skips.bindReads (hfirst : Skips first) (hread : Reads read) :
    Reads fun text ↦ (first text).bind read := by
  refine ⟨fun text value rest hrest ↦ ?_, fun text behind hfeed ↦ ?_,
    fun text value rest hfeed hrest ↦ ?_⟩
  · obtain ⟨middle, hmiddle, hrest⟩ := Option.bind_eq_some_iff.mp hrest
    exact (hread.suffix middle value rest hrest).trans (hfirst.suffix text middle hmiddle)
  · rw [hfirst.append text behind hfeed]
    cases hmiddle : first text with
    | none => rfl
    | some middle => exact hread.append middle behind (hfirst.lineFeed text middle hfeed hmiddle)
  · obtain ⟨middle, hmiddle, hrest⟩ := Option.bind_eq_some_iff.mp hrest
    exact hread.lineFeed middle value rest (hfirst.lineFeed text middle hfeed hmiddle) hrest

/-- What is skipped may be given a value. -/
theorem Skips.reads (hfirst : Skips first) (value : α) :
    Reads fun text ↦ (first text).map fun rest ↦ (value, rest) := by
  refine ⟨fun text other rest hrest ↦ ?_, fun text behind hfeed ↦ ?_,
    fun text other rest hfeed hrest ↦ ?_⟩
  · obtain ⟨left, hleft, heq⟩ := Option.map_eq_some_iff.mp hrest
    obtain ⟨-, rfl⟩ := Prod.mk.inj heq
    exact hfirst.suffix text left hleft
  · rw [hfirst.append text behind hfeed, Option.map_map, Option.map_map]
    rfl
  · obtain ⟨left, hleft, heq⟩ := Option.map_eq_some_iff.mp hrest
    obtain ⟨-, rfl⟩ := Prod.mk.inj heq
    exact hfirst.lineFeed text left hfeed hleft

end Composition

theorem takeWhile_append_of_lineFeed {p : Char → Bool} (hp : p '\n' = false) {text : List Char}
    (hfeed : '\n' ∈ text) (behind : List Char) :
    (text ++ behind).takeWhile p = text.takeWhile p := by
  induction text with
  | nil => cases hfeed
  | cons c text ih =>
    rw [List.cons_append, List.takeWhile_cons, List.takeWhile_cons]
    grind

/-- A word without a line feed begins a text if it begins the next line. -/
theorem isPrefixOf_append_of_lineFeed {word text : List Char} (hword : '\n' ∉ word)
    (hfeed : '\n' ∈ text) (behind : List Char) :
    word.isPrefixOf (text ++ behind) = word.isPrefixOf text := by
  induction word generalizing text with
  | nil => rfl
  | cons c word ih =>
    cases text with
    | nil => cases hfeed
    | cons d text =>
      rw [List.cons_append, List.isPrefixOf_cons_cons, List.isPrefixOf_cons_cons]
      grind

theorem skips_dropWhile {p : Char → Bool} (hp : p '\n' = false) :
    Skips fun text ↦ some (text.dropWhile p) := by
  refine ⟨fun text rest hrest ↦ ?_, fun text behind hfeed ↦ ?_, fun text rest hfeed hrest ↦ ?_⟩
  · cases hrest
    exact List.dropWhile_suffix p
  · induction text with
    | nil => cases hfeed
    | cons c text ih =>
      rw [List.cons_append, List.dropWhile_cons, List.dropWhile_cons]
      grind
  · cases hrest
    induction text with
    | nil => cases hfeed
    | cons c text ih =>
      rw [List.dropWhile_cons]
      grind

/-! ### Numbers -/

section Numbers

variable {isDigitOfKind : Char → Bool}

theorem skips_digitsEnd? (hkind : isDigitOfKind '\n' = false) (owed : Bool) :
    Skips (digitsEnd? isDigitOfKind owed) where
  suffix text rest hrest := by
    induction text generalizing owed with
    | nil => grind [digitsEnd?]
    | cons c text ih => grind [digitsEnd?, List.suffix_cons, List.IsSuffix.trans]
  append text behind hfeed := by
    induction text generalizing owed with
    | nil => cases hfeed
    | cons c text ih => grind [digitsEnd?]
  lineFeed text rest hfeed hrest := by
    induction text generalizing owed with
    | nil => cases hfeed
    | cons c text ih => grind [digitsEnd?]

theorem skips_afterDigits? (hkind : isDigitOfKind '\n' = false) :
    Skips (afterDigits? isDigitOfKind) :=
  skips_digitsEnd? hkind true

theorem skips_decimalDigits : Skips (afterDigits? isDigit) :=
  skips_afterDigits? (by decide)

theorem skips_afterExponent? : Skips afterExponent? := by
  obtain ⟨hsuffix, happend, hlineFeed⟩ := skips_decimalDigits
  have hmark : isExponentMark '\n' = false := by decide
  refine ⟨fun text rest hrest ↦ ?_, fun text behind hfeed ↦ ?_, fun text rest hfeed hrest ↦ ?_⟩
  · unfold afterExponent? at hrest
    grind [List.suffix_cons, List.IsSuffix.trans]
  · unfold afterExponent?
    match text with
    | [] => cases hfeed
    | [c] => grind
    | c :: d :: text => grind
  · unfold afterExponent? at hrest
    grind

theorem skips_afterSpareDigits? : Skips afterSpareDigits? := by
  obtain ⟨hsuffix, happend, hlineFeed⟩ := skips_decimalDigits
  refine ⟨fun text rest hrest ↦ ?_, fun text behind hfeed ↦ ?_, fun text rest hfeed hrest ↦ ?_⟩
  · unfold afterSpareDigits? at hrest
    grind
  · cases text with
    | nil => cases hfeed
    | cons c text => grind [afterSpareDigits?]
  · unfold afterSpareDigits? at hrest
    grind

theorem skips_afterFraction? : Skips afterFraction? :=
  skips_afterSpareDigits?.bind skips_afterExponent?

theorem skips_afterBased? (hkind : isDigitOfKind '\n' = false) :
    Skips (afterBased? isDigitOfKind) := by
  obtain ⟨hsuffix, happend, hlineFeed⟩ := skips_afterDigits? hkind
  refine ⟨fun text rest hrest ↦ ?_, fun text behind hfeed ↦ ?_, fun text rest hfeed hrest ↦ ?_⟩
  · unfold afterBased? at hrest
    grind [List.suffix_cons, List.IsSuffix.trans]
  · unfold afterBased?
    cases text with
    | nil => cases hfeed
    | cons c text => grind
  · unfold afterBased? at hrest
    grind

theorem reads_imaginary : Reads fun text ↦ some (imaginary text) := by
  have hmark : isImaginaryMark '\n' = false := by decide
  refine ⟨fun text marked rest hrest ↦ ?_, fun text behind hfeed ↦ ?_,
    fun text marked rest hfeed hrest ↦ ?_⟩
  · unfold imaginary at hrest
    grind [List.suffix_cons]
  · unfold imaginary
    cases text with
    | nil => cases hfeed
    | cons c text => grind
  · unfold imaginary at hrest
    grind

theorem reads_imaginaryFraction : Reads fun text ↦ (afterFraction? text).map imaginary := by
  simpa only [Option.map_eq_bind, Function.comp_def] using
    skips_afterFraction?.bindReads reads_imaginary

theorem reads_imaginaryExponent : Reads fun text ↦ (afterExponent? text).map imaginary := by
  simpa only [Option.map_eq_bind, Function.comp_def] using
    skips_afterExponent?.bindReads reads_imaginary

theorem reads_afterWhole? (whole : List Char) : Reads (afterWhole? whole) := by
  obtain ⟨hsuffix, happend, hlineFeed⟩ := reads_imaginaryFraction
  obtain ⟨hsuffix', happend', hlineFeed'⟩ := reads_imaginaryExponent
  refine ⟨fun text marked rest hrest ↦ ?_, fun text behind hfeed ↦ ?_,
    fun text marked rest hfeed hrest ↦ ?_⟩
  · unfold afterWhole? at hrest
    grind [List.suffix_cons, List.IsSuffix.trans]
  · cases text with
    | nil => cases hfeed
    | cons c text =>
      have hmark : beginsWithMark (c :: (text ++ behind)) = beginsWithMark (c :: text) := rfl
      unfold afterWhole?
      grind
  · unfold afterWhole? at hrest
    grind

theorem reads_decimal? : Reads decimal? := by
  refine ⟨fun text marked rest hrest ↦ ?_, fun text behind hfeed ↦ ?_,
    fun text marked rest hfeed hrest ↦ ?_⟩
  · exact (skips_decimalDigits.bindReads (reads_afterWhole? _)).suffix text marked rest hrest
  · rw [decimal?, takeWhile_append_of_lineFeed (by decide) hfeed]
    exact (skips_decimalDigits.bindReads (reads_afterWhole? _)).append text behind hfeed
  · exact (skips_decimalDigits.bindReads (reads_afterWhole? _)).lineFeed text marked rest hfeed
      hrest

theorem isDigitOfBase?_lineFeed {mark : Char} (hkind : isDigitOfBase? mark = some isDigitOfKind) :
    isDigitOfKind '\n' = false := by
  unfold isDigitOfBase? at hkind
  split_ifs at hkind <;> cases hkind <;> decide

theorem numeral?_zero_cons (mark : Char) (digits : List Char) :
    numeral? ('0' :: mark :: digits) =
      match isDigitOfBase? mark with
      | some isDigitOfBase => (afterBased? isDigitOfBase digits).map fun rest ↦ (false, rest)
      | none => decimal? ('0' :: mark :: digits) := rfl

theorem reads_numeral? : Reads numeral? := by
  obtain ⟨hsuffix, happend, hlineFeed⟩ := reads_decimal?
  obtain ⟨hsuffix', happend', hlineFeed'⟩ := reads_imaginaryFraction
  have hbased {isDigitOfKind : Char → Bool} {mark : Char}
      (hkind : isDigitOfBase? mark = some isDigitOfKind) :=
    (skips_afterBased? (isDigitOfBase?_lineFeed hkind)).reads false
  refine ⟨fun text marked rest hrest ↦ ?_, fun text behind hfeed ↦ ?_,
    fun text marked rest hfeed hrest ↦ ?_⟩
  · unfold numeral? at hrest
    split at hrest
    · next mark digits =>
      split at hrest
      · next hkind =>
        exact ((hbased hkind).suffix digits marked rest hrest).trans
          ((List.suffix_cons mark digits).trans (List.suffix_cons '0' _))
      · exact hsuffix _ marked rest hrest
    · next fraction => exact (hsuffix' fraction marked rest hrest).trans (List.suffix_cons '.' _)
    · exact hsuffix text marked rest hrest
  · match text with
    | [] => cases hfeed
    | [c] =>
      obtain rfl := List.mem_singleton.mp hfeed
      exact happend ['\n'] behind hfeed
    | c :: d :: text =>
      by_cases hzero : c = '0'
      · subst hzero
        have hfeed' : '\n' ∈ d :: text := by simpa using hfeed
        rw [List.cons_append, List.cons_append, numeral?_zero_cons, numeral?_zero_cons]
        cases hkind : isDigitOfBase? d with
        | none => exact happend _ behind hfeed
        | some isDigitOfKind =>
          have hd : d ≠ '\n' := by
            rintro rfl
            cases hkind
          refine (hbased hkind).append text behind ?_
          simpa [Ne.symm hd] using hfeed'
      · unfold numeral?
        grind
  · unfold numeral? at hrest
    split at hrest
    · next mark digits =>
      split at hrest
      · next hkind =>
        have hmark : mark ≠ '\n' := by
          rintro rfl
          cases hkind
        refine (hbased hkind).lineFeed digits marked rest ?_ hrest
        simpa [Ne.symm hmark] using hfeed
      · exact hlineFeed _ marked rest hfeed hrest
    · next fraction => exact hlineFeed' fraction marked rest (by simpa using hfeed) hrest
    · exact hlineFeed text marked rest hfeed hrest

theorem endsNumber_append {text : List Char} (hfeed : '\n' ∈ text) (behind : List Char) :
    endsNumber (text ++ behind) = endsNumber text := by
  have hkeywords : ∀ word ∈ joinedKeywords, '\n' ∉ word.toList := by decide
  have hany : (joinedKeywords.any fun word ↦ word.toList.isPrefixOf (text ++ behind)) =
      joinedKeywords.any fun word ↦ word.toList.isPrefixOf text := by
    rw [Bool.eq_iff_iff, List.any_eq_true, List.any_eq_true]
    refine exists_congr fun word ↦ and_congr_right fun hword ↦ ?_
    rw [isPrefixOf_append_of_lineFeed (hkeywords word hword) hfeed]
  unfold endsNumber
  cases text with
  | nil => cases hfeed
  | cons c text => rw [hany]; rfl

theorem reads_number? : Reads number? := by
  obtain ⟨hsuffix, happend, hlineFeed⟩ := reads_numeral?
  refine ⟨fun text token rest hrest ↦ ?_, fun text behind hfeed ↦ ?_,
    fun text token rest hfeed hrest ↦ ?_⟩
  · obtain ⟨⟨marked, after⟩, hnumeral, hends⟩ := Option.bind_eq_some_iff.mp hrest
    dsimp only at hends
    split_ifs at hends
    cases hends
    exact hsuffix text marked rest hnumeral
  · rw [number?, happend text behind hfeed, number?]
    cases hnumeral : numeral? text with
    | none => rfl
    | some found =>
      obtain ⟨marked, after⟩ := found
      have hafter := endsNumber_append (hlineFeed text marked after hfeed hnumeral) behind
      grind
  · obtain ⟨⟨marked, after⟩, hnumeral, hends⟩ := Option.bind_eq_some_iff.mp hrest
    dsimp only at hends
    split_ifs at hends
    cases hends
    exact hlineFeed text marked rest hfeed hnumeral

end Numbers

theorem length_lt_of_afterDigits? {isDigitOfKind : Char → Bool} {text rest : List Char}
    (hkind : isDigitOfKind '\n' = false) (hrest : afterDigits? isDigitOfKind text = some rest) :
    rest.length < text.length := by
  cases text with
  | nil => cases hrest
  | cons c text =>
    rw [afterDigits?, digitsEnd?, if_pos rfl] at hrest
    split_ifs at hrest
    have hlength := ((skips_digitsEnd? hkind false).suffix text rest hrest).length_le
    rw [List.length_cons]
    omega

theorem length_lt_of_decimal? {text rest : List Char} {marked : Bool}
    (hrest : decimal? text = some (marked, rest)) : rest.length < text.length := by
  obtain ⟨middle, hmiddle, hrest⟩ := Option.bind_eq_some_iff.mp hrest
  have hlength := ((reads_afterWhole? _).suffix middle marked rest hrest).length_le
  have hdigits := length_lt_of_afterDigits? (by decide) hmiddle
  omega

theorem length_lt_of_numeral? {text rest : List Char} {marked : Bool}
    (hrest : numeral? text = some (marked, rest)) : rest.length < text.length := by
  unfold numeral? at hrest
  split at hrest
  · next mark digits =>
    split at hrest
    · next hkind =>
      have hbased := (skips_afterBased? (isDigitOfBase?_lineFeed hkind)).reads false
      have hlength := (hbased.suffix digits marked rest hrest).length_le
      simp only [List.length_cons]
      omega
    · exact length_lt_of_decimal? hrest
  · next fraction =>
    have hlength := (reads_imaginaryFraction.suffix fraction marked rest hrest).length_le
    rw [List.length_cons]
    omega
  · exact length_lt_of_decimal? hrest

theorem length_lt_of_number? {text rest : List Char} {token : Token}
    (hrest : number? text = some (token, rest)) : rest.length < text.length := by
  obtain ⟨⟨marked, after⟩, hnumeral, hends⟩ := Option.bind_eq_some_iff.mp hrest
  dsimp only at hends
  split_ifs at hends
  cases hends
  exact length_lt_of_numeral? hnumeral

/-! ### Operators -/

theorem find?_longOperators_append {text : List Char} (hfeed : '\n' ∈ text) (behind : List Char) :
    (longOperators.find? fun op ↦ op.toList.isPrefixOf (text ++ behind)) =
      longOperators.find? fun op ↦ op.toList.isPrefixOf text := by
  have hoperators : ∀ op ∈ longOperators, '\n' ∉ op.toList := by decide
  exact List.find?_congr fun op hop ↦ isPrefixOf_append_of_lineFeed (hoperators op hop) hfeed behind

/-- A long operator at the front of a text, and the text behind it. -/
theorem exists_eq_append_of_find? {text : List Char} {op : String}
    (hop : (longOperators.find? fun op ↦ op.toList.isPrefixOf text) = some op) :
    op.toList ≠ [] ∧ '\n' ∉ op.toList ∧ ∃ rest, text = op.toList ++ rest ∧
      text.drop op.length = rest := by
  have hmem := List.mem_of_find?_eq_some hop
  have hprefix := List.find?_some hop
  have hoperators : ∀ op ∈ longOperators, op.toList ≠ [] ∧ '\n' ∉ op.toList := by decide
  obtain ⟨rest, rfl⟩ := List.isPrefixOf_iff_prefix.mp hprefix
  refine ⟨(hoperators op hmem).1, (hoperators op hmem).2, rest, rfl, ?_⟩
  rw [← String.length_toList, List.drop_left]

theorem reads_operator? : Reads operator? := by
  have hshort : shortOperators.contains '\n' = false := by decide
  refine ⟨fun text op rest hrest ↦ ?_, fun text behind hfeed ↦ ?_,
    fun text op rest hfeed hrest ↦ ?_⟩
  · unfold operator? at hrest
    split at hrest
    · cases hrest
      exact List.drop_suffix _ text
    · grind [List.suffix_cons]
  · unfold operator?
    rw [find?_longOperators_append hfeed]
    cases hop : longOperators.find? fun op ↦ op.toList.isPrefixOf text with
    | none =>
      cases text with
      | nil => cases hfeed
      | cons c text => grind
    | some op =>
      obtain ⟨-, -, rest, rfl, hdrop⟩ := exists_eq_append_of_find? hop
      simp only [← String.length_toList, List.append_assoc, List.drop_left, Option.map_some]
  · unfold operator? at hrest
    split at hrest
    · next op' hop =>
      cases hrest
      obtain ⟨-, hno, rest, rfl, hdrop⟩ := exists_eq_append_of_find? hop
      rw [hdrop]
      exact (List.mem_append.mp hfeed).resolve_left hno
    · grind

theorem length_lt_of_operator? {text rest : List Char} {op : String}
    (hrest : operator? text = some (op, rest)) : rest.length < text.length := by
  unfold operator? at hrest
  split at hrest
  · next op' hop =>
    cases hrest
    obtain ⟨hne, -, rest, rfl, hdrop⟩ := exists_eq_append_of_find? hop
    have := List.length_pos_iff.mpr hne
    rw [hdrop, List.length_append]
    omega
  · grind

/-! ### Passages -/

/-- Three quotes of one kind stand in a row somewhere in a text. -/
def HasLongQuote (text : List Char) : Prop :=
  ['\'', '\'', '\''] <:+: text ∨ ['"', '"', '"'] <:+: text

instance (text : List Char) : Decidable (HasLongQuote text) :=
  inferInstanceAs (Decidable (_ ∨ _))

/-- A text that ends in a line feed which no backslash precedes, and in which no three quotes of one
kind stand in a row. -/
@[mk_iff]
structure IsPassage (text : List Char) : Prop where
  lineFeed : ['\n'] <:+ text
  notContinued : ¬ ['\\', '\n'] <:+ text
  shortQuotes : ¬ HasLongQuote text

instance (text : List Char) : Decidable (IsPassage text) :=
  decidable_of_iff _ (isPassage_iff text).symm

namespace IsPassage

variable {text rest : List Char} {c : Char}

theorem mem (hpassage : IsPassage text) : '\n' ∈ text :=
  hpassage.lineFeed.subset List.mem_cons_self

theorem ne_nil (hpassage : IsPassage text) : text ≠ [] :=
  List.ne_nil_of_mem hpassage.mem

theorem of_suffix (hpassage : IsPassage text) (hsuffix : rest <:+ text) (hne : rest ≠ []) :
    IsPassage rest where
  lineFeed := List.suffix_of_suffix_length_le hpassage.lineFeed hsuffix
    (List.length_pos_iff.mpr hne)
  notContinued hcontinued := hpassage.notContinued (hcontinued.trans hsuffix)
  shortQuotes hlong := hpassage.shortQuotes
    (hlong.imp (·.trans hsuffix.isInfix) (·.trans hsuffix.isInfix))

/-- What follows a character other than the last line feed is a passage. -/
theorem tail (hpassage : IsPassage (c :: rest)) (hc : c ≠ '\n') : IsPassage rest := by
  refine hpassage.of_suffix (List.suffix_cons c rest) ?_
  rintro rfl
  exact hc (List.mem_singleton.mp hpassage.mem).symm

/-- A backslash is followed by a character. -/
theorem ne_backslash (hpassage : IsPassage (c :: rest))
    (hescape : ∀ d after, c = '\\' → rest = d :: after → False) : c ≠ '\\' := by
  rintro rfl
  cases rest with
  | nil => exact absurd (List.mem_singleton.mp hpassage.mem) (by decide)
  | cons d after => exact hescape d after rfl rfl

/-- The last line feed is not continued, so something follows a backslash and a character. -/
theorem afterBackslash (hpassage : IsPassage ('\\' :: c :: rest)) : IsPassage rest := by
  refine hpassage.of_suffix ((List.suffix_cons c rest).trans (List.suffix_cons '\\' _)) ?_
  rintro rfl
  have hfeed := hpassage.mem
  rw [List.mem_cons, List.mem_singleton] at hfeed
  obtain rfl := hfeed.resolve_left (by decide)
  exact hpassage.notContinued List.suffix_rfl

end IsPassage

/-! ### Strings -/

theorem untilQuote_suffix {quote : Char} {text inside after : List Char}
    (hread : untilQuote quote text = some (inside, after)) : after <:+ text := by
  fun_induction untilQuote quote text generalizing inside after with
  | case1 => cases hread
  | case2 c rest ih =>
    obtain ⟨⟨inside', after'⟩, hrest, heq⟩ := Option.map_eq_some_iff.mp hread
    cases heq
    exact (ih hrest).trans ((List.suffix_cons c rest).trans (List.suffix_cons '\\' _))
  | case3 =>
    cases hread
    exact List.suffix_cons _ _
  | case4 => cases hread
  | case5 c rest hescape hquote hfeed ih =>
    obtain ⟨⟨inside', after'⟩, hrest, heq⟩ := Option.map_eq_some_iff.mp hread
    cases heq
    exact (ih hrest).trans (List.suffix_cons c rest)

theorem untilLongQuote_suffix {quote : Char} {text inside after : List Char}
    (hread : untilLongQuote quote text = some (inside, after)) : after <:+ text := by
  fun_induction untilLongQuote quote text generalizing inside after with
  | case1 => cases hread
  | case2 c rest ih =>
    obtain ⟨⟨inside', after'⟩, hrest, heq⟩ := Option.map_eq_some_iff.mp hread
    cases heq
    exact (ih hrest).trans ((List.suffix_cons c rest).trans (List.suffix_cons '\\' _))
  | case3 c rest =>
    cases hread
    exact (List.drop_suffix 2 rest).trans (List.suffix_cons c rest)
  | case4 c rest hescape hquote ih =>
    obtain ⟨⟨inside', after'⟩, hrest, heq⟩ := Option.map_eq_some_iff.mp hread
    cases heq
    exact (ih hrest).trans (List.suffix_cons c rest)

/-- Two more quotes stand behind a quote that closes a long string. -/
theorem two_le_length_of_isTripled {quote : Char} {rest : List Char}
    (htripled : isTripled quote rest = true) : 2 ≤ rest.length := by
  match rest with
  | [] => simp [isTripled] at htripled
  | [c] => simp [isTripled] at htripled
  | c :: d :: rest => simp

theorem length_of_untilLongQuote {quote : Char} {text inside after : List Char}
    (hread : untilLongQuote quote text = some (inside, after)) : 3 ≤ text.length := by
  fun_induction untilLongQuote quote text generalizing inside after with
  | case1 => cases hread
  | case2 c rest ih =>
    obtain ⟨⟨inside', after'⟩, hrest, -⟩ := Option.map_eq_some_iff.mp hread
    have hlength := ih hrest
    simp only [List.length_cons]
    omega
  | case3 c rest hescape hquote =>
    have hlength := two_le_length_of_isTripled (Bool.and_eq_true_iff.mp hquote).2
    rw [List.length_cons]
    omega
  | case4 c rest hescape hquote ih =>
    obtain ⟨⟨inside', after'⟩, hrest, -⟩ := Option.map_eq_some_iff.mp hread
    have hlength := ih hrest
    rw [List.length_cons]
    omega

theorem isTripled_append {quote : Char} {rest : List Char} (hlength : 2 ≤ rest.length)
    (behind : List Char) : isTripled quote (rest ++ behind) = isTripled quote rest := by
  match rest with
  | c :: d :: rest => simp [isTripled, List.isPrefixOf_cons_cons]

/-- A long string that ends in a text ends there whatever stands behind the text. -/
theorem untilLongQuote_append {quote : Char} {text inside after : List Char}
    (hread : untilLongQuote quote text = some (inside, after)) (behind : List Char) :
    untilLongQuote quote (text ++ behind) = some (inside, after ++ behind) := by
  fun_induction untilLongQuote quote text generalizing inside after with
  | case1 => cases hread
  | case2 c rest ih =>
    obtain ⟨⟨inside', after'⟩, hrest, heq⟩ := Option.map_eq_some_iff.mp hread
    cases heq
    rw [List.cons_append, List.cons_append, untilLongQuote, ih hrest]
    rfl
  | case3 c rest hescape hquote =>
    cases hread
    have hlength := two_le_length_of_isTripled (Bool.and_eq_true_iff.mp hquote).2
    rw [← isTripled_append hlength behind] at hquote
    rw [List.cons_append, untilLongQuote, if_pos hquote, List.drop_append_of_le_length hlength]
    match rest with
    | d :: rest => exact fun _ _ heq _ ↦ hescape _ _ heq rfl
  | case4 c rest hescape hquote ih =>
    obtain ⟨⟨inside', after'⟩, hrest, heq⟩ := Option.map_eq_some_iff.mp hread
    cases heq
    have hlength := length_of_untilLongQuote hrest
    match rest with
    | [] => exact absurd hlength (by decide)
    | d :: rest =>
      rw [← isTripled_append (by omega) behind] at hquote
      rw [List.cons_append, untilLongQuote, if_neg hquote, ih hrest]
      · rfl
      · exact fun _ _ heq _ ↦ hescape _ _ heq rfl

theorem untilQuote_append {quote : Char} {text : List Char}
    (hpassage : IsPassage text) (behind : List Char) :
    untilQuote quote (text ++ behind) =
      (untilQuote quote text).map fun (inside, after) ↦ (inside, after ++ behind) := by
  fun_induction untilQuote quote text with
  | case1 => exact absurd rfl hpassage.ne_nil
  | case2 c rest ih =>
    rw [List.cons_append, List.cons_append, untilQuote, ih hpassage.afterBackslash]
    cases untilQuote quote rest <;> rfl
  | case3 rest hescape =>
    have hslash : quote ≠ '\\' := hpassage.ne_backslash hescape
    rw [List.cons_append, untilQuote, if_pos rfl]
    · rfl
    · exact fun _ _ heq _ ↦ hslash heq
  | case4 rest hescape hquote =>
    rw [List.cons_append, untilQuote, if_neg hquote, if_pos rfl]
    · rfl
    · exact fun _ _ heq _ ↦ absurd heq (by decide)
  | case5 c rest hescape hquote hfeed ih =>
    have hslash : c ≠ '\\' := hpassage.ne_backslash hescape
    rw [List.cons_append, untilQuote, if_neg hquote, if_neg hfeed, ih (hpassage.tail hfeed)]
    · cases untilQuote quote rest <;> rfl
    · exact fun _ _ heq _ ↦ hslash heq

/-- A string of one line leaves something of its passage. -/
theorem ne_nil_of_untilQuote {quote : Char} (hquote : quote ≠ '\n') {text inside after : List Char}
    (hpassage : IsPassage text) (hread : untilQuote quote text = some (inside, after)) :
    after ≠ [] := by
  fun_induction untilQuote quote text generalizing inside after with
  | case1 => cases hread
  | case2 c rest ih =>
    obtain ⟨⟨inside', after'⟩, hrest, heq⟩ := Option.map_eq_some_iff.mp hread
    cases heq
    exact ih hpassage.afterBackslash hrest
  | case3 =>
    cases hread
    exact (hpassage.tail hquote).ne_nil
  | case4 => cases hread
  | case5 c rest hescape _ hfeed ih =>
    obtain ⟨⟨inside', after'⟩, hrest, heq⟩ := Option.map_eq_some_iff.mp hread
    cases heq
    exact ih (hpassage.tail hfeed) hrest

/-- Without two more quotes behind it a quote begins a string of one line. -/
theorem stringText?_eq_untilQuote {quote : Char} {text : List Char}
    (hshort : ¬ [quote, quote] <+: text) : stringText? quote text = untilQuote quote text := by
  unfold stringText?
  split
  · next c d rest =>
    refine if_neg fun hopen ↦ hshort ?_
    rw [Bool.and_eq_true, decide_eq_true_eq, decide_eq_true_eq] at hopen
    rw [hopen.1, hopen.2]
    exact ⟨rest, rfl⟩
  · rfl

/-- The quote at the front of a passage begins a string of one line. -/
theorem stringText?_append_eq {quote : Char} (hquote : quote = '\'' ∨ quote = '"')
    {rest : List Char} (hpassage : IsPassage (quote :: rest)) (behind : List Char) :
    stringText? quote (rest ++ behind) = untilQuote quote (rest ++ behind) := by
  refine stringText?_eq_untilQuote fun hopen ↦ ?_
  have hfeed : '\n' ∉ [quote, quote] := by
    rcases hquote with rfl | rfl <;> decide
  have hrest := (hpassage.tail fun heq ↦ hfeed (by simp [heq])).mem
  have hfront : [quote, quote] <+: rest := by
    rw [← List.isPrefixOf_iff_prefix, isPrefixOf_append_of_lineFeed hfeed hrest] at hopen
    exact List.isPrefixOf_iff_prefix.mp hopen
  have hlong : [quote, quote, quote] <:+: quote :: rest :=
    (List.cons_prefix_cons.mpr ⟨rfl, hfront⟩).isInfix
  refine hpassage.shortQuotes ?_
  rcases hquote with rfl | rfl
  · exact .inl hlong
  · exact .inr hlong

theorem string?_append (mark : String) {quote : Char} (hquote : quote = '\'' ∨ quote = '"')
    {rest : List Char} (hpassage : IsPassage (quote :: rest)) (behind : List Char) :
    string? mark quote (rest ++ behind) =
      (string? mark quote rest).map fun (token, after) ↦ (token, after ++ behind) := by
  have hfeed : quote ≠ '\n' := by
    rcases hquote with rfl | rfl <;> decide
  have hshort := stringText?_append_eq hquote hpassage []
  rw [List.append_nil] at hshort
  rw [string?, stringText?_append_eq hquote hpassage, untilQuote_append (hpassage.tail hfeed),
    string?, hshort]
  cases untilQuote quote rest with
  | none => rfl
  | some found =>
    simp only [Option.map_some, Option.bind_some, Option.map_map, Function.comp_def]

theorem stringText?_suffix {quote : Char} {text inside after : List Char}
    (hread : stringText? quote text = some (inside, after)) : after <:+ text := by
  unfold stringText? at hread
  split at hread
  · split_ifs at hread
    · exact (untilLongQuote_suffix hread).trans
        ((List.suffix_cons _ _).trans (List.suffix_cons _ _))
    · exact untilQuote_suffix hread
  · exact untilQuote_suffix hread

theorem string?_suffix {mark : String} {quote : Char} {text after : List Char} {token : Token}
    (hread : string? mark quote text = some (token, after)) : after <:+ text := by
  obtain ⟨⟨inside, after'⟩, htext, htoken⟩ := Option.bind_eq_some_iff.mp hread
  obtain ⟨token', -, heq⟩ := Option.map_eq_some_iff.mp htoken
  cases heq
  exact stringText?_suffix htext

theorem ne_nil_of_string? {mark : String} {quote : Char} (hquote : quote = '\'' ∨ quote = '"')
    {rest after : List Char} {token : Token} (hpassage : IsPassage (quote :: rest))
    (hread : string? mark quote rest = some (token, after)) : after ≠ [] := by
  have hfeed : quote ≠ '\n' := by
    rcases hquote with rfl | rfl <;> decide
  obtain ⟨⟨inside, after'⟩, htext, htoken⟩ := Option.bind_eq_some_iff.mp hread
  obtain ⟨token', -, heq⟩ := Option.map_eq_some_iff.mp htoken
  cases heq
  have hshort := stringText?_append_eq hquote hpassage []
  rw [List.append_nil] at hshort
  rw [hshort] at htext
  exact ne_nil_of_untilQuote hfeed (hpassage.tail hfeed) htext

/-! ### Words -/

theorem skips_word : Skips fun text ↦ some (text.dropWhile isWordChar) :=
  skips_dropWhile (by decide)

theorem word?_append {text : List Char} (hpassage : IsPassage text) (behind : List Char) :
    word? (text ++ behind) = (word? text).map fun (token, after) ↦ (token, after ++ behind) := by
  have hdrop := Option.some.inj (skips_word.append text behind hpassage.mem)
  have hne : text.dropWhile isWordChar ≠ [] :=
    List.ne_nil_of_mem (skips_word.lineFeed text _ hpassage.mem rfl)
  have hrest := hpassage.of_suffix (List.dropWhile_suffix isWordChar) hne
  rw [word?, word?, takeWhile_append_of_lineFeed (by decide) hpassage.mem, hdrop]
  generalize text.dropWhile isWordChar = after at hne hrest
  cases after with
  | nil => exact absurd rfl hne
  | cons c after =>
    cases stringMark? (text.takeWhile isWordChar) with
    | none => simp [Function.comp_def]
    | some mark =>
      by_cases hsingle : c = '\''
      · subst hsingle
        exact string?_append mark (.inl rfl) hrest behind
      · by_cases hdouble : c = '"'
        · subst hdouble
          exact string?_append mark (.inr rfl) hrest behind
        · simp [hsingle, hdouble, Function.comp_def]

theorem word?_suffix {text after : List Char} {token : Token}
    (hread : word? text = some (token, after)) : after <:+ text.dropWhile isWordChar := by
  unfold word? at hread
  dsimp only at hread
  split at hread
  · next hdrop =>
    rw [hdrop]
    exact (string?_suffix hread).trans (List.suffix_cons _ _)
  · next hdrop =>
    rw [hdrop]
    exact (string?_suffix hread).trans (List.suffix_cons _ _)
  · obtain ⟨token', -, heq⟩ := Option.map_eq_some_iff.mp hread
    cases heq
    exact List.suffix_rfl

theorem ne_nil_of_word? {text after : List Char} {token : Token} (hpassage : IsPassage text)
    (hread : word? text = some (token, after)) : after ≠ [] := by
  have hne : text.dropWhile isWordChar ≠ [] :=
    List.ne_nil_of_mem (skips_word.lineFeed text _ hpassage.mem rfl)
  have hrest := hpassage.of_suffix (List.dropWhile_suffix isWordChar) hne
  unfold word? at hread
  dsimp only at hread
  split at hread
  · next hdrop =>
    rw [hdrop] at hrest
    exact ne_nil_of_string? (.inl rfl) hrest hread
  · next hdrop =>
    rw [hdrop] at hrest
    exact ne_nil_of_string? (.inr rfl) hrest hread
  · obtain ⟨token', -, heq⟩ := Option.map_eq_some_iff.mp hread
    cases heq
    exact hne

/-! ### Lexemes -/

/-- A token at the front of a text is a string, a number, a word or an operator. -/
theorem lexeme?_cases (c : Char) (rest : List Char) :
    (isQuote c = true ∧ lexeme? (c :: rest) = string? "" c rest) ∨
      (isQuote c = false ∧ beginsNumber (c :: rest) = true ∧
        lexeme? (c :: rest) = number? (c :: rest)) ∨
      (isQuote c = false ∧ beginsNumber (c :: rest) = false ∧ isWordChar c = true ∧
        lexeme? (c :: rest) = word? (c :: rest)) ∨
      (isQuote c = false ∧ beginsNumber (c :: rest) = false ∧ isWordChar c = false ∧
        lexeme? (c :: rest) = (operator? (c :: rest)).map fun (op, after) ↦ (.op op, after)) := by
  cases hquote : isQuote c with
  | true => exact .inl ⟨rfl, by rw [lexeme?, if_pos hquote]⟩
  | false =>
    cases hnumber : beginsNumber (c :: rest) with
    | true => exact .inr (.inl ⟨rfl, rfl, by simp [lexeme?, hquote, hnumber]⟩)
    | false =>
      cases hword : isWordChar c with
      | true => exact .inr (.inr (.inl ⟨rfl, rfl, rfl, by simp [lexeme?, hquote, hnumber, hword]⟩))
      | false =>
        exact .inr (.inr (.inr ⟨rfl, rfl, rfl, by simp [lexeme?, hquote, hnumber, hword]⟩))

theorem isQuote_iff {c : Char} : isQuote c = true ↔ c = '\'' ∨ c = '"' := by
  simp [isQuote]

theorem beginsNumber_append {text : List Char} (hfeed : '\n' ∈ text) (behind : List Char) :
    beginsNumber (text ++ behind) = beginsNumber text := by
  match text with
  | [] => cases hfeed
  | [c] =>
    obtain rfl := List.mem_singleton.mp hfeed
    rfl
  | c :: d :: rest =>
    by_cases hpoint : c = '.'
    · subst hpoint
      rfl
    · simp [beginsNumber, hpoint]

theorem lexeme?_append {text : List Char} (hpassage : IsPassage text) (behind : List Char) :
    lexeme? (text ++ behind) =
      (lexeme? text).map fun (token, after) ↦ (token, after ++ behind) := by
  cases text with
  | nil => exact absurd rfl hpassage.ne_nil
  | cons c rest =>
    have hbegins := beginsNumber_append hpassage.mem behind
    rw [List.cons_append] at hbegins ⊢
    rcases lexeme?_cases c rest with ⟨hquote, heq⟩ | ⟨hquote, hnumber, heq⟩ |
      ⟨hquote, hnumber, hword, heq⟩ | ⟨hquote, hnumber, hword, heq⟩
    · rw [heq, ← string?_append "" (isQuote_iff.mp hquote) hpassage behind, lexeme?, if_pos hquote]
    · rw [heq, ← reads_number?.append _ behind hpassage.mem]
      simp [lexeme?, hquote, hbegins, hnumber]
    · rw [heq, ← word?_append hpassage behind]
      simp [lexeme?, hquote, hbegins, hnumber, hword]
    · have hoperator := reads_operator?.append _ behind hpassage.mem
      rw [List.cons_append] at hoperator
      simp [lexeme?, hquote, hbegins, hnumber, hword, hoperator, Function.comp_def]

/-- A token takes at least one character from the front of a text. -/
theorem lexeme?_suffix {text after : List Char} {token : Token}
    (hread : lexeme? text = some (token, after)) :
    after <:+ text ∧ after.length < text.length := by
  cases text with
  | nil => cases hread
  | cons c rest =>
    have hbehind {after : List Char} (hsuffix : after <:+ rest) :
        after <:+ c :: rest ∧ after.length < (c :: rest).length :=
      ⟨hsuffix.trans (List.suffix_cons c rest), Nat.lt_succ_of_le hsuffix.length_le⟩
    rcases lexeme?_cases c rest with ⟨hquote, heq⟩ | ⟨-, -, heq⟩ | ⟨-, -, hword, heq⟩ |
      ⟨-, -, -, heq⟩
    · rw [heq] at hread
      exact hbehind (string?_suffix hread)
    · rw [heq] at hread
      exact ⟨reads_number?.suffix _ _ _ hread, length_lt_of_number? hread⟩
    · rw [heq] at hread
      have hsuffix := word?_suffix hread
      rw [List.dropWhile_cons_of_pos hword] at hsuffix
      exact hbehind (hsuffix.trans (List.dropWhile_suffix isWordChar))
    · rw [heq] at hread
      obtain ⟨⟨op, rest'⟩, hoperator, hpair⟩ := Option.map_eq_some_iff.mp hread
      cases hpair
      exact ⟨reads_operator?.suffix _ _ _ hoperator, length_lt_of_operator? hoperator⟩

/-- A token leaves something of its passage. -/
theorem ne_nil_of_lexeme? {text after : List Char} {token : Token} (hpassage : IsPassage text)
    (hread : lexeme? text = some (token, after)) : after ≠ [] := by
  cases text with
  | nil => cases hread
  | cons c rest =>
    rcases lexeme?_cases c rest with ⟨hquote, heq⟩ | ⟨-, -, heq⟩ | ⟨-, -, hword, heq⟩ |
      ⟨-, -, -, heq⟩
    · rw [heq] at hread
      exact ne_nil_of_string? (isQuote_iff.mp hquote) hpassage hread
    · rw [heq] at hread
      exact List.ne_nil_of_mem (reads_number?.lineFeed _ _ _ hpassage.mem hread)
    · rw [heq] at hread
      exact ne_nil_of_word? hpassage hread
    · rw [heq] at hread
      obtain ⟨⟨op, rest'⟩, hoperator, hpair⟩ := Option.map_eq_some_iff.mp hread
      cases hpair
      exact List.ne_nil_of_mem (reads_operator?.lineFeed _ _ _ hpassage.mem hoperator)

end SchemaBindings.Source
