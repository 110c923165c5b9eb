import Mathlib.Data.List.Basic
import Mathlib.Tactic.SplitIfs
import SchemaBindings.Proofs.Naming.Boundary
import SchemaBindings.Proofs.Naming.Table
/-!
# Regular names

A name in pascal case is regular when each of its words is a capital with at least one lower-case
letter or digit behind it; a name in upper case is regular when each word between its underscores is
a capital with at least one capital or digit behind it. On regular names the two conventions are
inverse to each other (`upperSnake_inverse_pascal`): a capital of a regular name in pascal case
begins a word, since a tail stands before it, and no other character does
(`breakWords_flatten`); the words of a regular name in upper case are found again between its
underscores (`pascal_intercalate`).
-/

set_option autoImplicit false
set_option relaxedAutoImplicit false

namespace SchemaBindings.Naming

open SchemaBindings.Text SchemaBindings.Sdl

/-- A capital or a digit, which a word in upper case may hold behind its first capital. -/
def isUpperTail (c : Char) : Bool :=
  isUpperLetter c || isDigit c

/-- A capital with something behind it, all of one class. -/
def IsWord (isTail : Char → Bool) : List Char → Prop
  | [] => False
  | c :: rest => isUpperLetter c = true ∧ rest ≠ [] ∧ ∀ d ∈ rest, isTail d = true

instance (isTail : Char → Bool) : DecidablePred (IsWord isTail)
  | [] => isFalse id
  | c :: rest =>
    decidable_of_iff ((isUpperLetter c && (!rest.isEmpty && rest.all isTail)) = true)
      (by simp [IsWord])

/-- A word of a regular name in pascal case. -/
def IsPascalWord (word : List Char) : Prop :=
  IsWord isWordTail word

/-- A word of a regular name in upper case. -/
def IsUpperWord (word : List Char) : Prop :=
  IsWord isUpperTail word

instance : DecidablePred IsPascalWord :=
  inferInstanceAs (DecidablePred (IsWord isWordTail))

instance : DecidablePred IsUpperWord :=
  inferInstanceAs (DecidablePred (IsWord isUpperTail))

/-- Regular words written one behind the other. -/
def IsPascalName (name : List Char) : Prop :=
  ∃ words : List (List Char), words ≠ [] ∧ (∀ word ∈ words, IsPascalWord word) ∧
    words.flatten = name

/-! ### Letters -/

theorem isUpperTail_iff (c : Char) :
    isUpperTail c = true ↔
      (0x41 ≤ c.toNat ∧ c.toNat ≤ 0x5a) ∨ (0x30 ≤ c.toNat ∧ c.toNat ≤ 0x39) := by
  rw [isUpperTail, Bool.or_eq_true, isUpperLetter_iff, isDigit, Bool.and_eq_true,
    decide_eq_true_eq, decide_eq_true_eq]
  exact Iff.rfl

theorem isNameChar_of_isWordTail {c : Char} (hc : isWordTail c = true) : isNameChar c = true := by
  rw [isWordTail_iff] at hc
  rw [isNameChar_iff, isNameStart_iff]
  omega

theorem isNameChar_of_isUpperTail {c : Char} (hc : isUpperTail c = true) :
    isNameChar c = true := by
  rw [isUpperTail_iff] at hc
  rw [isNameChar_iff, isNameStart_iff]
  omega

theorem isNameChar_of_isUpperLetter {c : Char} (hc : isUpperLetter c = true) :
    isNameChar c = true :=
  isNameChar_of_isUpperTail (by rw [isUpperTail, hc, Bool.true_or])

theorem isNameChar_of_mem_map {mapping : Char → Char} (hmapping : KeepsClasses mapping)
    {text : List Char} (htext : ∀ c ∈ text, isNameChar c = true) {c : Char}
    (hc : c ∈ text.map mapping) : isNameChar c = true := by
  obtain ⟨d, hd, rfl⟩ := List.mem_map.mp hc
  exact (hmapping d).2.mpr (htext d hd)

theorem upperLetter_of_isUpperTail {c : Char} (hc : isUpperTail c = true) : upperLetter c = c := by
  rw [isUpperTail_iff] at hc
  rw [← Char.toNat_inj, toNat_upperLetter, if_neg]
  rw [isLowerLetter_iff]
  omega

theorem upperLetter_of_isUpperLetter {c : Char} (hc : isUpperLetter c = true) :
    upperLetter c = c :=
  upperLetter_of_isUpperTail (by rw [isUpperTail, hc, Bool.true_or])

/-- Upper case does not see whether lower case went before it. -/
theorem upperLetter_lowerLetter (c : Char) : upperLetter (lowerLetter c) = upperLetter c := by
  rw [← Char.toNat_inj]
  simp only [toNat_upperLetter, toNat_lowerLetter, isLowerLetter_iff, isUpperLetter_iff]
  split_ifs <;> omega

theorem lowerLetter_upperLetter {c : Char} (hc : isWordTail c = true) :
    lowerLetter (upperLetter c) = c := by
  rw [isWordTail_iff] at hc
  rw [← Char.toNat_inj]
  simp only [toNat_lowerLetter, toNat_upperLetter, isLowerLetter_iff, isUpperLetter_iff]
  split_ifs <;> omega

theorem isWordTail_lowerLetter {c : Char} (hc : isUpperTail c = true) :
    isWordTail (lowerLetter c) = true := by
  rw [isUpperTail_iff] at hc
  simp only [isWordTail_iff, toNat_lowerLetter, isUpperLetter_iff]
  split_ifs <;> omega

theorem isUpperTail_upperLetter {c : Char} (hc : isWordTail c = true) :
    isUpperTail (upperLetter c) = true := by
  rw [isWordTail_iff] at hc
  simp only [isUpperTail_iff, toNat_upperLetter, isLowerLetter_iff]
  split_ifs <;> omega

/-- A mapping that undoes another one on the items of a list undoes it on the list. -/
theorem map_map_eq_self {α β : Type} {forth : α → β} {back : β → α} {items : List α}
    (hback : ∀ item ∈ items, back (forth item) = item) : (items.map forth).map back = items := by
  rw [List.map_map]
  calc items.map (back ∘ forth) = items.map id := List.map_congr_left hback
    _ = items := List.map_id items

/-! ### Underscores between the words -/

theorem intercalate_cons_eq (word : List Char) (words : List (List Char)) :
    ['_'].intercalate (word :: words) = word ++ words.flatMap ('_' :: ·) := by
  induction words generalizing word with
  | nil => simp [List.intercalate]
  | cons next words ih =>
    rw [List.intercalate_cons_cons, ih, List.flatMap_cons, List.cons_append, List.append_assoc,
      List.singleton_append]

/-- Inside a word no word begins. -/
theorem breakWords_append_of_isWordTail {tail : List Char}
    (htail : ∀ c ∈ tail, isWordTail c = true) (before : Option Char) (rest : List Char) :
    breakWords before (tail ++ rest) =
      tail ++ breakWords (tail.getLast?.or before) rest := by
  induction tail generalizing before with
  | nil => rfl
  | cons c tail ih =>
    rw [List.forall_mem_cons] at htail
    have hinside : beginsWord before c (tail ++ rest).head? = false := by
      rw [beginsWord, isUpperLetter_eq_false_of_isWordTail htail.1, Bool.false_and]
    rw [List.cons_append, breakWords, hinside, ih htail.2, List.cons_append]
    cases tail with
    | nil => rfl
    | cons d tail => rfl

/-- A tail that is not empty makes the next capital begin a word. -/
theorem any_getLast?_of_isWordTail {tail : List Char} (hne : tail ≠ [])
    (htail : ∀ c ∈ tail, isWordTail c = true) (before : Option Char) :
    (tail.getLast?.or before).any isWordTail = true := by
  rw [List.getLast?_eq_some_getLast hne]
  exact htail _ (List.getLast_mem hne)

/-- Behind a tail each of the words gets its underscore. -/
theorem breakWords_flatten_of_isWordTail {words : List (List Char)}
    (hwords : ∀ word ∈ words, IsPascalWord word) {before : Option Char}
    (hbefore : before.any isWordTail = true) :
    breakWords before words.flatten = words.flatMap ('_' :: ·) := by
  induction words generalizing before with
  | nil => rfl
  | cons word words ih =>
    rw [List.forall_mem_cons] at hwords
    cases word with
    | nil => exact absurd hwords.1 id
    | cons c rest =>
      obtain ⟨hc, hne, hrest⟩ := hwords.1
      have hbegins (after : Option Char) : beginsWord before c after = true := by
        rw [beginsWord, hc, hbefore, Bool.true_or, Bool.true_and]
      rw [List.flatten_cons, List.cons_append, breakWords, hbegins,
        breakWords_append_of_isWordTail hrest,
        ih hwords.2 (any_getLast?_of_isWordTail hne hrest _), List.flatMap_cons, List.cons_append,
        List.cons_append]
      rfl

/-- In a regular name in pascal case exactly the words are set apart. -/
theorem breakWords_flatten {words : List (List Char)}
    (hwords : ∀ word ∈ words, IsPascalWord word) :
    breakWords none words.flatten = ['_'].intercalate words := by
  cases words with
  | nil => rfl
  | cons word words =>
    rw [List.forall_mem_cons] at hwords
    cases word with
    | nil => exact absurd hwords.1 id
    | cons c rest =>
      obtain ⟨hc, hne, hrest⟩ := hwords.1
      have hfirst (after : Option Char) : beginsWord none c after = false := Bool.and_false _
      rw [List.flatten_cons, List.cons_append, breakWords, hfirst,
        breakWords_append_of_isWordTail hrest,
        breakWords_flatten_of_isWordTail hwords.2 (any_getLast?_of_isWordTail hne hrest _),
        intercalate_cons_eq]
      rfl

/-! ### The words of a name -/

theorem splitWords_eq_splitOn (name : List Char) : splitWords name = name.splitOn '_' := by
  induction name with
  | nil => rfl
  | cons c rest ih =>
    rw [splitWords, ih, List.splitOn, List.splitOn, List.splitOnP_cons_eq_if_modifyHead]
    by_cases hc : c = '_'
    · rw [if_pos hc, if_pos (beq_iff_eq.mpr hc)]
    · rw [if_neg hc, if_neg (by rwa [beq_iff_eq])]
      obtain ⟨word, words, hwords⟩ :=
        List.exists_cons_of_ne_nil (List.splitOnP_ne_nil (· == '_') rest)
      rw [hwords]
      rfl

/-- In pascal case the words between underscores are capitalized one by one. -/
theorem pascal_intercalate {words : List (List Char)} (hwords : ∀ word ∈ words, '_' ∉ word) :
    pascal (['_'].intercalate words) = (words.map capitalize).flatten := by
  by_cases hnone : words = []
  · rw [hnone]
    rfl
  · rw [pascal, splitWords_eq_splitOn, List.splitOn_intercalate '_' hwords hnone,
      List.flatMap_def]

/-! ### Words in either case -/

section PascalWord

variable {word : List Char} (hword : IsPascalWord word)

include hword

theorem IsPascalWord.isNameChar_of_mem {c : Char} (hc : c ∈ word) : isNameChar c = true := by
  cases word with
  | nil => exact absurd hc List.not_mem_nil
  | cons first rest =>
    rcases List.mem_cons.mp hc with rfl | hmem
    · exact isNameChar_of_isUpperLetter hword.1
    · exact isNameChar_of_isWordTail (hword.2.2 c hmem)

theorem IsPascalWord.upper_eq : upper word = word.map upperLetter :=
  upper_eq_map fun _ hc ↦ hword.isNameChar_of_mem hc

theorem IsPascalWord.isUpperWord_upper : IsUpperWord (upper word) := by
  rw [hword.upper_eq]
  cases word with
  | nil => exact hword
  | cons c rest =>
    obtain ⟨hc, hne, hrest⟩ := hword
    refine ⟨(upperLetter_of_isUpperLetter hc).symm ▸ hc,
      fun hnil ↦ hne (List.map_eq_nil_iff.mp hnil), ?_⟩
    intro d hd
    obtain ⟨e, he, rfl⟩ := List.mem_map.mp hd
    exact isUpperTail_upperLetter (hrest e he)

end PascalWord

section UpperWord

variable {word : List Char} (hword : IsUpperWord word)

include hword

theorem IsUpperWord.underscore_notMem : '_' ∉ word := by
  intro hmem
  cases word with
  | nil => exact absurd hmem List.not_mem_nil
  | cons c rest =>
    rcases List.mem_cons.mp hmem with rfl | hrest
    · exact absurd hword.1 (by decide)
    · exact absurd (hword.2.2 '_' hrest) (by decide)

/-- Capitalizing keeps the first character and puts the others into lower case. -/
theorem IsUpperWord.exists_capitalize_eq :
    ∃ c rest, word = c :: rest ∧ capitalize word = c :: rest.map lowerLetter := by
  cases word with
  | nil => exact absurd hword id
  | cons c rest =>
    obtain ⟨hc, -, hrest⟩ := hword
    refine ⟨c, rest, rfl, ?_⟩
    rw [capitalize, upperChar, if_pos (lt_of_isNameChar (isNameChar_of_isUpperLetter hc)),
      isLowerLetter_eq_false_of_isUpperLetter hc,
      lower_eq_map fun d hd ↦ isNameChar_of_isUpperTail (hrest d hd)]
    rfl

theorem IsUpperWord.isPascalWord_capitalize : IsPascalWord (capitalize word) := by
  obtain ⟨c, rest, rfl, heq⟩ := hword.exists_capitalize_eq
  obtain ⟨hc, hne, hrest⟩ := hword
  rw [heq]
  refine ⟨hc, fun hnil ↦ hne (List.map_eq_nil_iff.mp hnil), ?_⟩
  intro d hd
  obtain ⟨e, he, rfl⟩ := List.mem_map.mp hd
  exact isWordTail_lowerLetter (hrest e he)

/-- Upper case gives a word back that was capitalized. -/
theorem IsUpperWord.upper_capitalize : upper (capitalize word) = word := by
  rw [hword.isPascalWord_capitalize.upper_eq]
  obtain ⟨c, rest, rfl, heq⟩ := hword.exists_capitalize_eq
  obtain ⟨hc, -, hrest⟩ := hword
  have hback : (rest.map lowerLetter).map upperLetter = rest :=
    map_map_eq_self fun d hd ↦
      (upperLetter_lowerLetter d).trans (upperLetter_of_isUpperTail (hrest d hd))
  rw [heq, List.map_cons, upperLetter_of_isUpperLetter hc, hback]

end UpperWord

/-- Capitalizing gives a word back that was put into upper case. -/
theorem IsPascalWord.capitalize_upper {word : List Char} (hword : IsPascalWord word) :
    capitalize (upper word) = word := by
  obtain ⟨c, rest, hupper, heq⟩ := hword.isUpperWord_upper.exists_capitalize_eq
  rw [heq]
  rw [hword.upper_eq] at hupper
  cases word with
  | nil => exact absurd hword id
  | cons d tail =>
    obtain ⟨hd, -, htail⟩ := hword
    rw [List.map_cons, upperLetter_of_isUpperLetter hd] at hupper
    obtain ⟨rfl, rfl⟩ := List.cons.inj hupper
    rw [map_map_eq_self fun e he ↦ lowerLetter_upperLetter (htail e he)]

/-! ### Whole names -/

section Names

variable {words : List (List Char)}

/-- The upper case of a regular name: its words in upper case between underscores. -/
theorem upperSnake_flatten (hwords : ∀ word ∈ words, IsPascalWord word) :
    upperSnake words.flatten = ['_'].intercalate (words.map upper) := by
  have hchars : ∀ c ∈ ['_'].intercalate words, isNameChar c = true := by
    intro c hc
    cases words with
    | nil => exact absurd hc List.not_mem_nil
    | cons word words =>
      rw [intercalate_cons_eq, List.mem_append, List.mem_flatMap] at hc
      rw [List.forall_mem_cons] at hwords
      rcases hc with hfirst | ⟨later, hlater, hmem⟩
      · exact hwords.1.isNameChar_of_mem hfirst
      · rcases List.mem_cons.mp hmem with rfl | hinside
        · decide
        · exact (hwords.2 later hlater).isNameChar_of_mem hinside
  have hletters : words.map upper = words.map (List.map upperLetter) :=
    List.map_congr_left fun word hword ↦ (hwords word hword).upper_eq
  rw [upperSnake, snake, breakBeforeCapitals_breakBeforeWords, breakWords_flatten hwords,
    lower_eq_map hchars, upper_eq_map fun c ↦ isNameChar_of_mem_map keepsClasses_lowerLetter hchars,
    List.map_map, hletters]
  calc (['_'].intercalate words).map (upperLetter ∘ lowerLetter)
      = (['_'].intercalate words).map upperLetter :=
        List.map_congr_left fun c _ ↦ upperLetter_lowerLetter c
    _ = ['_'].intercalate (words.map (List.map upperLetter)) := by
        cases words with
        | nil => rfl
        | cons word words =>
          rw [intercalate_cons_eq, List.map_append, List.map_flatMap, List.map_cons,
            intercalate_cons_eq, List.flatMap_map]
          rfl

theorem isUpperWord_of_mem_map_upper (hwords : ∀ word ∈ words, IsPascalWord word) :
    ∀ word ∈ words.map upper, IsUpperWord word := by
  intro word hword
  obtain ⟨origin, horigin, rfl⟩ := List.mem_map.mp hword
  exact (hwords origin horigin).isUpperWord_upper

theorem pascal_upperSnake_flatten (hwords : ∀ word ∈ words, IsPascalWord word) :
    pascal (upperSnake words.flatten) = words.flatten := by
  have hmarks : ∀ word ∈ words.map upper, '_' ∉ word :=
    fun word hword ↦ (isUpperWord_of_mem_map_upper hwords word hword).underscore_notMem
  have hback : (words.map upper).map capitalize = words :=
    map_map_eq_self fun word hword ↦ (hwords word hword).capitalize_upper
  rw [upperSnake_flatten hwords, pascal_intercalate hmarks, hback]

theorem upperSnake_pascal_intercalate (hwords : ∀ word ∈ words, IsUpperWord word) :
    upperSnake (pascal (['_'].intercalate words)) = ['_'].intercalate words := by
  have hmarks : ∀ word ∈ words, '_' ∉ word :=
    fun word hword ↦ (hwords word hword).underscore_notMem
  have hcapitalized : ∀ word ∈ words.map capitalize, IsPascalWord word := by
    intro word hword
    obtain ⟨origin, horigin, rfl⟩ := List.mem_map.mp hword
    exact (hwords origin horigin).isPascalWord_capitalize
  have hback : (words.map capitalize).map upper = words :=
    map_map_eq_self fun word hword ↦ (hwords word hword).upper_capitalize
  rw [pascal_intercalate hmarks, upperSnake_flatten hcapitalized, hback]

end Names

/-- Regular names in pascal case are told apart by their upper case. -/
theorem IsPascalName.eq_of_upperSnake_eq {first second : List Char} (hfirst : IsPascalName first)
    (hsecond : IsPascalName second) (heq : upperSnake first = upperSnake second) :
    first = second := by
  obtain ⟨words, -, hwords, rfl⟩ := hfirst
  obtain ⟨others, -, hothers, rfl⟩ := hsecond
  rw [← pascal_upperSnake_flatten hwords, heq, pascal_upperSnake_flatten hothers]

/-- On regular names upper case and pascal case are inverse to each other. The upper case of a
regular name in pascal case sets its words apart, and pascal case joins them again; a regular name
in upper case comes back from pascal case. So regular names share an upper case, or the name of a
table, only with themselves. -/
theorem upperSnake_inverse_pascal :
    (∀ words : List (List Char), (∀ word ∈ words, IsPascalWord word) →
      upperSnake words.flatten = ['_'].intercalate (words.map upper) ∧
        pascal (upperSnake words.flatten) = words.flatten) ∧
    (∀ words : List (List Char), (∀ word ∈ words, IsUpperWord word) →
      upperSnake (pascal (['_'].intercalate words)) = ['_'].intercalate words) ∧
    ∀ first second : List Char, IsPascalName first → IsPascalName second →
      (upperSnake first = upperSnake second ↔ first = second) ∧
        (tableName first = tableName second ↔ first = second) := by
  refine ⟨fun words hwords ↦ ⟨upperSnake_flatten hwords, pascal_upperSnake_flatten hwords⟩,
    fun words hwords ↦ upperSnake_pascal_intercalate hwords, fun first second hfirst hsecond ↦ ?_⟩
  have hupper : upperSnake first = upperSnake second ↔ first = second :=
    ⟨hfirst.eq_of_upperSnake_eq hsecond, fun heq ↦ heq ▸ rfl⟩
  exact ⟨hupper, tableName_inj.trans hupper⟩

/-- Words with digits behind the capital and at the end. -/
def protocolWords : List (List Char) :=
  ["Http2".toList, "A1b".toList, "B2".toList, "Status".toList]

theorem upperSnake_inverse_pascal_protocolWords :
    (∀ word ∈ protocolWords, IsPascalWord word) ∧
      upperSnake protocolWords.flatten = "HTTP2_A1B_B2_STATUS".toList ∧
      pascal "HTTP2_A1B_B2_STATUS".toList = "Http2A1bB2Status".toList ∧
      (∀ word ∈ protocolWords.map upper, IsUpperWord word) ∧
      upperSnake (pascal "HTTP2_A1B_B2_STATUS".toList) = "HTTP2_A1B_B2_STATUS".toList ∧
      IsPascalName "Http2".toList ∧ IsPascalName "Status".toList ∧
      tableName "Http2".toList ≠ tableName "Status".toList := by
  have hwords : ∀ word ∈ protocolWords, IsPascalWord word := by decide
  have huppers : ∀ word ∈ protocolWords.map upper, IsUpperWord word :=
    isUpperWord_of_mem_map_upper hwords
  have hname (word : List Char) (hword : word ∈ protocolWords) : IsPascalName word :=
    ⟨[word], List.cons_ne_nil _ _, List.forall_mem_singleton.mpr (hwords word hword),
      List.flatten_singleton⟩
  have hfirst : IsPascalName "Http2".toList := hname _ List.mem_cons_self
  have hsecond : IsPascalName "Status".toList := hname _ (by simp [protocolWords])
  have hjoined : ['_'].intercalate (protocolWords.map upper) = "HTTP2_A1B_B2_STATUS".toList := by
    decide
  obtain ⟨hpascal, hupper, hapart⟩ := upperSnake_inverse_pascal
  obtain ⟨hforth, hback⟩ := hpascal protocolWords hwords
  rw [hforth, hjoined] at hback
  have hagain := hupper _ huppers
  rw [hjoined] at hagain
  refine ⟨hwords, hforth.trans hjoined, hback, huppers, hagain, hfirst, hsecond, fun heq ↦ ?_⟩
  exact absurd ((hapart _ _ hfirst hsecond).2.mp heq) (by decide)

end SchemaBindings.Naming
