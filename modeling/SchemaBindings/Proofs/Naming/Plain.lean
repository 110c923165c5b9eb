import SchemaBindings.Proofs.Naming.Member
import SchemaBindings.Proofs.Text.Case
/-!
# Plain names

The conventions for names put nothing into a name but underscores and the other case of its
characters, so a plain name stays plain: as the name of an enum member
(`isPlainText_of_mem_memberNames`) and in upper case (`isPlainText_upperSnake`).
-/

set_option autoImplicit false
set_option relaxedAutoImplicit false

namespace SchemaBindings.Naming

open SchemaBindings.Text

/-! ### Pascal case -/

theorem mem_of_mem_splitWords {name word : List Char} {c : Char} (hword : word ∈ splitWords name)
    (hc : c ∈ word) : c ∈ name := by
  induction name generalizing word with
  | nil =>
    rw [splitWords, List.mem_singleton] at hword
    rw [hword] at hc
    exact hc
  | cons d rest ih =>
    rw [splitWords] at hword
    split_ifs at hword with hmark
    · rcases List.mem_cons.mp hword with rfl | hlater
      · exact absurd hc List.not_mem_nil
      · exact List.mem_cons_of_mem d (ih hlater hc)
    · cases hwords : splitWords rest with
      | nil =>
        rw [hwords, List.mem_singleton] at hword
        rw [hword, List.mem_singleton] at hc
        exact hc ▸ List.mem_cons_self
      | cons first words =>
        rw [hwords] at hword ih
        rcases List.mem_cons.mp hword with rfl | hlater
        · rcases List.mem_cons.mp hc with rfl | hfirst
          · exact List.mem_cons_self
          · exact List.mem_cons_of_mem d (ih List.mem_cons_self hfirst)
        · exact List.mem_cons_of_mem d (ih (List.mem_cons_of_mem first hlater) hc)

theorem isPlainText_capitalize {word : List Char} (hword : IsPlainText word) :
    IsPlainText (capitalize word) := by
  cases word with
  | nil => exact isPlainText_nil
  | cons c rest =>
    rw [isPlainText_cons_iff] at hword
    rw [capitalize, isPlainText_append_iff]
    exact ⟨fun d hd ↦ isPlain_of_mem_upperChar hword.1 hd, isPlainText_lower hword.2⟩

theorem isPlainText_pascal {name : List Char} (hname : IsPlainText name) :
    IsPlainText (pascal name) := by
  intro c hc
  obtain ⟨word, hword, hmem⟩ := List.mem_flatMap.mp hc
  exact isPlainText_capitalize (fun d hd ↦ hname d (mem_of_mem_splitWords hword hd)) c hmem

/-! ### Members -/

theorem isPlainText_underscored {name : List Char} (hname : IsPlainText name) (count : Nat) :
    IsPlainText (underscored name count) := by
  rw [underscored, isPlainText_append_iff]
  refine ⟨hname, fun c hc ↦ ?_⟩
  rw [List.eq_of_mem_replicate hc]
  decide

theorem isPlainText_memberName {value : List Char} (hvalue : IsPlainText value) :
    IsPlainText (memberName value) := by
  have hpascal := isPlainText_pascal hvalue
  have hbehind := (isPlainText_append_iff _ ['_']).mpr ⟨hpascal, by decide⟩
  simp only [memberName, safe]
  split_ifs
  · exact hbehind
  · exact hbehind
  · exact hpascal

theorem isPlainText_of_mem_memberNames {values : List (List Char)}
    (hvalues : ∀ value ∈ values, IsPlainText value) {member : List Char}
    (hmember : member ∈ memberNames values) : IsPlainText member := by
  obtain ⟨value, hvalue, count, rfl⟩ := mem_memberNames hmember
  exact isPlainText_underscored (isPlainText_memberName (hvalues value hvalue)) count

/-! ### Upper case -/

theorem mem_breakBeforeWords {inTail : Bool} {name : List Char} {c : Char}
    (hc : c ∈ breakBeforeWords inTail name) : c ∈ name ∨ c = '_' := by
  fun_induction breakBeforeWords inTail name with
  | case1 inTail d e f rest hskip ih => grind
  | case2 inTail d e f rest hskip hmatch ih => grind
  | case3 inTail d e f rest hskip hmatch ih => grind
  | case4 inTail short hshort => exact Or.inl hc

theorem mem_breakBeforeCapitals {name : List Char} {c : Char}
    (hc : c ∈ breakBeforeCapitals name) : c ∈ name ∨ c = '_' := by
  fun_induction breakBeforeCapitals name with
  | case1 d e rest hmatch ih => grind
  | case2 d e rest hmatch ih => grind
  | case3 short hshort => exact Or.inl hc

theorem isPlainText_snake {name : List Char} (hname : IsPlainText name) :
    IsPlainText (snake name) := by
  apply isPlainText_lower
  intro c hc
  rcases mem_breakBeforeCapitals hc with hbroken | rfl
  · rcases mem_breakBeforeWords hbroken with hmem | rfl
    · exact hname c hmem
    · decide
  · decide

theorem isPlainText_upperSnake {name : List Char} (hname : IsPlainText name) :
    IsPlainText (upperSnake name) :=
  isPlainText_upper (isPlainText_snake hname)

end SchemaBindings.Naming
