import SchemaBindings.Json.WideReader
import SchemaBindings.Proofs.Json.Regular
import SchemaBindings.Proofs.Json.Wide
/-!
# Reading from outside

The reader of characters and the reader of code points differ in what they refuse: whatever the
first reads, the second reads as the same value (`read?_wide`), from the bytes of the text as well
(`ofBytes?_utf8`). Each function of the second follows its counterpart in the first, and nested
values are read with less fuel (`Follows`). What is read from outside is regular
(`isRegular_of_read?`).
-/

set_option autoImplicit false
set_option relaxedAutoImplicit false

namespace SchemaBindings

open Text

namespace WideJson

/-! ### Words -/

theorem skipSpace_wide (text : List Char) : skipSpace (wide text) = wide (Json.skipSpace text) := by
  induction text with
  | nil => rfl
  | cons c text ih =>
    rw [wide_cons, skipSpace, Json.skipSpace, List.dropWhile_cons]
    cases Json.isSpace c with
    | true => exact ih
    | false => rfl

theorem plainFront_wide (text : List Char) : plainFront (wide text) = text := by
  induction text with
  | nil => rfl
  | cons c text ih => rw [wide_cons, plainFront, ih]

/-- What is read as a word begins with it. -/
theorem readWord?_wide {word : String} {text rest : List Char}
    (hread : Json.readWord word.toList text = .ok rest) :
    readWord? word (wide text) = some (wide rest) := by
  rw [readWord?]
  generalize word.toList = letters at hread ⊢
  induction letters generalizing text with
  | nil =>
    cases hread
    rfl
  | cons letter letters ih =>
    cases text with
    | nil => cases hread
    | cons c text =>
      rw [Json.readWord] at hread
      split_ifs at hread with hletter
      · subst hletter
        rw [wide_cons, wide_cons, List.isPrefixOf?, if_pos (beq_self_eq_true _)]
        exact ih hread

/-! ### Strings -/

theorem hexValue?_lt {c : Char} {value : Nat} (hvalue : hexValue? c = some value) : value < 16 := by
  unfold hexValue? at hvalue
  simp only [Bool.and_eq_true, decide_eq_true_eq, Char.le_def, UInt32.le_iff_toNat_le,
    Char.toNat_val] at hvalue
  split_ifs at hvalue with hdigit hlower hupper
  all_goals
    cases hvalue
    simp at *
    omega

theorem readHex4?_wide {text atLast : List Char} {unit : Nat}
    (hread : Json.readHex4 text = .ok (unit, atLast)) :
    readHex4? (wide text) = some (unit, wide (atLast.drop 1)) ∧ unit < 0x10000 := by
  unfold Json.readHex4 at hread
  split_ifs at hread with hsize
  clear hsize
  split at hread
  · split at hread
    · cases hread
    · cases hread
    · next x b _ ha =>
      split at hread
      · cases hread
      · cases hread
      · next y c _ hb =>
        split at hread
        · cases hread
        · cases hread
        · next z d rest hc =>
          split at hread
          · cases hread
          · next w hd =>
            cases hread
            have hx := hexValue?_lt ha
            have hy := hexValue?_lt hb
            have hz := hexValue?_lt hc
            have hw := hexValue?_lt hd
            refine ⟨?_, by omega⟩
            simp only [wide_cons, readHex4?, ha, hb, hc, hd]
            rfl
  · cases hread

theorem ofNumber?_eq {unit : Nat} (hunit : unit.isValidChar) :
    CodePoint.ofNumber? unit = some (.char (Char.ofNat unit)) := by
  rw [CodePoint.ofNumber?, charOfNumber?, dif_pos hunit, Char.ofNat, dif_pos hunit]

theorem readUnicodeEscape?_wide {text rest : List Char} {c : Char}
    (hread : Json.readUnicodeEscape text = .ok (c, rest)) :
    readUnicodeEscape? (wide text) = some (.char c, wide rest) := by
  unfold Json.readUnicodeEscape at hread
  obtain ⟨⟨unit, atLast⟩, hunit, hread⟩ := bind_eq_ok_iff.mp hread
  obtain ⟨hwide, hlt⟩ := readHex4?_wide hunit
  dsimp only at hread
  rw [readUnicodeEscape?, hwide]
  split_ifs at hread with hlow hhigh
  · -- Only a unit that opens a pair is read with the unit behind it.
    split at hread
    · next second heq =>
      obtain ⟨⟨low, last⟩, hsecond, hread⟩ := bind_eq_ok_iff.mp hread
      dsimp only at hread
      split_ifs at hread with hcloses
      obtain ⟨rfl, rfl⟩ := Prod.mk.inj (Except.ok.inj hread)
      have hopens : isHighSurrogate unit = true := by simpa [isHighSurrogate] using hhigh
      have hisLow : isLowSurrogate low = true := by simpa [isLowSurrogate] using hcloses
      simp only [heq, wide_cons, Option.bind_eq_bind, Option.bind_some, if_pos hopens,
        (readHex4?_wide hsecond).1, if_pos hisLow]
      rfl
    all_goals cases hread
  · cases hread
    have hclosed : isHighSurrogate unit = false := by simpa [isHighSurrogate] using hhigh
    have hpoint : CodePoint.ofNumber? unit = some (.char (Char.ofNat unit)) := by
      refine ofNumber?_eq ?_
      simp only [Bool.and_eq_true, decide_eq_true_eq] at hlow hhigh
      rw [Nat.isValidChar]
      omega
    simp only [Option.bind_eq_bind, Option.bind_some]
    split
    · simp [hclosed, hpoint]
    · simp [hpoint]

theorem readString?_wide {fuel : Nat} {text value rest : List Char}
    (hread : Json.readString fuel text = .ok (value, rest)) :
    readString? fuel (wide text) = some (wide value, wide rest) := by
  induction fuel generalizing text value rest with
  | zero => cases hread
  | succ fuel ih =>
    cases text with
    | nil => cases hread
    | cons c text =>
      unfold Json.readString at hread
      rw [wide_cons]
      unfold readString?
      split_ifs at hread with hquote hslash hcontrol
      · cases hread
        rw [if_pos hquote]
        rfl
      · rw [if_neg hquote, if_pos hslash]
        split at hread
        · cases hread
        · next after =>
          obtain ⟨⟨point, behind⟩, hpoint, hread⟩ := bind_eq_ok_iff.mp hread
          obtain ⟨⟨others, _⟩, hothers, hread⟩ := bind_eq_ok_iff.mp hread
          cases hread
          simp [readUnicodeEscape?_wide hpoint, ih hothers]
        · next e after hletter =>
          split at hread
          · next escaped hescaped =>
            obtain ⟨⟨others, _⟩, hothers, hread⟩ := bind_eq_ok_iff.mp hread
            cases hread
            simp [hescaped, ih hothers]
          · cases hread
      · rw [if_neg hquote, if_neg hslash, if_neg hcontrol]
        obtain ⟨⟨others, _⟩, hothers, hread⟩ := bind_eq_ok_iff.mp hread
        cases hread
        simp [ih hothers]

/-! ### Numbers -/

/-- The whole part of a number has no more digits than characters. -/
theorem wholeDigits_le (text : List Char) : wholeDigits text ≤ Json.wholeLength text := by
  cases text with
  | nil => exact Nat.le_refl _
  | cons c digits =>
    by_cases hsign : c = '-'
    · subst hsign
      exact Nat.le_succ _
    · simp [wholeDigits, Json.wholeLength, hsign]

theorem readNumber?_wide {text rest : List Char} {value : Json}
    (hread : Json.readBoundedNumber text = .ok (value, rest)) :
    readNumber? (wide text) = some (ofJson value, wide rest) := by
  have hbehind : wide rest ++ (wide text).drop text.length = wide rest := by
    rw [List.drop_eq_nil_of_le (length_wide text).le, List.append_nil]
  unfold Json.readBoundedNumber at hread
  split_ifs at hread with hlong
  have hshort : ¬ maxDigits < wholeDigits text :=
    fun hdigits ↦ hlong (hdigits.trans_le (wholeDigits_le text))
  rw [readNumber?, plainFront_wide, hread]
  cases value with
  | int value =>
    simp only [if_neg hshort, hbehind]
    rfl
  | _ => simp only [hbehind]

/-! ### Values -/

theorem readKey?_wide {fuel : Nat} {text behind : List Char} {key : String}
    (hread : Json.readKey fuel text = .ok (key, behind)) :
    readKey? fuel (wide text) = some (wide key.toList, wide behind) := by
  rw [Json.readKey] at hread
  obtain ⟨⟨letters, rest⟩, hletters, hread⟩ := bind_eq_ok_iff.mp hread
  dsimp only at hread
  rw [readKey?, readString?_wide hletters]
  simp only [Option.bind_eq_bind, Option.bind_some, skipSpace_wide]
  split at hread
  · cases hread
  · next after heq =>
    simp only [heq, wide_cons, skipSpace_wide]
    split at hread
    · cases hread
    · cases hread
      rw [String.toList_ofList]
      rfl
  · cases hread

/-- Whatever is read with some fuel is read from outside as the same. -/
structure Follows (fuel : Nat) : Prop where
  value : ∀ {depth : Json.Depth} {text rest : List Char} {value : Json},
    Json.readValue fuel depth text = .ok (value, rest) →
      readValue? fuel (wide text) = some (ofJson value, wide rest)
  items : ∀ {depth : Json.Depth} {text rest : List Char} {items : List Json},
    Json.readItems fuel depth text = .ok (items, rest) →
      readItems? fuel (wide text) = some (ofItems items, wide rest)
  members : ∀ {depth : Json.Depth} {key : String} {text rest : List Char}
    {members : List (String × Json)}, Json.readMembers fuel depth key text = .ok (members, rest) →
      readMembers? fuel (wide key.toList) (wide text) = some (ofMembers members, wide rest)

namespace Follows

section Step

variable {fuel : Nat} (hfuel : Follows fuel) {depth : Json.Depth} {text rest : List Char}

include hfuel

theorem value_succ {value : Json}
    (hread : Json.readValue (fuel + 1) depth text = .ok (value, rest)) :
    readValue? (fuel + 1) (wide text) = some (ofJson value, wide rest) := by
  cases Json.ReadsValue.of_readValue hread with
  | null hword => simp [readValue?, readWord?_wide hword, ofJson]
  | isTrue hword => simp [readValue?, readWord?_wide hword, ofJson]
  | isFalse hword => simp [readValue?, readWord?_wide hword, ofJson]
  | nan hword => simp [readValue?, readWord?_wide hword, ofJson]
  | str hletters => simp [readValue?, readString?_wide hletters, ofJson]
  | emptyArr hends => simp [readValue?, skipSpace_wide, hends, ofJson, ofItems]
  | @arr text _ _ _ hgoesOn _ hitems =>
    have hwide (behind : WideText) : wide (Json.skipSpace text) ≠ .char ']' :: behind := by
      intro heq
      obtain ⟨rest, hends, -⟩ := wide_eq_cons_iff.mp heq
      exact hgoesOn rest hends
    simp [readValue?, skipSpace_wide, hfuel.items hitems, ofJson]
  | emptyObj hends => simp [readValue?, skipSpace_wide, hends, ofJson, ofMembers]
  | object hfirst hkey _ hmembers =>
    simp [readValue?, skipSpace_wide, hfirst, readKey?_wide hkey, hfuel.members hmembers,
      ofJson_object]
  | number hhead hnumber =>
    rw [wide_cons, readValue?, if_neg (hhead.ne (by decide)), if_neg (hhead.ne (by decide)),
      if_neg (hhead.ne (by decide)), if_neg (hhead.ne (by decide)),
      if_neg (hhead.ne (by decide)), if_neg (hhead.ne (by decide)),
      if_neg (hhead.ne (by decide)), ← wide_cons]
    exact readNumber?_wide hnumber

theorem items_succ {items : List Json}
    (hread : Json.readItems (fuel + 1) depth text = .ok (items, rest)) :
    readItems? (fuel + 1) (wide text) = some (ofItems items, wide rest) := by
  rw [Json.readItems] at hread
  obtain ⟨⟨item, behind⟩, hitem, hread⟩ := bind_eq_ok_iff.mp hread
  dsimp only at hread
  rw [readItems?, hfuel.value hitem]
  simp only [Option.bind_eq_bind, Option.bind_some, skipSpace_wide]
  split at hread
  · cases hread
  · next heq =>
    cases hread
    rw [heq]
    rfl
  · next after heq =>
    simp only [heq, wide_cons, skipSpace_wide]
    split at hread
    · cases hread
    · cases hread
    · obtain ⟨⟨others, _⟩, hothers, hread⟩ := bind_eq_ok_iff.mp hread
      cases hread
      rw [hfuel.items hothers]
      rfl
  · cases hread

theorem members_succ {key : String} {members : List (String × Json)}
    (hread : Json.readMembers (fuel + 1) depth key text = .ok (members, rest)) :
    readMembers? (fuel + 1) (wide key.toList) (wide text) =
      some (ofMembers members, wide rest) := by
  rw [Json.readMembers] at hread
  obtain ⟨⟨value, behind⟩, hvalue, hread⟩ := bind_eq_ok_iff.mp hread
  dsimp only at hread
  rw [readMembers?, hfuel.value hvalue]
  simp only [Option.bind_eq_bind, Option.bind_some, skipSpace_wide]
  split at hread
  · cases hread
  · next heq =>
    cases hread
    rw [heq]
    rfl
  · next after heq =>
    simp only [heq, wide_cons, skipSpace_wide]
    split at hread
    · cases hread
    · cases hread
    · next next hnext =>
      obtain ⟨⟨nextKey, first⟩, hkey, hread⟩ := bind_eq_ok_iff.mp hread
      obtain ⟨⟨others, _⟩, hothers, hread⟩ := bind_eq_ok_iff.mp hread
      cases hread
      simp only [hnext, wide_cons, readKey?_wide hkey, Option.bind_some, hfuel.members hothers]
      rfl
    · cases hread
  · cases hread

end Step

/-- A nested value is read with less fuel. -/
theorem of_fuel (fuel : Nat) : Follows fuel := by
  induction fuel with
  | zero =>
    refine ⟨fun hread ↦ ?_, fun hread ↦ ?_, fun hread ↦ ?_⟩
    · rw [Json.readValue] at hread
      cases hread
    · rw [Json.readItems] at hread
      cases hread
    · rw [Json.readMembers] at hread
      cases hread
  | succ fuel hfuel => exact ⟨hfuel.value_succ, hfuel.items_succ, hfuel.members_succ⟩

end Follows

/-- A value that is read from a text is read from outside as the same value. -/
theorem read?_wide {depth : Json.Depth} {text : List Char} {value : Json}
    (hread : Json.read depth text = .ok value) : read? (wide text) = some (ofJson value) := by
  unfold Json.read at hread
  split at hread
  · cases hread
  · obtain ⟨⟨found, rest⟩, hfound, hread⟩ := bind_eq_ok_iff.mp hread
    dsimp only at hread
    split at hread
    · next hspace =>
      cases hread
      rw [read?, length_wide, skipSpace_wide, (Follows.of_fuel _).value hfound]
      simp only [Option.bind_eq_bind, Option.bind_some, skipSpace_wide, hspace]
      rfl
    · cases hread

-- A surrogate on its own, which no text without surrogates can stand for, is read from outside.
example : read? (wide "[\"\\ud800\"]".toList) = some (.arr [.str [.surrogate 0]]) := by cbv

/-- Where the first two bytes are not zero, and there is no byte order mark, all bytes are read in
UTF-8. -/
theorem unmarkedText?_of_ne_zero {a b : UInt8} (ha : a ≠ 0) (hb : b ≠ 0) (rest : List UInt8) :
    unmarkedText? (a :: b :: rest) = WideText.ofUtf8? (a :: b :: rest) := by
  match rest with
  | [] | _ :: _ :: _ => simp only [unmarkedText?, if_neg ha, if_neg hb]
  | [_] => rfl

/-- A byte order mark begins with zero or beyond ASCII. -/
theorem head_of_mem_byteOrderMarks :
    ∀ entry ∈ byteOrderMarks, ∃ first behind, entry.1 = first :: behind ∧
      (first = 0 ∨ 0x80 ≤ first) := by
  simp only [byteOrderMarks, List.forall_mem_cons]
  refine ⟨⟨_, _, rfl, .inl rfl⟩, ⟨_, _, rfl, .inr ?_⟩, ⟨_, _, rfl, .inr ?_⟩, ⟨_, _, rfl, .inr ?_⟩,
    ⟨_, _, rfl, .inr ?_⟩, nofun⟩
  all_goals decide

/-- Where the first two bytes are in ASCII and not zero, all bytes are read in UTF-8. -/
theorem textOf?_of_ascii {a b : UInt8} (ha : a ≠ 0) (hascii : a < 0x80) (hb : b ≠ 0)
    (rest : List UInt8) : textOf? (a :: b :: rest) = WideText.ofUtf8? (a :: b :: rest) := by
  have hmarks : (byteOrderMarks.findSome? fun entry ↦
      (entry.1.isPrefixOf? (a :: b :: rest)).map entry.2) = none := by
    rw [List.findSome?_eq_none_iff]
    intro entry hentry
    obtain ⟨first, behind, heq, hfirst⟩ := head_of_mem_byteOrderMarks entry hentry
    have hne : first ≠ a := by
      rintro rfl
      rcases hfirst with hzero | hbeyond
      · exact ha hzero
      · exact absurd hascii (UInt8.not_lt.mpr hbeyond)
    rw [heq, List.isPrefixOf?, if_neg (by simpa using hne), Option.map_none]
  rw [textOf?, hmarks]
  exact unmarkedText?_of_ne_zero ha hb rest

/-- A value that is read from a text is read from its bytes, where the text begins with two
characters in ASCII. -/
theorem ofBytes?_utf8 {depth : Json.Depth} {c d : Char} {text : List Char} {value : Json}
    (hread : Json.read depth (c :: d :: text) = .ok value)
    (hc : 0 < c.toNat ∧ c.toNat < 0x80) (hd : 0 < d.toNat ∧ d.toNat < 0x80) :
    ofBytes? (utf8 (c :: d :: text)) = some (ofJson value) := by
  have hbyte {e : Char} (he : 0 < e.toNat ∧ e.toNat < 0x80) : utf8Char e = [e.toNat.toUInt8] := by
    rw [utf8Char]
    exact if_pos he.2
  have hbytes : utf8 (c :: d :: text) = c.toNat.toUInt8 :: d.toNat.toUInt8 :: utf8 text := by
    simp [utf8, hbyte hc, hbyte hd]
  have hne {e : Char} (he : 0 < e.toNat ∧ e.toNat < 0x80) : e.toNat.toUInt8 ≠ 0 := by
    rw [Ne, ← UInt8.toNat_inj, toNat_toUInt8 (by omega)]
    exact Nat.ne_of_gt he.1
  have htext : textOf? (utf8 (c :: d :: text)) = WideText.ofUtf8? (utf8 (c :: d :: text)) := by
    rw [hbytes]
    refine textOf?_of_ascii (hne hc) ?_ (hne hd) _
    rw [UInt8.lt_iff_toNat_lt, toNat_toUInt8 (by omega)]
    exact hc.2
  rw [ofBytes?, htext, WideText.ofUtf8?_utf8]
  exact read?_wide hread

/-! ### Regular values -/

/-- The numbers in a value are in normal form, and no object in it holds a key twice. -/
inductive IsRegular : WideJson → Prop
  | null : IsRegular .null
  | bool (value : Bool) : IsRegular (.bool value)
  | int (value : Int) : IsRegular (.int value)
  | float {value : Binary64} (hnormal : value.IsNormal) : IsRegular (.float value)
  | str (value : WideText) : IsRegular (.str value)
  | arr {items : List WideJson} (hitems : ∀ item ∈ items, IsRegular item) : IsRegular (.arr items)
  | obj {members : List (WideText × WideJson)} (hkeys : (members.map Prod.fst).Nodup)
      (hvalues : ∀ member ∈ members, IsRegular member.2) : IsRegular (.obj members)

/-- A value without surrogates is regular if it is so among the values from outside. -/
theorem IsRegular.of_ofJson {json : WideJson} (hregular : IsRegular json) {value : Json}
    (hvalue : ofJson value = json) : Json.IsRegular value := by
  induction hregular generalizing value with
  | arr _ ih =>
    cases value with
    | arr items =>
      cases hvalue
      refine .arr fun item hitem ↦ ih (ofJson item) ?_ rfl
      rw [ofItems_eq_map]
      exact List.mem_map_of_mem hitem
    | _ => cases hvalue
  | obj hkeys _ ih =>
    cases value with
    | obj members =>
      cases hvalue
      rw [ofMembers_eq_map, List.map_map] at hkeys
      refine .obj (List.Nodup.of_map (fun key : String ↦ wide key.toList) ?_)
        fun member hmember ↦ ih (wide member.1.toList, ofJson member.2) ?_ rfl
      · rwa [List.map_map]
      · rw [ofMembers_eq_map]
        exact List.mem_map_of_mem hmember
    | _ => cases hvalue
  | float hnormal =>
    cases value <;> cases hvalue
    exact .float hnormal
  | null =>
    cases value <;> cases hvalue
    exact .null
  | bool =>
    cases value <;> cases hvalue
    exact .bool _
  | int =>
    cases value <;> cases hvalue
    exact .int _
  | str =>
    cases value <;> cases hvalue
    exact .str _

theorem isRegular_of_readNumber? {text rest : WideText} {value : WideJson}
    (hread : readNumber? text = some (value, rest)) : IsRegular value := by
  unfold readNumber? at hread
  dsimp only at hread
  split at hread
  · cases hread
  · split_ifs at hread
    cases hread
    exact .int _
  · next found behind _ hnumber =>
    cases hread
    cases Json.isNumber_of_readNumber hnumber with
    | int value => exact .int value
    | float hnormal => exact .float hnormal

/-- Whatever is read with some fuel is regular. -/
structure ReadsRegular (fuel : Nat) : Prop where
  value : ∀ {text rest : WideText} {value : WideJson},
    readValue? fuel text = some (value, rest) → IsRegular value
  items : ∀ {text rest : WideText} {items : List WideJson},
    readItems? fuel text = some (items, rest) → ∀ item ∈ items, IsRegular item
  members : ∀ {key text rest : WideText} {members : List (WideText × WideJson)},
    readMembers? fuel key text = some (members, rest) → ∀ member ∈ members, IsRegular member.2

namespace ReadsRegular

section Step

variable {fuel : Nat} (hfuel : ReadsRegular fuel) {text rest : WideText}

include hfuel

theorem value_succ {value : WideJson} (hread : readValue? (fuel + 1) text = some (value, rest)) :
    IsRegular value := by
  cases text with
  | nil => simp [readValue?] at hread
  | cons point text =>
    cases point with
    | surrogate offset => simp [readValue?] at hread
    | char c =>
      rw [readValue?] at hread
      split_ifs at hread
      · obtain ⟨_, -, hread⟩ := Option.bind_eq_some_iff.mp hread
        cases hread
        exact .null
      · obtain ⟨_, -, hread⟩ := Option.bind_eq_some_iff.mp hread
        cases hread
        exact .bool true
      · obtain ⟨_, -, hread⟩ := Option.bind_eq_some_iff.mp hread
        cases hread
        exact .bool false
      · obtain ⟨_, -, hread⟩ := Option.bind_eq_some_iff.mp hread
        cases hread
        exact .float trivial
      · obtain ⟨_, -, hread⟩ := Option.bind_eq_some_iff.mp hread
        cases hread
        exact .str _
      · split at hread
        · cases hread
          exact .arr (List.forall_mem_nil _)
        · obtain ⟨_, hitems, hread⟩ := Option.bind_eq_some_iff.mp hread
          cases hread
          exact .arr (hfuel.items hitems)
      · split at hread
        · cases hread
          exact .obj List.nodup_nil (List.forall_mem_nil _)
        · obtain ⟨_, -, hread⟩ := Option.bind_eq_some_iff.mp hread
          obtain ⟨_, hmembers, hread⟩ := Option.bind_eq_some_iff.mp hread
          cases hread
          exact .obj (Json.nodup_keys_collect _) fun member hmember ↦
            hfuel.members hmembers member (Json.mem_of_mem_collect hmember)
        · cases hread
      · exact isRegular_of_readNumber? hread

theorem items_succ {items : List WideJson}
    (hread : readItems? (fuel + 1) text = some (items, rest)) :
    ∀ item ∈ items, IsRegular item := by
  rw [readItems?] at hread
  obtain ⟨⟨item, behind⟩, hitem, hread⟩ := Option.bind_eq_some_iff.mp hread
  dsimp only at hread
  split at hread
  · cases hread
    exact List.forall_mem_singleton.mpr (hfuel.value hitem)
  · obtain ⟨_, hothers, hread⟩ := Option.bind_eq_some_iff.mp hread
    cases hread
    exact List.forall_mem_cons.mpr ⟨hfuel.value hitem, hfuel.items hothers⟩
  · cases hread

theorem members_succ {key : WideText} {members : List (WideText × WideJson)}
    (hread : readMembers? (fuel + 1) key text = some (members, rest)) :
    ∀ member ∈ members, IsRegular member.2 := by
  rw [readMembers?] at hread
  obtain ⟨⟨value, behind⟩, hvalue, hread⟩ := Option.bind_eq_some_iff.mp hread
  dsimp only at hread
  split at hread
  · cases hread
    exact List.forall_mem_singleton.mpr (hfuel.value hvalue)
  · split at hread
    · obtain ⟨_, -, hread⟩ := Option.bind_eq_some_iff.mp hread
      obtain ⟨_, hothers, hread⟩ := Option.bind_eq_some_iff.mp hread
      cases hread
      exact List.forall_mem_cons.mpr ⟨hfuel.value hvalue, hfuel.members hothers⟩
    · cases hread
  · cases hread

end Step

theorem of_fuel (fuel : Nat) : ReadsRegular fuel := by
  induction fuel with
  | zero =>
    refine ⟨fun hread ↦ ?_, fun hread ↦ ?_, fun hread ↦ ?_⟩
    · simp [readValue?] at hread
    · rw [readItems?] at hread
      cases hread
    · rw [readMembers?] at hread
      cases hread
  | succ fuel hfuel => exact ⟨hfuel.value_succ, hfuel.items_succ, hfuel.members_succ⟩

end ReadsRegular

/-- A value that is read from outside is regular. -/
theorem isRegular_of_read? {text : WideText} {value : WideJson} (hread : read? text = some value) :
    IsRegular value := by
  obtain ⟨⟨found, rest⟩, hfound, hread⟩ := Option.bind_eq_some_iff.mp hread
  dsimp only at hread
  split_ifs at hread
  cases hread
  exact (ReadsRegular.of_fuel _).value hfound

end WideJson

end SchemaBindings
