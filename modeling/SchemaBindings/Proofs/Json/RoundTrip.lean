import SchemaBindings.Proofs.Json.Escape
import SchemaBindings.Proofs.Json.Nesting
import SchemaBindings.Proofs.Json.Number
import SchemaBindings.Proofs.Json.Regular
import SchemaBindings.Proofs.Json.Wide
/-!
# Written values are read back

A regular value that is written is read back, in either layout, if the bound on nesting admits it
and no integer in it is too long. If not, the text is refused: for its nesting, which must be too
deep then, or for an integer, of which one must be too long (`read_write`).
-/

set_option autoImplicit false
set_option relaxedAutoImplicit false

namespace SchemaBindings.Json

open SchemaBindings.Text

/-! ### Integers -/

/-- No integer in a value is written with more characters than are read. -/
inductive HasShortIntegers : Json → Prop
  | null : HasShortIntegers .null
  | bool (value : Bool) : HasShortIntegers (.bool value)
  | int {value : Int} (hlength : (writeInt value).length ≤ maxWholeLength) :
      HasShortIntegers (.int value)
  | float (value : Binary64) : HasShortIntegers (.float value)
  | str (value : String) : HasShortIntegers (.str value)
  | arr {items : List Json} (hitems : ∀ item ∈ items, HasShortIntegers item) :
      HasShortIntegers (.arr items)
  | obj {members : List (String × Json)} (hvalues : ∀ member ∈ members, HasShortIntegers member.2) :
      HasShortIntegers (.obj members)

theorem hasShortIntegers_int_iff {value : Int} :
    HasShortIntegers (.int value) ↔ (writeInt value).length ≤ maxWholeLength :=
  ⟨fun | .int hlength => hlength, .int⟩

theorem hasShortIntegers_arr_iff {items : List Json} :
    HasShortIntegers (.arr items) ↔ ∀ item ∈ items, HasShortIntegers item :=
  ⟨fun | .arr hitems => hitems, .arr⟩

theorem hasShortIntegers_obj_iff {members : List (String × Json)} :
    HasShortIntegers (.obj members) ↔ ∀ member ∈ members, HasShortIntegers member.2 :=
  ⟨fun | .obj hvalues => hvalues, .obj⟩

/-! ### Values that may be refused -/

/-- What is found is the given value if it is admitted and short. Otherwise it may be the fault of
nesting too deep, if the value is not admitted, or that of an integer out of range, if the value is
not short. -/
inductive Yields {α : Type} (admitted short : Prop) (found : Except FaultAt α) (value : α) : Prop
  | ok (hadmitted : admitted) (hshort : short) (hfound : found = .ok value)
  | tooDeep (hadmitted : ¬ admitted) (place : List Char)
      (hfound : found = .error ⟨.tooDeep, place⟩)
  | outOfRange (hshort : ¬ short) (place : List Char)
      (hfound : found = .error ⟨.outOfRange, place⟩)

namespace Yields

variable {α β : Type} {admitted short admittedNext shortNext : Prop} {found : Except FaultAt α}
  {value : α}

theorem eq_ok (hfound : Yields admitted short found value) (hadmitted : admitted)
    (hshort : short) : found = .ok value := by
  cases hfound with
  | ok _ _ hfound => exact hfound
  | tooDeep hdeep place hfound => exact absurd hadmitted hdeep
  | outOfRange hlong place hfound => exact absurd hshort hlong

theorem congr (hfound : Yields admitted short found value) (hadmitted : admitted ↔ admittedNext)
    (hshort : short ↔ shortNext) : Yields admittedNext shortNext found value := by
  rwa [hadmitted, hshort] at hfound

/-- What is found after a value that may be refused. -/
theorem bind {next : α → Except FaultAt β} {result : β} (hfound : Yields admitted short found value)
    (hnext : Yields admittedNext shortNext (next value) result) :
    Yields (admitted ∧ admittedNext) (short ∧ shortNext) (found >>= next) result := by
  cases hfound with
  | tooDeep hadmitted place hfound =>
    rw [hfound]
    exact .tooDeep (fun hboth ↦ hadmitted hboth.1) place rfl
  | outOfRange hshort place hfound =>
    rw [hfound]
    exact .outOfRange (fun hboth ↦ hshort hboth.1) place rfl
  | ok hadmitted hshort hfound =>
    rw [hfound]
    exact hnext.congr (and_iff_right hadmitted).symm (and_iff_right hshort).symm

/-- What is found is put into a larger value. -/
theorem map {next : α → Except FaultAt β} {result : β} (hfound : Yields admitted short found value)
    (hnext : next value = .ok result) : Yields admitted short (found >>= next) result :=
  (hfound.bind (.ok trivial trivial hnext)).congr (and_iff_left trivial) (and_iff_left trivial)

/-- What is found within one more level: the fault if the level may not be entered. -/
theorem enter {depth : Depth} {levels : Nat}
    (hnone : depth.enter = none → ∃ place, found = .error ⟨.tooDeep, place⟩)
    (hsome : ∀ inner, depth.enter = some inner →
      Yields (inner.Admits levels) short found value) :
    Yields (depth.Admits (levels + 1)) short found value := by
  cases henter : depth.enter with
  | none =>
    obtain ⟨place, hplace⟩ := hnone henter
    exact .tooDeep (Depth.not_admits_succ_of_enter henter) place hplace
  | some inner =>
    exact (hsome inner henter).congr (Depth.admits_succ_iff_of_enter henter).symm Iff.rfl

end Yields

/-! ### White space -/

theorem skipSpace_cons {c : Char} (hc : isSpace c = false) (text : List Char) :
    skipSpace (c :: text) = c :: text :=
  List.dropWhile_cons_of_neg (Bool.eq_false_iff.mp hc)

theorem skipSpace_append {front : List Char} (hfront : ∀ c ∈ front, isSpace c = true)
    (text : List Char) : skipSpace (front ++ text) = skipSpace text :=
  List.dropWhile_append_of_pos hfront

theorem isSpace_of_mem_edge {layout : Layout} {level : Nat} {c : Char}
    (hc : c ∈ layout.edge level) : isSpace c = true := by
  cases layout with
  | oneLine => cases hc
  | indented spaces =>
    rcases List.mem_cons.mp hc with rfl | hspace
    · rfl
    · rw [List.eq_of_mem_replicate hspace]
      rfl

/-- Between two items stands a comma and white space. -/
theorem exists_between_eq (layout : Layout) (level : Nat) :
    ∃ gap, layout.between level = ',' :: gap ∧ gap ≠ [] ∧ ∀ c ∈ gap, isSpace c = true := by
  cases layout with
  | oneLine => exact ⟨[' '], rfl, List.cons_ne_nil _ _, List.forall_mem_singleton.mpr rfl⟩
  | indented spaces =>
    refine ⟨'\n' :: List.replicate (level * spaces) ' ', rfl, List.cons_ne_nil _ _, ?_⟩
    exact fun c (hc : c ∈ (Layout.indented spaces).edge level) ↦ isSpace_of_mem_edge hc

/-! ### The fronts of values -/

/-- Whether a value may begin with a character: neither white space nor the end of a list. -/
def Opens (c : Char) : Prop :=
  isSpace c = false ∧ c ≠ ']'

theorem beginsNumber_of_readNumber {c : Char} {text : List Char} {found : Json × List Char}
    (hread : readNumber (c :: text) = .ok found) : BeginsNumber c := by
  unfold readNumber at hread
  split at hread
  · next heq =>
    cases heq
    exact .inr (.inl rfl)
  · unfold readUnsigned at hread
    split at hread
    · cases hread
    · next heq =>
      cases heq
      exact .inl rfl
    · next heq =>
      cases heq
      exact .inr (.inr rfl)
    · rw [readDigits] at hread
      split_ifs at hread with hdigit
      · exact .inl hdigit
      · cases hread

/-- The front of a number is neither white space nor the end of a list, and tells it from all other
values. -/
theorem readValue_of_beginsNumber {c : Char} (hhead : BeginsNumber c) (text : List Char)
    (fuel : Nat) (depth : Depth) :
    readValue (fuel + 1) depth (c :: text) = readBoundedNumber (c :: text) ∧ Opens c := by
  constructor
  · rw [readValue, if_neg (hhead.ne (by decide)), if_neg (hhead.ne (by decide)),
      if_neg (hhead.ne (by decide)), if_neg (hhead.ne (by decide)),
      if_neg (hhead.ne (by decide)), if_neg (hhead.ne (by decide)),
      if_neg (hhead.ne (by decide)), if_pos ?_]
    rcases hhead with hdigit | rfl | rfl
    · rw [hdigit]
      rfl
    · rfl
    · rfl
  · have hblank : c ≠ ' ' := hhead.ne (by decide)
    have htab : c ≠ '\t' := hhead.ne (by decide)
    have hfeed : c ≠ '\n' := hhead.ne (by decide)
    have hreturn : c ≠ '\r' := hhead.ne (by decide)
    refine ⟨?_, hhead.ne (by decide)⟩
    simp [isSpace, hblank, htab, hfeed, hreturn]

/-- A text with a value at its front. -/
def BeginsValue (text : List Char) : Prop :=
  ∃ c rest, text = c :: rest ∧ Opens c

theorem BeginsValue.skipSpace_append {text space : List Char} (hbegins : BeginsValue text)
    (hspace : ∀ c ∈ space, isSpace c = true) : skipSpace (space ++ text) = text := by
  obtain ⟨c, rest, rfl, hopens⟩ := hbegins
  rw [Json.skipSpace_append hspace, skipSpace_cons hopens.1]

/-- The text of a value is read back, in whatever layout it stands and whatever follows it. -/
structure ReadsBack (value : Json) : Prop where
  opens : ∀ layout level, ∃ c text, write layout level value = c :: text ∧ Opens c
  yields : ∀ {layout : Layout} {level fuel : Nat} (depth : Depth) {rest : List Char},
    EndsNumber rest → 2 * (write layout level value).length ≤ fuel →
      Yields (depth.Admits value.nesting) value.HasShortIntegers
        (readValue fuel depth (write layout level value ++ rest)) (value, rest)

theorem ReadsBack.begins_append {value : Json} (hvalue : ReadsBack value) (layout : Layout)
    (level : Nat) (behind : List Char) : BeginsValue (write layout level value ++ behind) := by
  obtain ⟨c, text, hcons, hopens⟩ := hvalue.opens layout level
  exact ⟨c, text ++ behind, by rw [hcons, List.cons_append], hopens⟩

/-! ### Values without items -/

/-- A value that nothing nests in is read back if its one text is. -/
theorem ReadsBack.of_text {value : Json} {c : Char} {text : List Char}
    (hwrite : ∀ layout level, write layout level value = c :: text) (hopens : Opens c)
    (hread : ∀ (fuel : Nat) (depth : Depth) (rest : List Char), EndsNumber rest →
      text.length < fuel → Yields (depth.Admits value.nesting) value.HasShortIntegers
        (readValue (fuel + 1) depth (c :: (text ++ rest))) (value, rest)) :
    ReadsBack value := by
  refine ⟨fun layout level ↦ ⟨c, text, hwrite layout level, hopens⟩, ?_⟩
  intro layout level fuel depth rest hrest hfuel
  rw [hwrite, List.length_cons] at hfuel
  obtain ⟨fuel, rfl⟩ := Nat.exists_eq_add_one_of_ne_zero (show fuel ≠ 0 by omega)
  rw [hwrite, List.cons_append]
  exact hread fuel depth rest hrest (by omega)

/-- A value without items that is no integer is never refused. -/
theorem Yields.leaf {depth : Depth} {value : Json} (hnesting : value.nesting = 0)
    (hshort : value.HasShortIntegers) {found : Except FaultAt (Json × List Char)}
    {rest : List Char} (hfound : found = .ok (value, rest)) :
    Yields (depth.Admits value.nesting) value.HasShortIntegers found (value, rest) :=
  .ok (hnesting ▸ depth.admits_zero) hshort hfound

theorem readsBack_null : ReadsBack .null :=
  .of_text (fun _ _ ↦ rfl) ⟨rfl, by decide⟩ fun _ _ _ _ _ ↦ .leaf rfl .null rfl

theorem readsBack_bool (value : Bool) : ReadsBack (.bool value) := by
  cases value with
  | true =>
    exact .of_text (fun _ _ ↦ rfl) ⟨rfl, by decide⟩ fun _ _ _ _ _ ↦ .leaf rfl (.bool true) rfl
  | false =>
    exact .of_text (fun _ _ ↦ rfl) ⟨rfl, by decide⟩ fun _ _ _ _ _ ↦ .leaf rfl (.bool false) rfl

/-- A number is read back as a value if it is read back as a number. -/
theorem ReadsBack.of_number {value : Json} {text : List Char}
    (hwrite : ∀ layout level, write layout level value = text)
    (hnumber : ∃ found, readNumber text = .ok found)
    (hread : ∀ (depth : Depth) (rest : List Char), EndsNumber rest →
      Yields (depth.Admits value.nesting) value.HasShortIntegers
        (readBoundedNumber (text ++ rest)) (value, rest)) :
    ReadsBack value := by
  obtain ⟨found, hnumber⟩ := hnumber
  cases text with
  | nil => cases hnumber
  | cons c text =>
    have hvalue := readValue_of_beginsNumber (beginsNumber_of_readNumber hnumber)
    refine .of_text hwrite (hvalue [] 0 none).2 fun fuel depth rest hrest _ ↦ ?_
    rw [(hvalue (text ++ rest) fuel depth).1]
    exact hread depth rest hrest

theorem endsNumber_nil : EndsNumber [] := fun c hc ↦ by cases hc

theorem readsBack_int (value : Int) : ReadsBack (.int value) := by
  have hnumber := readNumber_writeInt value endsNumber_nil
  rw [List.append_nil] at hnumber
  refine .of_number (fun _ _ ↦ rfl) ⟨_, hnumber⟩ fun depth rest hrest ↦ ?_
  obtain ⟨hshort, hlong⟩ := readBoundedNumber_writeInt value hrest
  rcases Nat.lt_or_ge maxWholeLength (writeInt value).length with hlength | hlength
  · obtain ⟨place, hplace⟩ := hlong hlength
    exact .outOfRange (mt hasShortIntegers_int_iff.mp (Nat.not_le_of_lt hlength)) place hplace
  · exact .leaf rfl (.int hlength) (hshort hlength)

theorem readsBack_float {value : Binary64} (hnormal : value.IsNormal) :
    ReadsBack (.float value) := by
  by_cases hnan : value = .nan
  · rw [hnan]
    exact .of_text (fun _ _ ↦ rfl) ⟨rfl, by decide⟩ fun _ _ _ _ _ ↦ .leaf rfl (.float .nan) rfl
  · have hnumber := readNumber_writeFloat hnormal hnan endsNumber_nil
    rw [List.append_nil] at hnumber
    exact .of_number (fun _ _ ↦ rfl) ⟨_, hnumber⟩ fun depth rest hrest ↦
      .leaf rfl (.float value) (readBoundedNumber_writeFloat hnormal hnan hrest)

theorem readValue_quote (fuel : Nat) (depth : Depth) (rest : List Char) :
    readValue (fuel + 1) depth ('"' :: rest) =
      (do
        let (text, rest) ← readString fuel rest
        return (.str (String.ofList text), rest)) := by
  unfold readValue
  rw [if_neg (by decide), if_neg (by decide), if_neg (by decide), if_neg (by decide), if_pos rfl]

theorem readsBack_str (value : String) : ReadsBack (.str value) := by
  refine .of_text (fun layout level ↦ write_str layout level value) ⟨rfl, by decide⟩
    fun fuel depth rest _ hfuel ↦ .leaf rfl (.str value) ?_
  have hlength := length_le_length_flatMap_escapeChar value.toList
  rw [List.length_append, List.length_singleton] at hfuel
  rw [List.append_assoc, List.singleton_append, readValue_quote,
    readString_flatMap_escapeChar (show value.toList.length < fuel by omega) rest]
  simp only [bind, Except.bind, String.ofList_toList]
  rfl

/-! ### Lists -/

theorem readValue_bracket (fuel : Nat) (depth : Depth) {rest first : List Char}
    (hskip : skipSpace rest = first) (hbegins : BeginsValue first) :
    readValue (fuel + 1) depth ('[' :: rest) =
      match depth.enter with
      | none => .error ⟨.tooDeep, first⟩
      | some depth => do
        let (items, rest) ← readItems fuel depth first
        return (.arr items, rest) := by
  obtain ⟨c, text, rfl, hopens⟩ := hbegins
  unfold readValue
  rw [if_neg (by decide), if_neg (by decide), if_neg (by decide), if_neg (by decide),
    if_neg (by decide), if_pos rfl, hskip]
  split
  · next heq => cases heq
  · next heq =>
    cases heq
    exact absurd rfl hopens.2
  · rfl

theorem endsNumber_comma (rest : List Char) : EndsNumber (',' :: rest) := fun _ hc ↦ by
  cases hc
  decide

/-- The items of a list with its end are read back, if the bound admits them all. -/
theorem readItems_write {layout : Layout} {level : Nat} {tail rest : List Char}
    (hclose : skipSpace tail = ']' :: rest) (hends : EndsNumber tail) (depth : Depth)
    {item : Json} {items : List Json} (hitem : ReadsBack item)
    (hitems : ∀ other ∈ items, ReadsBack other) {fuel : Nat}
    (hfuel : 2 * (write layout level item ++ writeItems layout level items).length < fuel) :
    Yields (depth.Admits (max item.nesting (itemsNesting 0 items)))
      (∀ other ∈ item :: items, other.HasShortIntegers)
      (readItems fuel depth (write layout level item ++ (writeItems layout level items ++ tail)))
      (item :: items, rest) := by
  induction items generalizing item fuel with
  | nil =>
    obtain ⟨fuel, rfl⟩ := Nat.exists_eq_add_one_of_ne_zero (Nat.ne_of_gt (Nat.zero_lt_of_lt hfuel))
    rw [writeItems_nil, List.append_nil] at hfuel
    rw [writeItems_nil, List.nil_append, readItems]
    refine ((hitem.yields depth hends (by omega)).map ?_).congr ?_
      List.forall_mem_singleton.symm
    · simp only [hclose]
      rfl
    · rw [itemsNesting, Nat.max_zero]
  | cons second items ih =>
    obtain ⟨fuel, rfl⟩ := Nat.exists_eq_add_one_of_ne_zero (Nat.ne_of_gt (Nat.zero_lt_of_lt hfuel))
    obtain ⟨hsecond, hitems⟩ := List.forall_mem_cons.mp hitems
    obtain ⟨gap, hbetween, hsome, hgap⟩ := exists_between_eq layout level
    simp only [writeItems_cons, hbetween, List.length_append, List.length_cons] at hfuel
    have hothers := @ih second hsecond hitems fuel (by rw [List.length_append]; omega)
    have htail : writeItems layout level (second :: items) ++ tail =
        ',' :: (gap ++ (write layout level second ++ (writeItems layout level items ++ tail))) := by
      simp [writeItems_cons, hbetween]
    rw [htail, readItems]
    refine ((hitem.yields depth (endsNumber_comma _) (by omega)).bind ?_).congr
      Depth.admits_max_iff.symm List.forall_mem_cons.symm
    have hbegins := hsecond.begins_append layout level (writeItems layout level items ++ tail)
    simp only [skipSpace_cons (show isSpace ',' = false from rfl), hbegins.skipSpace_append hgap]
    obtain ⟨c, text, hcons, hopens⟩ := hbegins
    split
    · next heq =>
      rw [hcons] at heq
      cases heq
    · next heq =>
      rw [hcons] at heq
      exact absurd (List.cons_eq_cons.mp heq).1 hopens.2
    · exact hothers.map rfl

/-- Behind the last item or member stands white space at most, and then the end. -/
theorem edge_append {close : Char} (hclose : close = ']' ∨ close = '\x7d') (layout : Layout)
    (level : Nat) (rest : List Char) :
    skipSpace (layout.edge level ++ close :: rest) = close :: rest ∧
      EndsNumber (layout.edge level ++ close :: rest) := by
  have hends : isSpace close = false ∧ isDigit close = false ∧ close ≠ '.' ∧ close ≠ 'e' ∧
      close ≠ 'E' := by
    rcases hclose with rfl | rfl <;> decide
  constructor
  · rw [skipSpace_append fun c hc ↦ isSpace_of_mem_edge hc, skipSpace_cons hends.1]
  · cases layout with
    | oneLine =>
      intro c hc
      cases hc
      exact hends.2
    | indented spaces =>
      intro c hc
      cases hc
      decide

theorem readsBack_arr {items : List Json} (hitems : ∀ item ∈ items, ReadsBack item) :
    ReadsBack (.arr items) := by
  cases items with
  | nil =>
    exact .of_text (fun _ _ ↦ rfl) ⟨rfl, by decide⟩ fun _ _ _ _ _ ↦
      .leaf rfl (.arr (List.forall_mem_nil _)) rfl
  | cons item items =>
    obtain ⟨hitem, hitems⟩ := List.forall_mem_cons.mp hitems
    refine ⟨fun layout level ↦ ⟨'[', _, write_arr_cons _ _ _ _, rfl, by decide⟩, ?_⟩
    intro layout level fuel depth rest _ hfuel
    obtain ⟨hclose, hends⟩ := edge_append (.inl rfl) layout level rest
    simp only [write_arr_cons, List.length_append, List.length_cons] at hfuel
    obtain ⟨fuel, rfl⟩ := Nat.exists_eq_add_one_of_ne_zero (show fuel ≠ 0 by omega)
    set first := write layout (level + 1) item ++
      (writeItems layout (level + 1) items ++ (layout.edge level ++ ']' :: rest)) with hfirst
    have hwrite : write layout level (.arr (item :: items)) ++ rest =
        '[' :: (layout.edge (level + 1) ++ first) := by
      simp [write_arr_cons, hfirst]
    have hbegins : BeginsValue first := hitem.begins_append layout (level + 1) _
    have hskip := hbegins.skipSpace_append fun c hc ↦ @isSpace_of_mem_edge layout (level + 1) c hc
    have hlength : 2 * (write layout (level + 1) item ++
        writeItems layout (level + 1) items).length < fuel := by
      rw [List.length_append]
      omega
    rw [hwrite, readValue_bracket fuel depth hskip hbegins]
    refine Yields.enter (fun hnone ↦ ?_) fun inner hinner ↦ ?_
    · rw [hnone]
      exact ⟨_, rfl⟩
    · rw [hinner]
      refine ((readItems_write hclose hends inner hitem hitems hlength).map ?_).congr Iff.rfl
        hasShortIntegers_arr_iff.symm
      rfl

/-! ### Objects -/

/-- The text of a key, from behind its opening quote, with the text of its value. -/
def keyed (key : String) (value : List Char) : List Char :=
  key.toList.flatMap escapeChar ++ '"' :: ':' :: ' ' :: value

theorem writeString_append (key : String) (value : List Char) :
    writeString key ++ ':' :: ' ' :: value = '"' :: keyed key value := by
  simp [writeString, keyed]

theorem readKey_keyed {key : String} {fuel : Nat} (hfuel : (writeString key).length ≤ fuel)
    {value : List Char} (hbegins : BeginsValue value) :
    readKey fuel (keyed key value) = .ok (key, value) := by
  obtain ⟨c, text, rfl, hopens⟩ := hbegins
  have hlength := length_le_length_flatMap_escapeChar key.toList
  rw [writeString, List.length_cons, List.length_append, List.length_singleton] at hfuel
  rw [keyed, readKey, readString_flatMap_escapeChar (by omega)]
  simp only [bind, Except.bind, skipSpace_cons (show isSpace ':' = false from rfl)]
  have hskip : skipSpace (' ' :: c :: text) = c :: text := skipSpace_cons hopens.1 text
  rw [hskip, String.ofList_toList]
  rfl

theorem readValue_brace (fuel : Nat) (depth : Depth) {rest first : List Char}
    (hskip : skipSpace rest = '"' :: first) :
    readValue (fuel + 1) depth ('\x7b' :: rest) =
      (do
        let (key, value) ← readKey fuel first
        match depth.enter with
        | none => .error ⟨.tooDeep, value⟩
        | some depth => do
          let (members, rest) ← readMembers fuel depth key value
          return (.object members, rest)) := by
  unfold readValue
  rw [if_neg (by decide), if_neg (by decide), if_neg (by decide), if_neg (by decide),
    if_neg (by decide), if_neg (by decide), if_pos rfl, hskip]
  rfl

/-- The members of an object with its end are read back, if the bound admits all their values. -/
theorem readMembers_write {layout : Layout} {level : Nat} {tail rest : List Char}
    (hclose : skipSpace tail = '\x7d' :: rest) (hends : EndsNumber tail) (depth : Depth)
    {key : String} {value : Json} {members : List (String × Json)} (hvalue : ReadsBack value)
    (hmembers : ∀ member ∈ members, ReadsBack member.2) {fuel : Nat}
    (hfuel : 2 * (write layout level value ++ writeMembers layout level members).length < fuel) :
    Yields (depth.Admits (max value.nesting (membersNesting 0 members)))
      (∀ member ∈ (key, value) :: members, member.2.HasShortIntegers)
      (readMembers fuel depth key
        (write layout level value ++ (writeMembers layout level members ++ tail)))
      ((key, value) :: members, rest) := by
  induction members generalizing key value fuel with
  | nil =>
    obtain ⟨fuel, rfl⟩ := Nat.exists_eq_add_one_of_ne_zero (Nat.ne_of_gt (Nat.zero_lt_of_lt hfuel))
    rw [writeMembers_nil, List.append_nil] at hfuel
    rw [writeMembers_nil, List.nil_append, readMembers]
    refine ((hvalue.yields depth hends (by omega)).map ?_).congr ?_
      (by rw [List.forall_mem_singleton])
    · simp only [hclose]
      rfl
    · rw [membersNesting, Nat.max_zero]
  | cons second members ih =>
    obtain ⟨second, other⟩ := second
    obtain ⟨fuel, rfl⟩ := Nat.exists_eq_add_one_of_ne_zero (Nat.ne_of_gt (Nat.zero_lt_of_lt hfuel))
    obtain ⟨hother, hmembers⟩ := List.forall_mem_cons.mp hmembers
    obtain ⟨gap, hbetween, hsome, hgap⟩ := exists_between_eq layout level
    simp only [writeMembers_cons, hbetween, List.length_append, List.length_cons] at hfuel
    have hothers := @ih second other hother hmembers fuel (by rw [List.length_append]; omega)
    set next := write layout level other ++ (writeMembers layout level members ++ tail) with hnext
    have htail : writeMembers layout level ((second, other) :: members) ++ tail =
        ',' :: (gap ++ '"' :: keyed second next) := by
      simp [writeMembers_cons, hbetween, hnext, ← writeString_append]
    have hkey : readKey fuel (keyed second next) = .ok (second, next) :=
      readKey_keyed (by omega) (hother.begins_append layout level _)
    rw [htail, readMembers]
    refine ((hvalue.yields depth (endsNumber_comma _) (by omega)).bind ?_).congr
      Depth.admits_max_iff.symm (by rw [List.forall_mem_cons])
    simp only [skipSpace_cons (show isSpace ',' = false from rfl), skipSpace_append hgap,
      skipSpace_cons (show isSpace '"' = false from rfl), hkey]
    exact hothers.map rfl

theorem readsBack_obj {members : List (String × Json)} (hkeys : (members.map Prod.fst).Nodup)
    (hmembers : ∀ member ∈ members, ReadsBack member.2) : ReadsBack (.obj members) := by
  cases members with
  | nil =>
    exact .of_text (fun _ _ ↦ rfl) ⟨rfl, by decide⟩ fun _ _ _ _ _ ↦
      .leaf rfl (.obj (List.forall_mem_nil _)) rfl
  | cons member members =>
    obtain ⟨key, value⟩ := member
    obtain ⟨hvalue, hmembers⟩ := List.forall_mem_cons.mp hmembers
    refine ⟨fun layout level ↦ ⟨'\x7b', _, write_obj_cons _ _ _ _ _, rfl, by decide⟩, ?_⟩
    intro layout level fuel depth rest _ hfuel
    obtain ⟨hclose, hends⟩ := edge_append (.inr rfl) layout level rest
    simp only [write_obj_cons, List.length_append, List.length_cons] at hfuel
    obtain ⟨fuel, rfl⟩ := Nat.exists_eq_add_one_of_ne_zero (show fuel ≠ 0 by omega)
    set first := write layout (level + 1) value ++
      (writeMembers layout (level + 1) members ++ (layout.edge level ++ '\x7d' :: rest)) with hfirst
    have hwrite : write layout level (.obj ((key, value) :: members)) ++ rest =
        '\x7b' :: (layout.edge (level + 1) ++ '"' :: keyed key first) := by
      simp [write_obj_cons, ← writeString_append, hfirst]
    have hskip : skipSpace (layout.edge (level + 1) ++ '"' :: keyed key first) =
        '"' :: keyed key first := by
      rw [skipSpace_append fun c hc ↦ isSpace_of_mem_edge hc]
      exact skipSpace_cons rfl _
    have hkey : readKey fuel (keyed key first) = .ok (key, first) :=
      readKey_keyed (by omega) (hvalue.begins_append layout (level + 1) _)
    have hlength : 2 * (write layout (level + 1) value ++
        writeMembers layout (level + 1) members).length < fuel := by
      rw [List.length_append]
      omega
    rw [hwrite, readValue_brace fuel depth hskip, hkey]
    simp only [bind, Except.bind]
    refine Yields.enter (fun hnone ↦ ?_) fun inner hinner ↦ ?_
    · rw [hnone]
      exact ⟨_, rfl⟩
    · rw [hinner]
      have hread := @readMembers_write _ _ _ _ hclose hends inner key _ _ hvalue hmembers _ hlength
      refine (hread.map ?_).congr Iff.rfl hasShortIntegers_obj_iff.symm
      rw [object, collect_eq_self hkeys]
      rfl

/-! ### Texts -/

theorem IsRegular.readsBack {value : Json} (hregular : IsRegular value) : ReadsBack value := by
  induction hregular with
  | null => exact readsBack_null
  | bool value => exact readsBack_bool value
  | int value => exact readsBack_int value
  | float hnormal => exact readsBack_float hnormal
  | str value => exact readsBack_str value
  | arr _ ih => exact readsBack_arr ih
  | obj hkeys _ ih => exact readsBack_obj hkeys ih

/-- A regular value that is written is read back as itself if the bound on nesting admits it and its
integers are short. -/
theorem read_write {value : Json} (hregular : IsRegular value) (depth : Depth) (layout : Layout) :
    Yields (depth.Admits value.nesting) value.HasShortIntegers
      (read depth (write layout 0 value)) value := by
  obtain ⟨hopens, hyields⟩ := hregular.readsBack
  have hbegins : BeginsValue (write layout 0 value) := hopens layout 0
  have hskip : skipSpace (write layout 0 value) = write layout 0 value :=
    hbegins.skipSpace_append (List.forall_mem_nil _)
  obtain ⟨c, text, hcons, -⟩ := hbegins
  have hfound := @hyields layout 0 _ depth [] endsNumber_nil (Nat.le_add_right _ 2)
  rw [List.append_nil] at hfound
  unfold read
  rw [hskip]
  split
  · next heq =>
    rw [hcons] at heq
    cases heq
  · exact hfound.map rfl

end SchemaBindings.Json
