import Mathlib.Data.List.Basic
import SchemaBindings.Source.Statement
/-!
# Recognition of statements

How the recognizers go through the statements of a generated module. A recognizer runs over what it
takes and leaves the tokens behind it as they are; this is said for single tokens first, then for
the expressions that occur, and for a table by induction on its entries (`entries_table`). A list of
tokens that is taken as a statement whatever stands behind it is one for good (`FormsStatement`): so
is a class whose body consists of such statements (`formsStatement_class`), and such statements one
after the other are a module (`areModule_flatten`), unless a class stands behind them whose name is
a keyword (`areModule_append_keyword`).

The recognizers are opened one level at a time here. To evaluate one on tokens of which some are
unknown would go through every branch of all rules above it.
-/

set_option autoImplicit false
set_option relaxedAutoImplicit false

namespace SchemaBindings.Source

/-! ### Single tokens -/

section Tokens

variable {α β : Type} (token : Token) (tokens : List Token)

@[simp] theorem run_recognizer_bind (first : Recognizer α) (next : α → Recognizer β) :
    (first >>= next).run tokens =
      (first.run tokens).bind fun (value, rest) ↦ (next value).run rest :=
  rfl

@[simp] theorem run_recognizer_pure (value : α) :
    (pure value : Recognizer α).run tokens = some (value, tokens) :=
  rfl

@[simp] theorem run_recognizer_orElse (first second : Recognizer α) :
    (first <|> second).run tokens = (first.run tokens <|> second.run tokens) :=
  rfl

@[simp] theorem run_isNext :
    (isNext token).run tokens = some (tokens.head? == some token, tokens) :=
  rfl

@[simp] theorem run_accept :
    (accept token).run tokens =
      if tokens.head? = some token then some (true, tokens.tail) else some (false, tokens) := by
  unfold accept
  by_cases hnext : tokens.head? = some token
  · simp [hnext]
  · simp [hnext]

/-- What comes after the decision whether to take a token. -/
theorem run_accept_bind (next : Bool → Recognizer α) :
    (accept token >>= next).run tokens =
      if tokens.head? = some token then (next true).run tokens.tail
      else (next false).run tokens := by
  rw [run_recognizer_bind, run_accept]
  split_ifs <;> rfl

@[simp] theorem run_expect :
    (expect token).run tokens =
      if tokens.head? = some token then some ((), tokens.tail) else none := by
  unfold expect
  rw [run_accept_bind]
  rfl

@[simp] theorem run_expectName (name : List Char) :
    expectName.run (.name name :: tokens) = some ((), tokens) :=
  rfl

@[simp] theorem run_acceptOp_newline (ops : List String) :
    (acceptOp ops).run (.newline :: tokens) = some (false, .newline :: tokens) :=
  rfl

@[simp] theorem run_acceptComparison_newline :
    acceptComparison.run (.newline :: tokens) = some (false, .newline :: tokens) :=
  rfl

theorem run_acceptOp_op {ops : List String} {op : String} (hop : op ∉ ops) :
    (acceptOp ops).run (.op op :: tokens) = some (false, .op op :: tokens) := by
  unfold acceptOp
  simp [hop]

end Tokens

/-! ### Expressions -/

section Expressions

variable {fuel : Nat}

theorem expression_place (hfuel : 10 ≤ fuel) (name part : List Char) (rest : List Token) :
    (expression fuel).run (.name name :: .op "." :: .name part :: .op ":" :: rest) =
      some (.place, .op ":" :: rest) := by
  obtain ⟨fuel, rfl⟩ := Nat.exists_eq_add_of_le' hfuel
  rfl

theorem expression_none (hfuel : 10 ≤ fuel) (rest : List Token) :
    (expression fuel).run (.keyword "None" :: .op "," :: rest) =
      some (.other, .op "," :: rest) := by
  obtain ⟨fuel, rfl⟩ := Nat.exists_eq_add_of_le' hfuel
  rfl

theorem expression_string (hfuel : 10 ≤ fuel) (rest : List Token) :
    (expression fuel).run (.string false [] :: .op "," :: rest) =
      some (.other, .op "," :: rest) := by
  obtain ⟨fuel, rfl⟩ := Nat.exists_eq_add_of_le' hfuel
  rfl

theorem item_place (hfuel : 12 ≤ fuel) (name part : List Char) (rest : List Token) :
    (item fuel).run (.name name :: .op "." :: .name part :: .op ":" :: rest) =
      some (.place, .op ":" :: rest) := by
  obtain ⟨fuel, rfl⟩ := Nat.exists_eq_add_of_le' hfuel
  rfl

theorem assigned_name (hfuel : 12 ≤ fuel) (name : List Char) (rest : List Token) :
    (assigned fuel).run (.name name :: .op "=" :: rest) = some (.name, .op "=" :: rest) := by
  obtain ⟨fuel, rfl⟩ := Nat.exists_eq_add_of_le' hfuel
  rfl

theorem arguments_place (hfuel : 15 ≤ fuel) (name part : List Char) (rest : List Token) :
    (arguments fuel false .positional).run
        (.name name :: .op "." :: .name part :: .op ")" :: rest) = some ((), rest) := by
  obtain ⟨fuel, rfl⟩ := Nat.exists_eq_add_of_le' hfuel
  rfl

/-! ### Tables -/

/-- The tokens of an entry in a table: a part of a class and a string. -/
def entryTokens (name part : List Char) : List Token :=
  [.name name, .op ".", .name part, .op ":", .string false [], .op ","]

theorem entries_table (name : List Char) (parts : List (List Char)) (rest : List Token)
    (hfuel : 11 + (parts.flatMap (entryTokens name)).length ≤ fuel) :
    (entries fuel).run (parts.flatMap (entryTokens name) ++ .op "\x7d" :: rest) =
      some ((), rest) := by
  induction parts generalizing fuel with
  | nil =>
    obtain ⟨fuel, rfl⟩ := Nat.exists_eq_add_of_le' hfuel
    rfl
  | cons part parts ih =>
    have hentry : (entryTokens name part).length = 6 := rfl
    rw [List.flatMap_cons, List.length_append, hentry] at hfuel
    obtain ⟨fuel, rfl⟩ := Nat.exists_eq_add_of_le' (show 1 ≤ fuel by omega)
    have hothers := @ih fuel (by omega)
    rw [List.flatMap_cons, List.append_assoc, entryTokens, entries]
    simp [expression_place (show 10 ≤ fuel by omega), expression_string (show 10 ≤ fuel by omega),
      hothers]

theorem braced_table (hfuel : 12 ≤ fuel) (name part : List Char) (rest : List Token) :
    (braced (fuel + 1)).run
        (.name name :: .op "." :: .name part :: .op ":" :: .keyword "None" :: .op "," :: rest) =
      (entries fuel).run rest := by
  rw [braced]
  simp [item_place hfuel, expression_none (show 10 ≤ fuel by omega), Shape.isPlain]

/-- Something between braces is all that stands on the right of an assignment. -/
theorem assigned_braces {inside rest : List Token}
    (hinside : (braced fuel).run inside = some ((), .newline :: rest)) :
    (assigned (fuel + 10)).run (.op "\x7b" :: inside) = some (.other, .newline :: rest) := by
  have hatom : (atom (fuel + 1)).run (.op "\x7b" :: inside) = some (.other, .newline :: rest) := by
    rw [atom]
    simp [hinside]
  have htrailers : (trailers (fuel + 1) .other).run (.newline :: rest) =
      some (.other, .newline :: rest) := by
    rw [trailers]
    simp
  have hprimary : (primary (fuel + 2)).run (.op "\x7b" :: inside) =
      some (.other, .newline :: rest) := by
    rw [primary]
    simp [hatom, htrailers]
  have hsigned : (signed (fuel + 3)).run (.op "\x7b" :: inside) =
      some (.other, .newline :: rest) := by
    rw [signed]
    simp [run_acceptOp_op _ (show "\x7b" ∉ ["-", "+", "~"] by decide), hprimary]
  have harithmetic : (arithmetic (fuel + 4)).run (.op "\x7b" :: inside) =
      some (.other, .newline :: rest) := by
    rw [arithmetic]
    simp [hsigned]
  have hcomparison : (comparison (fuel + 5)).run (.op "\x7b" :: inside) =
      some (.other, .newline :: rest) := by
    rw [comparison]
    simp [harithmetic]
  have hinversion : (inversion (fuel + 6)).run (.op "\x7b" :: inside) =
      some (.other, .newline :: rest) := by
    rw [inversion]
    simp [hcomparison]
  have hdisjunction : (disjunction (fuel + 7)).run (.op "\x7b" :: inside) =
      some (.other, .newline :: rest) := by
    rw [disjunction]
    simp [hinversion]
  have hexpression : (expression (fuel + 8)).run (.op "\x7b" :: inside) =
      some (.other, .newline :: rest) := by
    rw [expression]
    simp [hdisjunction]
  have hstarred : (starredExpression (fuel + 9)).run (.op "\x7b" :: inside) =
      some (.other, .newline :: rest) := by
    rw [starredExpression]
    simp [hexpression]
  have hexpressions : (expressions (fuel + 10)).run (.op "\x7b" :: inside) =
      some (.other, .newline :: rest) := by
    rw [expressions]
    simp [hstarred]
  rw [assigned]
  simp [hexpressions]

end Expressions

/-! ### Statements that begin with a name -/

section Named

variable {fuel : Nat} (name : List Char) {tokens rest : List Token}

theorem run_beginsWithPlace_name :
    (beginsWithPlace fuel).run (.name name :: tokens) = some (false, .name name :: tokens) := by
  unfold beginsWithPlace
  simp

/-- A statement that begins with a name and goes on with an equals sign assigns to the name. -/
theorem expressionStatement_name (hfuel : 12 ≤ fuel)
    (hassigned : (assignments fuel .name).run (.op "=" :: tokens) = some ((), rest)) :
    (expressionStatement fuel).run (.name name :: .op "=" :: tokens) = some ((), rest) := by
  rw [expressionStatement]
  simp [run_beginsWithPlace_name, assigned_name hfuel, hassigned,
    run_acceptOp_op _ (show "=" ∉ updateOperators by decide)]

theorem simpleStatement_name :
    (simpleStatement fuel).run (.name name :: tokens) =
      (expressionStatement fuel).run (.name name :: tokens) := by
  rw [simpleStatement]
  simp only [↓run_accept_bind, ↓reduceIte, List.head?_cons, Option.some.injEq, reduceCtorEq]

variable {name} in
theorem statement_name
    (hexpression : (expressionStatement fuel).run (.name name :: tokens) =
      some ((), .newline :: rest)) :
    (statement (fuel + 2)).run (.name name :: tokens) = some ((), rest) := by
  rw [statement]
  simp only [↓run_accept_bind, ↓reduceIte, List.head?_cons, Option.some.injEq, reduceCtorEq,
    run_recognizer_orElse]
  rw [simpleStatements]
  simp [simpleStatement_name, hexpression]

theorem assignments_braces
    (hinside : (braced fuel).run tokens = some ((), .newline :: rest)) :
    (assignments (fuel + 11) .name).run (.op "=" :: .op "\x7b" :: tokens) =
      some ((), .newline :: rest) := by
  rw [assignments]
  simp [assigned_braces hinside, Shape.isItemTarget, Shape.itemUse, assignments]

end Named

/-! ### Statements -/

/-- Tokens that are taken as one statement, whatever stands behind them. -/
structure FormsStatement (tokens : List Token) : Prop where
  notEnded : tokens ≠ [] ∧ tokens.head? ≠ some .dedent
  taken : ∀ fuel rest, 2 * tokens.length + 40 ≤ fuel →
    (statement fuel).run (tokens ++ rest) = some ((), rest)

theorem FormsStatement.head?_append_ne {tokens : List Token} (htokens : FormsStatement tokens)
    (rest : List Token) : (tokens ++ rest).head? ≠ some .dedent := by
  obtain ⟨hne, hhead⟩ := htokens.notEnded
  rwa [List.head?_append_of_ne_nil tokens hne]

theorem formsStatement_string : FormsStatement [.string false [], .newline] where
  notEnded := by decide
  taken fuel rest hfuel := by
    obtain ⟨fuel, rfl⟩ := Nat.exists_eq_add_of_le' hfuel
    rfl

theorem formsStatement_import (name : List Char) :
    FormsStatement [.keyword "import", .name name, .newline] where
  notEnded := by simp
  taken fuel rest hfuel := by
    obtain ⟨fuel, rfl⟩ := Nat.exists_eq_add_of_le' hfuel
    rfl

theorem formsStatement_number (name : List Char) :
    FormsStatement [.name name, .op "=", .number false, .newline] where
  notEnded := by simp
  taken fuel rest hfuel := by
    obtain ⟨fuel, rfl⟩ := Nat.exists_eq_add_of_le' hfuel
    rfl

theorem formsStatement_negativeNumber (name : List Char) :
    FormsStatement [.name name, .op "=", .op "-", .number false, .newline] where
  notEnded := by simp
  taken fuel rest hfuel := by
    obtain ⟨fuel, rfl⟩ := Nat.exists_eq_add_of_le' hfuel
    rfl

/-- A table with a first entry and entries for some parts of a class. -/
theorem formsStatement_table (table name first : List Char) (parts : List (List Char)) :
    FormsStatement ([.name table, .op "=", .op "\x7b", .name name, .op ".", .name first, .op ":",
      .keyword "None", .op ","] ++ parts.flatMap (entryTokens name) ++ [.op "\x7d", .newline]) where
  notEnded := by simp
  taken fuel rest hfuel := by
    simp only [List.length_append, List.length_cons, List.length_nil] at hfuel
    obtain ⟨fuel, rfl⟩ := Nat.exists_eq_add_of_le' (show 15 ≤ fuel by omega)
    have hentries := @entries_table (fuel + 1) name parts (.newline :: rest) (by omega)
    have htable := (braced_table (show 12 ≤ fuel + 1 by omega) name first
      (parts.flatMap (entryTokens name) ++ .op "\x7d" :: .newline :: rest)).trans hentries
    have hstatement := statement_name
      (expressionStatement_name table (by omega) (assignments_braces htable))
    simp only [List.append_assoc, List.cons_append, List.nil_append]
    exact hstatement

/-- The statements of a class up to the end of its indented lines. -/
theorem statements_flatten {body : List (List Token)}
    (hbody : ∀ tokens ∈ body, FormsStatement tokens) {fuel : Nat}
    (hfuel : 2 * body.flatten.length + 41 ≤ fuel) (rest : List Token) :
    (statements fuel .dedent).run (body.flatten ++ .dedent :: rest) = some ((), rest) := by
  induction body generalizing fuel with
  | nil =>
    obtain ⟨fuel, rfl⟩ := Nat.exists_eq_add_of_le' hfuel
    rfl
  | cons tokens body ih =>
    rw [List.forall_mem_cons] at hbody
    rw [List.flatten_cons, List.length_append] at hfuel
    have hlength := List.length_pos_iff.mpr hbody.1.notEnded.1
    obtain ⟨fuel, rfl⟩ := Nat.exists_eq_add_of_le' (show 1 ≤ fuel by omega)
    have htaken := hbody.1.taken fuel (body.flatten ++ .dedent :: rest) (by omega)
    have hothers := @ih hbody.2 fuel (by omega)
    have hhead : (tokens ++ (body.flatten ++ .dedent :: rest)).head? ≠ some .dedent :=
      hbody.1.head?_append_ne _
    rw [List.flatten_cons, List.append_assoc, statements]
    simp only [↓run_accept_bind, if_neg hhead, Bool.false_eq_true, ↓reduceIte]
    simp [htaken, hothers]

/-- A class with a base and at least one statement in its body. -/
theorem formsStatement_class (name base part : List Char) {body : List (List Token)}
    (hsome : body ≠ []) (hbody : ∀ tokens ∈ body, FormsStatement tokens) :
    FormsStatement ([.keyword "class", .name name, .op "(", .name base, .op ".", .name part,
      .op ")", .op ":", .newline, .indent] ++ body.flatten ++ [.dedent]) where
  notEnded := by simp
  taken fuel rest hfuel := by
    obtain ⟨first, body, rfl⟩ := List.exists_cons_of_ne_nil hsome
    rw [List.forall_mem_cons] at hbody
    simp only [List.flatten_cons, List.length_append, List.length_cons, List.length_nil] at hfuel
    obtain ⟨fuel, rfl⟩ := Nat.exists_eq_add_of_le' (show 2 ≤ fuel by omega)
    have harguments := arguments_place (show 15 ≤ fuel + 1 by omega) base part
    have hstatement := hbody.1.taken fuel (body.flatten ++ .dedent :: rest) (by omega)
    have hstatements := @statements_flatten _ hbody.2 fuel (by omega) rest
    have hblock : (block (fuel + 1)).run (.op ":" :: .newline :: .indent ::
        (first ++ (body.flatten ++ .dedent :: rest))) = some ((), rest) := by
      rw [block]
      simp [hstatement, hstatements]
    rw [statement]
    simp only [↓run_accept_bind, ↓reduceIte, List.head?_cons, Option.some.injEq, reduceCtorEq,
      List.flatten_cons, List.append_assoc, List.cons_append, List.nil_append]
    simp [harguments, hblock]

/-! ### Modules -/

/-- Statements at the front of a module are taken one after the other. -/
theorem wholeModule_append {body : List (List Token)}
    (hbody : ∀ tokens ∈ body, FormsStatement tokens) {fuel : Nat}
    (hfuel : 2 * body.flatten.length + 41 ≤ fuel) (rest : List Token) :
    ∃ left, (wholeModule fuel).run (body.flatten ++ rest) = (wholeModule (left + 1)).run rest := by
  induction body generalizing fuel with
  | nil => exact ⟨fuel - 1, by rw [Nat.sub_add_cancel (by omega)]; rfl⟩
  | cons tokens body ih =>
    rw [List.forall_mem_cons] at hbody
    rw [List.flatten_cons, List.length_append] at hfuel
    have hlength := List.length_pos_iff.mpr hbody.1.notEnded.1
    obtain ⟨fuel, rfl⟩ := Nat.exists_eq_add_of_le' (show 1 ≤ fuel by omega)
    have htaken := hbody.1.taken fuel (body.flatten ++ rest) (by omega)
    obtain ⟨left, hothers⟩ := @ih hbody.2 fuel (by omega)
    refine ⟨left, ?_⟩
    rw [List.flatten_cons, List.append_assoc, wholeModule, ← hothers]
    simp [hbody.1.notEnded.1, htaken]

theorem le_recognitionDepth (tokens rest : List Token) :
    2 * tokens.length + 41 ≤ recognitionDepth (tokens ++ rest) := by
  rw [recognitionDepth, List.length_append]
  omega

/-- Statements one after the other are a module. -/
theorem areModule_flatten {body : List (List Token)}
    (hbody : ∀ tokens ∈ body, FormsStatement tokens) : areModule body.flatten = true := by
  obtain ⟨left, hrun⟩ := wholeModule_append hbody (le_recognitionDepth body.flatten []) []
  rw [List.append_nil] at hrun
  have htaken : wholeModule (recognitionDepth body.flatten) body.flatten = some ((), []) := hrun
  rw [areModule, htaken]
  rfl

/-- A class whose name is a keyword is not taken. -/
theorem statement_keyword (fuel : Nat) (word : String) (rest : List Token) :
    (statement fuel).run (.keyword "class" :: .keyword word :: rest) = none := by
  cases fuel with
  | zero => rfl
  | succ fuel =>
    rw [statement]
    simp only [↓run_accept_bind, ↓reduceIte, List.head?_cons, Option.some.injEq, reduceCtorEq]
    rfl

/-- Statements with a class behind them whose name is a keyword are not a module. -/
theorem areModule_append_keyword {body : List (List Token)}
    (hbody : ∀ tokens ∈ body, FormsStatement tokens) (word : String) (rest : List Token) :
    areModule (body.flatten ++ .keyword "class" :: .keyword word :: rest) = false := by
  obtain ⟨left, hrun⟩ := wholeModule_append hbody (le_recognitionDepth body.flatten _)
    (.keyword "class" :: .keyword word :: rest)
  have hnone : (wholeModule (left + 1)).run (.keyword "class" :: .keyword word :: rest) = none := by
    rw [wholeModule]
    simp [statement_keyword]
  have htaken := hrun.trans hnone
  rw [areModule]
  exact congrArg Option.isSome htaken

end SchemaBindings.Source
