import SchemaBindings.Proofs.Files.Replacement
import SchemaBindings.Proofs.Input
import SchemaBindings.Proofs.Introspection.Written
import SchemaBindings.Proofs.Template.Outcome
/-!
# A run writes its output or nothing

`generateFile_isAtomic` is the guarantee of a run for every file tree, all options and anything that
may strike a step. In each state the run goes through, the output holds what it held before or all
of the new text (`Run.IsAtomic.content`, `Run.IsAtomic.read`). A run that fails leaves every file as
it was, and one that succeeds changes the output and no other file.

It succeeds exactly when nothing strikes one of its ten steps, it has a text and there is room for
its output (`result_generateFile_eq_ok_iff`), and its text is the module of the types that its
filters keep, under its headers (`textOfRun_eq`).

Until the module is complete a run only reads, so what it may harm comes from the law of the
replacement (`replaceFile_spec`). The steps before the writing are taken apart one bind at a time:
none of them was struck in a run that goes on (`exists_of_bind_eq_ok`), and what they find does not
depend on what was reported before (`Gives`).
-/

set_option autoImplicit false
set_option relaxedAutoImplicit false

namespace SchemaBindings

open FileTree SchemaBindings.Template

/-! ### Steps before the writing -/

section Reporting

variable {α β : Type} {value : β} {events after : List Event} {strikes : Strikes}

/-- A computation with two steps succeeds when both do. -/
theorem exists_of_bind_eq_ok {first : Reporting α} {next : α → Reporting β}
    (hrun : (first >>= next).run.run events = (.ok value, after)) :
    ∃ found between, first.run.run events = (.ok found, between) ∧
      (next found).run.run between = (.ok value, after) := by
  rw [ExceptT.run_bind, StateT.run_bind] at hrun
  cases hfirst : first.run.run events with
  | mk outcome between =>
    rw [hfirst] at hrun
    cases outcome with
    | error fault => cases hrun
    | ok found => exact ⟨found, between, rfl, hrun⟩

theorem strikes_eq_none_of_unlessStruck {number : Nat} {done : Unit}
    (hrun : (unlessStruck strikes number).run.run events = (.ok done, after)) :
    strikes number = none := by
  rw [unlessStruck] at hrun
  cases hstrike : strikes number with
  | none => rfl
  | some strike =>
    rw [hstrike] at hrun
    cases hrun

/-- A schema that was read and decoded was struck neither time. -/
theorem strikes_eq_none_of_readSchema {tree : FileTree} {path : Option String} {schema : Schema}
    (hrun : (readSchema strikes tree path).run.run events = (.ok schema, after)) :
    strikes 0 = none ∧ strikes 1 = none := by
  unfold readSchema at hrun
  cases path with
  | none => cases hrun
  | some path =>
    obtain ⟨_, _, hread, hrun⟩ := exists_of_bind_eq_ok hrun
    obtain ⟨_, _, -, hrun⟩ := exists_of_bind_eq_ok hrun
    obtain ⟨_, _, -, hrun⟩ := exists_of_bind_eq_ok hrun
    obtain ⟨_, _, hdecode, -⟩ := exists_of_bind_eq_ok hrun
    exact ⟨strikes_eq_none_of_unlessStruck hread, strikes_eq_none_of_unlessStruck hdecode⟩

/-- A module that was sorted and rendered was struck neither time. -/
theorem strikes_eq_none_of_moduleOfTypes {engine : Engine} {tree : FileTree} {options : RunOptions}
    {types : List NamedType} {module : List Char}
    (hrun : (moduleOfTypes engine strikes tree options types).run.run events =
      (.ok module, after)) :
    strikes 3 = none ∧ strikes 4 = none := by
  rw [moduleOfTypes] at hrun
  obtain ⟨_, _, hsort, hrun⟩ := exists_of_bind_eq_ok hrun
  obtain ⟨_, _, -, hrun⟩ := exists_of_bind_eq_ok hrun
  obtain ⟨_, _, -, hrun⟩ := exists_of_bind_eq_ok hrun
  obtain ⟨_, _, -, hrun⟩ := exists_of_bind_eq_ok hrun
  obtain ⟨_, _, hrender, -⟩ := exists_of_bind_eq_ok hrun
  exact ⟨strikes_eq_none_of_unlessStruck hsort, strikes_eq_none_of_unlessStruck hrender⟩

theorem strikes_eq_none_of_contentOfRun {engine : Engine} {tree : FileTree} {options : RunOptions}
    {text : String}
    (hrun : (contentOfRun engine strikes tree options).run.run events = (.ok text, after)) :
    ∀ number < 6, strikes number = none := by
  rw [contentOfRun] at hrun
  obtain ⟨_, _, hschema, hrun⟩ := exists_of_bind_eq_ok hrun
  obtain ⟨_, _, hhooks, hrun⟩ := exists_of_bind_eq_ok hrun
  obtain ⟨_, _, -, hrun⟩ := exists_of_bind_eq_ok hrun
  obtain ⟨_, _, hmodule, hrun⟩ := exists_of_bind_eq_ok hrun
  obtain ⟨_, _, hheaders, -⟩ := exists_of_bind_eq_ok hrun
  have hread := strikes_eq_none_of_readSchema hschema
  have hwritten := strikes_eq_none_of_moduleOfTypes hmodule
  intro number hnumber
  obtain rfl | rfl | rfl | rfl | rfl | rfl : number = 0 ∨ number = 1 ∨ number = 2 ∨ number = 3 ∨
      number = 4 ∨ number = 5 := by omega
  · exact hread.1
  · exact hread.2
  · exact strikes_eq_none_of_unlessStruck hhooks
  · exact hwritten.1
  · exact hwritten.2
  · exact strikes_eq_none_of_unlessStruck hheaders

/-- A run's text depends on nothing but that its steps are not struck. -/
theorem contentOfRun_eq_of_strikes {engine : Engine} {tree : FileTree} {options : RunOptions}
    (hstrikes : ∀ number < 6, strikes number = none) :
    contentOfRun engine strikes tree options = contentOfRun engine Strikes.none tree options := by
  have hstep (number : Nat) (hnumber : number < 6) :
      unlessStruck strikes number = unlessStruck Strikes.none number := by
    rw [unlessStruck, hstrikes number hnumber, unlessStruck, Strikes.none]
  simp only [contentOfRun, readSchema, moduleOfTypes, hstep 0 (by decide), hstep 1 (by decide),
    hstep 2 (by decide), hstep 3 (by decide), hstep 4 (by decide), hstep 5 (by decide)]

end Reporting

/-! ### The text of a run -/

/-- A computation has a result whatever was reported before it. -/
def Gives {α : Type} (computation : Reporting α) (result : Except RunError α) : Prop :=
  ∀ events, (computation.run.run events).1 = result

namespace Gives

variable {α β ε : Type}

/-- Two computations in a row have the results of theirs in a row. -/
theorem bind {first : Reporting α} {next : α → Reporting β} {result : Except RunError α}
    {after : α → Except RunError β} (hfirst : Gives first result)
    (hnext : ∀ value, result = .ok value → Gives (next value) (after value)) :
    Gives (first >>= next) (result >>= after) := by
  intro events
  have hresult := hfirst events
  rw [ExceptT.run_bind, StateT.run_bind]
  cases hrun : first.run.run events with
  | mk outcome between =>
    rw [hrun] at hresult
    subst hresult
    cases outcome with
    | error error => rfl
    | ok value => exact hnext value rfl between

/-- A step that succeeds is followed by the next one. -/
theorem ok_bind {first : Reporting α} {next : α → Reporting β} {value : α}
    {result : Except RunError β} (hfirst : Gives first (.ok value))
    (hnext : Gives (next value) result) : Gives (first >>= next) result :=
  hfirst.bind fun _ hvalue ↦ Except.ok.inj hvalue ▸ hnext

theorem pure (value : α) : Gives (Pure.pure value) (.ok value) :=
  fun _ ↦ rfl

theorem report (event : Event) : Gives (SchemaBindings.report event) (.ok ()) :=
  fun _ ↦ rfl

theorem orFail (fail : ε → RunError) (result : Except ε α) :
    Gives (SchemaBindings.orFail fail result) (result.mapError fail) := by
  intro events
  cases result <;> rfl

theorem unlessStruck (number : Nat) :
    Gives (SchemaBindings.unlessStruck Strikes.none number) (.ok ()) :=
  fun _ ↦ rfl

end Gives

/-- The templates of a run, when its directory yields both. -/
def templatesAt (engine : Engine) (tree : FileTree) (directory : Option String) :
    Except TemplateFault Templates := do
  let enum ← choose engine tree directory enumFile enumDeclaration
  let module ← choose engine tree directory moduleFile moduleText
  return { enum, module }

/-- The text of a run that nothing strikes. -/
def textOfRun (engine : Engine) (tree : FileTree) (options : RunOptions) :
    Except RunError String :=
  ((contentOfRun engine Strikes.none tree options).run.run []).1

/-- A schema is read alike whatever was reported before. -/
theorem gives_readSchema (tree : FileTree) (path : Option String) :
    Gives (readSchema Strikes.none tree path) (schemaAt tree path) := by
  intro events
  rw [schemaAt]
  cases path with
  | none => rfl
  | some path =>
    simp only [readSchema, unlessStruck, Strikes.none, pure_bind]
    cases tree.readFile path with
    | error fault => rfl
    | ok bytes =>
      simp only [orFail, pure_bind]
      cases textOfFile path bytes with
      | error error => rfl
      | ok text =>
        simp only [pure_bind]
        cases schemaOfText path text <;> cases isSdlPath path <;> rfl

/-! ### Templates -/

/-- The template for enums takes no part where there is no enum. -/
theorem declarations_congr {templates other : Templates} {types : List NamedType}
    (hsame : types.any isEnum = true → templates.enum = other.enum) :
    templates.declarations types = other.declarations types := by
  have htexts : types.mapM (templates.typeText 0) = types.mapM (other.typeText 0) := by
    induction types with
    | nil => rfl
    | cons type types ih =>
      rw [List.any_cons, Bool.or_eq_true] at hsame
      have hfirst : templates.typeText 0 type = other.typeText 0 type := by
        obtain ⟨name, description, body⟩ := type
        cases body with
        | enum values =>
          simp only [Templates.typeText, Templates.enumText, hsame (.inl rfl)]
        | _ => rfl
      rw [List.mapM_cons, List.mapM_cons, hfirst, ih fun hany ↦ hsame (.inr hany)]
  rw [Templates.declarations, htexts, Templates.declarations]

/-- The template for modules takes no part where there are no declarations. -/
theorem render_congr {templates other : Templates} {path : String} {body : List Char}
    (hsame : Text.isAllBlank body = false → templates.module = other.module) :
    templates.render path body = other.render path body := by
  rw [Templates.render, Templates.render]
  split_ifs with hblank
  · rfl
  · rw [Templates.moduleAround, Templates.moduleAround, hsame (Bool.eq_false_iff.mpr hblank)]

theorem choose_of_templatesAt {engine : Engine} {tree : FileTree} {directory : Option String}
    {templates : Templates} (htemplates : templatesAt engine tree directory = .ok templates) :
    choose engine tree directory enumFile enumDeclaration = .ok templates.enum ∧
      choose engine tree directory moduleFile moduleText = .ok templates.module := by
  obtain ⟨enum, henum, hrest⟩ := bind_eq_ok_iff.mp htemplates
  obtain ⟨module, hmodule, hpair⟩ := bind_eq_ok_iff.mp hrest
  cases hpair
  exact ⟨henum, hmodule⟩

/-- A template that is there is found if it is looked for. -/
theorem exists_chooseIf_eq_ok {engine : Engine} {tree : FileTree} {directory : Option String}
    {name : String} {standing : List Node} {renderer : Renderer} (used : Bool)
    (hchoose : choose engine tree directory name standing = .ok renderer) :
    ∃ found, chooseIf used engine tree directory name standing = .ok found ∧
      (used = true → found = renderer) := by
  cases used with
  | true => exact ⟨renderer, hchoose, fun _ ↦ rfl⟩
  | false => exact ⟨_, rfl, nofun⟩

/-- The module of a run is what its templates generate. -/
theorem gives_moduleOfTypes {engine : Engine} {tree : FileTree} {options : RunOptions}
    {templates : Templates}
    (htemplates : templatesAt engine tree options.templateDirectory = .ok templates)
    (types : List NamedType) :
    Gives (moduleOfTypes engine Strikes.none tree options types)
      ((templates.generate options.output types).mapError .generation) := by
  obtain ⟨henum, hmodule⟩ := choose_of_templatesAt htemplates
  rw [Templates.generate, Templates.typesText, sortTypes]
  simp only [mapError_bind, mapError_mapError, bind_assoc]
  refine .ok_bind (.unlessStruck 3) (.bind (.orFail _ _) fun graph _ ↦ ?_)
  refine .ok_bind (.report _) (.bind (.orFail _ _) fun sorted _ ↦ .ok_bind (.unlessStruck 4) ?_)
  obtain ⟨enum, hfound, hsame⟩ := exists_chooseIf_eq_ok (sorted.any isEnum) henum
  rw [hfound]
  have hdeclarations : Templates.declarations { enum } sorted = templates.declarations sorted :=
    declarations_congr hsame
  refine .ok_bind (.pure enum) ?_
  rw [hdeclarations]
  refine .bind (.orFail _ _) fun body _ ↦ ?_
  obtain ⟨module, hfound, hsame⟩ := exists_chooseIf_eq_ok (!Text.isAllBlank body) hmodule
  rw [hfound]
  have hrender : Templates.render { enum, module } options.output body =
      templates.render options.output body :=
    render_congr fun hblank ↦ hsame (by rw [hblank]; rfl)
  refine .ok_bind (.pure module) ?_
  rw [hrender]
  exact .orFail _ _

/-- The text of a run that finds its templates: the module of the types that its filters keep, under
its headers. -/
theorem textOfRun_eq {engine : Engine} {tree : FileTree} {options : RunOptions}
    {templates : Templates}
    (htemplates : templatesAt engine tree options.templateDirectory = .ok templates) :
    textOfRun engine tree options = do
      let schema ← schemaAt tree options.schema
      let module ← (templates.generate options.output
        (options.hooks.filterSchema schema).types).mapError .generation
      return options.hooks.addHeaders (String.ofList module) := by
  refine Gives.bind (gives_readSchema _ _) (fun schema _ ↦ ?_) []
  refine .ok_bind (.unlessStruck 2) (.ok_bind (.report _) ?_)
  refine .bind (gives_moduleOfTypes htemplates _) fun module _ ↦ ?_
  exact .ok_bind (.unlessStruck 5) (.pure _)

/-! ### Runs -/

/-- What a run may do to the files of a tree: its output is never half there, and nothing else
changes. -/
structure Run.IsAtomic (tree : FileTree) (output : String) (run : Run) : Prop where
  /-- The output's place always holds what it held before, or the complete text. -/
  content : ∀ state ∈ run.states,
    state.contentAt? (tree.resolve output) = tree.contentAt? (tree.resolve output) ∨
      ∃ text, run.result = .ok text ∧
        state.contentAt? (tree.resolve output) = some (Text.utf8 text.toList)
  /-- The output's path always leads to what it led to before, or to the complete text. -/
  read : tree.IsGrounded → ∀ state ∈ run.states,
    (state.readFile output).toOption = (tree.readFile output).toOption ∨
      ∃ text, run.result = .ok text ∧ state.readFile output = .ok (Text.utf8 text.toList)
  /-- A run that fails leaves all files as they were. -/
  failed : ∀ error, run.result = .error error → ∀ place,
    (run.final tree).contentAt? place = tree.contentAt? place
  /-- A run that succeeds leaves its text at the output and all other files as they were. -/
  written : ∀ text, run.result = .ok text →
    (run.final tree).readFile output = .ok (Text.utf8 text.toList) ∧
      (run.final tree).contentAt? (tree.resolve output) = some (Text.utf8 text.toList) ∧
      ∀ place, place ≠ tree.resolve output →
        (run.final tree).contentAt? place = tree.contentAt? place
  /-- Apart from files, only directories on the way to the output may be new. -/
  directories : ∀ place, place ≠ tree.resolve output →
    Keeps (tree.resolve output).dropLast tree (run.final tree) place

/-- What a run is: it fails while it only reads, or it replaces its output by the text. -/
theorem generateFile_cases (engine : Engine) (strikes : Strikes) (tree : FileTree)
    (options : RunOptions) :
    (∃ error, (generateFile engine strikes tree options).states = [tree] ∧
      (generateFile engine strikes tree options).result = .error error) ∨
    ∃ text events, (contentOfRun engine strikes tree options).run.run [] = (.ok text, events) ∧
      (generateFile engine strikes tree options).states =
        (replaceFile strikes 6 tree options.output (Text.utf8 text.toList)).states ∧
      (generateFile engine strikes tree options).result =
        match (replaceFile strikes 6 tree options.output (Text.utf8 text.toList)).fault with
        | some fault => .error (.file fault)
        | none => .ok text := by
  rw [generateFile]
  cases hcontent : (contentOfRun engine strikes tree options).run.run [] with
  | mk outcome events =>
    cases outcome with
    | error error => exact .inl ⟨error, rfl, rfl⟩
    | ok text =>
      refine .inr ⟨text, events, rfl, ?_⟩
      dsimp only
      cases (replaceFile strikes 6 tree options.output (Text.utf8 text.toList)).fault with
      | none => exact ⟨rfl, rfl⟩
      | some fault => exact ⟨rfl, rfl⟩

/-- A run succeeds exactly when nothing strikes one of its ten steps, it has a text, and there is
room for its output. -/
theorem result_generateFile_eq_ok_iff {engine : Engine} {strikes : Strikes} {tree : FileTree}
    {options : RunOptions} {text : String} :
    (generateFile engine strikes tree options).result = .ok text ↔
      (∀ number < 10, strikes number = none) ∧ textOfRun engine tree options = .ok text ∧
        tree.HasRoomFor options.output := by
  constructor
  · intro hresult
    rcases generateFile_cases engine strikes tree options with
      ⟨error, -, herror⟩ | ⟨other, events, hcontent, -, hwriting⟩
    · rw [hresult] at herror
      cases herror
    · rw [hresult] at hwriting
      split at hwriting
      · cases hwriting
      · next hfault =>
        cases hwriting
        have hbefore := strikes_eq_none_of_contentOfRun hcontent
        obtain ⟨hwriting, hroom⟩ := fault_replaceFile_eq_none_iff.mp hfault
        rw [contentOfRun_eq_of_strikes hbefore] at hcontent
        refine ⟨fun number hnumber ↦ ?_, by rw [textOfRun, hcontent], hroom⟩
        by_cases hsix : number < 6
        · exact hbefore number hsix
        · obtain ⟨index, rfl⟩ := Nat.exists_eq_add_of_le (Nat.le_of_not_lt hsix)
          exact hwriting index (by omega)
  · rintro ⟨hstrikes, htext, hroom⟩
    have hcontent : contentOfRun engine strikes tree options =
        contentOfRun engine Strikes.none tree options :=
      contentOfRun_eq_of_strikes fun number hnumber ↦ hstrikes number (by omega)
    have hfault : (replaceFile strikes 6 tree options.output (Text.utf8 text.toList)).fault =
        none :=
      fault_replaceFile_eq_none_iff.mpr ⟨fun index hindex ↦ hstrikes _ (by omega), hroom⟩
    rw [textOfRun] at htext
    rw [generateFile, hcontent]
    cases hrun : (contentOfRun engine Strikes.none tree options).run.run [] with
    | mk outcome events =>
      rw [hrun] at htext
      subst htext
      dsimp only
      rw [hfault]

namespace Run.IsAtomic

variable {tree last : FileTree} {output : String} {temporary : Place} {earlier : List FileTree}
  {run : Run}

theorem final_eq (tree : FileTree) (hstates : run.states = earlier ++ [last]) :
    run.final tree = last := by
  rw [Run.final, hstates, List.getLast?_concat, Option.getD_some]

/-- A run that fails is atomic if it only writes aside and leaves nothing there. -/
theorem of_error {error : RunError} (haside : IsAside tree (tree.resolve output) temporary)
    (hstates : run.states = earlier ++ [last])
    (hearlier : ∀ state ∈ earlier, Unharmed tree (tree.resolve output) temporary state)
    (hlast : Unharmed tree (tree.resolve output) temporary last)
    (hvacant : last.entry? temporary = none) (hresult : run.result = .error error) :
    run.IsAtomic tree output := by
  have hunharmed : ∀ state ∈ run.states, Unharmed tree (tree.resolve output) temporary state := by
    rw [hstates, List.forall_mem_append, List.forall_mem_singleton]
    exact ⟨hearlier, hlast⟩
  have hkeeps := hlast.keeps_of_vacant haside hvacant
  rw [← final_eq tree hstates] at hkeeps
  exact {
    content := fun state hstate ↦ .inl ((hunharmed state hstate).contentAt?_target haside)
    read := fun hgrounded state hstate ↦
      .inl ((hunharmed state hstate).readFile_toOption_eq haside rfl hgrounded)
    failed := fun _ _ place ↦ (hkeeps place).contentAt?_eq
    written := fun text htext ↦ by
      rw [hresult] at htext
      cases htext
    directories := fun place _ ↦ hkeeps place }

/-- A run that succeeds is atomic if it only writes aside until it replaces its output. -/
theorem of_ok {text : String} (haside : IsAside tree (tree.resolve output) temporary)
    (hstates : run.states = earlier ++ [last])
    (hearlier : ∀ state ∈ earlier, Unharmed tree (tree.resolve output) temporary state)
    (hlast : Replaced tree output (Text.utf8 text.toList) last) (hresult : run.result = .ok text) :
    run.IsAtomic tree output := by
  have hstate : ∀ state ∈ run.states,
      Unharmed tree (tree.resolve output) temporary state ∨
        Replaced tree output (Text.utf8 text.toList) state := by
    rw [hstates, List.forall_mem_append, List.forall_mem_singleton]
    exact ⟨fun state hmem ↦ .inl (hearlier state hmem), .inr hlast⟩
  have hfinal := final_eq tree hstates
  constructor
  case content =>
    intro state hmem
    rcases hstate state hmem with hunharmed | hreplaced
    · exact .inl (hunharmed.contentAt?_target haside)
    · exact .inr ⟨text, hresult, hreplaced.contentAt?_eq⟩
  case read =>
    intro hgrounded state hmem
    rcases hstate state hmem with hunharmed | hreplaced
    · exact .inl (hunharmed.readFile_toOption_eq haside rfl hgrounded)
    · exact .inr ⟨text, hresult, hreplaced.read⟩
  case failed =>
    intro error herror
    rw [hresult] at herror
    cases herror
  case written =>
    intro other hother
    rw [hresult] at hother
    cases hother
    rw [hfinal]
    exact ⟨hlast.read, hlast.contentAt?_eq, fun place hplace ↦
      (hlast.keeps place hplace).contentAt?_eq⟩
  case directories =>
    rw [hfinal]
    exact hlast.keeps

end Run.IsAtomic

theorem isAtomic_generateFile (engine : Engine) (strikes : Strikes) (tree : FileTree)
    (options : RunOptions) :
    (generateFile engine strikes tree options).IsAtomic tree options.output := by
  rcases generateFile_cases engine strikes tree options with
    ⟨error, hstates, hresult⟩ | ⟨text, events, -, hstates, hresult⟩
  · have haside := isAside_vacantPlace tree (tree.resolve options.output)
    have hlone : (generateFile engine strikes tree options).states = [] ++ [tree] := hstates
    exact .of_error haside hlone (List.forall_mem_nil _) haside.unharmed haside.vacant hresult
  · obtain ⟨temporary, earlier, last, haside, hwriting, hearlier, hlast⟩ :=
      replaceFile_spec strikes 6 tree options.output (Text.utf8 text.toList)
    rw [hwriting] at hstates
    split at hresult
    · next fault hfault =>
      rw [hfault] at hlast
      exact .of_error haside hstates hearlier hlast.1 hlast.2 hresult
    · next hfault =>
      rw [hfault] at hlast
      exact .of_ok haside hstates hearlier hlast hresult

/-- A run writes its output as a whole or changes no file, whatever strikes it. It succeeds exactly
when nothing strikes one of its ten steps, it has a text and there is room for its output; and if
its templates are there, its text is the module that they generate for the types that its filters
keep, under its headers. -/
theorem generateFile_isAtomic (engine : Engine) (strikes : Strikes) (tree : FileTree)
    (options : RunOptions) :
    (generateFile engine strikes tree options).IsAtomic tree options.output ∧
      (∀ text, (generateFile engine strikes tree options).result = .ok text ↔
        (∀ number < 10, strikes number = none) ∧ textOfRun engine tree options = .ok text ∧
          tree.HasRoomFor options.output) ∧
      ∀ templates, templatesAt engine tree options.templateDirectory = .ok templates →
        textOfRun engine tree options = do
          let schema ← schemaAt tree options.schema
          let module ← (templates.generate options.output
            (options.hooks.filterSchema schema).types).mapError .generation
          return options.hooks.addHeaders (String.ofList module) :=
  ⟨isAtomic_generateFile engine strikes tree options, fun _ ↦ result_generateFile_eq_ok_iff,
    fun _ ↦ textOfRun_eq⟩

/-! ### A run on a schema with an enum -/

section Episode

open Introspection ModuleLines

/-- A tree with a file in which there is a schema. -/
def episodeTree : FileTree where
  entries := [(["schema.json"], .file (Text.utf8 (Json.write (.indented 2) 0 episodeDocument)))]

/-- A run on that file without its query type, into a directory that is not there yet. -/
def episodeOptions : RunOptions where
  schema := some "schema.json"
  output := "build/types.py"
  hooks := { filters := [{ excludedStart := some "Query" }], headers := ["# Generated"] }

/-- What is left of the schema. -/
def episodeTypes : List NamedType :=
  [{ name := "Episode", body := .enum [{ name := "JEDI", description := "Part six." }] }]

theorem schemaAt_episodeTree :
    schemaAt episodeTree episodeOptions.schema = .ok episodeSchema := by
  have hread (bytes : List UInt8) :
      FileTree.readFile { entries := [(["schema.json"], .file bytes)] } "schema.json" =
        .ok bytes := rfl
  have hdocument : schemaOfDocument episodeDocument = .ok episodeSchema := by
    rw [schemaOfDocument, writesDocument_episodeDocument.decode_eq nodup_episodeSchema
      wellFormed_episodeSchema shallow_episodeSchema, ofMalformed]
  have hpath : isSdlPath "schema.json" = false := by decide
  have hagrees := (schemaOfFile_write hpath isRegular_episodeDocument (.indented 2)).agrees_of
    (by decide) hasShortIntegers_episodeDocument
  rw [hdocument] at hagrees
  rw [episodeTree, episodeOptions, schemaAt_eq (hread _), hagrees.eq_ok]
  rfl

theorem hasRoomFor_episodeTree : episodeTree.HasRoomFor episodeOptions.output :=
  ⟨_, _, rfl, rfl⟩

theorem generate_episodeTypes :
    ({} : Templates).generate episodeOptions.output
      (episodeOptions.hooks.filterSchema episodeSchema).types = .ok (moduleOf episodeTypes) := by
  have hkept : (episodeOptions.hooks.filterSchema episodeSchema).types = episodeTypes := by
    decide
  have hsorted : sortTypes episodeTypes = .ok episodeTypes := by
    decide
  have hsome : episodeTypes.flatMap declaration ≠ [] := by
    decide
  have hnull : '\x00' ∉ moduleOf episodeTypes := by
    rw [null_mem_moduleOf]
    decide
  have hmodule : Source.isModule (moduleOf episodeTypes) = true := by
    rw [moduleOf, isModule_prelude_append]
    decide +kernel
  rw [hkept, generate_eq _ hsorted, if_neg hsome, if_neg hnull, if_pos hmodule]

/-- The run writes its module, and if the writing of the new content is struck it changes no
file. -/
theorem generateFile_isAtomic_episodeTree :
    templatesAt .none episodeTree episodeOptions.templateDirectory = .ok {} ∧
      (∃ text, (generateFile .none Strikes.none episodeTree episodeOptions).result = .ok text ∧
        text = episodeOptions.hooks.addHeaders (String.ofList (moduleOf episodeTypes)) ∧
        ((generateFile .none Strikes.none episodeTree episodeOptions).final episodeTree).readFile
          "build/types.py" = .ok (Text.utf8 text.toList)) ∧
      ∀ strikes : Strikes, strikes 8 ≠ none → ∀ place,
        ((generateFile .none strikes episodeTree episodeOptions).final episodeTree).contentAt?
          place = episodeTree.contentAt? place := by
  have htemplates : templatesAt .none episodeTree episodeOptions.templateDirectory = .ok {} := rfl
  refine ⟨htemplates, ?_, fun strikes hstrike place ↦ ?_⟩
  · obtain ⟨hatomic, hok, htext⟩ :=
      generateFile_isAtomic .none Strikes.none episodeTree episodeOptions
    have hmodule : (({} : Templates).generate episodeOptions.output
        (episodeOptions.hooks.filterSchema episodeSchema).types).mapError RunError.generation =
          .ok (moduleOf episodeTypes) := by
      rw [generate_episodeTypes]
      rfl
    have hcontent := (htext {} htemplates).trans
      (bind_eq_ok_iff.mpr ⟨_, schemaAt_episodeTree, bind_eq_ok_iff.mpr ⟨_, hmodule, rfl⟩⟩)
    have hresult := (hok _).mpr ⟨fun _ _ ↦ rfl, hcontent, hasRoomFor_episodeTree⟩
    exact ⟨_, hresult, rfl, (hatomic.written _ hresult).1⟩
  · obtain ⟨hatomic, hok, -⟩ := generateFile_isAtomic .none strikes episodeTree episodeOptions
    cases hresult : (generateFile .none strikes episodeTree episodeOptions).result with
    | error error => exact hatomic.failed error hresult place
    | ok text => exact absurd (((hok text).mp hresult).1 8 (by decide)) hstrike

end Episode

end SchemaBindings
