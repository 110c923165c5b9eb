import Mathlib.Data.List.Nodup
import Mathlib.Data.List.Perm.Subperm
import SchemaBindings.Files.Replacement
import SchemaBindings.Proofs.Except
import SchemaBindings.Proofs.Files.Tree
/-!
# A file is replaced as a whole or not at all

The new content is written aside, at a place that was vacant (`isAside_vacantPlace`), and takes the
place of the target in the last step. Until then a tree is `Unharmed`: it may have more directories
on the way to the target, and something aside, and that is all. Each step keeps this, struck or not,
and the last one leaves a tree that is `Replaced`.

A `Triple` says what a run of steps does: which trees it passes through, and which it ends in if
nothing stops it. One step is added at a time (`Triple.cons`), by what it leaves behind when it is
struck and what it makes. `triple_replacementSteps` is the triple of the four steps, and
`replaceFile_spec` adds the removal of what stands aside after a fault.

No step fails by itself but the first and the last, for want of a way to the target or because the
path takes no file (`FileTree.HasRoomFor`); where there is room and nothing strikes, the file is
replaced (`fault_replaceFile_eq_none_iff`).
-/

set_option autoImplicit false
set_option relaxedAutoImplicit false

namespace SchemaBindings

open FileTree

/-! ### The place aside -/

/-- A place for the new content of a target: nothing stands there, and it is not on the way. -/
structure IsAside (start : FileTree) (target temporary : Place) : Prop where
  vacant : start.entry? temporary = none
  ne_target : temporary ≠ target
  off_way : ¬ temporary <+: target.dropLast

theorem temporaryName_injective : Function.Injective temporaryName := by
  intro first second hsame
  have htoList := congrArg String.toList hsame
  simp only [temporaryName, String.toList_append, List.append_cancel_left_eq,
    List.append_cancel_right_eq, Nat.toString_eq_ofList_toDigits, String.toList_ofList] at htoList
  have hdigits := congrArg (Nat.ofDigitChars 10 · 0) htoList
  simpa only [Nat.ofDigitChars_ten_toDigits] using hdigits

/-- More names are tried than a tree has entries, so one of them is free. -/
theorem exists_vacant (tree : FileTree) (target : Place) :
    ∃ number ∈ List.range (tree.entries.length + 2),
      tree.entry? (target.dropLast ++ [temporaryName number]) = none ∧
        target.dropLast ++ [temporaryName number] ≠ target := by
  by_contra hnone
  let place (number : Nat) : Place := target.dropLast ++ [temporaryName number]
  have hinjective : Function.Injective place := fun first second hsame ↦
    temporaryName_injective (by simpa [place] using hsame)
  have hsubset : (List.range (tree.entries.length + 2)).map place ⊆
      target :: tree.entries.map Prod.fst := by
    intro taken htaken
    obtain ⟨number, hnumber, rfl⟩ := List.mem_map.mp htaken
    rw [List.mem_cons]
    by_contra hfree
    rw [not_or] at hfree
    refine hnone ⟨number, hnumber, ?_, hfree.1⟩
    rw [entry?_of_ne_nil (by simp), List.lookup_eq_none_iff]
    intro stored hstored
    refine bne_iff_ne.mpr fun hsame ↦ hfree.2 ?_
    exact List.mem_map.mpr ⟨stored, hstored, hsame.symm⟩
  have hlength := (List.subperm_of_subset (List.nodup_range.map hinjective) hsubset).length_le
  simp at hlength

theorem isAside_vacantPlace (tree : FileTree) (target : Place) :
    IsAside tree target (vacantPlace tree target) := by
  obtain ⟨number, hnumber, hvacant, hne⟩ := exists_vacant tree target
  have hoff (name : String) : ¬ target.dropLast ++ [name] <+: target.dropLast := by
    intro honWay
    have hlength := honWay.length_le
    rw [List.length_append, List.length_singleton] at hlength
    omega
  rw [vacantPlace]
  cases hfind : (List.range (tree.entries.length + 2)).find? fun number ↦
      (tree.entry? (target.dropLast ++ [temporaryName number])).isNone &&
        target.dropLast ++ [temporaryName number] != target with
  | none =>
    have htaken := List.find?_eq_none.mp hfind number hnumber
    simp [hvacant, hne] at htaken
  | some found =>
    have hfound := List.find?_some hfind
    rw [Bool.and_eq_true, Option.isNone_iff_eq_none, bne_iff_ne] at hfound
    exact ⟨hfound.1, hfound.2, hoff _⟩

/-! ### Trees during a run -/

/-- A tree in which the target has not been replaced yet. -/
structure Unharmed (start : FileTree) (target temporary : Place) (tree : FileTree) : Prop where
  workingDirectory : tree.workingDirectory = start.workingDirectory
  aside : tree.entry? temporary ≠ some .directory
  keeps : ∀ place, place ≠ temporary → Keeps target.dropLast start tree place

/-- A tree in which a path leads to its new content. -/
structure Replaced (start : FileTree) (path : String) (bytes : List UInt8) (tree : FileTree) :
    Prop where
  workingDirectory : tree.workingDirectory = start.workingDirectory
  read : tree.readFile path = .ok bytes
  keeps : ∀ place, place ≠ start.resolve path →
    Keeps (start.resolve path).dropLast start tree place

theorem Replaced.contentAt?_eq {start tree : FileTree} {path : String} {bytes : List UInt8}
    (hreplaced : Replaced start path bytes tree) :
    tree.contentAt? (start.resolve path) = some bytes := by
  rw [← resolve_congr hreplaced.workingDirectory]
  exact (readFile_eq_ok_iff.mp hreplaced.read).2

section Steps

variable {start tree next : FileTree} {target temporary : Place} {path : String}
  {bytes : List UInt8}

theorem IsAside.unharmed (haside : IsAside start target temporary) :
    Unharmed start target temporary start where
  workingDirectory := rfl
  aside := by rw [haside.vacant]; exact nofun
  keeps _ _ := .of_eq rfl

theorem IsAside.ne_nil (haside : IsAside start target temporary) : temporary ≠ [] := by
  rintro rfl
  exact Option.some_ne_none _ haside.vacant

namespace Unharmed

theorem contentAt?_target (hunharmed : Unharmed start target temporary tree)
    (haside : IsAside start target temporary) :
    tree.contentAt? target = start.contentAt? target :=
  (hunharmed.keeps target haside.ne_target.symm).contentAt?_eq

/-- Once nothing stands aside, only directories on the way may be new. -/
theorem keeps_of_vacant (hunharmed : Unharmed start target temporary tree)
    (haside : IsAside start target temporary) (hvacant : tree.entry? temporary = none)
    (place : Place) : Keeps target.dropLast start tree place := by
  by_cases hplace : place = temporary
  · subst hplace
    exact .of_eq (hvacant.trans haside.vacant.symm)
  · exact hunharmed.keeps place hplace

/-- In a grounded tree the path of the target leads to what it led to. -/
theorem readFile_toOption_eq (hunharmed : Unharmed start target temporary tree)
    (haside : IsAside start target temporary) (htarget : start.resolve path = target)
    (hgrounded : start.IsGrounded) :
    (tree.readFile path).toOption = (start.readFile path).toOption := by
  have hresolve : tree.resolve path = target := by
    rw [resolve_congr hunharmed.workingDirectory, htarget]
  have hiff (bytes : List UInt8) :
      tree.readFile path = .ok bytes ↔ start.readFile path = .ok bytes := by
    rw [readFile_eq_ok_iff, readFile_eq_ok_iff, hresolve, htarget,
      hunharmed.contentAt?_target haside]
    refine and_congr_left fun hcontent ↦ ⟨fun hlocate ↦ ?_, fun hlocate ↦ ?_⟩
    · refine locate_mono (fun way hway ↦ ?_) hunharmed.workingDirectory.symm hlocate
      have hne : way ≠ temporary := by
        rintro rfl
        exact hunharmed.aside hway
      -- A directory that was made is on the way to a file, where directories already stood.
      rcases hunharmed.keeps way hne with hsame | ⟨-, -, honWay⟩
      · rw [← hsame, hway]
      · refine hgrounded.entry?_of_isPrefix ?_ honWay
        rw [contentAt?_eq_some_iff.mp hcontent]
        exact nofun
    · refine locate_mono (fun way hway ↦ ?_) hunharmed.workingDirectory hlocate
      refine (hunharmed.keeps way ?_).directory hway
      rintro rfl
      rw [haside.vacant] at hway
      cases hway
  refine Option.ext fun bytes ↦ ?_
  rw [toOption_eq_some_iff, toOption_eq_some_iff, hiff]

/-! ### Steps -/

/-- Making directories on the way keeps a tree unharmed. -/
theorem makeDirectories {way : Place} (hunharmed : Unharmed start target temporary tree)
    (haside : IsAside start target temporary) (hway : way <+: target.dropLast)
    (hmade : tree.makeDirectories way = .ok next) : Unharmed start target temporary next where
  workingDirectory :=
    (workingDirectory_of_makeDirectories hmade).trans hunharmed.workingDirectory
  aside := by
    have hkeeps := keeps_of_makeDirectories hmade temporary
    rw [hkeeps.entry?_eq fun honWay ↦ haside.off_way (honWay.trans hway)]
    exact hunharmed.aside
  keeps place hplace :=
    (hunharmed.keeps place hplace).trans ((keeps_of_makeDirectories hmade place).mono hway)

/-- Anything may be written aside. -/
theorem put (hunharmed : Unharmed start target temporary tree)
    (haside : IsAside start target temporary) (bytes : List UInt8) :
    Unharmed start target temporary (tree.put temporary (.file bytes)) where
  workingDirectory := hunharmed.workingDirectory
  aside := by
    rw [entry?_put_self haside.ne_nil]
    exact nofun
  keeps place hplace := (hunharmed.keeps place hplace).trans (.of_eq (entry?_put_of_ne hplace _))

/-- What stands aside may be removed. -/
theorem remove (hunharmed : Unharmed start target temporary tree)
    (haside : IsAside start target temporary) :
    Unharmed start target temporary (tree.remove temporary) where
  workingDirectory := hunharmed.workingDirectory
  aside := by
    rw [entry?_remove_self haside.ne_nil]
    exact nofun
  keeps place hplace := (hunharmed.keeps place hplace).trans (.of_eq (entry?_remove_of_ne hplace))

end Unharmed

/-- A file that is written is put at its place. -/
theorem eq_put_of_writeFile {place : Place} (hwrite : tree.writeFile place bytes = .ok next) :
    next = tree.put place (.file bytes) := by
  rw [writeFile] at hwrite
  split at hwrite <;> cases hwrite
  rfl

/-- A path takes a file when it names one in a directory, and no directory stands there. -/
theorem replacedPlace_eq_ok_iff {place : Place} :
    replacedPlace tree path = .ok place ↔
      tree.locate path = .ok place ∧
        (Text.splitString '/' path).getLast? ∉ [some "", some ".", some ".."] ∧
        tree.entry? place ≠ some .directory ∧
        tree.entry? place.dropLast = some .directory := by
  rw [replacedPlace]
  cases hlocate : tree.locate path with
  | error fault =>
    cases fault
    case notFound =>
      dsimp only
      split_ifs
      · cases tree.follow (tree.start path)
          ((Text.splitString '/' path).reverse.dropWhile String.isEmpty).reverse <;> simp
      · simp
    all_goals simp
  | ok found =>
    dsimp only
    split
    · next hlast => simp [hlast]
    · next hlast => simp [hlast]
    · next hlast => simp [hlast]
    · next hempty hdot hdots =>
      have hlast : (Text.splitString '/' path).getLast? ∉ [some "", some ".", some ".."] := by
        simp only [List.mem_cons, List.not_mem_nil, or_false, not_or]
        exact ⟨hempty, hdot, hdots⟩
      rw [Except.ok.injEq, and_iff_right hlast]
      constructor
      · intro hplace
        split at hplace <;> cases hplace
        next hparent hentry => exact ⟨rfl, hentry, hparent⟩
      · rintro ⟨rfl, hentry, hparent⟩
        rw [hparent]
        split <;> simp_all

/-- The last step leads the path to the content that stood aside, and leaves nothing there. -/
theorem Unharmed.replace (hunharmed : Unharmed start target temporary tree)
    (haside : IsAside start target temporary) (htarget : start.resolve path = target)
    (hcontent : tree.entry? temporary = some (.file bytes))
    (happly : (WriteStep.replace temporary path).apply tree = .ok next) :
    Replaced start path bytes next := by
  rw [WriteStep.apply, contentAt?_eq_some_iff.mpr hcontent] at happly
  cases hreplaced : replacedPlace tree path with
  | error fault =>
    rw [hreplaced] at happly
    cases happly
  | ok place =>
    rw [hreplaced] at happly
    obtain ⟨hlocate, -, hfile, -⟩ := replacedPlace_eq_ok_iff.mp hreplaced
    have hplace := resolve_eq_of_locate hlocate
    rw [resolve_congr hunharmed.workingDirectory, htarget] at hplace
    subst hplace
    cases happly
    have hnil : target ≠ [] := by
      rintro rfl
      exact hfile rfl
    have hother {other : Place} (hne : other ≠ target) (haway : other ≠ temporary) :
        FileTree.entry? ((tree.remove temporary).put target (.file bytes)) other =
          tree.entry? other := by
      rw [entry?_put_of_ne hne, entry?_remove_of_ne haway]
    refine ⟨hunharmed.workingDirectory, ?_, ?_⟩
    · have hworking : ((tree.remove temporary).put target (.file bytes)).workingDirectory =
          tree.workingDirectory := by
        rw [workingDirectory_put, workingDirectory_remove]
      rw [readFile_eq_ok_iff, resolve_congr (hworking.trans hunharmed.workingDirectory), htarget,
        contentAt?_eq_some_iff]
      refine ⟨locate_mono (fun way hway ↦ ?_) hworking hlocate, entry?_put_self hnil _⟩
      rw [hother, hway]
      · rintro rfl
        exact hfile hway
      · rintro rfl
        rw [hcontent] at hway
        cases hway
    · rw [htarget]
      intro other hne
      by_cases haway : other = temporary
      · subst haway
        refine .of_eq ?_
        rw [entry?_put_of_ne hne, entry?_remove_self haside.ne_nil, haside.vacant]
      · exact (hunharmed.keeps other haway).trans (.of_eq (hother hne haway))

end Steps

/-! ### Runs of steps -/

/-- From a tree as described before, the steps pass through trees as described for a stop, and end
in one as described after, unless they stop. -/
def Triple (before : FileTree → Prop) (steps : List WriteStep) (after stopped : FileTree → Prop) :
    Prop :=
  ∀ strikes number tree, before tree → ∃ earlier last,
    (carryOut strikes number tree steps).states = earlier ++ [last] ∧
      (∀ state ∈ earlier, stopped state) ∧
      if (carryOut strikes number tree steps).fault.isNone then after last else stopped last

namespace Triple

variable {before between after stopped : FileTree → Prop} {step : WriteStep}
  {steps : List WriteStep}

theorem nil : Triple before [] before stopped :=
  fun _ _ tree htree ↦ ⟨[], tree, rfl, nofun, htree⟩

/-- A step is put in front of a run by what it leaves behind and what it makes. -/
theorem cons (hstopped : ∀ tree, before tree → stopped tree)
    (hstruck : ∀ tree written, before tree → stopped (step.struck tree written))
    (hmade : ∀ tree next, before tree → step.apply tree = .ok next → between next)
    (hsteps : Triple between steps after stopped) :
    Triple before (step :: steps) after stopped := by
  intro strikes number tree htree
  rw [carryOut]
  cases strikes number with
  | some strike =>
    refine ⟨[tree], step.struck tree strike.written, rfl, ?_, hstruck tree _ htree⟩
    rw [List.forall_mem_singleton]
    exact hstopped tree htree
  | none =>
    cases happly : step.apply tree with
    | error fault => exact ⟨[], tree, rfl, nofun, hstopped tree htree⟩
    | ok next =>
      obtain ⟨earlier, last, hstates, hearlier, hlast⟩ :=
        hsteps strikes (number + 1) next (hmade tree next htree happly)
      refine ⟨tree :: earlier, last, by simp only [hstates, List.cons_append], ?_, hlast⟩
      rw [List.forall_mem_cons]
      exact ⟨hstopped tree htree, hearlier⟩

end Triple

/-- Nothing fails in a run when nothing strikes or fails its first step, and then nothing fails in
the rest. -/
theorem fault_carryOut_cons_eq_none_iff {strikes : Strikes} {number : Nat} {tree : FileTree}
    {step : WriteStep} {steps : List WriteStep} :
    (carryOut strikes number tree (step :: steps)).fault = none ↔
      strikes number = none ∧ ∃ next, step.apply tree = .ok next ∧
        (carryOut strikes (number + 1) next steps).fault = none := by
  rw [carryOut]
  cases strikes number with
  | some strike => simp
  | none => cases step.apply tree <;> simp

/-! ### Replacing a file -/

/-- The steps of a replacement leave every tree unharmed until the last one replaces the target. -/
theorem triple_replacementSteps {start : FileTree} {target temporary : Place} {path : String}
    (haside : IsAside start target temporary) (htarget : start.resolve path = target)
    (bytes : List UInt8) :
    Triple (Unharmed start target temporary)
      (replacementSteps target.dropLast temporary path bytes)
      (Replaced start path bytes) (Unharmed start target temporary) := by
  let filled (tree : FileTree) : Prop :=
    Unharmed start target temporary tree ∧ tree.entry? temporary = some (.file bytes)
  have hreplace : Triple filled [.replace temporary path] (Replaced start path bytes)
      (Unharmed start target temporary) :=
    .cons (fun _ hfilled ↦ hfilled.1) (fun _ _ hfilled ↦ hfilled.1)
      (fun _ _ hfilled happly ↦ hfilled.1.replace haside htarget hfilled.2 happly) .nil
  have hfill : Triple (Unharmed start target temporary)
      [.fill temporary bytes, .replace temporary path] (Replaced start path bytes)
      (Unharmed start target temporary) := by
    refine .cons (fun _ hunharmed ↦ hunharmed)
      (fun _ written hunharmed ↦ hunharmed.put haside (bytes.take written))
      (fun tree next hunharmed happly ↦ ?_) hreplace
    rw [eq_put_of_writeFile happly]
    exact ⟨hunharmed.put haside bytes, entry?_put_self haside.ne_nil _⟩
  have hcreate : Triple (Unharmed start target temporary)
      [.create temporary, .fill temporary bytes, .replace temporary path]
      (Replaced start path bytes) (Unharmed start target temporary) := by
    refine .cons (fun _ hunharmed ↦ hunharmed) (fun _ _ hunharmed ↦ hunharmed)
      (fun tree next hunharmed happly ↦ ?_) hfill
    rw [eq_put_of_writeFile happly]
    exact hunharmed.put haside []
  refine .cons (fun _ hunharmed ↦ hunharmed) (fun tree written hunharmed ↦ ?_)
    (fun tree next hunharmed hmade ↦ hunharmed.makeDirectories haside List.prefix_rfl hmade) hcreate
  rw [WriteStep.struck]
  split
  · next hmade => exact hunharmed.makeDirectories haside (List.take_prefix _ _) hmade
  · exact hunharmed

/-- A file is replaced as a whole, or nothing but directories on its way is new. -/
theorem replaceFile_spec (strikes : Strikes) (number : Nat) (tree : FileTree) (path : String)
    (bytes : List UInt8) :
    ∃ temporary earlier last, IsAside tree (tree.resolve path) temporary ∧
      (replaceFile strikes number tree path bytes).states = earlier ++ [last] ∧
      (∀ state ∈ earlier, Unharmed tree (tree.resolve path) temporary state) ∧
      if (replaceFile strikes number tree path bytes).fault.isNone then
        Replaced tree path bytes last
      else Unharmed tree (tree.resolve path) temporary last ∧ last.entry? temporary = none := by
  have haside := isAside_vacantPlace tree (tree.resolve path)
  refine ⟨vacantPlace tree (tree.resolve path), ?_⟩
  obtain ⟨earlier, last, hstates, hearlier, hlast⟩ :=
    triple_replacementSteps haside rfl bytes strikes number tree haside.unharmed
  have hgetLast := congrArg List.getLast? hstates
  rw [List.getLast?_concat] at hgetLast
  rw [replaceFile]
  cases hfault : (carryOut strikes number tree (replacementSteps (tree.resolve path).dropLast
      (vacantPlace tree (tree.resolve path)) path bytes)).fault with
  | none =>
    rw [hfault] at hlast
    exact ⟨earlier, last, haside, hstates, hearlier, by simpa [hfault] using hlast⟩
  | some fault =>
    rw [hfault] at hlast
    change Unharmed _ _ _ last at hlast
    simp only [hgetLast]
    split
    · refine ⟨earlier ++ [last], _, haside, by rw [hstates], ?_, hlast.remove haside,
        entry?_remove_self haside.ne_nil⟩
      rw [List.forall_mem_append, List.forall_mem_singleton]
      exact ⟨hearlier, hlast⟩
    · next hvacant =>
      refine ⟨earlier, last, haside, hstates, hearlier, ?_⟩
      rw [hfault]
      exact ⟨hlast, Option.not_isSome_iff_eq_none.mp hvacant⟩

/-! ### When a file is replaced -/

/-- There is room for a file at a path: the directories on the way to its place can be made, and
then the path takes a file. -/
def FileTree.HasRoomFor (tree : FileTree) (path : String) : Prop :=
  ∃ made place, tree.makeDirectories (tree.resolve path).dropLast = .ok made ∧
    replacedPlace made path = .ok place

theorem writeFile_eq_ok {tree : FileTree} {place : Place} (bytes : List UInt8)
    (hplace : tree.entry? place ≠ some .directory)
    (hparent : tree.entry? place.dropLast = some .directory) :
    tree.writeFile place bytes = .ok (tree.put place (.file bytes)) := by
  rw [writeFile, hparent]
  split <;> simp_all

/-- Whether a path takes a file depends on the directories of a tree alone. -/
theorem replacedPlace_mono {tree next : FileTree} {path : String} {place : Place}
    (hdirectory : ∀ way, tree.entry? way = some .directory ↔ next.entry? way = some .directory)
    (hworking : next.workingDirectory = tree.workingDirectory)
    (hplace : replacedPlace tree path = .ok place) : replacedPlace next path = .ok place := by
  rw [replacedPlace_eq_ok_iff] at hplace ⊢
  obtain ⟨hlocate, hlast, hfile, hparent⟩ := hplace
  exact ⟨locate_mono (fun way ↦ (hdirectory way).mp) hworking hlocate, hlast,
    mt (hdirectory place).mpr hfile, (hdirectory place.dropLast).mp hparent⟩

theorem fault_replaceFile_eq_none_iff_carryOut {strikes : Strikes} {number : Nat} {tree : FileTree}
    {path : String} {bytes : List UInt8} :
    (replaceFile strikes number tree path bytes).fault = none ↔
      (carryOut strikes number tree (replacementSteps (tree.resolve path).dropLast
        (vacantPlace tree (tree.resolve path)) path bytes)).fault = none := by
  rw [replaceFile]
  split
  · next hfault hlast => split_ifs <;> simp [hfault]
  · rfl

theorem dropLast_vacantPlace (tree : FileTree) (target : Place) :
    (vacantPlace tree target).dropLast = target.dropLast := by
  rw [vacantPlace, List.dropLast_concat]

section Aside

variable {tree made : FileTree} {target aside : Place} {path : String}

/-- The tree in which the new content stands aside. -/
def withAside (made : FileTree) (aside : Place) (bytes : List UInt8) : FileTree :=
  (made.put aside (.file [])).put aside (.file bytes)

theorem entry?_withAside_eq_directory_iff (haside : aside ≠ [])
    (hvacant : made.entry? aside = none) (bytes : List UInt8) (way : Place) :
    made.entry? way = some .directory ↔
      FileTree.entry? (withAside made aside bytes) way = some .directory := by
  rw [withAside]
  by_cases hway : way = aside
  · rw [hway, hvacant, entry?_put_self haside]
    simp
  · rw [entry?_put_of_ne hway, entry?_put_of_ne hway]

/-- A file is written aside in two steps, which fail only if they are struck. -/
theorem fault_carryOut_aside_eq_none_iff {strikes : Strikes} {number : Nat} (haside : aside ≠ [])
    (hvacant : made.entry? aside = none) (hparent : made.entry? aside.dropLast = some .directory)
    (bytes : List UInt8) (steps : List WriteStep) :
    (carryOut strikes number made (.create aside :: .fill aside bytes :: steps)).fault = none ↔
      strikes number = none ∧ strikes (number + 1) = none ∧
        (carryOut strikes (number + 2) (withAside made aside bytes) steps).fault = none := by
  have hcreate : made.writeFile aside [] = .ok (made.put aside (.file [])) :=
    writeFile_eq_ok _ (by rw [hvacant]; exact nofun) hparent
  have hfill : FileTree.writeFile (made.put aside (.file [])) aside bytes =
      .ok (withAside made aside bytes) := by
    refine writeFile_eq_ok _ (by rw [entry?_put_self haside]; exact nofun) ?_
    rw [entry?_put_of_ne, hparent]
    intro hsame
    rw [hsame, hvacant] at hparent
    cases hparent
  rw [fault_carryOut_cons_eq_none_iff, WriteStep.apply, hcreate]
  simp only [Except.ok.injEq, exists_eq_left', fault_carryOut_cons_eq_none_iff, WriteStep.apply,
    hfill]

/-- What stands aside takes the place of a path if the path takes a file. -/
theorem fault_carryOut_replace_eq_none_iff {strikes : Strikes} {number : Nat} (haside : aside ≠ [])
    (hvacant : made.entry? aside = none) (bytes : List UInt8) :
    (carryOut strikes number (withAside made aside bytes) [.replace aside path]).fault = none ↔
      strikes number = none ∧ ∃ place, replacedPlace made path = .ok place := by
  have hcontent : (withAside made aside bytes).contentAt? aside = some bytes :=
    contentAt?_eq_some_iff.mpr (entry?_put_self haside _)
  have hdirectory := entry?_withAside_eq_directory_iff haside hvacant bytes
  have htaken (place : Place) :
      replacedPlace (withAside made aside bytes) path = .ok place ↔
        replacedPlace made path = .ok place :=
    ⟨replacedPlace_mono (fun way ↦ (hdirectory way).symm) rfl, replacedPlace_mono hdirectory rfl⟩
  rw [fault_carryOut_cons_eq_none_iff, WriteStep.apply, hcontent]
  simp only [← htaken]
  cases replacedPlace (withAside made aside bytes) path <;> simp [carryOut]

end Aside

/-- A file is replaced exactly when nothing strikes one of the four steps and there is room for
it. -/
theorem fault_replaceFile_eq_none_iff {strikes : Strikes} {number : Nat} {tree : FileTree}
    {path : String} {bytes : List UInt8} :
    (replaceFile strikes number tree path bytes).fault = none ↔
      (∀ index < 4, strikes (number + index) = none) ∧ tree.HasRoomFor path := by
  have haside := isAside_vacantPlace tree (tree.resolve path)
  have hstrikes : (∀ index < 4, strikes (number + index) = none) ↔
      strikes number = none ∧ strikes (number + 1) = none ∧ strikes (number + 2) = none ∧
        strikes (number + 3) = none := by
    simp only [Nat.forall_lt_succ_right, Nat.not_lt_zero, false_imp_iff, forall_const, true_and,
      Nat.add_zero, and_assoc]
  rw [fault_replaceFile_eq_none_iff_carryOut, replacementSteps, fault_carryOut_cons_eq_none_iff,
    hstrikes, FileTree.HasRoomFor, WriteStep.apply]
  have hwriting {made : FileTree}
      (hmade : tree.makeDirectories (tree.resolve path).dropLast = .ok made) :
      (carryOut strikes (number + 1) made [.create (vacantPlace tree (tree.resolve path)),
          .fill (vacantPlace tree (tree.resolve path)) bytes,
          .replace (vacantPlace tree (tree.resolve path)) path]).fault = none ↔
        strikes (number + 1) = none ∧ strikes (number + 2) = none ∧ strikes (number + 3) = none ∧
          ∃ place, replacedPlace made path = .ok place := by
    have hvacant : made.entry? (vacantPlace tree (tree.resolve path)) = none := by
      have hkeeps := keeps_of_makeDirectories hmade (vacantPlace tree (tree.resolve path))
      rw [hkeeps.entry?_eq haside.off_way, haside.vacant]
    have hparent : made.entry? (vacantPlace tree (tree.resolve path)).dropLast =
        some .directory := by
      rw [dropLast_vacantPlace, entry?_of_makeDirectories hmade]
    rw [fault_carryOut_aside_eq_none_iff haside.ne_nil hvacant hparent,
      fault_carryOut_replace_eq_none_iff haside.ne_nil hvacant]
  constructor
  · rintro ⟨hmaking, made, hmade, hrest⟩
    obtain ⟨hcreating, hfilling, hreplacing, place, hplace⟩ := (hwriting hmade).mp hrest
    exact ⟨⟨hmaking, hcreating, hfilling, hreplacing⟩, made, place, hmade, hplace⟩
  · rintro ⟨⟨hmaking, hcreating, hfilling, hreplacing⟩, made, place, hmade, hplace⟩
    exact ⟨hmaking, made, hmade,
      (hwriting hmade).mpr ⟨hcreating, hfilling, hreplacing, place, hplace⟩⟩

/-- A strike while the new content is written: the place aside holds a part, and is removed. -/
example :
    let before : FileTree := { entries := [(["a"], .file [1])] }
    let strikes : Strikes := fun number ↦ if number = 2 then some ⟨.busy, 1⟩ else none
    replaceFile strikes 0 before "/a" [7, 8] =
      ⟨[before, before, before.put ["tmp0.tmp"] (.file []), before.put ["tmp0.tmp"] (.file [7]),
        before], some .busy⟩ := by
  decide

end SchemaBindings
