import Mathlib.Data.List.Induction
import Mathlib.Tactic.SplitIfs
import SchemaBindings.Files.Tree
/-!
# Laws of file trees

What stands at a place after an entry was put or removed (`entry?_put_self`, `entry?_remove_of_ne`
and the others), where a path leads, and what making directories changes.

A path that leads somewhere leads to the place that it names (`resolve_eq_of_locate`). It leads to
the same place in every tree that has the directories it goes through (`locate_mono`), so a change
elsewhere does not matter to it. A tree may grow directories on a way (`Keeps`): there a vacant
place has become a directory, and everywhere else stands what stood there. That is all that making
directories does (`keeps_of_makeDirectories`), and no content is touched by it
(`Keeps.contentAt?_eq`).
-/

set_option autoImplicit false
set_option relaxedAutoImplicit false

namespace SchemaBindings

namespace FileTree

variable {start tree next : FileTree} {place other : Place}

/-! ### Entries -/

@[simp] theorem entry?_nil (tree : FileTree) : tree.entry? [] = some .directory :=
  rfl

theorem entry?_of_ne_nil (hplace : place ≠ []) : tree.entry? place = tree.entries.lookup place :=
  if_neg hplace

@[simp] theorem workingDirectory_put (tree : FileTree) (place : Place) (entry : Entry) :
    (tree.put place entry).workingDirectory = tree.workingDirectory :=
  rfl

@[simp] theorem workingDirectory_remove (tree : FileTree) (place : Place) :
    (tree.remove place).workingDirectory = tree.workingDirectory :=
  rfl

theorem lookup_putEntry_self (place : Place) (entry : Entry) (entries : List (Place × Entry)) :
    (putEntry place entry entries).lookup place = some entry := by
  induction entries with
  | nil => exact List.lookup_cons_self
  | cons head rest ih =>
    obtain ⟨stored, old⟩ := head
    rw [putEntry]
    split
    · exact List.lookup_cons_self
    · next hne => rw [List.lookup_cons, beq_eq_false_iff_ne.mpr (Ne.symm hne), ih]

theorem lookup_putEntry_of_ne (hother : other ≠ place) (entry : Entry)
    (entries : List (Place × Entry)) :
    (putEntry place entry entries).lookup other = entries.lookup other := by
  induction entries with
  | nil => rw [putEntry, List.lookup_cons, beq_eq_false_iff_ne.mpr hother]
  | cons head rest ih =>
    obtain ⟨stored, old⟩ := head
    rw [putEntry]
    split
    · next heq =>
      subst heq
      rw [List.lookup_cons, List.lookup_cons, beq_eq_false_iff_ne.mpr hother]
    · rw [List.lookup_cons, List.lookup_cons, ih]

/-- An entry stands where it was put. The root stays what it is. -/
theorem entry?_put_self (hplace : place ≠ []) (entry : Entry) :
    FileTree.entry? (tree.put place entry) place = some entry := by
  rw [entry?_of_ne_nil hplace, put, lookup_putEntry_self]

/-- Putting an entry leaves the other places as they are. -/
theorem entry?_put_of_ne (hother : other ≠ place) (entry : Entry) :
    FileTree.entry? (tree.put place entry) other = tree.entry? other := by
  simp only [put, entry?, lookup_putEntry_of_ne hother]

/-- Nothing stands at a place that was removed. -/
theorem entry?_remove_self (hplace : place ≠ []) :
    FileTree.entry? (tree.remove place) place = none := by
  rw [entry?_of_ne_nil hplace, List.lookup_eq_none_iff]
  intro stored hstored
  have hne := (List.mem_filter.mp hstored).2
  rw [bne_iff_ne] at hne
  exact bne_iff_ne.mpr (Ne.symm hne)

/-- Removing a place leaves the other places as they are. -/
theorem entry?_remove_of_ne (hother : other ≠ place) :
    FileTree.entry? (tree.remove place) other = tree.entry? other := by
  have hlookup (entries : List (Place × Entry)) :
      (entries.filter fun stored ↦ stored.1 != place).lookup other = entries.lookup other := by
    induction entries with
    | nil => rfl
    | cons head rest ih =>
      obtain ⟨stored, old⟩ := head
      rw [List.lookup_cons]
      by_cases hstored : stored = place
      · rw [List.filter_cons_of_neg (by simp [hstored]), ih, hstored,
          beq_eq_false_iff_ne.mpr hother]
      · rw [List.filter_cons_of_pos (by simp [hstored]), List.lookup_cons, ih]
  simp only [remove, entry?, hlookup]

theorem contentAt?_eq_some_iff {bytes : List UInt8} :
    tree.contentAt? place = some bytes ↔ tree.entry? place = some (.file bytes) := by
  rw [contentAt?]
  split <;> simp_all

/-! ### Paths -/

/-- A path that is followed leads to the place that its names spell. -/
theorem eq_foldl_of_follow {names : List String} (hfollow : tree.follow place names = .ok other) :
    names.foldl stepName place = other := by
  induction names generalizing place with
  | nil =>
    cases hfollow
    rfl
  | cons name names ih =>
    rw [follow] at hfollow
    rw [List.foldl_cons, stepName]
    split at hfollow
    · cases hfollow
    · cases hfollow
    · split_ifs at hfollow ⊢ <;> exact ih hfollow

/-- A path leads to the place that it names, if it leads anywhere. -/
theorem resolve_eq_of_locate {path : String} (hlocate : tree.locate path = .ok place) :
    tree.resolve path = place := by
  rw [locate] at hlocate
  split at hlocate
  · cases hlocate
  · exact eq_foldl_of_follow hlocate

/-- The names of a path depend on the working directory alone. -/
theorem resolve_congr (hworking : next.workingDirectory = tree.workingDirectory) (path : String) :
    next.resolve path = tree.resolve path := by
  simp only [resolve, FileTree.start, hworking]

/-- Names are followed in the same way where the directories still stand. -/
theorem follow_mono
    (hdirectory : ∀ way, tree.entry? way = some .directory → next.entry? way = some .directory)
    {names : List String} (hfollow : tree.follow place names = .ok other) :
    next.follow place names = .ok other := by
  induction names generalizing place with
  | nil => exact hfollow
  | cons name names ih =>
    rw [follow] at hfollow ⊢
    split at hfollow
    · cases hfollow
    · cases hfollow
    · next hentry =>
      rw [hdirectory place hentry]
      split_ifs at hfollow ⊢ <;> exact ih hfollow

/-- A path leads to the same place where the directories still stand. -/
theorem locate_mono
    (hdirectory : ∀ way, tree.entry? way = some .directory → next.entry? way = some .directory)
    (hworking : next.workingDirectory = tree.workingDirectory) {path : String}
    (hlocate : tree.locate path = .ok place) : next.locate path = .ok place := by
  have hstart : next.start path = tree.start path := by
    rw [FileTree.start, FileTree.start, hworking]
  rw [locate] at hlocate ⊢
  rw [hstart]
  split_ifs at hlocate ⊢
  exact follow_mono hdirectory hlocate

/-- A path is read when it leads to the place that it names and a file stands there. -/
theorem readFile_eq_ok_iff {path : String} {bytes : List UInt8} :
    tree.readFile path = .ok bytes ↔
      tree.locate path = .ok (tree.resolve path) ∧
        tree.contentAt? (tree.resolve path) = some bytes := by
  rw [readFile, find]
  cases hlocate : tree.locate path with
  | error fault => simp
  | ok place =>
    rw [resolve_eq_of_locate hlocate, contentAt?_eq_some_iff]
    cases hentry : tree.entry? place with
    | none => simp [hentry]
    | some entry => cases entry <;> simp [hentry]

/-! ### Grounded trees -/

/-- Whatever stands somewhere stands in a directory. -/
def IsGrounded (tree : FileTree) : Prop :=
  ∀ place, tree.entry? place ≠ none → tree.entry? place.dropLast = some .directory

/-- A place on the way to another one is that one or on the way to its parent. -/
theorem eq_or_isPrefix_dropLast (hway : other <+: place) :
    other = place ∨ other <+: place.dropLast := by
  cases place using List.reverseRecOn with
  | nil => exact .inl (List.prefix_nil.mp hway)
  | append_singleton init last =>
    rw [List.dropLast_concat]
    exact List.prefix_concat_iff.mp hway

/-- In a grounded tree the whole way to an entry consists of directories. -/
theorem IsGrounded.entry?_of_isPrefix (hgrounded : tree.IsGrounded)
    (hentry : tree.entry? place ≠ none) (hway : other <+: place.dropLast) :
    tree.entry? other = some .directory := by
  induction place using List.reverseRecOn with
  | nil =>
    rw [List.dropLast_nil, List.prefix_nil] at hway
    rw [hway, entry?_nil]
  | append_singleton place name ih =>
    have hparent := hgrounded _ hentry
    rw [List.dropLast_concat] at hway hparent
    rcases eq_or_isPrefix_dropLast hway with rfl | hshorter
    · exact hparent
    · exact ih (by rw [hparent]; exact Option.some_ne_none _) hshorter

/-! ### Directories on a way -/

/-- What a tree keeps of another one at a place, if directories on a way may have been made. -/
def Keeps (way : Place) (start tree : FileTree) (place : Place) : Prop :=
  tree.entry? place = start.entry? place ∨
    start.entry? place = none ∧ tree.entry? place = some .directory ∧ place <+: way

namespace Keeps

variable {way longer : Place}

theorem of_eq (hentry : tree.entry? place = start.entry? place) : Keeps way start tree place :=
  .inl hentry

theorem trans (hfirst : Keeps way start tree place) (hsecond : Keeps way tree next place) :
    Keeps way start next place := by
  rcases hsecond with hsame | ⟨hvacant, hmade, hway⟩
  · rw [Keeps, hsame]
    exact hfirst
  · rcases hfirst with hsame | ⟨-, hdirectory, -⟩
    · exact .inr ⟨hsame ▸ hvacant, hmade, hway⟩
    · rw [hvacant] at hdirectory
      cases hdirectory

theorem mono (hkeeps : Keeps way start tree place) (hlonger : way <+: longer) :
    Keeps longer start tree place := by
  rcases hkeeps with hsame | ⟨hvacant, hmade, hway⟩
  · exact .inl hsame
  · exact .inr ⟨hvacant, hmade, hway.trans hlonger⟩

/-- No file is touched by directories that are made. -/
theorem contentAt?_eq (hkeeps : Keeps way start tree place) :
    tree.contentAt? place = start.contentAt? place := by
  rcases hkeeps with hsame | ⟨hvacant, hmade, -⟩
  · rw [contentAt?, contentAt?, hsame]
  · rw [contentAt?, contentAt?, hvacant, hmade]

/-- A directory stays one. -/
theorem directory (hkeeps : Keeps way start tree place)
    (hdirectory : start.entry? place = some .directory) : tree.entry? place = some .directory := by
  rcases hkeeps with hsame | ⟨hvacant, -, -⟩
  · rw [hsame, hdirectory]
  · rw [hvacant] at hdirectory
    cases hdirectory

/-- Away from the way nothing changes. -/
theorem entry?_eq (hkeeps : Keeps way start tree place) (hway : ¬ place <+: way) :
    tree.entry? place = start.entry? place := by
  rcases hkeeps with hsame | ⟨-, -, honWay⟩
  · exact hsame
  · exact absurd honWay hway

end Keeps

theorem makeFrom_spec {names : List String} (hmade : tree.makeFrom place names = .ok next) :
    next.workingDirectory = tree.workingDirectory ∧
      ∀ other, Keeps (place ++ names) tree next other := by
  induction names generalizing tree place with
  | nil =>
    cases hmade
    exact ⟨rfl, fun other ↦ .of_eq rfl⟩
  | cons name names ih =>
    rw [makeFrom] at hmade
    rw [List.append_cons]
    split at hmade
    · exact ih hmade
    · cases hmade
    · next hvacant =>
      obtain ⟨hworking, hkeeps⟩ := ih hmade
      refine ⟨hworking, fun other ↦ .trans ?_ (hkeeps other)⟩
      by_cases hother : other = place ++ [name]
      · subst hother
        exact .inr ⟨hvacant, entry?_put_self (by simp) _, List.prefix_append _ _⟩
      · exact .of_eq (entry?_put_of_ne hother _)

/-- Making directories makes directories on the way, and changes nothing else. -/
theorem keeps_of_makeDirectories (hmade : tree.makeDirectories place = .ok next) (other : Place) :
    Keeps place tree next other :=
  (makeFrom_spec hmade).2 other

theorem workingDirectory_of_makeDirectories (hmade : tree.makeDirectories place = .ok next) :
    next.workingDirectory = tree.workingDirectory :=
  (makeFrom_spec hmade).1

theorem entry?_of_makeFrom {names : List String} (hplace : tree.entry? place = some .directory)
    (hmade : tree.makeFrom place names = .ok next) :
    next.entry? (place ++ names) = some .directory := by
  induction names generalizing tree place with
  | nil =>
    cases hmade
    rw [List.append_nil, hplace]
  | cons name names ih =>
    rw [makeFrom] at hmade
    rw [List.append_cons]
    split at hmade
    · next hentry => exact ih hentry hmade
    · cases hmade
    · exact ih (entry?_put_self (by simp) _) hmade

/-- A place that is made a directory is one. -/
theorem entry?_of_makeDirectories (hmade : tree.makeDirectories place = .ok next) :
    next.entry? place = some .directory :=
  entry?_of_makeFrom (entry?_nil tree) hmade

end FileTree

end SchemaBindings
