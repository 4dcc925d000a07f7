import AnalyzerBoot.Files.Tree

/-!
Files that are written. A path still leads where it led before, since no directory on its way is
ever replaced, and so it leads to the new content.
-/

set_option autoImplicit false

namespace AnalyzerBoot

/-- Of an association list only the entries of some keys are kept. -/
theorem lookup_filter_key {α β : Type} [BEq α] [LawfulBEq α] (keep : α → Bool)
    (entries : List (α × β)) (key : α) :
    (entries.filter fun entry => keep entry.1).lookup key =
      if keep key then entries.lookup key else none := by
  induction entries with
  | nil => simp
  | cons entry more ih =>
    obtain ⟨here, value⟩ := entry
    by_cases same : key = here
    · subst same
      cases kept : keep key <;> simp [kept, ih]
    · have apart : (key == here) = false := beq_eq_false_iff_ne.2 same
      cases kept : keep here <;> simp [kept, List.lookup_cons, apart, ih]

namespace Files.Tree

/-- Whether a file can be written at a path: it may be missing, but not what it is in. -/
def isWritable (tree : Tree) (path : String) : Bool :=
  (tree.resolve path).any fun place => tree.entry? place ≠ some .directory

theorem isWritable_eq_isSome (tree : Tree) (path : String) :
    tree.isWritable path = (tree.target? path).isSome := by
  rw [isWritable, target?]
  cases tree.resolve path with
  | none => rfl
  | some place => simp [Option.filter, apply_ite Option.isSome]

/-- A file that is there can be written. -/
theorem isWritable_of_lookup {tree : Tree} {path : String} {content : Bytes}
    (found : tree.lookup path = some (.ofContent content)) : tree.isWritable path = true := by
  obtain ⟨place, resolved, entry⟩ := Option.bind_eq_some_iff.1 found
  refine (Option.any_eq_true _ _).2 ⟨place, resolved, decide_eq_true ?_⟩
  rw [entry]
  exact fun same => Entry.noConfusion (Option.some.inj same)

theorem entry?_put {tree : Tree} {place : Place} (inside : place ≠ []) (entry : Entry) :
    entry? (tree.put place entry) place = some entry := by
  unfold entry?
  rw [if_neg inside, put, List.lookup_cons, beq_self_eq_true]

theorem entry?_put_of_ne {tree : Tree} {place other : Place} (apart : other ≠ place)
    (entry : Entry) : entry? (tree.put place entry) other = tree.entry? other := by
  have head : (other == place) = false := beq_eq_false_iff_ne.2 apart
  unfold entry?
  split
  · rfl
  · rw [put, List.lookup_cons, head, lookup_filter_key (· != place), if_pos]
    exact bne_iff_ne.2 apart

/-- A step through a directory does not depend on what is put elsewhere. -/
theorem follow_put {tree : Tree} {place here next : Place} {component : String}
    (noDirectory : tree.entry? place ≠ some .directory) (entry : Entry)
    (followed : tree.follow here component = some next) :
    (tree.put place entry).follow here component = some next := by
  have directory : tree.entry? here = some .directory := by
    unfold follow at followed
    split at followed
    · assumption
    · cases followed
  have apart : here ≠ place := by
    rintro rfl
    exact noDirectory directory
  unfold follow at followed ⊢
  rwa [entry?_put_of_ne apart]

theorem foldlM_follow_put {tree : Tree} {place start target : Place} {components : List String}
    (noDirectory : tree.entry? place ≠ some .directory) (entry : Entry)
    (followed : components.foldlM tree.follow start = some target) :
    components.foldlM (tree.put place entry).follow start = some target := by
  induction components generalizing start with
  | nil => exact followed
  | cons component more ih =>
    rw [List.foldlM_cons] at followed ⊢
    obtain ⟨next, step, followed⟩ := Option.bind_eq_some_iff.1 followed
    rw [follow_put noDirectory entry step]
    exact ih followed

theorem resolve_put {tree : Tree} {place target : Place} {path : String}
    (noDirectory : tree.entry? place ≠ some .directory) (entry : Entry)
    (resolved : tree.resolve path = some target) :
    (tree.put place entry).resolve path = some target := by
  unfold resolve at resolved ⊢
  split at resolved
  · cases resolved
  · next acceptable =>
    rw [if_neg acceptable]
    exact foldlM_follow_put noDirectory entry resolved

/-- What is put somewhere twice is put there once. -/
theorem put_put (tree : Tree) (place : Place) (first second : Entry) :
    (tree.put place first).put place second = tree.put place second := by
  simp [put, List.filter_filter]

theorem create_apply (path : String) (tree : Tree) :
    create path tree =
      match tree.target? path with
      | none => (none, tree)
      | some place => (some place, tree.put place (.ofContent [])) := by
  simp only [create, bind, StateT.bind, get, getThe, MonadStateOf.get, StateT.get, pure]
  cases tree.target? path <;> rfl

/-- What cannot be opened is left alone. -/
theorem write_apply (path : String) (content : Bytes) (tree : Tree) :
    write path content tree =
      match tree.target? path with
      | none => (false, tree)
      | some place => (true, tree.put place (.ofContent content)) := by
  simp only [write, bind, StateT.bind, create_apply]
  cases tree.target? path with
  | none => rfl
  | some place => exact congrArg (Prod.mk true) (put_put tree place _ _)

/-- A file that can be written is written, and is then found where it was written. -/
theorem lookup_write {tree : Tree} {path : String} (writable : tree.isWritable path = true)
    (content : Bytes) :
    ∃ after, write path content tree = (true, after) ∧
      after.lookup path = some (.ofContent content) := by
  rw [isWritable_eq_isSome] at writable
  obtain ⟨place, target⟩ := Option.isSome_iff_exists.1 writable
  obtain ⟨resolved, noDirectory⟩ := Option.filter_eq_some_iff.1 target
  rw [decide_eq_true_eq] at noDirectory
  have inside : place ≠ [] := by
    rintro rfl
    exact noDirectory rfl
  refine ⟨tree.put place (.ofContent content), ?_, ?_⟩
  · rw [write_apply, target]
  · rw [lookup, resolve_put noDirectory _ resolved]
    exact entry?_put inside _

theorem write_of_not_isWritable {tree : Tree} {path : String}
    (unwritable : tree.isWritable path = false) (content : Bytes) :
    write path content tree = (false, tree) := by
  rw [isWritable_eq_isSome, Option.isSome_eq_false_iff, Option.isNone_iff_eq_none] at unwritable
  rw [write_apply, unwritable]

end Files.Tree

end AnalyzerBoot
