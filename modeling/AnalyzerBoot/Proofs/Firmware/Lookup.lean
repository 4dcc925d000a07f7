import AnalyzerBoot.Firmware.Directories
import AnalyzerBoot.Firmware.Memory

/-!
Which file a lookup takes, and what it makes of it. Directories without a file of the name do not
matter; the first that has one decides. Its size is checked as it is reported and again as it is
read, and where the two agree the lookup is one among images in memory.
-/

set_option autoImplicit false

namespace AnalyzerBoot

namespace Firmware

/-- A directory in which a name is missing or that of a directory. -/
def Lacks (files : Files.View) (name directory : String) : Prop :=
  ∀ size content, files (Files.join directory name) ≠ some (.file size content)

theorem lacks_or_file (files : Files.View) (name directory : String) :
    Lacks files name directory ∨
      ∃ size content, files (Files.join directory name) = some (.file size content) := by
  rcases shown : files (Files.join directory name) with _ | _ | ⟨size, content⟩
  · exact .inl fun _ _ file => nomatch shown.symm.trans file
  · exact .inl fun _ _ file => nomatch shown.symm.trans file
  · exact .inr ⟨size, content, rfl⟩

/-- The first of some directories that has a file of a name has this one. -/
inductive IsFirst (files : Files.View) (name : String) : List String → Nat → Bytes → Prop where
  | here {directory : String} {rest : List String} {size : Nat} {content : Bytes}
      (shown : files (Files.join directory name) = some (.file size content)) :
      IsFirst files name (directory :: rest) size content
  | later {directory : String} {rest : List String} {size : Nat} {content : Bytes}
      (lacks : Lacks files name directory) (first : IsFirst files name rest size content) :
      IsFirst files name (directory :: rest) size content

section
variable {files : Files.View} {name : String} {directories : List String} {size : Nat}
  {content : Bytes}

theorem IsFirst.append (first : IsFirst files name directories size content)
    (more : List String) : IsFirst files name (directories ++ more) size content := by
  induction first with
  | here shown => exact .here shown
  | later lacks _ ih => exact .later lacks ih

theorem IsFirst.unique {other : Nat} {image : Bytes}
    (one : IsFirst files name directories size content)
    (second : IsFirst files name directories other image) : size = other ∧ content = image := by
  induction one with
  | here shown =>
    cases second with
    | here again =>
      cases shown.symm.trans again
      exact ⟨rfl, rfl⟩
    | later lacks _ => exact absurd shown (lacks _ _)
  | later lacks _ ih =>
    cases second with
    | here shown => exact absurd shown (lacks _ _)
    | later _ first => exact ih first

theorem IsFirst.not_lacks (first : IsFirst files name directories size content) :
    ¬ ∀ directory ∈ directories, Lacks files name directory := by
  induction first with
  | here shown => exact fun lacks => lacks _ List.mem_cons_self _ _ shown
  | later _ _ ih => exact fun lacks => ih (List.forall_mem_cons.1 lacks).2

theorem lacks_or_isFirst (files : Files.View) (name : String) (directories : List String) :
    (∀ directory ∈ directories, Lacks files name directory) ∨
      ∃ size content, IsFirst files name directories size content := by
  induction directories with
  | nil => exact .inl (List.forall_mem_nil _)
  | cons directory rest ih =>
    rcases lacks_or_file files name directory with here | ⟨size, content, shown⟩
    · rcases ih with lacks | ⟨size, content, first⟩
      · exact .inl (List.forall_mem_cons.2 ⟨here, lacks⟩)
      · exact .inr ⟨size, content, .later here first⟩
    · exact .inr ⟨size, content, .here shown⟩

end

/-- What loading a name comes to. -/
inductive Loads (files : Files.View) (name : String) (directories : List String) (limit : Nat) :
    Except BringupError Bytes → Prop where
  | missing (none : ∀ directory ∈ directories, Lacks files name directory) :
      Loads files name directories limit (.error (.resourceNotFound name))
  | reported {size : Nat} {content : Bytes} (first : IsFirst files name directories size content)
      (beyond : limit < size) :
      Loads files name directories limit (.error (.resourceTooLarge name size limit))
  | longer {size : Nat} {content : Bytes} (first : IsFirst files name directories size content)
      (within : size ≤ limit) (beyond : limit < content.length) :
      Loads files name directories limit (.error (.resourceTooLarge name (limit + 1) limit))
  | whole {size : Nat} {content : Bytes} (first : IsFirst files name directories size content)
      (within : size ≤ limit) (fits : content.length ≤ limit) :
      Loads files name directories limit (.ok content)

/-- Files as they are if no more than some bytes of each are looked at. -/
def cut (files : Files.View) (count : Nat) : Files.View := fun path =>
  (files path).map fun
    | .directory => .directory
    | .file size content => .file size (content.take count)

theorem cut_of_file {files : Files.View} {path : String} {size : Nat} {content : Bytes}
    (shown : files path = some (.file size content)) (count : Nat) :
    cut files count path = some (.file size (content.take count)) := by
  rw [cut, shown]
  rfl

theorem Lacks.cut {files : Files.View} {name directory : String}
    (lacks : Lacks files name directory) (count : Nat) :
    Lacks (cut files count) name directory := by
  intro size content shown
  obtain ⟨entry, there, same⟩ := Option.map_eq_some_iff.1 shown
  cases entry with
  | directory => cases same
  | file reportedSize whole => exact lacks reportedSize whole there

namespace Directories

section
variable {name : String} {limit size : Nat} {content : Bytes}

theorem readBound_of_lt (bounded : limit < UInt64.size - 1) : readBound limit = limit + 1 :=
  Nat.mod_eq_of_lt (Nat.add_lt_of_lt_sub bounded)

theorem readFile_apply (name : String) (limit size : Nat) (content : Bytes) :
    readFile name limit size content =
      if limit < size then (.error (.resourceTooLarge name size limit), content)
      else
        let data := content.take (readBound limit)
        (if limit < data.length then .error (.resourceTooLarge name data.length limit)
          else .ok data, content.drop (readBound limit)) := by
  unfold readFile
  split
  · rfl
  · simp only [bind, StateT.bind, readBytes, modifyGet, MonadStateOf.modifyGet, StateT.modifyGet,
      pure]
    split <;> rfl

theorem readFile_of_reported (beyond : limit < size) :
    readFile name limit size content = (.error (.resourceTooLarge name size limit), content) := by
  rw [readFile_apply, if_pos beyond]

theorem readFile_of_longer (bounded : limit < UInt64.size - 1) (within : size ≤ limit)
    (beyond : limit < content.length) :
    readFile name limit size content =
      (.error (.resourceTooLarge name (limit + 1) limit), content.drop (limit + 1)) := by
  have cut : (content.take (limit + 1)).length = limit + 1 := List.length_take_of_le beyond
  simp only [readFile_apply, if_neg (Nat.not_lt.2 within), readBound_of_lt bounded, cut,
    if_pos (Nat.lt_succ_self limit)]

theorem readFile_of_fits (bounded : limit < UInt64.size - 1) (within : size ≤ limit)
    (fits : content.length ≤ limit) : readFile name limit size content = (.ok content, []) := by
  have whole : content.take (limit + 1) = content := List.take_of_length_le (Nat.le_succ_of_le fits)
  have nothing : content.drop (limit + 1) = [] := List.drop_of_length_le (Nat.le_succ_of_le fits)
  simp only [readFile_apply, if_neg (Nat.not_lt.2 within), readBound_of_lt bounded, whole, nothing,
    if_neg (Nat.not_lt.2 fits)]

theorem readFile_take (name : String) (limit size : Nat) (content : Bytes) :
    (readFile name limit size (content.take (limit + 1))).1 =
      (readFile name limit size content).1 := by
  have bound : min (readBound limit) (limit + 1) = readBound limit :=
    Nat.min_eq_left (Nat.mod_le _ _)
  simp only [readFile_apply, List.take_take, bound]
  split <;> rfl

/-- What was read and what is left make up the file. -/
theorem exists_read (name : String) (limit size : Nat) (content : Bytes) :
    ∃ read, read ++ (readFile name limit size content).2 = content ∧ read.length ≤ limit + 1 := by
  rw [readFile_apply]
  split
  · exact ⟨[], rfl, Nat.zero_le _⟩
  · refine ⟨content.take (readBound limit), List.take_append_drop _ content, ?_⟩
    exact Nat.le_trans (List.length_take_le _ content) (Nat.mod_le _ _)

end

section
variable {files : Files.View} {name directory : String} {rest : List String}

theorem load_cons_of_file {size : Nat} {content : Bytes}
    (here : files (Files.join directory name) = some (.file size content)) (limit : Nat) :
    load ⟨directory :: rest⟩ files name limit = (readFile name limit size content).1 := by
  have located : locate ⟨directory :: rest⟩ files name = some (Files.join directory name) := by
    rw [locate, List.map_cons, List.find?_cons_of_pos]
    rw [here]
    rfl
  rw [load, located, Option.bind_some, here]

theorem load_cons_of_lacks (lacks : Lacks files name directory) (limit : Nat) :
    load ⟨directory :: rest⟩ files name limit = load ⟨rest⟩ files name limit := by
  have located : locate ⟨directory :: rest⟩ files name = locate ⟨rest⟩ files name := by
    rw [locate, List.map_cons, List.find?_cons_of_neg]
    · rfl
    · rcases shown : files (Files.join directory name) with _ | _ | ⟨size, content⟩
      · exact Bool.false_ne_true
      · exact Bool.false_ne_true
      · exact absurd shown (lacks size content)
  rw [load, located, load]

theorem load_of_lacks {directories : List String}
    (lacks : ∀ directory ∈ directories, Lacks files name directory) (limit : Nat) :
    load ⟨directories⟩ files name limit = .error (.resourceNotFound name) := by
  induction directories with
  | nil => rfl
  | cons directory rest ih =>
    obtain ⟨here, others⟩ := List.forall_mem_cons.1 lacks
    rw [load_cons_of_lacks here, ih others]

theorem load_of_isFirst {directories : List String} {size : Nat} {content : Bytes}
    (first : IsFirst files name directories size content) (limit : Nat) :
    load ⟨directories⟩ files name limit = (readFile name limit size content).1 := by
  induction first with
  | here shown => exact load_cons_of_file shown limit
  | later lacks _ ih => rw [load_cons_of_lacks lacks, ih]

theorem loads_iff (files : Files.View) (name : String) (directories : List String) {limit : Nat}
    (bounded : limit < UInt64.size - 1) (result : Except BringupError Bytes) :
    load ⟨directories⟩ files name limit = result ↔
      Loads files name directories limit result := by
  constructor
  · rintro rfl
    rcases lacks_or_isFirst files name directories with lacks | ⟨size, content, first⟩
    · rw [load_of_lacks lacks]
      exact .missing lacks
    · rw [load_of_isFirst first]
      by_cases beyond : limit < size
      · rw [readFile_of_reported beyond]
        exact .reported first beyond
      · have within := Nat.not_lt.1 beyond
        by_cases more : limit < content.length
        · rw [readFile_of_longer bounded within more]
          exact .longer first within more
        · rw [readFile_of_fits bounded within (Nat.not_lt.1 more)]
          exact .whole first within (Nat.not_lt.1 more)
  · intro loads
    cases loads with
    | missing lacks => exact load_of_lacks lacks limit
    | reported first beyond => rw [load_of_isFirst first, readFile_of_reported beyond]
    | longer first within beyond =>
      rw [load_of_isFirst first, readFile_of_longer bounded within beyond]
    | whole first within fits => rw [load_of_isFirst first, readFile_of_fits bounded within fits]

end

theorem load_cut (directories : List String) (files : Files.View) (name : String) (limit : Nat) :
    load ⟨directories⟩ (cut files (limit + 1)) name limit =
      load ⟨directories⟩ files name limit := by
  induction directories with
  | nil => rfl
  | cons directory rest ih =>
    rcases lacks_or_file files name directory with lacks | ⟨size, content, shown⟩
    · rw [load_cons_of_lacks lacks, load_cons_of_lacks (lacks.cut (limit + 1)), ih]
    · rw [load_cons_of_file shown, load_cons_of_file (cut_of_file shown (limit + 1)),
        readFile_take]

end Directories

/-- Files that report the size that they have. -/
def Truthful (files : Files.View) : Prop :=
  ∀ path size content, files path = some (.file size content) → size = content.length

/-- Under a name a memory holds what is in the first file of that name, if there is one. -/
def Memory.Holds (memory : Memory) (files : Files.View) (directories : List String)
    (name : String) : Prop :=
  ∀ image, memory.get? name = some image ↔ ∃ size, IsFirst files name directories size image

theorem IsFirst.size_eq {files : Files.View} {name : String} {directories : List String}
    {size : Nat} {content : Bytes} (first : IsFirst files name directories size content)
    (truthful : Truthful files) : size = content.length := by
  induction first with
  | here shown => exact truthful _ _ _ shown
  | later _ _ ih => exact ih

namespace Memory

section
variable {memory : Memory} {files : Files.View} {directories : List String} {name : String}

theorem Holds.get?_of_lacks (holds : memory.Holds files directories name)
    (lacks : ∀ directory ∈ directories, Lacks files name directory) : memory.get? name = none := by
  refine Option.eq_none_iff_forall_ne_some.2 fun image held => ?_
  obtain ⟨size, first⟩ := (holds image).1 held
  exact first.not_lacks lacks

/-- Where sizes are as they are reported, a lookup among files is one in memory. -/
theorem Holds.load_eq (holds : memory.Holds files directories name) (truthful : Truthful files)
    {limit : Nat} (bounded : limit < UInt64.size - 1) :
    Directories.load ⟨directories⟩ files name limit = memory.load name limit := by
  rcases lacks_or_isFirst files name directories with lacks | ⟨size, content, first⟩
  · rw [Directories.load_of_lacks lacks, load, holds.get?_of_lacks lacks]
  · have held : memory.get? name = some content := (holds content).2 ⟨size, first⟩
    obtain rfl := first.size_eq truthful
    rw [Directories.load_of_isFirst first, load, held]
    by_cases beyond : limit < content.length
    · simp only [if_pos beyond, Directories.readFile_of_reported beyond]
    · have fits := Nat.not_lt.1 beyond
      simp only [if_neg beyond, Directories.readFile_of_fits bounded fits fits]

end

/-- There is a memory of what is to be found under some names, with nothing else in it. -/
theorem exists_holds (files : Files.View) (directories names : List String) :
    ∃ memory : Memory, (∀ name ∈ names, memory.Holds files directories name) ∧
      ∀ name image, memory.get? name = some image →
        ∃ size, IsFirst files name directories size image := by
  induction names with
  | nil => exact ⟨{}, List.forall_mem_nil _, fun name image held => nomatch held⟩
  | cons name rest ih =>
    obtain ⟨memory, holds, sound⟩ := ih
    rcases lacks_or_isFirst files name directories with lacks | ⟨size, content, first⟩
    · refine ⟨memory, List.forall_mem_cons.2 ⟨fun image => ⟨sound name image, ?_⟩, holds⟩, sound⟩
      rintro ⟨size, first⟩
      exact absurd lacks first.not_lacks
    · have self : (memory.insert name content).Holds files directories name := by
        intro image
        rw [get?_insert_self, Option.some_inj]
        refine ⟨fun same => ⟨size, same ▸ first⟩, fun ⟨_, other⟩ => (first.unique other).2⟩
      have others {other : String} (different : other ≠ name) :
          (memory.insert name content).get? other = memory.get? other :=
        get?_insert_of_ne different
      refine ⟨memory.insert name content, List.forall_mem_cons.2 ⟨self, ?_⟩, ?_⟩
      · intro other member image
        by_cases same : other = name
        · exact same ▸ self image
        · rw [others same]
          exact holds other member image
      · intro other image held
        by_cases same : other = name
        · subst same
          exact (self image).1 held
        · exact sound other image (others same ▸ held)

end Memory

namespace Directories

/-- The first file of a name decides what loading the name comes to, whether or not it can be used,
and whatever lies in directories behind it. No byte beyond the first that is too many is read, and
none is given away that is. Where sizes are as they are reported, loading from directories is
loading from a memory of the files that come first. -/
theorem load_takes_first_file (files : Files.View) (directories : List String) (limit : Nat)
    (bounded : limit < UInt64.size - 1) :
    (∀ name result, load ⟨directories⟩ files name limit = result ↔
      Loads files name directories limit result) ∧
    (readBound limit = limit + 1 ∧ ∀ name,
      load ⟨directories⟩ (cut files (limit + 1)) name limit =
        load ⟨directories⟩ files name limit) ∧
    (∀ name size content, IsFirst files name directories size content →
      let (result, unread) := readFile name limit size content
      load ⟨directories⟩ files name limit = result ∧
        ∃ read, read ++ unread = content ∧ read.length ≤ limit + 1) ∧
    (∀ name image, load ⟨directories⟩ files name limit = .ok image → image.length ≤ limit) ∧
    (∀ name more, load ⟨directories⟩ files name limit ≠ .error (.resourceNotFound name) →
      load ⟨directories ++ more⟩ files name limit = load ⟨directories⟩ files name limit) ∧
    (Truthful files → ∀ (memory : Memory) name, memory.Holds files directories name →
      load ⟨directories⟩ files name limit = memory.load name limit) ∧
    ∀ names : List String, ∃ memory : Memory,
      (∀ name ∈ names, memory.Holds files directories name) ∧
      ∀ name image, memory.get? name = some image →
        ∃ size, IsFirst files name directories size image := by
  refine ⟨fun name => loads_iff files name directories bounded,
    ⟨readBound_of_lt bounded, fun name => load_cut directories files name limit⟩,
    fun name size content first =>
      ⟨load_of_isFirst first limit, exists_read name limit size content⟩, ?_, ?_,
    fun truthful memory name holds => holds.load_eq truthful bounded,
    Memory.exists_holds files directories⟩
  · intro name image loaded
    cases (loads_iff files name directories bounded _).1 loaded with
    | whole first within fits => exact fits
  · intro name more found
    rcases lacks_or_isFirst files name directories with lacks | ⟨size, content, first⟩
    · exact absurd (load_of_lacks lacks limit) found
    · rw [load_of_isFirst first, load_of_isFirst (first.append more)]

/-- A directory of the name comes first, then a file that holds more than it reports. -/
theorem load_takes_first_file_of_understated_size :
    let files : Files.View := fun path =>
      if path = "a/image" then some .directory
      else if path = "b/image" then some (.file 2 [1, 2, 3, 4, 5])
      else if path = "c/image" then some (.ofContent [1])
      else none
    3 < UInt64.size - 1 ∧ load ⟨["a", "b", "c"]⟩ files "image" 3 =
      .error (.resourceTooLarge "image" 4 3) := by
  intro files
  have bounded : 3 < UInt64.size - 1 := by decide
  have directory : files (Files.join "a" "image") = some .directory := by decide +kernel
  have shown : files (Files.join "b" "image") = some (.file 2 [1, 2, 3, 4, 5]) := by
    decide +kernel
  have first : IsFirst files "image" ["a", "b", "c"] 2 [1, 2, 3, 4, 5] :=
    .later (fun _ _ file => nomatch directory.symm.trans file) (.here shown)
  refine ⟨bounded, ((load_takes_first_file files ["a", "b", "c"] 3 bounded).1 "image" _).2 ?_⟩
  exact .longer first (by decide) (by decide)

end Directories

end Firmware

end AnalyzerBoot
