import AnalyzerBoot.Arguments.Reader

/-!
Options with their values behind a command: each is one argument, they are taken in their order, and
only operands follow two dashes. Main statement: `read_command`.
-/

set_option autoImplicit false

namespace AnalyzerBoot.Arguments

/-- An option and its value as one argument. -/
def assigned (name value : String) : String :=
  "--" ++ name ++ "=" ++ value

theorem Form.of_name {argument : String} {text : List Char} (more : text ≠ [])
    (dashed : argument.toList = '-' :: '-' :: text) :
    Form.of argument =
      .name (text.takeWhile (· != '=')) (text.dropWhile (· != '=')).tail? := by
  obtain ⟨c, rest, rfl⟩ := List.exists_cons_of_ne_nil more
  rw [Form.of, dashed]
  rfl

theorem Form.of_assigned {name : String} (plain : '=' ∉ name.toList) (value : String) :
    Form.of (assigned name value) = .name name.toList (some value.toList) := by
  have dashed : (assigned name value).toList =
      '-' :: '-' :: (name.toList ++ '=' :: value.toList) := by
    simp [assigned]
  have isName : ∀ c ∈ name.toList, (c != '=') = true := by
    intro c member
    rw [bne_iff_ne]
    rintro rfl
    exact plain member
  rw [Form.of_name (by simp) dashed, List.takeWhile_append_of_pos isName,
    List.dropWhile_append_of_pos isName, List.takeWhile_cons_of_neg (by decide),
    List.dropWhile_cons_of_neg (by decide), List.append_nil]
  rfl

namespace Given

theorem within_empty (given : Given) : given.within {} = given := by
  rw [within, List.filter_nil, List.append_nil]

/-- Adds an option once for each of some values. -/
def addOptions (given : Given) (name : String) (values : List String) : Given :=
  { given with options := given.options ++ values.map (name, ·) }

theorem values_empty (name : String) : ({} : Given).values name = [] :=
  rfl

theorem values_addOptions (given : Given) (name other : String) (values : List String) :
    (given.addOptions name values).values other =
      given.values other ++ if name = other then values else [] := by
  have added : ((values.map (name, ·)).filter (·.1 == other)).map Prod.snd =
      if name = other then values else [] := by
    rw [List.filter_map, List.map_map]
    by_cases same : name = other
    · simp [same, Function.comp_def]
    · simp [same, Function.comp_def]
  rw [Given.values, addOptions, List.filter_append, List.map_append, added]
  rfl

end Given

section
variable {opt : Opt} {label : String} {accepts : String → Bool} {given : Given}

theorem Opt.take_once {repeatable : Bool} (meaning : opt.meaning = .value label accepts repeatable)
    {value : String} (accepted : accepts value = true) (first : given.values opt.name = []) :
    opt.take (some value) given = .ok (given.addOptions opt.name [value]) := by
  have lacks : given.has opt.name = false := by
    rw [Given.has, first]
    rfl
  simp only [take, meaning, accepted, lacks]
  simp [Given.addOption, Given.addOptions]

theorem Opt.take_repeatable (meaning : opt.meaning = .value label accepts true) {value : String}
    (accepted : accepts value = true) :
    opt.take (some value) given = .ok (given.addOptions opt.name [value]) := by
  simp only [take, meaning, accepted]
  rfl

namespace Level

variable {level : Level} {rest : List String}

theorem read_assigned {value : String} {after : Given} (plain : '=' ∉ opt.name.toList)
    (named : level.named? opt.name.toList = some opt)
    (taken : opt.take (some value) given = .ok after) :
    level.read none given (assigned opt.name value :: rest) = level.read none after rest := by
  -- Known options are taken as such even where anything else would be an operand.
  have knows : level.knows (.name opt.name.toList (some value.toList)) = true := by
    rw [knows, named]
    rfl
  rw [read, Form.of_assigned plain]
  simp only [knows, named, taken, Bool.not_true, Bool.and_false, Bool.false_eq_true, ↓reduceIte,
    Option.isNone_some, Option.map_some, String.ofList_toList]
  rfl

/-- A repeatable option is taken with all of its values, in their order. -/
theorem read_repeated {values : List String} (plain : '=' ∉ opt.name.toList)
    (named : level.named? opt.name.toList = some opt)
    (meaning : opt.meaning = .value label accepts true)
    (accepted : ∀ value ∈ values, accepts value = true) :
    level.read none given (values.map (assigned opt.name) ++ rest) =
      level.read none (given.addOptions opt.name values) rest := by
  induction values generalizing given with
  | nil => simp [Given.addOptions]
  | cons value more ih =>
    obtain ⟨first, others⟩ := List.forall_mem_cons.1 accepted
    rw [List.map_cons, List.cons_append,
      read_assigned plain named (Opt.take_repeatable meaning first), ih others]
    simp [Given.addOptions]

theorem read_separator : level.read none given ("--" :: rest) = level.addOperands given rest := by
  have separator : Form.of "--" = .separator := by decide
  rw [read, separator]

end Level

end

/-- What follows a command is up to that command. -/
theorem Program.read_command {program : Program} {command : Command} {name : String}
    (operand : Form.of name = .operand) (noHelp : name ≠ helpCommand.name)
    (found : program.command? name = some command) (arguments : List String) :
    program.read (name :: arguments) =
      (program.readCommand command arguments).within (.ok {}) := by
  have root : program.root.read none {} (name :: arguments) =
      .ok { given := {}, rest := name :: arguments } := by
    rw [Level.read, operand]
    rfl
  simp only [read, root, noHelp, found]
  rfl

end AnalyzerBoot.Arguments
