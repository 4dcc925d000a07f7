import AnalyzerBoot.Toml.Reader

/-!
Integers of a document. Whatever it is written like, an integer that is read has 64 bits with a
sign, and filling tables makes no new ones. Main statement: `fit_of_read?`.
-/

set_option autoImplicit false

namespace AnalyzerBoot.Toml

/-- Whether a value has 64 bits with a sign, if it is an integer. -/
def Value.Fits : Value → Prop
  | .integer value => -0x8000000000000000 ≤ value ∧ value < 0x8000000000000000
  | _ => True

/-- Whether this holds for all values of a table, without those inside of them. -/
def Entries.Fit (entries : Entries) : Prop :=
  ∀ entry ∈ entries, entry.2.Fits

def Statement.Fits : Statement → Prop
  | .assignment _ value => value.Fits
  | _ => True

/-! Values -/

section
variable {text rest : List Char} {value : Value}

theorem fits_of_integerOf? {number : Int} (found : integerOf? number = some value) :
    value.Fits := by
  unfold integerOf? at found
  split at found
  · next range =>
    cases found
    exact range
  · cases found

theorem fits_of_radix? {base : Nat} {isDigit : Char → Bool}
    (read : radix? base isDigit text = some (value, rest)) : value.Fits := by
  obtain ⟨⟨digits, behind⟩, -, read⟩ := Option.bind_eq_some_iff.1 read
  obtain ⟨number, found, same⟩ := Option.bind_eq_some_iff.1 read
  cases same
  exact fits_of_integerOf? found

theorem fits_of_decimalNumber? {negative : Bool}
    (read : decimalNumber? negative text = some (value, rest)) : value.Fits := by
  obtain ⟨⟨digits, behind⟩, -, read⟩ := Option.bind_eq_some_iff.1 read
  dsimp only at read
  split at read
  · split at read
    · cases read
    · cases read
      trivial
  · obtain ⟨number, found, same⟩ := Option.bind_eq_some_iff.1 read
    cases same
    exact fits_of_integerOf? found

theorem fits_of_number? (read : number? text = some (value, rest)) : value.Fits := by
  unfold number? at read
  split at read
  · exact fits_of_radix? read
  · exact fits_of_radix? read
  · exact fits_of_radix? read
  · split at read
    · cases read
      trivial
    · cases read
      trivial
    · exact fits_of_decimalNumber? read

theorem fits_of_scalar? (read : scalar? text = some (value, rest)) : value.Fits := by
  unfold scalar? at read
  split at read
  · obtain ⟨_, -, same⟩ := Option.map_eq_some_iff.1 read
    cases same
    trivial
  · obtain ⟨_, -, same⟩ := Option.map_eq_some_iff.1 read
    cases same
    trivial
  · cases read
    trivial
  · cases read
    trivial
  · split at read
    · cases read
      trivial
    · exact fits_of_number? read

/-- Arrays and tables are no integers, so only values without parts matter. -/
theorem fits_of_valueParser {depth : Nat}
    (read : (valueParser depth).1 text = some (value, rest)) : value.Fits := by
  cases depth with
  | zero => exact fits_of_scalar? read
  | succ depth =>
    change compound? _ _ text = _ at read
    unfold compound? at read
    split at read
    · obtain ⟨_, -, same⟩ := Option.bind_eq_some_iff.1 read
      cases same
      trivial
    · unfold inlineTable? at read
      split at read
      · cases read
        trivial
      · obtain ⟨_, -, read⟩ := Option.bind_eq_some_iff.1 read
        obtain ⟨_, -, same⟩ := Option.bind_eq_some_iff.1 read
        cases same
        trivial
    · exact fits_of_scalar? read

/-! Statements -/

theorem fits_of_statement? {statement : Statement}
    (read : statement? text = some (statement, rest)) : statement.Fits := by
  unfold statement? at read
  split at read
  · obtain ⟨_, -, read⟩ := Option.bind_eq_some_iff.1 read
    obtain ⟨_, -, read⟩ := Option.bind_eq_some_iff.1 read
    obtain ⟨_, -, same⟩ := Option.bind_eq_some_iff.1 read
    cases same
    trivial
  · obtain ⟨_, -, read⟩ := Option.bind_eq_some_iff.1 read
    obtain ⟨_, -, same⟩ := Option.bind_eq_some_iff.1 read
    cases same
    trivial
  · obtain ⟨_, assigned, same⟩ := Option.bind_eq_some_iff.1 read
    cases same
    obtain ⟨_, -, assigned⟩ := Option.bind_eq_some_iff.1 assigned
    obtain ⟨_, -, assigned⟩ := Option.bind_eq_some_iff.1 assigned
    obtain ⟨_, found, same⟩ := Option.bind_eq_some_iff.1 assigned
    cases same
    exact fits_of_valueParser found

theorem fits_of_statements? {statements : List Statement}
    (read : statements? text = some statements) : ∀ statement ∈ statements, statement.Fits := by
  fun_induction statements? text generalizing statements with
  | case1 =>
    cases read
    exact List.forall_mem_nil _
  | case2 text more rest empty ih => exact ih read
  | case3 => cases read
  | case4 => cases read
  | case5 text more notEmpty statement behind first rest ended ih =>
    obtain ⟨others, remaining, rfl⟩ := Option.map_eq_some_iff.1 read
    exact List.forall_mem_cons.2 ⟨fits_of_statement? first, ih remaining⟩

end

/-! Tables -/

namespace Entries

variable {entries after : Entries} {path : List String} {value : Value}

theorem Fit.append (fit : entries.Fit) {key : String} (fits : value.Fits) :
    Fit (entries ++ [(key, value)]) :=
  List.forall_mem_append.2 ⟨fit, List.forall_mem_singleton.2 fits⟩

theorem Fit.replace (fit : entries.Fit) {key : String} (fits : value.Fits) :
    (entries.replace key value).Fit := by
  refine List.forall_mem_map.2 fun entry member => ?_
  split
  · exact fits
  · exact fit entry member

theorem Fit.of_lookup (fit : entries.Fit) {key : String}
    (found : entries.lookup key = some value) : value.Fits := by
  induction entries with
  | nil => cases found
  | cons entry more ih =>
    obtain ⟨first, others⟩ := List.forall_mem_cons.1 fit
    rw [List.lookup_cons] at found
    split at found
    · cases found
      exact first
    · exact ih others found

/-- Only a change of the table itself may add integers to it, not one of a table inside of it. -/
theorem Fit.descend {kind here : TableKind} {change : TableKind → Entries → Option Entries}
    (fit : entries.Fit) (kept : ∀ here after, change here entries = some after → after.Fit)
    (changed : entries.descend kind change path here = some after) : after.Fit := by
  cases path with
  | nil => exact kept _ _ changed
  | cons key path =>
    rw [Entries.descend] at changed
    -- Whatever happens further inside, the entry that leads there is a table.
    split at changed
    · obtain ⟨inner, -, same⟩ := Option.bind_eq_some_iff.1 changed
      cases same
      exact fit.append trivial
    · split at changed
      · cases changed
      · obtain ⟨inner, -, same⟩ := Option.bind_eq_some_iff.1 changed
        cases same
        exact fit.replace trivial
    · obtain ⟨last, -, changed⟩ := Option.bind_eq_some_iff.1 changed
      obtain ⟨inner, -, same⟩ := Option.bind_eq_some_iff.1 changed
      cases same
      exact fit.replace trivial
    · cases changed

theorem Fit.assign (fit : entries.Fit) (fits : value.Fits)
    (assigned : entries.assign path value = some after) : after.Fit := by
  obtain ⟨key, -, assigned⟩ := Option.bind_eq_some_iff.1 assigned
  refine fit.descend (fun here after changed => ?_) assigned
  split at changed
  · cases changed
  · unfold define at changed
    split at changed
    · cases changed
      exact fit.append fits
    · cases changed

theorem Fit.addHeader (fit : entries.Fit) (added : entries.addHeader path = some after) :
    after.Fit := by
  obtain ⟨key, -, added⟩ := Option.bind_eq_some_iff.1 added
  refine fit.descend (fun here after changed => ?_) added
  split at changed
  · cases changed
    exact fit.append trivial
  · cases changed
    exact fit.replace trivial
  · cases changed

theorem Fit.addArrayHeader (fit : entries.Fit)
    (added : entries.addArrayHeader path = some after) : after.Fit := by
  obtain ⟨key, -, added⟩ := Option.bind_eq_some_iff.1 added
  refine fit.descend (fun here after changed => ?_) added
  split at changed
  · cases changed
    exact fit.append trivial
  · cases changed
    exact fit.replace trivial
  · cases changed

theorem Fit.step {header header' : List String} {statement : Statement} (fit : entries.Fit)
    (fits : statement.Fits)
    (stepped : ofStatements.step (header, entries) statement = some (header', after)) :
    after.Fit := by
  cases statement with
  | header path =>
    obtain ⟨_, added, same⟩ := Option.map_eq_some_iff.1 stepped
    cases same
    exact fit.addHeader added
  | arrayHeader path =>
    obtain ⟨_, added, same⟩ := Option.map_eq_some_iff.1 stepped
    cases same
    exact fit.addArrayHeader added
  | assignment path value =>
    obtain ⟨_, assigned, same⟩ := Option.map_eq_some_iff.1 stepped
    cases same
    exact fit.descend (fun _ _ changed => fit.assign fits changed) assigned

theorem Fit.steps {header header' : List String} {statements : List Statement}
    (fit : entries.Fit) (fits : ∀ statement ∈ statements, statement.Fits)
    (ran : statements.foldlM ofStatements.step (header, entries) = some (header', after)) :
    after.Fit := by
  induction statements generalizing header entries with
  | nil =>
    cases ran
    exact fit
  | cons statement more ih =>
    obtain ⟨first, others⟩ := List.forall_mem_cons.1 fits
    rw [List.foldlM_cons] at ran
    obtain ⟨⟨_, _⟩, stepped, ran⟩ := Option.bind_eq_some_iff.1 ran
    exact ih (fit.step first stepped) others ran

end Entries

theorem fit_of_read? {text : List Char} {entries : Entries} (read : read? text = some entries) :
    entries.Fit := by
  obtain ⟨statements, found, filled⟩ := Option.bind_eq_some_iff.1 read
  obtain ⟨⟨_, _⟩, ran, rfl⟩ := Option.map_eq_some_iff.1 filled
  have empty : Entries.Fit [] := List.forall_mem_nil _
  exact empty.steps (fits_of_statements? found) ran

end AnalyzerBoot.Toml
