import AnalyzerBoot.Proofs.Toml.Scalars

/-!
Documents read back: each written entry is one statement, on lines of its own, and the statements
fill the table that was written. Main statement: `read?_write?`.
-/

set_option autoImplicit false

namespace AnalyzerBoot.Toml

/-! Where a value or a key begins -/

/-- Characters that are no part of a key or of a value without parts. -/
def marks : List Char := [' ', '\t', '\n', '\r', '#', '[', ']', '{', '\ufeff']

/-- Whether a text begins with something that cannot be passed over. -/
def IsSolid (text : List Char) : Prop :=
  ∃ c rest, text = c :: rest ∧ c ∉ marks

theorem IsSolid.append {text : List Char} (solid : IsSolid text) (rest : List Char) :
    IsSolid (text ++ rest) := by
  obtain ⟨c, more, rfl, other⟩ := solid
  exact ⟨c, more ++ rest, rfl, other⟩

theorem IsSolid.ne_cons {text : List Char} (solid : IsSolid text) {c : Char} (mark : c ∈ marks)
    (rest : List Char) : text ≠ c :: rest := by
  obtain ⟨first, more, rfl, other⟩ := solid
  rintro ⟨⟩
  exact other mark

theorem isBlank_of_not_mem {c : Char} (other : c ∉ marks) : isBlank c = false := by
  simp only [marks, List.mem_cons, not_or] at other
  simp [isBlank, other]

theorem IsSolid.skipBlanks_eq {text : List Char} (solid : IsSolid text) :
    skipBlanks text = text := by
  obtain ⟨c, rest, rfl, other⟩ := solid
  rw [skipBlanks, List.dropWhile_cons_of_neg]
  rw [isBlank_of_not_mem other]
  exact Bool.false_ne_true

theorem IsSolid.skipSpace?_eq {text : List Char} (solid : IsSolid text) :
    skipSpace? false text = some text := by
  have lineEnd := solid.ne_cons (c := '\n') (by decide)
  have carriage := solid.ne_cons (c := '\r') (by decide)
  have comment := solid.ne_cons (c := '#') (by decide)
  obtain ⟨c, rest, rfl, other⟩ := solid
  rw [skipSpace?, if_neg Bool.false_ne_true, isBlank_of_not_mem other, if_neg Bool.false_ne_true,
    if_neg]
  · rintro rfl
    exact comment _ rfl
  · rintro rfl
    exact lineEnd _ rfl
  · rintro more rfl
    intro _
    exact carriage _ rfl

theorem IsSolid.lineEnd?_eq {text : List Char} (solid : IsSolid text) : lineEnd? text = none := by
  have comment : skipComment text = text := by
    unfold skipComment
    split
    · exact absurd rfl (solid.ne_cons (by decide) _)
    · rfl
  rw [lineEnd?, solid.skipBlanks_eq, comment]
  split
  · next ended =>
    obtain ⟨c, rest, rfl, -⟩ := solid
    cases ended
  · unfold newline?
    split
    · exact absurd rfl (solid.ne_cons (by decide) _)
    · exact absurd rfl (solid.ne_cons (by decide) _)
    · rfl

theorem isSolid_writeString (text : List Char) : IsSolid (writeString text) := by
  obtain ⟨q, more, written, quote⟩ := exists_writeString text
  rcases quote with rfl | rfl
  · exact ⟨'"', more, written, by decide⟩
  · exact ⟨'\'', more, written, by decide⟩

theorem isSolid_writeInteger (value : Int) : IsSolid (writeInteger value) := by
  unfold writeInteger
  split
  · exact ⟨'-', _, rfl, by decide⟩
  · obtain ⟨c, more, digits, digit, -⟩ := exists_toDigits value.natAbs
    refine ⟨c, more, digits, fun mark => ?_⟩
    rw [eq_false_of_mem Char.isDigit mark (by decide)] at digit
    cases digit

theorem isSolid_of_writeScalar? {value : Value} {text : List Char}
    (written : writeScalar? value = some text) : IsSolid text := by
  unfold writeScalar? at written
  split at written
  · cases written
    exact isSolid_writeString _
  · obtain ⟨_, _, rfl⟩ := Option.map_eq_some_iff.1 written
    exact isSolid_writeInteger _
  · next value =>
    cases written
    cases value
    · exact ⟨'f', _, rfl, by decide⟩
    · exact ⟨'t', _, rfl, by decide⟩
  · cases written

/-! Arrays -/

theorem exists_of_mapM_cons {α β : Type} {f : α → Option β} {a : α} {as : List α} {bs : List β}
    (found : (a :: as).mapM f = some bs) :
    ∃ b others, f a = some b ∧ as.mapM f = some others ∧ bs = b :: others := by
  rw [List.mapM_cons] at found
  obtain ⟨b, first, found⟩ := Option.bind_eq_some_iff.1 found
  obtain ⟨others, remaining, same⟩ := Option.bind_eq_some_iff.1 found
  cases same
  exact ⟨b, others, first, remaining, rfl⟩

section Items

variable {value : Parser Value} (consumes : value.Consumes) {text start behind rest : List Char}
  {item : Value}

theorem items?_of_end (before : skipSpace? false text = some (']' :: rest)) :
    items? value @consumes text = some ([], rest) := by
  fun_cases items? value @consumes text <;> simp_all

theorem items?_of_last (before : skipSpace? false text = some start) (solid : IsSolid start)
    (read : value start = some (item, behind))
    (last : skipSpace? false behind = some (']' :: rest)) :
    items? value @consumes text = some ([item], rest) := by
  have first (more : List Char) : ']' :: more ≠ start := (solid.ne_cons (by decide) more).symm
  fun_cases items? value @consumes text <;> simp_all

theorem items?_of_item (before : skipSpace? false text = some start) (solid : IsSolid start)
    (read : value start = some (item, behind))
    (next : skipSpace? false behind = some (',' :: rest)) :
    items? value @consumes text =
      (items? value @consumes rest).map fun (items, rest) => (item :: items, rest) := by
  have first (more : List Char) : ']' :: more ≠ start := (solid.ne_cons (by decide) more).symm
  fun_cases items? value @consumes text <;> simp_all

end Items

/-- The lines of an array, each with an item, as they are read behind its bracket. -/
theorem items?_lines {value : Parser Value} (consumes : value.Consumes) {items : List Value}
    {texts : List (List Char)} (written : items.mapM writeScalar? = some texts)
    (reads : ∀ item text, writeScalar? item = some text → Reads value text item)
    (rest : List Char) :
    items? value @consumes ('\n' :: (texts.flatMap arrayLine ++ ']' :: rest)) =
      some (items, rest) := by
  induction items generalizing texts with
  | nil =>
    cases written
    exact items?_of_end @consumes rfl
  | cons item more ih =>
    obtain ⟨text, others, first, remaining, rfl⟩ := exists_of_mapM_cons written
    generalize behind : '\n' :: (others.flatMap arrayLine ++ ']' :: rest) = lines
    have solid := (isSolid_of_writeScalar? first).append (',' :: lines)
    have before : skipSpace? false ('\n' :: ((text :: others).flatMap arrayLine ++ ']' :: rest)) =
        some (text ++ ',' :: lines) := by
      rw [← solid.skipSpace?_eq, ← behind]
      simp only [List.flatMap_cons, arrayLine, List.append_assoc, List.cons_append, List.nil_append]
      rfl
    have read := reads _ _ first (.comma lines)
    rw [items?_of_item @consumes before solid read rfl, ← behind, ih remaining]
    rfl

/-! Values -/

theorem compound?_of_isSolid {value : Parser Value} (consumes : value.Consumes) {text : List Char}
    (solid : IsSolid text) : compound? value @consumes text = scalar? text := by
  unfold compound?
  split
  · exact absurd rfl (solid.ne_cons (by decide) _)
  · exact absurd rfl (solid.ne_cons (by decide) _)
  · rfl

theorem compound?_of_items {value : Parser Value} (consumes : value.Consumes)
    {text rest : List Char} {items : List Value}
    (found : items? value @consumes text = some (items, rest)) :
    compound? value @consumes ('[' :: text) = some (.array items, rest) := by
  change (items? value @consumes text).bind _ = _
  rw [found]
  rfl

/-- A value without parts is the same wherever it stands. -/
theorem reads_part {value : Value} {text : List Char} (written : writeScalar? value = some text)
    (depth : Nat) : Reads (valueParser depth).1 text value := by
  cases depth with
  | zero => exact reads_scalar written
  | succ depth =>
    intro rest delimited
    have solid := (isSolid_of_writeScalar? written).append rest
    exact (compound?_of_isSolid (valueParser depth).2 solid).trans (reads_scalar written delimited)

theorem reads_array {items : List Value} {texts : List (List Char)}
    (written : items.mapM writeScalar? = some texts) (depth : Nat) :
    Reads (valueParser (depth + 1)).1 (writeArray texts) (.array items) := by
  intro rest delimited
  have consumes : (valueParser depth).1.Consumes := (valueParser depth).2
  cases items with
  | nil =>
    cases written
    exact compound?_of_items @consumes (items?_of_end @consumes rfl)
  | cons item more =>
    obtain ⟨text, others, first, remaining, rfl⟩ := exists_of_mapM_cons written
    cases more with
    | nil =>
      obtain rfl : [] = others := Option.some.inj remaining
      have solid := (isSolid_of_writeScalar? first).append (']' :: rest)
      simp only [writeArray, List.cons_append, List.append_assoc, List.nil_append]
      apply compound?_of_items @consumes
      exact items?_of_last @consumes solid.skipSpace?_eq solid
        (reads_part first depth (.bracket rest)) rfl
    | cons next further =>
      obtain ⟨second, texts, -, -, rfl⟩ := exists_of_mapM_cons remaining
      simp only [writeArray, List.cons_append, List.append_assoc, List.nil_append]
      apply compound?_of_items @consumes
      exact items?_lines @consumes written (fun item text part => reads_part part depth) rest

theorem reads_value {value : Value} {text : List Char} (written : writeValue? value = some text) :
    Reads value? text value := by
  unfold writeValue? at written
  split at written
  · obtain ⟨texts, items, rfl⟩ := Option.map_eq_some_iff.1 written
    exact reads_array items _
  · exact reads_part written _

/-! Keys -/

theorem isSolid_writeKey (key : List Char) : IsSolid (writeKey key) := by
  unfold writeKey
  split
  · next bare =>
    obtain ⟨nonempty, bare⟩ := bare
    cases key with
    | nil => exact absurd rfl nonempty
    | cons c more =>
      refine ⟨c, more, rfl, fun mark => ?_⟩
      rw [List.all_cons, eq_false_of_mem isBareKeyChar mark (by decide)] at bare
      cases bare
  · exact ⟨'"', _, rfl, by decide⟩

/-- A written key reads back in front of a blank. -/
theorem keyPart?_writeKey (key : String) (rest : List Char) :
    keyPart? (writeKey key.toList ++ ' ' :: rest) = some (key, ' ' :: rest) := by
  unfold writeKey
  split
  · next bare =>
    obtain ⟨nonempty, bare⟩ := bare
    rw [List.all_eq_true] at bare
    have front : (key.toList ++ ' ' :: rest).takeWhile isBareKeyChar = key.toList := by
      rw [List.takeWhile_append_of_pos bare, List.takeWhile_cons_of_neg, List.append_nil]
      decide
    have behind : (key.toList ++ ' ' :: rest).dropWhile isBareKeyChar = ' ' :: rest := by
      rw [List.dropWhile_append_of_pos bare, List.dropWhile_cons_of_neg]
      decide
    unfold keyPart?
    split
    · next same =>
      rw [same] at front
      exact absurd front.symm nonempty
    · next same =>
      rw [same] at front
      exact absurd front.symm nonempty
    · rw [front, behind, if_neg nonempty, String.ofList_toList]
  · change (basicChars (escapeChars false 0 key.toList ++ ['"'] ++ ' ' :: rest)).map _ = _
    rw [List.append_assoc, List.singleton_append, basicChars_escapeChars]
    simp only [Option.map_some, String.ofList_toList]

/-- A written key, on its own in front of an equals sign. -/
theorem keyPath?_writeKey (key : String) (rest : List Char) :
    keyPath? maxKeyParts (writeKey key.toList ++ [' ', '=', ' '] ++ rest) =
      some ([key], '=' :: ' ' :: rest) := by
  have solid := (isSolid_writeKey key.toList).append (' ' :: '=' :: ' ' :: rest)
  rw [List.append_assoc, List.cons_append, List.cons_append, List.cons_append, List.nil_append,
    maxKeyParts, keyPath?, solid.skipBlanks_eq, keyPart?_writeKey]
  rfl

/-- What a written value begins with is never passed over. -/
theorem skipBlanks_writeValue {value : Value} {text : List Char}
    (written : writeValue? value = some text) (rest : List Char) :
    skipBlanks (text ++ rest) = text ++ rest := by
  unfold writeValue? at written
  split at written
  · obtain ⟨texts, -, rfl⟩ := Option.map_eq_some_iff.1 written
    unfold writeArray
    split <;> rfl
  · exact ((isSolid_of_writeScalar? written).append rest).skipBlanks_eq

/-- The line of a written assignment, read up to its end. -/
theorem statement?_assignment {key : String} {value : Value} {text : List Char}
    (written : writeValue? value = some text) (rest : List Char) :
    statement? (writeKey key.toList ++ [' ', '=', ' '] ++ text ++ '\n' :: rest) =
      some (.assignment [key] value, '\n' :: rest) := by
  have assigned : assignment? value? (writeKey key.toList ++ [' ', '=', ' '] ++
      (text ++ '\n' :: rest)) = some (([key], value), '\n' :: rest) := by
    rw [assignment?, keyPath?_writeKey]
    change (value? (skipBlanks (text ++ '\n' :: rest))).bind _ = _
    rw [skipBlanks_writeValue written, reads_value written (.lineEnd rest)]
    rfl
  have solid := (isSolid_writeKey key.toList).append
    ([' ', '=', ' '] ++ (text ++ '\n' :: rest))
  rw [← List.append_assoc] at solid
  rw [List.append_assoc _ text]
  unfold statement?
  split
  · next same => exact absurd same (solid.ne_cons (by decide) _)
  · next same => exact absurd same (solid.ne_cons (by decide) _)
  · rw [assigned]
    rfl

/-! Whole documents -/

/-- A statement in front of the end of its line, and the statements behind it. -/
theorem statements?_line {text rest : List Char} {statement : Statement}
    (solid : IsSolid text) (read : statement? text = some (statement, '\n' :: rest)) :
    statements? text = (statements? rest).map (statement :: ·) := by
  have begun : text ≠ [] := by
    obtain ⟨c, more, rfl, -⟩ := solid
    exact List.cons_ne_nil _ _
  have noEnd := solid.lineEnd?_eq
  have ended : lineEnd? ('\n' :: rest) = some rest := rfl
  rw [← solid.skipBlanks_eq] at read
  fun_cases statements? text <;> simp_all

theorem isSolid_writeEntry {entry : String × Value} {text : List Char}
    (written : writeEntry? entry = some text) : IsSolid text := by
  obtain ⟨value, -, rfl⟩ := Option.map_eq_some_iff.1 written
  rw [List.append_assoc, List.append_assoc]
  exact (isSolid_writeKey _).append _

/-- The assignment that an entry is written as. -/
def assignmentOf (entry : String × Value) : Statement :=
  .assignment [entry.1] entry.2

theorem statements?_writeEntry {entry : String × Value} {text : List Char}
    (written : writeEntry? entry = some text) (rest : List Char) :
    statements? (text ++ rest) = (statements? rest).map (assignmentOf entry :: ·) := by
  apply statements?_line ((isSolid_writeEntry written).append rest)
  obtain ⟨value, value?, rfl⟩ := Option.map_eq_some_iff.1 written
  rw [List.append_assoc]
  exact statement?_assignment value? rest

theorem statements?_writeEntries {entries : Entries} {texts : List (List Char)}
    (written : entries.mapM writeEntry? = some texts) :
    statements? texts.flatten = some (entries.map assignmentOf) := by
  induction entries generalizing texts with
  | nil =>
    cases written
    rw [statements?.eq_def]
    rfl
  | cons entry more ih =>
    obtain ⟨text, others, first, remaining, rfl⟩ := exists_of_mapM_cons written
    rw [List.flatten_cons, statements?_writeEntry first, ih remaining]
    rfl

/-- A key that is not dotted is defined in the table of the document. -/
theorem step_assignmentOf (entry : String × Value) (before : Entries) :
    Entries.ofStatements.step ([], before) (assignmentOf entry) =
      (before.define entry.1 entry.2).map (([] : List String), ·) := by
  simp [Entries.ofStatements.step, assignmentOf, Entries.assignIn, Entries.assign, Entries.descend]

/-- Assignments to distinct keys make a table of these keys, in their order. -/
theorem foldlM_step_assignments {before entries : Entries}
    (distinct : ((before ++ entries).map Prod.fst).Nodup) :
    (entries.map assignmentOf).foldlM Entries.ofStatements.step ([], before) =
      some ([], before ++ entries) := by
  induction entries generalizing before with
  | nil =>
    rw [List.append_nil]
    rfl
  | cons entry more ih =>
    have new : before.lookup entry.1 = none := by
      rw [List.lookup_eq_none_iff]
      intro other member
      rw [List.map_append, List.nodup_append] at distinct
      have apart := distinct.2.2 other.1 (List.mem_map_of_mem member) entry.1 List.mem_cons_self
      simpa using apart.symm
    rw [List.append_cons] at distinct ⊢
    rw [List.map_cons, List.foldlM_cons, step_assignmentOf, Entries.define, new]
    exact ih distinct

/-- A written table reads back, if no key occurs in it twice. -/
theorem read?_write? {entries : Entries} {text : List Char}
    (distinct : (entries.map Prod.fst).Nodup) (written : write? entries = some text) :
    read? text = some entries := by
  obtain ⟨texts, each, rfl⟩ := Option.map_eq_some_iff.1 written
  have statements := statements?_writeEntries each
  have noMark : ∀ rest, texts.flatten ≠ '\ufeff' :: rest := by
    cases entries with
    | nil =>
      cases each
      exact fun rest => (List.cons_ne_nil _ _).symm
    | cons entry more =>
      obtain ⟨text, others, first, -, rfl⟩ := exists_of_mapM_cons each
      exact fun rest => ((isSolid_writeEntry first).append _).ne_cons (by decide) rest
  unfold read?
  split
  · next same => exact absurd same (noMark _)
  · rw [statements]
    change ((entries.map assignmentOf).foldlM Entries.ofStatements.step ([], [])).map _ = _
    rw [@foldlM_step_assignments [] entries distinct]
    rfl

end AnalyzerBoot.Toml
