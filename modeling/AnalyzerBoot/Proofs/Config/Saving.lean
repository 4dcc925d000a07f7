import AnalyzerBoot.Proofs.Files.Writing
import AnalyzerBoot.Proofs.Toml.Documents
import AnalyzerBoot.Tool.Response

/-!
Configurations that are saved and loaded again. A file holds all that a configuration consists of,
except that numbers have only 63 bits there; a configuration with a larger one is never saved.
-/

set_option autoImplicit false

namespace AnalyzerBoot.Config

/-- Whether a file can hold all numbers of a configuration. -/
def IsRepresentable (config : Config) : Prop :=
  ∀ millis ∈ [config.renumSettle, config.renumPollInterval, config.maxRenumDelay],
    millis < 0x8000000000000000

instance (config : Config) : Decidable config.IsRepresentable :=
  inferInstanceAs (Decidable (∀ millis ∈ _, millis < 0x8000000000000000))

/-- The entries of a configuration's file, each with its key and its text. -/
def lines? (config : Config) : Option (List (String × List Char)) :=
  config.toEntries.mapM fun entry => (Toml.writeEntry? entry).map (entry.1, ·)

/-- A file of entries with these texts. -/
def fileOf (lines : List (String × List Char)) : Bytes :=
  Text.toUtf8 (String.ofList (lines.map Prod.snd).flatten)

/-- A configuration that has defaults in place of all fields but those with some keys. -/
def keeping (keep : String → Bool) (config : Config) : Config :=
  let base : Config := {}
  { firmwareDirs := if keep "firmware_dirs" then config.firmwareDirs else base.firmwareDirs
    usbConfiguration :=
      if keep "usb_configuration" then config.usbConfiguration else base.usbConfiguration
    usbInterface := if keep "usb_interface" then config.usbInterface else base.usbInterface
    renumSettle := if keep "renum_settle_ms" then config.renumSettle else base.renumSettle
    renumPollInterval :=
      if keep "renum_poll_interval_ms" then config.renumPollInterval else base.renumPollInterval
    maxRenumDelay :=
      if keep "max_renum_delay_ms" then config.maxRenumDelay else base.maxRenumDelay }

/-! Writing -/

theorem exists_mapM {α β : Type} {f : α → Option β} {as : List α} :
    (∃ bs, as.mapM f = some bs) ↔ ∀ a ∈ as, ∃ b, f a = some b := by
  induction as with
  | nil => exact iff_of_true ⟨[], rfl⟩ fun a member => absurd member List.not_mem_nil
  | cons a more ih =>
    rw [List.forall_mem_cons, ← ih]
    constructor
    · rintro ⟨bs, found⟩
      obtain ⟨b, others, first, remaining, -⟩ := Toml.exists_of_mapM_cons found
      exact ⟨⟨b, first⟩, others, remaining⟩
    · rintro ⟨⟨b, first⟩, others, remaining⟩
      rw [List.mapM_cons, first, remaining]
      exact ⟨b :: others, rfl⟩

/-- Entries are written one by one, so leaving some out changes nothing for the others. -/
theorem mapM_filter_key {f : String × Toml.Value → Option (List Char)} {entries : Toml.Entries}
    {lines : List (String × List Char)}
    (written : entries.mapM (fun entry => (f entry).map (entry.1, ·)) = some lines)
    (keep : String → Bool) :
    (entries.filter fun entry => keep entry.1).mapM f =
      some ((lines.filter fun line => keep line.1).map Prod.snd) := by
  induction entries generalizing lines with
  | nil =>
    cases written
    rfl
  | cons entry more ih =>
    obtain ⟨line, others, first, remaining, rfl⟩ := Toml.exists_of_mapM_cons written
    obtain ⟨text, entryText, rfl⟩ := Option.map_eq_some_iff.1 first
    cases kept : keep entry.1 with
    | false => simp [kept, ih remaining]
    | true => simp [kept, entryText, ih remaining]

theorem exists_writeEntry_texts (key : String) (texts : List String) :
    ∃ text, Toml.writeEntry? (key, .array (texts.map .string)) = some text := by
  have each : ∀ value ∈ texts.map Toml.Value.string,
      ∃ text, Toml.writeScalar? value = some text := by
    intro value member
    obtain ⟨text, -, rfl⟩ := List.mem_map.1 member
    exact ⟨_, rfl⟩
  obtain ⟨items, written⟩ := exists_mapM.2 each
  rw [Toml.writeEntry?, Toml.writeValue?, written]
  exact ⟨_, rfl⟩

theorem exists_writeEntry_number {key : String} {n : Nat} :
    (∃ text, Toml.writeEntry? (key, .integer n) = some text) ↔ n < 0x8000000000000000 := by
  have range : (Toml.integerOf? n).isSome ↔ n < 0x8000000000000000 := by
    unfold Toml.integerOf?
    split
    · simp
      omega
    · simp
      omega
  rw [← range, ← Option.isSome_iff_exists]
  simp [Toml.writeEntry?, Toml.writeValue?, Toml.writeScalar?]

/-- A configuration can be written if all its numbers can. -/
theorem isRepresentable_iff (config : Config) :
    config.IsRepresentable ↔
      ∀ entry ∈ config.toEntries, ∃ text, Toml.writeEntry? entry = some text := by
  have small (byte : UInt8) : byte.toNat < 0x8000000000000000 := by
    have := byte.toNat_lt
    omega
  simp only [IsRepresentable, toEntries, List.forall_mem_cons, exists_writeEntry_texts,
    exists_writeEntry_number, small, true_and]
  simp

/-- The keys stay with the texts. -/
theorem map_fst_of_mapM {f : String × Toml.Value → Option (List Char)} {entries : Toml.Entries}
    {lines : List (String × List Char)}
    (written : entries.mapM (fun entry => (f entry).map (entry.1, ·)) = some lines) :
    lines.map Prod.fst = entries.map Prod.fst := by
  induction entries generalizing lines with
  | nil =>
    cases written
    rfl
  | cons entry more ih =>
    obtain ⟨line, others, first, remaining, rfl⟩ := Toml.exists_of_mapM_cons written
    obtain ⟨text, -, rfl⟩ := Option.map_eq_some_iff.1 first
    rw [List.map_cons, List.map_cons, ih remaining]

/-! Reading -/

theorem mapM_textOf? (texts : List String) :
    (texts.map Toml.Value.string).mapM textOf? = some texts := by
  induction texts with
  | nil => rfl
  | cons text more ih =>
    rw [List.map_cons, List.mapM_cons, ih]
    rfl

section Entries

variable {entries : Toml.Entries} {key : String}

theorem textsEntry_of_lookup {texts default : List String} {kept : Bool}
    (found : entries.lookup key = if kept then some (.array (texts.map .string)) else none) :
    textsEntry entries key default = some (if kept then texts else default) := by
  rw [textsEntry, found]
  cases kept
  · rfl
  · exact mapM_textOf? texts

theorem numberEntry_of_lookup {n bound default : Nat} {kept : Bool} (small : n ≤ bound)
    (found : entries.lookup key = if kept then some (.integer n) else none) :
    numberEntry entries key bound default = some (if kept then n else default) := by
  rw [numberEntry, found]
  cases kept
  · rfl
  · have range : 0 ≤ (n : Int) ∧ (n : Int) ≤ bound := by omega
    exact if_pos range

end Entries

theorem ofNat_ite_toNat (kept : Bool) (byte default : UInt8) :
    UInt8.ofNat (if kept then byte.toNat else default.toNat) = if kept then byte else default := by
  cases kept <;> exact UInt8.ofNat_toNat

/-- Whichever entries are left, the others have their defaults. -/
theorem ofEntries?_filter {config : Config} (representable : config.IsRepresentable)
    (keep : String → Bool) :
    ofEntries? (config.toEntries.filter fun entry => keep entry.1) =
      some (config.keeping keep) := by
  have lookup := lookup_filter_key keep config.toEntries
  have byte (byte : UInt8) : byte.toNat ≤ 255 := Nat.le_of_lt_succ byte.toNat_lt
  have millis : ∀ millis ∈ [config.renumSettle, config.renumPollInterval, config.maxRenumDelay],
      millis ≤ UInt64.size - 1 := by
    intro millis among
    have := representable millis among
    simp only [UInt64.size]
    omega
  simp only [List.forall_mem_cons] at millis
  rw [ofEntries?]
  simp only [textsEntry_of_lookup (lookup "firmware_dirs"),
    numberEntry_of_lookup (byte _) (lookup "usb_configuration"),
    numberEntry_of_lookup (byte _) (lookup "usb_interface"),
    numberEntry_of_lookup millis.1 (lookup "renum_settle_ms"),
    numberEntry_of_lookup millis.2.1 (lookup "renum_poll_interval_ms"),
    numberEntry_of_lookup millis.2.2.1 (lookup "max_renum_delay_ms"), Option.bind_eq_bind,
    Option.bind_some, ofNat_ite_toNat]
  rfl

/-! Files -/

/-- Text of a configuration's file, with only some of its entries left. -/
theorem write?_filter {config : Config} {lines : List (String × List Char)}
    (written : config.lines? = some lines) (keep : String → Bool) :
    Toml.write? (config.toEntries.filter fun entry => keep entry.1) =
      some ((lines.filter fun line => keep line.1).map Prod.snd).flatten := by
  rw [Toml.write?, mapM_filter_key written]
  rfl

theorem toToml?_of_lines {config : Config} {lines : List (String × List Char)}
    (written : config.lines? = some lines) :
    config.toToml? = some (String.ofList (lines.map Prod.snd).flatten) := by
  have all := write?_filter written fun _ => true
  simp only [List.filter_eq_self.2 fun _ _ => rfl] at all
  rw [toToml?, all]
  rfl

theorem keeping_all (config : Config) : config.keeping (fun _ => true) = config :=
  rfl

/-- A file from which entries were taken loads with defaults in their place. -/
theorem load_filter {config : Config} {lines : List (String × List Char)} {files : Files.View}
    {path : String} {size : Nat} (representable : config.IsRepresentable)
    (written : config.lines? = some lines) (keep : String → Bool)
    (found : files path = some (.file size (fileOf (lines.filter fun line => keep line.1)))) :
    load files path = .ok (config.keeping keep) := by
  have distinct : ((config.toEntries.filter fun entry => keep entry.1).map Prod.fst).Nodup := by
    have all : (config.toEntries.map Prod.fst).Nodup := by
      simp only [toEntries, List.map_cons, List.map_nil]
      decide
    exact all.sublist (List.filter_sublist.map Prod.fst)
  have read := Toml.read?_write? distinct (write?_filter written keep)
  rw [load, found]
  simp only [fileOf, Text.ofUtf8?_toUtf8, ofToml?, String.toList_ofList, read, Option.bind_eq_bind,
    Option.bind_some, ofEntries?_filter representable]
  rfl

/-- The file that a configuration is saved to loads as that configuration. -/
theorem load_of_lines {config : Config} (representable : config.IsRepresentable)
    {lines : List (String × List Char)} (written : config.lines? = some lines)
    {files : Files.View} {path : String} (found : files path = some (.ofContent (fileOf lines))) :
    load files path = .ok config := by
  rw [← config.keeping_all]
  apply load_filter representable written fun _ => true
  rw [found, List.filter_eq_self.2 fun _ _ => rfl]
  rfl

/-- Saving leaves the files alone until there is a text to be written. -/
theorem save_apply (config : Config) (path : String) (files : Files.Tree) :
    (config.save path).run files =
      match config.toToml? with
      | none => (.error .unrepresentable, files)
      | some text =>
        match Files.Tree.write path (Text.toUtf8 text) files with
        | (true, after) => (.ok (), after)
        | (false, after) => (.error .unwritable, after) := by
  unfold save
  cases config.toToml? with
  | none => rfl
  | some text =>
    let writing := Files.Tree.write path (Text.toUtf8 text)
    refine (congrFun (ExceptT.run_bind_lift writing _) files).trans ?_
    simp only [bind, StateT.bind, writing]
    rcases Files.Tree.write path (Text.toUtf8 text) files with ⟨_ | _, after⟩ <;> rfl

theorem conclude_of_save (config : Config) (path : String) (files : Files.Tree)
    (status : ExitStatus) (output : String) :
    let saving := (config.save path).run files
    Tool.Response.conclude ⟨status, output, some (config, path)⟩ files =
      (if saving.1.isOk then status else .failure, saving.2) := by
  simp only [Tool.Response.conclude, bind, StateT.bind]
  rcases (config.save path).run files with ⟨_ | _, after⟩ <;> rfl

section
variable {config : Config} {files : Files.Tree} {path : String}

theorem exists_lines (representable : config.IsRepresentable) :
    ∃ lines, config.lines? = some lines := by
  refine exists_mapM.2 fun entry member => ?_
  obtain ⟨text, written⟩ := config.isRepresentable_iff.1 representable entry member
  exact ⟨_, congrArg _ written⟩

/-- Saving writes all entries, and the path then leads to them. -/
theorem save_of_lines {lines : List (String × List Char)} (written : config.lines? = some lines)
    (writable : files.isWritable path = true) :
    ∃ after, (config.save path).run files = (.ok (), after) ∧
      after.lookup path = some (.ofContent (fileOf lines)) := by
  obtain ⟨after, stored, found⟩ := Files.Tree.lookup_write writable (fileOf lines)
  rw [fileOf] at stored
  refine ⟨after, ?_, found⟩
  simp only [save_apply, toToml?_of_lines written, stored]

theorem save_of_not_isRepresentable (unrepresentable : ¬ config.IsRepresentable)
    (files : Files.Tree) (path : String) :
    (config.save path).run files = (.error .unrepresentable, files) := by
  have failed : config.toToml? = none := by
    cases written : config.toEntries.mapM Toml.writeEntry? with
    | none =>
      rw [toToml?, Toml.write?, written]
      rfl
    | some texts =>
      exact absurd (config.isRepresentable_iff.2 (exists_mapM.1 ⟨texts, written⟩)) unrepresentable
  rw [save_apply, failed]

theorem save_of_not_isWritable (representable : config.IsRepresentable)
    (unwritable : files.isWritable path = false) :
    (config.save path).run files = (.error .unwritable, files) := by
  obtain ⟨lines, written⟩ := exists_lines representable
  simp only [save_apply, toToml?_of_lines written,
    Files.Tree.write_of_not_isWritable unwritable]

end

/-- Saved configurations load back unchanged, and with defaults for the entries that are taken out
of the file. Saving a configuration that has too large a number, or saving one where no file can be,
fails and leaves all files as they were; a run of the tool fails with it. -/
theorem saved_config_loads (config : Config) (files : Files.Tree) (path : String) :
    (config.IsRepresentable → files.isWritable path = true →
      ∃ after lines, (config.save path).run files = (.ok (), after) ∧
        config.lines? = some lines ∧
        lines.map Prod.fst = ["firmware_dirs", "usb_configuration", "usb_interface",
          "renum_settle_ms", "renum_poll_interval_ms", "max_renum_delay_ms"] ∧
        after.lookup path = some (.ofContent (fileOf lines)) ∧
        load after.lookup path = .ok config ∧
        ∀ (keep : String → Bool) (view : Files.View) (size : Nat),
          view path = some (.file size (fileOf (lines.filter fun line => keep line.1))) →
          load view path = .ok (config.keeping keep)) ∧
    (¬ config.IsRepresentable →
      (config.save path).run files = (.error .unrepresentable, files)) ∧
    (config.IsRepresentable → files.isWritable path = false →
      (config.save path).run files = (.error .unwritable, files)) ∧
    ∀ status output,
      let saving := (config.save path).run files
      Tool.Response.conclude ⟨status, output, some (config, path)⟩ files =
        (if saving.1.isOk then status else .failure, saving.2) := by
  refine ⟨fun representable writable => ?_,
    fun unrepresentable => save_of_not_isRepresentable unrepresentable files path,
    save_of_not_isWritable, conclude_of_save config path files⟩
  obtain ⟨lines, written⟩ := exists_lines representable
  obtain ⟨after, saved, found⟩ := save_of_lines written writable
  exact ⟨after, lines, saved, written, map_fst_of_mapM written, found,
    load_of_lines representable written found,
    fun keep view size => load_filter representable written keep⟩

theorem saved_config_loads_at_limit :
    let files : Files.Tree :=
      ⟨["etc"], [(["etc"], .directory), (["etc", "fx3.toml"], .ofContent [1])]⟩
    let dirs := ["it's", "\"\"\"'''\\\n\x01", ""]
    let config : Config := { firmwareDirs := dirs, maxRenumDelay := 0x7fffffffffffffff }
    let tooLarge : Config := { renumSettle := 0x8000000000000000 }
    let kept (line : String × List Char) : Bool := line.1 != "max_renum_delay_ms"
    (∃ after lines, (config.save "fx3.toml").run files = (.ok (), after) ∧
      config.lines? = some lines ∧ load after.lookup "fx3.toml" = .ok config ∧
      load (fun _ => some (.ofContent (fileOf (lines.filter kept)))) "fx3.toml" =
        .ok { firmwareDirs := dirs }) ∧
    (tooLarge.save "fx3.toml").run files = (.error .unrepresentable, files) ∧
    (config.save "log/fx3.toml").run files = (.error .unwritable, files) := by
  intro files dirs config tooLarge kept
  refine ⟨?_, ?_, ?_⟩
  · obtain ⟨after, lines, saved, written, -, -, loaded, cut⟩ :=
      (saved_config_loads config files "fx3.toml").1 (by decide) (by decide)
    exact ⟨after, lines, saved, written, loaded, cut (· != "max_renum_delay_ms") _ _ rfl⟩
  · exact (saved_config_loads tooLarge files "fx3.toml").2.1 (by decide)
  · exact (saved_config_loads config files "log/fx3.toml").2.2.1 (by decide) (by decide)

end AnalyzerBoot.Config
