import AnalyzerBoot.Proofs.Config.Saving
import AnalyzerBoot.Proofs.Toml.Integers

/-!
Configurations that were loaded. A configuration has room for numbers that no file can hold, but
none of them was ever read from a file, so what was loaded can be saved.
-/

set_option autoImplicit false

namespace AnalyzerBoot.Config

theorem lt_of_numberEntry {entries : Toml.Entries} (fit : entries.Fit) {key : String}
    {bound default number : Nat} (small : default < 0x8000000000000000)
    (found : numberEntry entries key bound default = some number) :
    number < 0x8000000000000000 := by
  unfold numberEntry at found
  split at found
  · cases found
    exact small
  · next value entry =>
    have range := (fit.of_lookup entry).2
    split at found
    · cases found
      omega
    · cases found
  · cases found

theorem isRepresentable_of_ofEntries? {entries : Toml.Entries} (fit : entries.Fit)
    {config : Config} (read : ofEntries? entries = some config) : config.IsRepresentable := by
  obtain ⟨dirs, -, read⟩ := Option.bind_eq_some_iff.1 read
  obtain ⟨configuration, -, read⟩ := Option.bind_eq_some_iff.1 read
  obtain ⟨interface, -, read⟩ := Option.bind_eq_some_iff.1 read
  obtain ⟨settle, settle?, read⟩ := Option.bind_eq_some_iff.1 read
  obtain ⟨poll, poll?, read⟩ := Option.bind_eq_some_iff.1 read
  obtain ⟨delay, delay?, same⟩ := Option.bind_eq_some_iff.1 read
  cases same
  simp only [IsRepresentable, List.forall_mem_cons]
  exact ⟨lt_of_numberEntry fit (by decide) settle?, lt_of_numberEntry fit (by decide) poll?,
    lt_of_numberEntry fit (by decide) delay?, List.forall_mem_nil _⟩

/-- Numbers of a file have no more than 64 bits with a sign, so those that are loaded can be saved,
although a configuration has room for larger ones. -/
theorem isRepresentable_of_load {files : Files.View} {path : String} {config : Config}
    (loaded : load files path = .ok config) : config.IsRepresentable := by
  unfold load at loaded
  split at loaded
  · split at loaded
    · split at loaded
      · next read =>
        cases loaded
        obtain ⟨entries, entries?, read⟩ := Option.bind_eq_some_iff.1 read
        exact isRepresentable_of_ofEntries? (Toml.fit_of_read? entries?) read
      · cases loaded
    · cases loaded
  · cases loaded

end AnalyzerBoot.Config
