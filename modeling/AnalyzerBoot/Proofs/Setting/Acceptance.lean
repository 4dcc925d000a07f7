import AnalyzerBoot.Setting.Device

/-!
Which values the settings of a record take, what taking one makes of the record, and why others are
refused. A value that is refused finds the record as it was.
-/

set_option autoImplicit false

namespace AnalyzerBoot.Setting

/-- The settings that can be given a value; it has to be an integer. -/
def numericKeys : List Key := [.samplerate, .limitSamples, .captureRatio]

/-- A record takes a value of a setting and becomes another one. -/
inductive Accepts (record : Record) : Key → Value → Record → Prop where
  | samplerate {rate : Nat} : rate ∈ record.state.samplerates →
      Accepts record .samplerate (.integer rate)
        { record with state := { record.state with samplerate := rate } }
  | limitSamples (limit : Nat) :
      Accepts record .limitSamples (.integer limit)
        { record with state := { record.state with limitSamples := limit } }
  | captureRatio {ratio : Nat} : ratio ≤ 100 →
      Accepts record .captureRatio (.integer ratio)
        { record with state := { record.state with captureRatio := ratio } }

/-- A record does not take a value of a setting, for this reason. -/
inductive Refuses (record : Record) : Key → Value → BringupError → Prop where
  | unsupported {key : Key} (value : Value) : key ∉ numericKeys →
      Refuses record key value (.unsupportedKey key)
  | notInteger {key : Key} {value : Value} : key ∈ numericKeys → (∀ n, value ≠ .integer n) →
      Refuses record key value (.invalidValue key ("expected an integer, got " ++ value.label))
  | samplerate {rate : Nat} : rate ∉ record.state.samplerates →
      Refuses record .samplerate (.integer rate) (.invalidValue .samplerate
        (toString rate ++ " Hz is not supported by " ++ record.profile.text))
  | captureRatio {ratio : Nat} : 100 < ratio →
      Refuses record .captureRatio (.integer ratio)
        (.invalidValue .captureRatio (toString ratio ++ " is not a percentage"))

theorem set_samplerate (rate : Nat) (record : Record) :
    (set .samplerate (.integer rate)).run record =
      if rate ∉ record.state.samplerates then
        (.error (.invalidValue .samplerate
          (toString rate ++ " Hz is not supported by " ++ record.profile.text)), record)
      else (.ok (), record.changeState ({ · with samplerate := rate })) :=
  apply_ite (fun action : ExceptT BringupError (StateM Record) Unit => action.run record) _ _ _

theorem set_captureRatio (ratio : Nat) (record : Record) :
    (set .captureRatio (.integer ratio)).run record =
      if 100 < ratio then
        (.error (.invalidValue .captureRatio (toString ratio ++ " is not a percentage")), record)
      else (.ok (), record.changeState ({ · with captureRatio := ratio })) :=
  apply_ite (fun action : ExceptT BringupError (StateM Record) Unit => action.run record) _ _ _

/-- All that giving a setting a value can come to. -/
theorem set_cases (record : Record) (key : Key) (value : Value) :
    (∃ after, Accepts record key value after ∧ (set key value).run record = (.ok (), after)) ∨
    ∃ error, Refuses record key value error ∧
      (set key value).run record = (.error error, record) := by
  by_cases numeric : key ∈ numericKeys
  · cases value with
    | integer n =>
      simp only [numericKeys, List.mem_cons, List.not_mem_nil, or_false] at numeric
      obtain rfl | rfl | rfl := numeric
      · rw [set_samplerate]
        split
        · next absent => exact .inr ⟨_, .samplerate absent, rfl⟩
        · next listed => exact .inl ⟨_, .samplerate (Decidable.not_not.1 listed), rfl⟩
      · exact .inl ⟨_, .limitSamples n, rfl⟩
      · rw [set_captureRatio]
        split
        · next beyond => exact .inr ⟨_, .captureRatio beyond, rfl⟩
        · next bounded => exact .inl ⟨_, .captureRatio (Nat.not_lt.1 bounded), rfl⟩
    | _ =>
      refine .inr ⟨_, .notInteger numeric nofun, ?_⟩
      simp only [numericKeys, List.mem_cons, List.not_mem_nil, or_false] at numeric
      obtain rfl | rfl | rfl := numeric <;> rfl
  · refine .inr ⟨_, .unsupported value numeric, ?_⟩
    cases key
    case samplerate | limitSamples | captureRatio => exact absurd (by decide) numeric
    all_goals rfl

theorem Refuses.not_accepts {record after : Record} {key : Key} {value : Value}
    {error : BringupError} (refuses : Refuses record key value error) :
    ¬ Accepts record key value after := by
  intro accepts
  cases refuses with
  | unsupported value unsupported => cases accepts <;> exact unsupported (by decide)
  | notInteger _ other => cases accepts <;> exact other _ rfl
  | samplerate absent =>
    cases accepts with
    | samplerate listed => exact absent listed
  | captureRatio beyond =>
    cases accepts with
    | captureRatio bounded => exact Nat.not_lt.2 bounded beyond

end AnalyzerBoot.Setting
