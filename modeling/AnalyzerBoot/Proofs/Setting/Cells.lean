import AnalyzerBoot.Proofs.Setting.Acceptance

/-!
The settings of a record as cells that do not know of each other. Whether a setting takes a value
depends on the device alone; one that it takes is read back until it takes another, whatever is
asked of the other settings meanwhile. The options that a device advertises are those it has.
-/

set_option autoImplicit false

namespace AnalyzerBoot.Setting

/-- Gives settings of a record values one after another, whether or not it takes them. -/
def setAll (requests : List (Key × Value)) : StateM Record (List (Except BringupError Unit)) :=
  requests.mapM fun (key, value) => (set key value).run

/-- The values that a setting took, by the answers to the requests. -/
def taken (key : Key) (requests : List (Key × Value)) (answers : List (Except BringupError Unit)) :
    List Value :=
  ((requests.zip answers).filter fun (request, answer) => request.1 = key ∧ answer.isOk).map
    (·.1.2)

/-- What a setting is read as behind some values that it took. -/
def readBehind (values : List Value) (before : Except BringupError Value) :
    Except BringupError Value :=
  values.getLast?.elim before .ok

/-- Two records that are the same but for the values of settings. -/
structure SameDevice (before after : Record) : Prop where
  status : after.status = before.status
  serialNumber : after.serialNumber = before.serialNumber
  connectionId : after.connectionId = before.connectionId
  location : after.location = before.location
  channels : after.channels = before.channels
  groups : after.groups = before.groups
  profile : after.profile = before.profile
  uploadedAt : after.state.uploadedAt = before.state.uploadedAt
  samplerates : after.state.samplerates = before.state.samplerates
  enabled : after.state.enabled = before.state.enabled

/-- Two records that are the same but for the value of one setting. -/
structure SameBut (key : Key) (before after : Record) : Prop extends SameDevice before after where
  samplerate : key ≠ .samplerate → after.state.samplerate = before.state.samplerate
  limitSamples : key ≠ .limitSamples → after.state.limitSamples = before.state.limitSamples
  captureRatio : key ≠ .captureRatio → after.state.captureRatio = before.state.captureRatio

theorem SameDevice.refl (record : Record) : SameDevice record record :=
  ⟨rfl, rfl, rfl, rfl, rfl, rfl, rfl, rfl, rfl, rfl⟩

theorem SameDevice.trans {first second third : Record} (left : SameDevice first second)
    (right : SameDevice second third) : SameDevice first third where
  status := right.status.trans left.status
  serialNumber := right.serialNumber.trans left.serialNumber
  connectionId := right.connectionId.trans left.connectionId
  location := right.location.trans left.location
  channels := right.channels.trans left.channels
  groups := right.groups.trans left.groups
  profile := right.profile.trans left.profile
  uploadedAt := right.uploadedAt.trans left.uploadedAt
  samplerates := right.samplerates.trans left.samplerates
  enabled := right.enabled.trans left.enabled

theorem SameBut.refl (key : Key) (record : Record) : SameBut key record record :=
  ⟨.refl record, fun _ => rfl, fun _ => rfl, fun _ => rfl⟩

/-- Records of one device are the same if their settings are read alike. -/
theorem SameDevice.eq_of_get {record first second : Record} (one : SameDevice record first)
    (two : SameDevice record second) (alike : ∀ key, get first key = get second key) :
    first = second := by
  have samplerate : first.state.samplerate = second.state.samplerate := by
    simpa [get] using alike .samplerate
  have limitSamples : first.state.limitSamples = second.state.limitSamples := by
    simpa [get] using alike .limitSamples
  have captureRatio : first.state.captureRatio = second.state.captureRatio := by
    simpa [get] using alike .captureRatio
  have profile : first.state.profile = second.state.profile := one.profile.trans two.profile.symm
  rcases first with ⟨_, _, _, _, _, _, ⟨_, _, _, _, _, _, _⟩⟩
  rcases second with ⟨_, _, _, _, _, _, ⟨_, _, _, _, _, _, _⟩⟩
  simp only [Record.mk.injEq, DeviceState.mk.injEq]
  exact ⟨one.status.trans two.status.symm, one.serialNumber.trans two.serialNumber.symm,
    one.connectionId.trans two.connectionId.symm, one.location.trans two.location.symm,
    one.channels.trans two.channels.symm, one.groups.trans two.groups.symm, profile,
    one.uploadedAt.trans two.uploadedAt.symm, one.samplerates.trans two.samplerates.symm,
    samplerate, limitSamples, captureRatio, one.enabled.trans two.enabled.symm⟩

variable {record after : Record} {key other : Key} {value : Value}

/-! A single value -/

theorem exists_accepts_iff :
    (∃ after, Accepts record key value after) ↔
      ∃ n, value = .integer n ∧ (key = .limitSamples ∨
        key = .samplerate ∧ n ∈ record.state.samplerates ∨ key = .captureRatio ∧ n ≤ 100) := by
  constructor
  · rintro ⟨after, accepts⟩
    cases accepts with
    | samplerate listed => exact ⟨_, rfl, .inr (.inl ⟨rfl, listed⟩)⟩
    | limitSamples limit => exact ⟨_, rfl, .inl rfl⟩
    | captureRatio bounded => exact ⟨_, rfl, .inr (.inr ⟨rfl, bounded⟩)⟩
  · rintro ⟨n, rfl, rfl | ⟨rfl, listed⟩ | ⟨rfl, bounded⟩⟩
    · exact ⟨_, .limitSamples n⟩
    · exact ⟨_, .samplerate listed⟩
    · exact ⟨_, .captureRatio bounded⟩

theorem get_of_accepts (accepts : Accepts record key value after) : get after key = .ok value := by
  cases accepts <;> rfl

theorem sameBut_of_accepts (accepts : Accepts record key value after) :
    SameBut key record after := by
  cases accepts with
  | samplerate listed => exact { SameBut.refl .samplerate record with samplerate := absurd rfl }
  | limitSamples limit =>
    exact { SameBut.refl .limitSamples record with limitSamples := absurd rfl }
  | captureRatio bounded =>
    exact { SameBut.refl .captureRatio record with captureRatio := absurd rfl }

theorem sameBut_set (record : Record) (key : Key) (value : Value) :
    SameBut key record ((set key value).run record).2 := by
  obtain ⟨after, accepts, ran⟩ | ⟨error, -, ran⟩ := set_cases record key value
  · rw [ran]
    exact sameBut_of_accepts accepts
  · rw [ran]
    exact .refl key record

theorem SameBut.get_eq (same : SameBut key record after) (different : other ≠ key) :
    get after other = get record other := by
  have different := different.symm
  cases other
  case conn => simp only [get, same.location]
  case samplerate => simp only [get, same.samplerate different]
  case limitSamples => simp only [get, same.limitSamples different]
  case captureRatio => simp only [get, same.captureRatio different]
  all_goals rfl

/-- What is answered does not depend on the values that settings have. -/
theorem answer_congr (same : SameDevice record after) (key : Key) (value : Value) :
    ((set key value).run after).1 = ((set key value).run record).1 := by
  cases value with
  | integer n =>
    cases key
    -- A rate is looked up in a table that is the same, and its refusal names the same model.
    case samplerate =>
      rw [set_samplerate, set_samplerate, same.samplerates, same.profile]
      split <;> rfl
    case captureRatio =>
      rw [set_captureRatio, set_captureRatio]
      split <;> rfl
    all_goals rfl
  | _ => cases key <;> rfl

/-! Many values -/

theorem setAll_cons (key : Key) (value : Value) (rest : List (Key × Value)) (record : Record) :
    setAll ((key, value) :: rest) record =
      let (answer, after) := (set key value).run record
      let (answers, last) := setAll rest after
      (answer :: answers, last) := by
  rw [setAll, List.mapM_cons]
  rfl

theorem sameDevice_setAll (record : Record) (requests : List (Key × Value)) :
    SameDevice record (setAll requests record).2 := by
  induction requests generalizing record with
  | nil => exact .refl record
  | cons request rest ih =>
    rw [setAll_cons]
    exact (sameBut_set record request.1 request.2).toSameDevice.trans (ih _)

/-- Each request gets the answer that it would have got in front of all others. -/
theorem answers_setAll (record : Record) (requests : List (Key × Value)) :
    (setAll requests record).1 =
      requests.map fun (key, value) => ((set key value).run record).1 := by
  induction requests generalizing record with
  | nil => rfl
  | cons request rest ih =>
    have same := (sameBut_set record request.1 request.2).toSameDevice
    rw [setAll_cons, List.map_cons]
    refine congrArg _ ((ih _).trans ?_)
    exact List.map_congr_left fun later _ => answer_congr same later.1 later.2

theorem taken_cons (key asked : Key) (value : Value) (requests : List (Key × Value))
    (answer : Except BringupError Unit) (answers : List (Except BringupError Unit)) :
    taken key ((asked, value) :: requests) (answer :: answers) =
      (if asked = key ∧ answer.isOk then [value] else []) ++ taken key requests answers := by
  rw [taken, List.zip_cons_cons, List.filter_cons]
  simp only [decide_eq_true_eq]
  split <;> rfl

theorem readBehind_append (front back : List Value) (before : Except BringupError Value) :
    readBehind (front ++ back) before = readBehind back (readBehind front before) := by
  unfold readBehind
  rw [List.getLast?_append]
  cases back.getLast? <;> rfl

theorem get_set (record : Record) (asked : Key) (value : Value) (key : Key) :
    get ((set asked value).run record).2 key =
      readBehind (if asked = key ∧ ((set asked value).run record).1.isOk then [value] else [])
        (get record key) := by
  by_cases same : asked = key
  · subst same
    obtain ⟨after, accepts, ran⟩ | ⟨error, -, ran⟩ := set_cases record asked value
    · rw [ran, if_pos ⟨rfl, rfl⟩]
      exact get_of_accepts accepts
    · rw [ran, if_neg (fun both => Bool.false_ne_true both.2)]
      rfl
  · rw [if_neg (fun both => same both.1)]
    exact (sameBut_set record asked value).get_eq (Ne.symm same)

/-- A setting has the last value that it took. -/
theorem get_setAll (record : Record) (key : Key) (requests : List (Key × Value)) :
    get (setAll requests record).2 key =
      readBehind (taken key requests (setAll requests record).1) (get record key) := by
  induction requests generalizing record with
  | nil => rfl
  | cons request rest ih =>
    obtain ⟨asked, value⟩ := request
    rw [setAll_cons]
    refine (ih ((set asked value).run record).2).trans ?_
    rw [get_set, ← readBehind_append]
    exact congrArg (readBehind · _) (taken_cons key asked value rest _ _).symm

/-- Which of two different settings is given its value first does not matter. -/
theorem setAll_swap (record : Record) (value otherValue : Value) (different : key ≠ other) :
    (setAll [(key, value), (other, otherValue)] record).2 =
      (setAll [(other, otherValue), (key, value)] record).2 := by
  refine (sameDevice_setAll record _).eq_of_get (sameDevice_setAll record _) fun read => ?_
  rw [get_setAll, get_setAll, answers_setAll, answers_setAll]
  simp only [List.map_cons, List.map_nil, taken_cons]
  by_cases first : key = read
  · have absent : other ≠ read := fun second => different (first.trans second.symm)
    simp [absent]
  · simp [first]

/-! What is advertised -/

theorem get_supported_iff (record : Record) (key : Key) :
    (∀ unsupported, get record key ≠ .error (.unsupportedKey unsupported)) ↔
      ∃ access ∈ deviceOptions, access.key = key ∧ access.get = true := by
  cases key
  case conn =>
    refine iff_of_true (fun unsupported => ?_) (by decide)
    rw [get]
    split <;> nofun
  case samplerate | limitSamples | captureRatio =>
    exact iff_of_true (fun unsupported => nofun) (by decide)
  all_goals exact iff_of_false (fun supported => supported _ rfl) (by decide)

theorem set_supported_iff (record : Record) (key : Key) (value : Value) :
    (∀ unsupported, ((set key value).run record).1 ≠ .error (.unsupportedKey unsupported)) ↔
      ∃ access ∈ deviceOptions, access.key = key ∧ access.set = true := by
  have advertised : (∃ access ∈ deviceOptions, access.key = key ∧ access.set = true) ↔
      key ∈ numericKeys := by
    cases key <;> decide
  rw [advertised]
  obtain ⟨after, accepts, ran⟩ | ⟨error, refuses, ran⟩ := set_cases record key value
  · rw [ran]
    exact iff_of_true (fun _ => nofun) (by cases accepts <;> decide)
  · rw [ran]
    cases refuses with
    | unsupported value unsupported => exact iff_of_false (fun none => none key rfl) unsupported
    | notInteger numeric _ => exact iff_of_true (fun _ => nofun) numeric
    | samplerate | captureRatio => exact iff_of_true (fun _ => nofun) (by decide)

theorem list_supported_iff (record : Record) :
    ∀ access ∈ deviceOptions,
      (∃ value, list access.key (some record) = .ok value) ↔ access.list = true := by
  simp [deviceOptions, list]

/-- A setting takes the numbers that the device allows and refuses all else, and what it refuses
changes nothing. What it takes is read back, and nothing else is changed. So answers do not depend
on what was asked before, a setting has the last value it took, and the order in which two settings
are given values does not matter. Reading, changing and listing a setting is supported as
advertised. -/
theorem settings_are_independent_cells (record : Record) :
    (∀ key value,
      let (answer, after) := (set key value).run record
      (answer = .ok () ↔ ∃ n, value = .integer n ∧ (key = .limitSamples ∨
        key = .samplerate ∧ n ∈ record.state.samplerates ∨ key = .captureRatio ∧ n ≤ 100)) ∧
      (∀ error, answer = .error error → after = record ∧ Refuses record key value error) ∧
      (answer = .ok () → get after key = .ok value ∧ SameBut key record after ∧
        ∀ other ≠ key, get after other = get record other)) ∧
    (∀ requests,
      let (answers, last) := setAll requests record
      answers = requests.map (fun (key, value) => ((set key value).run record).1) ∧
      ∀ key, get last key = readBehind (taken key requests answers) (get record key)) ∧
    (∀ key other value otherValue, key ≠ other →
      (setAll [(key, value), (other, otherValue)] record).2 =
        (setAll [(other, otherValue), (key, value)] record).2) ∧
    (∀ key,
      ((∀ unsupported, get record key ≠ .error (.unsupportedKey unsupported)) ↔
        ∃ access ∈ deviceOptions, access.key = key ∧ access.get = true) ∧
      ∀ value,
        (∀ unsupported,
          ((set key value).run record).1 ≠ .error (.unsupportedKey unsupported)) ↔
        ∃ access ∈ deviceOptions, access.key = key ∧ access.set = true) ∧
    ∀ access ∈ deviceOptions,
      (∃ value, list access.key (some record) = .ok value) ↔ access.list = true := by
  refine ⟨fun key value => ?_,
    fun requests => ⟨answers_setAll record requests, fun key => get_setAll record key requests⟩,
    fun key other value otherValue different => setAll_swap record value otherValue different,
    fun key => ⟨get_supported_iff record key, set_supported_iff record key⟩,
    list_supported_iff record⟩
  rw [← exists_accepts_iff]
  obtain ⟨after, accepts, ran⟩ | ⟨error, refuses, ran⟩ := set_cases record key value
  · have same := sameBut_of_accepts accepts
    rw [ran]
    exact ⟨iff_of_true rfl ⟨after, accepts⟩, fun _ => nofun,
      fun _ => ⟨get_of_accepts accepts, same, fun other => same.get_eq⟩⟩
  · rw [ran]
    refine ⟨iff_of_false nofun fun ⟨_, accepts⟩ => refuses.not_accepts accepts, ?_, nofun⟩
    rintro _ ⟨⟩
    exact ⟨rfl, refuses⟩

/-- A rate for another controller and a ratio beyond a percentage are refused in between. -/
theorem settings_are_independent_cells_among_refused :
    let profile : Profile :=
      ⟨Chip.cypressVendorId, Chip.fx2LoaderId, "Cypress", "FX2", none, "fx2.fw", .none, none, none⟩
    let record := Record.new profile "" "1-2" ⟨"1", 3⟩
    let requests : List (Key × Value) :=
      [(.captureRatio, .integer 100), (.samplerate, .integer 24000000),
        (.captureRatio, .integer 101), (.samplerate, .integer 96000000),
        (.limitSamples, .text "all"), (.conn, .text "1.4")]
    let last := (setAll requests record).2
    get last .captureRatio = .ok (.integer 100) ∧ get last .samplerate = .ok (.integer 24000000) ∧
      get last .limitSamples = get record .limitSamples ∧ get last .conn = get record .conn := by
  intro profile record requests last
  have read := ((settings_are_independent_cells record).2.1 requests).2
  refine ⟨(read _).trans ?_, (read _).trans ?_, (read _).trans ?_, (read _).trans ?_⟩
  all_goals rfl

end AnalyzerBoot.Setting
