import AnalyzerBoot.Record
import Mathlib.Data.List.Nodup

/-!
What is true of every record that a device has had from the start: its settings are among those its
model offers, and its channels are numbered and grouped without gaps. What a record says of the
device itself stays the same while its settings change.
-/

set_option autoImplicit false

namespace AnalyzerBoot

namespace Profile

variable (profile : Profile)

theorem length_channels :
    profile.channels.length = profile.logicChannels + profile.analogChannels := by
  simp [channels]

theorem index_channels :
    profile.channels.map Channel.index = List.range profile.channels.length := by
  rw [length_channels, channels, List.map_append, List.map_map, List.map_map, List.range_add]
  exact congrArg (· ++ _) (List.map_id' _)

/-- A logic channel is in the group of these, an analog one in its own. -/
theorem countP_groups {index : Nat} (present : index < profile.channels.length) :
    profile.groups.countP (index ∈ ·.channels) = 1 := by
  rw [length_channels] at present
  have analog : (List.range profile.analogChannels).countP (index = profile.logicChannels + ·) =
      if index < profile.logicChannels then 0 else 1 := by
    split
    · next logic =>
      refine List.countP_eq_zero.2 fun j _ => ?_
      rw [decide_eq_true_iff]
      omega
    · next logic =>
      have own : index - profile.logicChannels ∈ List.range profile.analogChannels :=
        List.mem_range.2 (by omega)
      rw [← List.count_eq_one_of_mem List.nodup_range own, List.count]
      refine List.countP_congr fun j _ => ?_
      rw [decide_eq_true_iff, beq_iff_eq]
      omega
  have single : (fun group => decide (index ∈ group.channels)) ∘
      (fun j => ChannelGroup.mk ("A" ++ toString j) [profile.logicChannels + j]) =
      fun j => decide (index = profile.logicChannels + j) := by
    funext j
    simp
  rw [groups, List.countP_cons, List.countP_map, single, analog]
  simp only [List.mem_range]
  split <;> simp [*]

/-- The slowest rate comes first. -/
theorem min?_samplerates : profile.samplerates.min? = some (profile.samplerates.headD 0) := by
  rw [samplerates]
  cases profile.caps.fx3 <;> decide

theorem headD_mem_samplerates : profile.samplerates.headD 0 ∈ profile.samplerates :=
  List.min?_mem profile.min?_samplerates

theorem zero_not_mem_samplerates : 0 ∉ profile.samplerates := by
  rw [samplerates]
  cases profile.caps.fx3 <;> decide

end Profile

namespace Record

/-- A record whose settings its model allows and whose channels are in order. -/
structure IsSound (record : Record) : Prop where
  samplerates : record.state.samplerates = record.profile.samplerates
  samplerate : record.state.samplerate = 0 ∨ record.state.samplerate ∈ record.profile.samplerates
  captureRatio : record.state.captureRatio ≤ 100
  enabled : ∀ index ∈ record.state.enabled, index ∈ record.channels.map Channel.index
  indices : record.channels.map Channel.index = List.range record.channels.length
  grouped : ∀ channel ∈ record.channels,
    record.groups.countP (channel.index ∈ ·.channels) = 1
  active : record.status = .active →
    record.state.samplerate ≠ 0 ∧ record.state.samplerate ∈ record.profile.samplerates

/-- Two records of the same device, the second one no earlier than the first. -/
structure Continues (before after : Record) : Prop where
  profile : after.profile = before.profile
  samplerates : after.state.samplerates = before.state.samplerates
  channels : after.channels = before.channels
  groups : after.groups = before.groups
  serialNumber : after.serialNumber = before.serialNumber
  connectionId : after.connectionId = before.connectionId
  busId : after.location.busId = before.location.busId
  uploadedAt : ∀ instant, before.state.uploadedAt = some instant →
    ∃ later, after.state.uploadedAt = some later ∧ instant ≤ later

theorem Continues.refl (record : Record) : Continues record record :=
  ⟨rfl, rfl, rfl, rfl, rfl, rfl, rfl, fun instant noted => ⟨instant, noted, Int.le_refl instant⟩⟩

theorem Continues.trans {first second third : Record} (left : Continues first second)
    (right : Continues second third) : Continues first third where
  profile := right.profile.trans left.profile
  samplerates := right.samplerates.trans left.samplerates
  channels := right.channels.trans left.channels
  groups := right.groups.trans left.groups
  serialNumber := right.serialNumber.trans left.serialNumber
  connectionId := right.connectionId.trans left.connectionId
  busId := right.busId.trans left.busId
  uploadedAt instant noted := by
    obtain ⟨between, noted, first⟩ := left.uploadedAt instant noted
    obtain ⟨later, noted, second⟩ := right.uploadedAt between noted
    exact ⟨later, noted, Int.le_trans first second⟩

theorem isSound_new (profile : Profile) (serialNumber connectionId : String)
    (location : Location) : (new profile serialNumber connectionId location).IsSound where
  samplerates := rfl
  samplerate := .inl rfl
  captureRatio := Nat.zero_le 100
  enabled _ member := member
  indices := profile.index_channels
  grouped channel member := by
    have indexed : channel.index ∈ profile.channels.map Channel.index := List.mem_map_of_mem member
    rw [profile.index_channels, List.mem_range] at indexed
    exact profile.countP_groups indexed
  active := nofun

variable {record : Record}

theorem IsSound.withAddress (sound : record.IsSound) (address : UInt8) :
    (record.withAddress address).IsSound :=
  { sound with }

theorem continues_withAddress (record : Record) (address : UInt8) :
    Continues record (record.withAddress address) :=
  { Continues.refl record with }

theorem IsSound.markUploaded (sound : record.IsSound) (instant : Instant) :
    (record.markUploaded instant).IsSound :=
  { sound with }

theorem continues_markUploaded (record : Record) (instant : Instant) :
    Continues record (record.markUploaded instant) where
  profile := rfl
  samplerates := rfl
  channels := rfl
  groups := rfl
  serialNumber := rfl
  connectionId := rfl
  busId := rfl
  uploadedAt earlier noted := by
    refine ⟨max earlier instant, ?_, Int.le_max_left earlier instant⟩
    change some (record.state.uploadedAt.elim instant (max · instant)) = _
    rw [noted, Option.elim_some]

theorem IsSound.setChannelEnabled (sound : record.IsSound) (index : Nat) (enabled : Bool) :
    (Record.setChannelEnabled index enabled record).2.IsSound := by
  rw [setChannelEnabled_apply]
  split
  · exact sound
  · next present =>
    refine { sound with enabled := fun other member => ?_ }
    dsimp only [changeState, DeviceState.setEnabled] at member ⊢
    split at member
    · obtain rfl | earlier := mem_insertAscending.1 member
      · rw [sound.indices]
        exact List.mem_range.2 (Nat.lt_of_not_le present)
      · exact sound.enabled other earlier
    · exact sound.enabled other (List.mem_of_mem_filter member)

theorem continues_setChannelEnabled (record : Record) (index : Nat) (enabled : Bool) :
    Continues record (setChannelEnabled index enabled record).2 := by
  rw [setChannelEnabled_apply]
  split
  · exact .refl record
  · exact { Continues.refl record with }

end Record

end AnalyzerBoot
