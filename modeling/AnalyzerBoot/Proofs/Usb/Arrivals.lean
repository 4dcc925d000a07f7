import AnalyzerBoot.Proofs.Usb.Operations

/-!
Which devices a simulated bus lists behind a run of operations. A device that is plugged in at once
appears there and then, one that is to miss some listings appears in the listing behind those. From
then on it is listed until its address is unplugged; unplugging the address before that is no harm.
-/

set_option autoImplicit false

namespace AnalyzerBoot.Usb

/-! A list split at one of its members. -/

section
variable {α : Type} {front back otherFront otherBack : List α} {head other last : α}

theorem concat_eq_append_cons_iff {run : List α} :
    run ++ [last] = front ++ head :: back ↔
      (∃ rest, back = rest ++ [last] ∧ run = front ++ head :: rest) ∨
        (back = [] ∧ head = last ∧ front = run) := by
  cases back using List.reverseRecOn with
  | nil =>
    rw [List.append_singleton_inj]
    constructor
    · rintro ⟨rfl, rfl⟩
      exact .inr ⟨rfl, rfl, rfl⟩
    · rintro (⟨rest, absurdity, -⟩ | ⟨-, rfl, rfl⟩)
      · simp at absurdity
      · exact ⟨rfl, rfl⟩
  | append_singleton rest final =>
    rw [← List.cons_append, ← List.append_assoc, List.append_singleton_inj]
    constructor
    · rintro ⟨rfl, rfl⟩
      exact .inl ⟨rest, rfl, rfl⟩
    · rintro (⟨others, same, rfl⟩ | ⟨absurdity, -⟩)
      · obtain ⟨rfl, rfl⟩ := List.append_singleton_inj.1 same
        exact ⟨rfl, rfl⟩
      · simp at absurdity

theorem eq_of_split (split : front ++ head :: back = otherFront ++ other :: otherBack)
    (same : front.length = otherFront.length) :
    front = otherFront ∧ head = other ∧ back = otherBack := by
  obtain ⟨fronts, rests⟩ := List.append_inj split same
  exact ⟨fronts, List.cons.inj rests⟩

theorem exists_between (split : front ++ head :: back = otherFront ++ other :: otherBack)
    (earlier : front.length < otherFront.length) :
    ∃ middle, otherFront = front ++ head :: middle ∧ back = middle ++ other :: otherBack := by
  rcases List.append_eq_append_iff.1 split with ⟨rest, longer, same⟩ | ⟨rest, longer, -⟩
  · cases rest with
    | nil => simp [longer] at earlier
    | cons first middle =>
      obtain ⟨rfl, rests⟩ := List.cons.inj same
      exact ⟨middle, longer, rests⟩
  · rw [longer, List.length_append] at earlier
    omega

end

/-- Listings come one after the other, so each number of them is passed at some listing. -/
theorem exists_listing {run : List Operation} {count : Nat} (more : count < listings run) :
    ∃ wait rest, run = wait ++ .list :: rest ∧ listings wait = count := by
  induction run generalizing count with
  | nil => simp at more
  | cons operation run ih =>
    by_cases listing : operation = .list
    · subst listing
      cases count with
      | zero => exact ⟨[], run, rfl, rfl⟩
      | succ count =>
        rw [listings_cons_list, Nat.add_lt_add_iff_right] at more
        obtain ⟨wait, rest, rfl, counted⟩ := ih more
        exact ⟨.list :: wait, rest, rfl, by rw [listings_cons_list, counted]⟩
    · have skipped (some : List Operation) : listings (operation :: some) = listings some :=
        List.count_cons_of_ne listing
      rw [skipped] at more
      obtain ⟨wait, rest, rfl, counted⟩ := ih more
      exact ⟨operation :: wait, rest, rfl, by rw [skipped, counted]⟩

/-- A device that appeared on a bus, with the places in a run at which it was plugged in and at
which it appeared. -/
@[ext]
structure Arrival where
  device : Device
  added : Nat
  appeared : Nat

/-- A device that was plugged in at a place of a run and has still to miss some listings. -/
@[ext]
structure Upcoming where
  device : Device
  added : Nat
  left : Nat

namespace Arrival

/-- The order of appearance, and of being plugged in where that was in one listing. Devices plugged
in at once appear between listings, so in front of all that appear in the next. -/
def Precedes (first second : Arrival) : Prop :=
  first.appeared < second.appeared ∨
    first.appeared = second.appeared ∧ first.added < second.added

/-- Unplugs the device. -/
def removal (arrival : Arrival) : Operation :=
  .remove arrival.device.candidate.address

/-- How a device comes to appear in a run, in front of the operations given: with the operation that
plugs it in at once, or with the listing behind as many as it has to miss. -/
inductive Appears (run : List Operation) : Arrival → List Operation → Prop
  | atOnce {device : Device} {front back : List Operation} :
    run = front ++ .add device :: back → Appears run ⟨device, front.length, front.length⟩ back
  | delayed {device : Device} {front wait back : List Operation} :
    run = front ++ .addAfter device (listings wait) :: (wait ++ .list :: back) →
    Appears run ⟨device, front.length, front.length + 1 + wait.length⟩ back

/-- It has appeared and was not unplugged since. -/
def IsShown (run : List Operation) (arrival : Arrival) : Prop :=
  ∃ back, arrival.Appears run back ∧ arrival.removal ∉ back

end Arrival

namespace Upcoming

def IsPending (run : List Operation) (upcoming : Upcoming) : Prop :=
  ∃ front back, upcoming.added = front.length ∧
    run = front ++ .addAfter upcoming.device (listings back + upcoming.left) :: back

/-- A device that appears at a place of the run. -/
def arrive (place : Nat) (upcoming : Upcoming) : Arrival :=
  ⟨upcoming.device, upcoming.added, place⟩

def closer (upcoming : Upcoming) : Upcoming :=
  { upcoming with left := upcoming.left - 1 }

end Upcoming

/-- What the listing made behind a run has to show. -/
structure IsListing (run : List Operation) (shown : List Arrival) : Prop where
  appeared : ∀ arrival ∈ shown, ∃ back, arrival.Appears (run ++ [.list]) back
  ordered : shown.Pairwise Arrival.Precedes
  /-- No device is shown twice for being plugged in once. -/
  once : (shown.map Arrival.added).Nodup
  atOnce {front back : List Operation} {device : Device} : run = front ++ .add device :: back →
    ((∃ place, ⟨device, front.length, place⟩ ∈ shown) ↔
      .remove device.candidate.address ∉ back)
  /-- The device has missed its listings, and its address was at most unplugged before. -/
  delayed {front back : List Operation} {device : Device} {delay : Nat} :
    run = front ++ .addAfter device delay :: back →
    ((∃ place, ⟨device, front.length, place⟩ ∈ shown) ↔
      delay ≤ listings back ∧ ∀ wait rest,
        back = wait ++ .remove device.candidate.address :: rest → listings wait ≤ delay)

section
variable {run back : List Operation} {operation : Operation} {arrival : Arrival}
variable {upcoming : Upcoming}

theorem Arrival.Appears.lt (appears : arrival.Appears run back) :
    arrival.added ≤ arrival.appeared ∧ arrival.appeared < run.length := by
  cases appears with
  | atOnce split => simp [split]
  | delayed split =>
    simp only [split, List.length_append, List.length_cons]
    omega

theorem Upcoming.IsPending.lt (pending : upcoming.IsPending run) :
    upcoming.added < run.length := by
  obtain ⟨front, back, place, split⟩ := pending
  simp [place, split]

/-- A device appears where it is plugged in at once, or in the listing that it need not miss. -/
theorem Arrival.appears_concat_iff :
    arrival.Appears (run ++ [operation]) back ↔
      (∃ rest, back = rest ++ [operation] ∧ arrival.Appears run rest) ∨
        (back = [] ∧ arrival.appeared = run.length ∧
          (operation = .add arrival.device ∧ arrival.added = run.length ∨
            operation = .list ∧
              Upcoming.IsPending run ⟨arrival.device, arrival.added, 0⟩)) := by
  constructor
  · intro appears
    cases appears with
    | atOnce split =>
      rcases concat_eq_append_cons_iff.1 split with ⟨rest, rfl, before⟩ | ⟨rfl, rfl, rfl⟩
      · exact .inl ⟨rest, rfl, .atOnce before⟩
      · exact .inr ⟨rfl, rfl, .inl ⟨rfl, rfl⟩⟩
    | delayed split =>
      rw [← List.cons_append, ← List.append_assoc] at split
      rcases concat_eq_append_cons_iff.1 split with ⟨rest, rfl, before⟩ | ⟨rfl, rfl, rfl⟩
      · rw [List.append_assoc, List.cons_append] at before
        exact .inl ⟨rest, rfl, .delayed before⟩
      · refine .inr ⟨rfl, ?_, .inr ⟨rfl, _, _, rfl, rfl⟩⟩
        simp only [List.length_append, List.length_cons]
        omega
  · rintro (⟨rest, rfl, appears⟩ | ⟨rfl, place, ⟨rfl, added⟩ | ⟨rfl, front, wait, added, split⟩⟩)
    · cases appears with
      | atOnce split => exact .atOnce (by simp [split])
      | delayed split => exact .delayed (by simp [split])
    · obtain ⟨device, _, _⟩ := arrival
      cases place
      cases added
      exact .atOnce rfl
    · obtain ⟨device, _, _⟩ := arrival
      have length : run.length = front.length + 1 + wait.length := by
        simp only [split, List.length_append, List.length_cons]
        omega
      cases place
      cases added
      rw [length]
      exact .delayed (by rw [split, List.append_assoc, List.cons_append]; rfl)

theorem Arrival.isShown_concat_iff :
    arrival.IsShown (run ++ [operation]) ↔
      arrival.IsShown run ∧ operation ≠ arrival.removal ∨
        arrival.appeared = run.length ∧
          (operation = .add arrival.device ∧ arrival.added = run.length ∨
            operation = .list ∧
              Upcoming.IsPending run ⟨arrival.device, arrival.added, 0⟩) := by
  constructor
  · rintro ⟨back, appears, stays⟩
    rcases appears_concat_iff.1 appears with ⟨rest, rfl, before⟩ | ⟨-, place, came⟩
    · simp only [List.mem_append, List.mem_singleton, not_or] at stays
      exact .inl ⟨⟨rest, before, stays.1⟩, Ne.symm stays.2⟩
    · exact .inr ⟨place, came⟩
  · rintro (⟨⟨rest, before, stays⟩, kept⟩ | ⟨place, came⟩)
    · refine ⟨rest ++ [operation], appears_concat_iff.2 (.inl ⟨rest, rfl, before⟩), ?_⟩
      simp only [List.mem_append, List.mem_singleton, not_or]
      exact ⟨stays, Ne.symm kept⟩
    · exact ⟨[], appears_concat_iff.2 (.inr ⟨rfl, place, came⟩), List.not_mem_nil⟩

theorem Upcoming.isPending_concat_iff :
    upcoming.IsPending (run ++ [operation]) ↔
      operation ≠ .list ∧ upcoming.IsPending run ∨
        operation = .list ∧
          IsPending run { upcoming with left := upcoming.left + 1 } ∨
        operation = .addAfter upcoming.device upcoming.left ∧ upcoming.added = run.length := by
  constructor
  · rintro ⟨front, back, added, split⟩
    rcases concat_eq_append_cons_iff.1 split with ⟨rest, rfl, before⟩ | ⟨rfl, rfl, rfl⟩
    · by_cases listing : operation = .list
      · refine .inr (.inl ⟨listing, front, rest, added, ?_⟩)
        rw [before, listings_concat, if_pos listing, Nat.add_assoc, Nat.add_comm 1]
      · refine .inl ⟨listing, front, rest, added, ?_⟩
        rw [before, listings_concat, if_neg listing, Nat.add_zero]
    · exact .inr (.inr ⟨by rw [listings_nil, Nat.zero_add], added⟩)
  · rintro (⟨other, front, rest, added, rfl⟩ | ⟨rfl, front, rest, added, rfl⟩ | ⟨rfl, added⟩)
    · refine ⟨front, rest ++ [operation], added, ?_⟩
      rw [listings_concat, if_neg other, Nat.add_zero, List.append_assoc, List.cons_append]
    · refine ⟨front, rest ++ [.list], added, ?_⟩
      rw [listings_concat, if_pos rfl, List.append_assoc, List.cons_append, Nat.add_assoc,
        Nat.add_comm 1]
    · exact ⟨run, [], added, by rw [listings_nil, Nat.zero_add]⟩

end

namespace SimulatedBus

/-- The devices of a bus behind a run, each known by where it came from: those that are listed, and
those that are still pending. -/
structure Tracks (run : List Operation) (bus : SimulatedBus) (shown : List Arrival)
    (waiting : List Upcoming) : Prop where
  devices : bus.devices = shown.map Arrival.device
  pending : bus.pending = waiting.map fun upcoming => (upcoming.left, upcoming.device)
  mem_shown (arrival : Arrival) : arrival ∈ shown ↔ arrival.IsShown run
  mem_waiting (upcoming : Upcoming) : upcoming ∈ waiting ↔ upcoming.IsPending run
  ordered : shown.Pairwise Arrival.Precedes
  queued : waiting.Pairwise fun first second => first.added < second.added

namespace Tracks

variable {run : List Operation} {bus : SimulatedBus} {shown : List Arrival}
variable {waiting : List Upcoming}

theorem start : Tracks [] {} [] [] where
  devices := rfl
  pending := rfl
  mem_shown arrival := by
    refine ⟨nofun, ?_⟩
    rintro ⟨back, appears, -⟩
    exact absurd appears.lt.2 (Nat.not_lt_zero _)
  mem_waiting upcoming :=
    ⟨nofun, fun pending => absurd pending.lt (Nat.not_lt_zero _)⟩
  ordered := .nil
  queued := .nil

theorem lt_of_mem (tracks : Tracks run bus shown waiting) {arrival : Arrival}
    (member : arrival ∈ shown) : arrival.appeared < run.length := by
  obtain ⟨back, appears, -⟩ := (tracks.mem_shown arrival).1 member
  exact appears.lt.2

theorem quiet (tracks : Tracks run bus shown waiting) {operation : Operation}
    (still : operation.plugs = false) :
    Tracks (run ++ [operation]) (bus.operate operation) shown waiting := by
  have other {some : Operation} (plugs : some.plugs = true) : operation ≠ some := by
    rintro rfl
    rw [still] at plugs
    cases plugs
  obtain ⟨devices, pending, -⟩ := bus.operate_of_not_plugs still
  refine ⟨devices.trans tracks.devices, pending.trans tracks.pending, fun arrival => ?_,
    fun upcoming => ?_, tracks.ordered, tracks.queued⟩
  · have kept : operation ≠ arrival.removal := other rfl
    have added : operation ≠ .add arrival.device := other rfl
    have listed : operation ≠ .list := other rfl
    simp [tracks.mem_shown, Arrival.isShown_concat_iff, kept, added, listed]
  · have added : operation ≠ .addAfter upcoming.device upcoming.left := other rfl
    have listed : operation ≠ .list := other rfl
    simp [tracks.mem_waiting, Upcoming.isPending_concat_iff, added, listed]

theorem add (tracks : Tracks run bus shown waiting) (device : Device) :
    Tracks (run ++ [.add device]) (bus.add device)
      (shown ++ [⟨device, run.length, run.length⟩]) waiting where
  devices := by simp [SimulatedBus.add, tracks.devices]
  pending := tracks.pending
  mem_shown arrival := by
    simp only [List.mem_append, List.mem_singleton, tracks.mem_shown, Arrival.isShown_concat_iff,
      Arrival.ext_iff, Arrival.removal, Operation.add.injEq, reduceCtorEq, ne_eq]
    tauto
  mem_waiting upcoming := by
    simp [tracks.mem_waiting, Upcoming.isPending_concat_iff]
  ordered := by
    refine List.pairwise_append.2 ⟨tracks.ordered, List.pairwise_singleton _ _, ?_⟩
    intro earlier member latest last
    rw [List.mem_singleton.1 last]
    exact .inl (tracks.lt_of_mem member)
  queued := tracks.queued

theorem addAfter (tracks : Tracks run bus shown waiting) (device : Device) (delay : Nat) :
    Tracks (run ++ [.addAfter device delay]) (bus.addAfter device delay) shown
      (waiting ++ [⟨device, run.length, delay⟩]) where
  devices := tracks.devices
  pending := by simp [SimulatedBus.addAfter, tracks.pending]
  mem_shown arrival := by
    simp [tracks.mem_shown, Arrival.isShown_concat_iff, Arrival.removal]
  mem_waiting upcoming := by
    simp only [List.mem_append, List.mem_singleton, tracks.mem_waiting,
      Upcoming.isPending_concat_iff, Upcoming.ext_iff, Operation.addAfter.injEq, reduceCtorEq,
      ne_eq]
    tauto
  ordered := tracks.ordered
  queued := by
    refine List.pairwise_append.2 ⟨tracks.queued, List.pairwise_singleton _ _, ?_⟩
    intro earlier member latest last
    rw [List.mem_singleton.1 last]
    exact ((tracks.mem_waiting earlier).1 member).lt

/-- Unplugging an address leaves the devices that are still pending. -/
theorem remove (tracks : Tracks run bus shown waiting) (address : UInt8) :
    Tracks (run ++ [.remove address]) (bus.remove address)
      (shown.filter (·.device.candidate.address != address)) waiting where
  devices := by
    rw [SimulatedBus.remove, tracks.devices, List.filter_map]
    rfl
  pending := tracks.pending
  mem_shown arrival := by
    simp only [List.mem_filter, bne_iff_ne, tracks.mem_shown, Arrival.isShown_concat_iff,
      Arrival.removal, Operation.remove.injEq, reduceCtorEq, ne_eq]
    tauto
  mem_waiting upcoming := by
    simp [tracks.mem_waiting, Upcoming.isPending_concat_iff]
  ordered := tracks.ordered.filter _
  queued := tracks.queued

/-- The devices that have missed their listings come behind those that were listed before. -/
theorem list (tracks : Tracks run bus shown waiting) :
    Tracks (run ++ [.list]) bus.appear
      (shown ++ (waiting.filter (·.left == 0)).map (·.arrive run.length))
      ((waiting.filter (·.left != 0)).map Upcoming.closer) where
  devices := by
    simp [appear, tracks.devices, tracks.pending, List.filter_map, Function.comp_def,
      Upcoming.arrive]
  pending := by
    simp [appear, tracks.pending, List.filter_map, Function.comp_def, Upcoming.closer]
  mem_shown arrival := by
    have due : arrival ∈ (waiting.filter (·.left == 0)).map (·.arrive run.length) ↔
        arrival.appeared = run.length ∧
          Upcoming.IsPending run ⟨arrival.device, arrival.added, 0⟩ := by
      simp only [List.mem_map, List.mem_filter, beq_iff_eq, ← tracks.mem_waiting]
      constructor
      · rintro ⟨⟨device, added, left⟩, ⟨member, rfl⟩, rfl⟩
        exact ⟨rfl, member⟩
      · rintro ⟨place, member⟩
        exact ⟨_, ⟨member, rfl⟩, Arrival.ext rfl rfl place.symm⟩
    rw [List.mem_append, due, tracks.mem_shown, Arrival.isShown_concat_iff]
    simp [Arrival.removal]
  mem_waiting upcoming := by
    simp only [Upcoming.isPending_concat_iff, ← tracks.mem_waiting, List.mem_map, List.mem_filter,
      bne_iff_ne, ne_eq, not_true_eq_false, false_and, true_and, false_or, reduceCtorEq, or_false]
    constructor
    · rintro ⟨other, ⟨member, early⟩, rfl⟩
      have again : { other.closer with left := other.closer.left + 1 } = other :=
        Upcoming.ext rfl rfl (Nat.sub_one_add_one early)
      rw [again]
      exact member
    · intro member
      exact ⟨_, ⟨member, Nat.succ_ne_zero _⟩, rfl⟩
  ordered := by
    refine List.pairwise_append.2 ⟨tracks.ordered, ?_, ?_⟩
    · refine List.pairwise_map.2 ((tracks.queued.filter _).imp fun earlier => ?_)
      exact .inr ⟨rfl, earlier⟩
    · intro earlier member latest last
      obtain ⟨upcoming, -, rfl⟩ := List.mem_map.1 last
      exact .inl (tracks.lt_of_mem member)
  queued := List.pairwise_map.2 (tracks.queued.filter _)

theorem operate (tracks : Tracks run bus shown waiting) (operation : Operation) :
    ∃ shown waiting, Tracks (run ++ [operation]) (bus.operate operation) shown waiting := by
  cases operation with
  | add device => exact ⟨_, _, tracks.add device⟩
  | addAfter device delay => exact ⟨_, _, tracks.addAfter device delay⟩
  | remove address => exact ⟨_, _, tracks.remove address⟩
  | list => exact ⟨_, _, tracks.list⟩
  | _ => exact ⟨_, _, tracks.quiet rfl⟩

end Tracks

theorem exists_tracks (run : List Operation) :
    ∃ shown waiting, Tracks run (behind run {}) shown waiting := by
  induction run using List.reverseRecOn with
  | nil => exact ⟨[], [], .start⟩
  | append_singleton run operation ih =>
    obtain ⟨shown, waiting, tracks⟩ := ih
    rw [behind_concat]
    exact tracks.operate operation

end SimulatedBus

/-! What is known of the members of a listing from the run alone. -/

section
variable {run front back otherBack wait : List Operation} {device : Device} {delay : Nat}

theorem eq_of_listings {otherWait : List Operation}
    (split : wait ++ .list :: back = otherWait ++ .list :: otherBack)
    (same : listings wait = listings otherWait) : wait = otherWait := by
  rcases Nat.lt_trichotomy wait.length otherWait.length with shorter | equal | longer
  · obtain ⟨middle, rfl, -⟩ := exists_between split shorter
    simp at same
  · exact (eq_of_split split equal).1
  · obtain ⟨middle, rfl, -⟩ := exists_between split.symm longer
    simp at same

namespace Arrival.Appears

variable {arrival : Arrival}

theorem of_add (appears : arrival.Appears (front ++ .add device :: back) otherBack)
    (here : arrival.added = front.length) :
    arrival = ⟨device, front.length, front.length⟩ ∧ otherBack = back := by
  cases appears with
  | atOnce split =>
    obtain ⟨rfl, plugged, rfl⟩ := eq_of_split split here.symm
    cases plugged
    exact ⟨rfl, rfl⟩
  | delayed split => cases (eq_of_split split here.symm).2.1

theorem of_addAfter
    (appears : arrival.Appears (front ++ .addAfter device delay :: back) otherBack)
    (here : arrival.added = front.length) :
    ∃ wait, back = wait ++ .list :: otherBack ∧ listings wait = delay ∧
      arrival = ⟨device, front.length, front.length + 1 + wait.length⟩ := by
  cases appears with
  | atOnce split => cases (eq_of_split split here.symm).2.1
  | delayed split =>
    obtain ⟨rfl, plugged, rests⟩ := eq_of_split split here.symm
    cases plugged
    exact ⟨_, rests, rfl, rfl⟩

/-- Plugging in a device makes it appear once. -/
theorem unique {other : Arrival} (appears : arrival.Appears run back)
    (again : other.Appears run otherBack) (same : arrival.added = other.added) :
    arrival = other := by
  cases appears with
  | atOnce split =>
    subst split
    exact (again.of_add same.symm).1.symm
  | delayed split =>
    subst split
    obtain ⟨wait, rests, passed, rfl⟩ := again.of_addAfter same.symm
    rw [eq_of_listings rests passed.symm]

end Arrival.Appears

theorem exists_isShown_add_iff :
    (∃ place, Arrival.IsShown (front ++ .add device :: back) ⟨device, front.length, place⟩) ↔
      .remove device.candidate.address ∉ back := by
  constructor
  · rintro ⟨place, rest, appears, stays⟩
    rw [← (appears.of_add rfl).2]
    exact stays
  · intro stays
    exact ⟨front.length, back, .atOnce rfl, stays⟩

theorem exists_isShown_addAfter_iff :
    (∃ place, Arrival.IsShown (front ++ .addAfter device delay :: back)
      ⟨device, front.length, place⟩) ↔
      ∃ wait rest, back = wait ++ .list :: rest ∧ listings wait = delay ∧
        .remove device.candidate.address ∉ rest := by
  constructor
  · rintro ⟨place, rest, appears, stays⟩
    obtain ⟨wait, split, passed, -⟩ := appears.of_addAfter rfl
    exact ⟨wait, rest, split, passed, stays⟩
  · rintro ⟨wait, rest, rfl, rfl, stays⟩
    exact ⟨_, rest, .delayed rfl, stays⟩

/-- At a listing a device has missed as many as it had to, and was not unplugged since it appeared,
just if as many were made in front of this one and its address was at most unplugged earlier. -/
theorem exists_passed_iff {address : UInt8} :
    (∃ wait rest, back ++ [.list] = wait ++ .list :: rest ∧ listings wait = delay ∧
      .remove address ∉ rest) ↔
      delay ≤ listings back ∧
        ∀ wait rest, back = wait ++ .remove address :: rest → listings wait ≤ delay := by
  constructor
  · rintro ⟨wait, rest, split, rfl, stays⟩
    refine ⟨?_, ?_⟩
    · have counted := congrArg listings split
      simp only [listings_append, listings_cons_list, listings_nil] at counted
      omega
    · rintro early late rfl
      rw [List.append_assoc, List.cons_append] at split
      rcases Nat.lt_trichotomy wait.length early.length with shorter | equal | longer
      · obtain ⟨middle, -, rfl⟩ := exists_between split.symm shorter
        exact absurd (List.mem_append_right _ List.mem_cons_self) stays
      · cases (eq_of_split split equal.symm).2.1
      · obtain ⟨middle, rfl, -⟩ := exists_between split longer
        rw [listings_append]
        exact Nat.le_add_right _ _
  · rintro ⟨passed, early⟩
    have more : delay < listings (back ++ [.list]) := by
      rw [listings_concat, if_pos rfl]
      omega
    obtain ⟨wait, rest, split, counted⟩ := exists_listing more
    refine ⟨wait, rest, split, counted, fun member => ?_⟩
    -- A later unplugging stands in front of the last listing, and behind the one of the appearance.
    obtain ⟨middle, last, rfl⟩ := List.append_of_mem member
    rw [← List.cons_append, ← List.append_assoc] at split
    rcases concat_eq_append_cons_iff.1 split with ⟨last, -, before⟩ | ⟨-, absurdity, -⟩
    · have late := early _ _ before
      simp only [listings_append, listings_cons_list] at late
      omega
    · cases absurdity

end

namespace SimulatedBus

theorem Tracks.isListing {run : List Operation} {bus : SimulatedBus} {shown : List Arrival}
    {waiting : List Upcoming} (tracks : Tracks (run ++ [.list]) bus shown waiting) :
    IsListing run shown where
  appeared arrival member := by
    obtain ⟨back, appears, -⟩ := (tracks.mem_shown arrival).1 member
    exact ⟨back, appears⟩
  ordered := tracks.ordered
  once := by
    refine List.pairwise_map.2 (tracks.ordered.imp_of_mem ?_)
    intro first second one two precedes same
    obtain ⟨_, appears, -⟩ := (tracks.mem_shown first).1 one
    obtain ⟨_, again, -⟩ := (tracks.mem_shown second).1 two
    cases appears.unique again same
    rcases precedes with earlier | ⟨-, earlier⟩ <;> exact absurd earlier (Nat.lt_irrefl _)
  atOnce := by
    rintro front back device rfl
    simp only [tracks.mem_shown, List.append_assoc, List.cons_append, exists_isShown_add_iff]
    simp
  delayed := by
    rintro front back device delay rfl
    simp only [tracks.mem_shown, List.append_assoc, List.cons_append,
      exists_isShown_addAfter_iff, exists_passed_iff]

/-- A simulated bus lists each device once from its appearance until its address is unplugged, in
the order of appearance, and counts its listings; unplugging leaves pending devices alone. If it is
ordered to fail the transfer behind some number of accepted ones, it fails that one and no other,
and records all others in order, whatever else is done to it in between. -/
theorem listings_and_faults_follow_run :
    (∀ run : List Operation, let bus := behind run {}
      (∃ shown, (listDevices bus).1 = .ok (shown.map (·.device.candidate)) ∧
        IsListing run shown) ∧
      bus.listCount = listings run ∧
      ∀ address, (bus.remove address).pending = bus.pending) ∧
    ∀ (bus : SimulatedBus) (position : Nat) (run : List Operation),
      bus.transfers.size ≤ position → (∀ other, .failTransferAt other ∉ run) →
      let faulty := (bus.operate (.failTransferAt position)).behind run
      faulty.transfers.toList =
        bus.transfers.toList ++ (offered run).eraseIdx (position - bus.transfers.size) ∧
      ∀ handle transfer, (transferOut handle transfer faulty).1 =
        if (offered run).length = position - bus.transfers.size then .error faultError
        else .ok transfer.data.length := by
  refine ⟨fun run => ⟨?_, ?_, fun address => rfl⟩, ?_⟩
  · obtain ⟨shown, waiting, tracks⟩ := exists_tracks (run ++ [.list])
    refine ⟨shown, ?_, tracks.isListing⟩
    have listed := tracks.devices
    rw [behind_concat] at listed
    change Except.ok ((operate .list (behind run {})).devices.map Device.candidate) = _
    rw [listed, List.map_map]
    rfl
  · rw [listCount_behind]
    exact Nat.zero_add _
  · intro bus position run ahead kept faulty
    have strikes := bus.strikes_behind ahead run kept
    refine ⟨strikes.transfers, fun handle transfer => ?_⟩
    rw [strikes.transferOut_eq, apply_ite Prod.fst]

/-- An address is unplugged while its device has still to miss a listing; of three transfers the
second fails. -/
theorem listings_and_faults_follow_run_past_early_unplugging :
    let late : Device := ⟨⟨"1", 9, 0x04B4, 0x00F3, some "1-1"⟩, ⟨"", "", ""⟩, false, false⟩
    let run := [Operation.addAfter late 1, .remove 9, .list]
    let write (byte : UInt8) : Transfer := ⟨Chip.loadRequest, 0, 0, [byte], 100⟩
    let attempts := [1, 2, 3].map fun byte => Operation.transferOut ⟨late, none⟩ (write byte)
    (∃ (shown : List Arrival) (place : Nat),
      (listDevices (behind run {})).1 = .ok (shown.map (·.device.candidate)) ∧
        ⟨late, 0, place⟩ ∈ shown) ∧
    ({} : SimulatedBus).transfers.size ≤ 1 ∧ (∀ other, .failTransferAt other ∉ attempts) ∧
    (behind attempts (operate (.failTransferAt 1) {})).transfers.toList = [write 1, write 3] := by
  intro late run write attempts
  obtain ⟨lists, fails⟩ := listings_and_faults_follow_run
  obtain ⟨⟨shown, listed, listing⟩, -⟩ := lists run
  have plugged : run = [] ++ .addAfter late 1 :: [.remove 9, .list] := rfl
  have early : ∀ wait rest, [.remove 9, .list] = wait ++ .remove late.candidate.address :: rest →
      listings wait ≤ 1 := by
    intro wait rest split
    have counted : 1 = listings (wait ++ .remove late.candidate.address :: rest) :=
      congrArg listings split
    rw [listings_append] at counted
    omega
  obtain ⟨place, member⟩ := (listing.delayed plugged).2 ⟨by decide, early⟩
  have kept : ∀ other, .failTransferAt other ∉ attempts := by
    simp [attempts]
  exact ⟨⟨shown, place, listed, member⟩, by decide, kept, (fails {} 1 attempts (by decide) kept).1⟩

end SimulatedBus

end AnalyzerBoot.Usb
