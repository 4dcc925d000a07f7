/-!
Points in time and spans of time. A clock counts ticks, which are finer than the milliseconds in
which waits are configured and times are reported.
-/

set_option autoImplicit false

namespace AnalyzerBoot

/-- A point in time in ticks, on a clock whose origin is free. -/
abbrev Instant := Int

abbrev Duration := Nat

namespace Duration

def ticksPerMillisecond : Nat := 1000

def ofMilliseconds (milliseconds : Nat) : Duration :=
  milliseconds * ticksPerMillisecond

/-- Whole milliseconds; a part of one does not count. -/
def milliseconds (duration : Duration) : Nat :=
  duration / ticksPerMillisecond

@[simp] theorem milliseconds_ofMilliseconds (n : Nat) : (ofMilliseconds n).milliseconds = n :=
  Nat.mul_div_cancel n (by decide)

end Duration

/-- The time from one instant to a later one; none has passed until the earlier one is reached. -/
def Instant.since (now earlier : Instant) : Duration :=
  (now - earlier).toNat

end AnalyzerBoot
