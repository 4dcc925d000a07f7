import AnalyzerBoot.Discovery
import AnalyzerBoot.Renumeration

/-!
The configuration of the driver: where firmware is looked for, which USB configuration and interface
are used, and how long to wait for a device to come back.
-/

set_option autoImplicit false

namespace AnalyzerBoot

structure Config where
  -- Searched for firmware before the directories of the environment and the system.
  firmwareDirs : List String := []
  usbConfiguration : UInt8 := Chip.usbConfiguration
  usbInterface : UInt8 := Chip.usbInterface
  -- Milliseconds, like the two below.
  renumSettle : Nat := Chip.settleTime
  renumPollInterval : Nat := Chip.pollInterval
  maxRenumDelay : Nat := Chip.maxDelay
  deriving DecidableEq, Repr

namespace Config

def renumerationPolicy (config : Config) : RenumerationPolicy :=
  ⟨config.renumSettle, config.renumPollInterval, config.maxRenumDelay⟩

def discoverOptions (config : Config) (filter : Option Usb.Filter) : DiscoverOptions :=
  ⟨filter, config.usbConfiguration, config.usbInterface⟩

end Config

end AnalyzerBoot
