import MapleBus.Address
import MapleBus.Device.ReportLink
import MapleBus.Error

/-!
# Settings of a player's bus

Which player the bus serves, how often its devices report, and how many
failures in a row of the main peripheral call for a warning.
-/

namespace MapleBus

/-- The settings of one player's bus. -/
structure Settings where
  playerIndex : UInt8 := 0
  timing : Device.Timing := {}
  failureWarnThreshold : UInt32 := 3
  deriving DecidableEq, Repr, Inhabited

namespace Settings

/-- The default settings for a player. -/
def forPlayer (playerIndex : UInt8) : Settings :=
  { playerIndex }

/-- Refuse settings no bus can be built from.  The first fault in the order
player, report period, threshold is reported. -/
def validate (settings : Settings) : Except ConfigError Unit :=
  if Address.maxPlayers ≤ settings.playerIndex then
    .error (.invalidPlayerIndex settings.playerIndex)
  else if settings.timing.reportPeriod = 0 then
    .error (.zeroPeriod "report_period_us")
  else if settings.failureWarnThreshold = 0 then
    .error (.invalidValue "failure_warn_threshold" "must be at least 1")
  else
    .ok ()

/-- The settings, spelled out. -/
def dump (settings : Settings) : String :=
  s!"PlayerBusConfig \x7b player_index: {settings.playerIndex.toNat}" ++
    s!", timing: PeripheralTiming \x7b report_period_us: " ++
    s!"{settings.timing.reportPeriod.toNat}, identify_period_us: " ++
    s!"{settings.timing.identifyPeriod.toNat} \x7d" ++
    s!", failure_warn_threshold: {settings.failureWarnThreshold.toNat} \x7d"

end Settings

end MapleBus
