import MapleBus.Log
import MapleBus.Settings
import MapleBus.Text.Blank
import MapleBus.Text.Numeral

/-!
# Overriding settings

Three settings can be overridden by texts that are looked up by name.  A text
counts when, apart from white space at its ends, it is a decimal numeral in the
range of its setting; a text that does not count is noted and ignored.  The
settings are independent of each other.
-/

namespace MapleBus.Settings

/-- The variable that overrides the report period. -/
def reportPeriodVariable : String := "MAPLE_REPORT_PERIOD_US"

/-- The variable that overrides the identification period. -/
def identifyPeriodVariable : String := "MAPLE_IDENTIFY_PERIOD_US"

/-- The variable that overrides the failure threshold. -/
def failureWarnThresholdVariable : String := "MAPLE_FAILURE_WARN_THRESHOLD"

/-- The number a text denotes, if it lies between two bounds. -/
def readOverride? (low high : Nat) (text : String) : Option Nat :=
  (Text.Numeral.readSigned? (Text.trimmed text)).filter fun number =>
    low ≤ number ∧ number ≤ high

/-- Look up an override with a number between two bounds. -/
def override? (lookup : String → Option String) (variableName : String)
    (low high : Nat) : Logged (Option Nat) :=
  match lookup variableName with
  | none => return none
  | some text =>
      match readOverride? low high text with
      | some number => do
          Logged.note .debug "configuration override applied"
            [("variable", variableName), ("value", toString number)]
          return some number
      | none => do
          Logged.note .warn "ignoring invalid configuration override"
            [("variable", variableName), ("value", text)]
          return none

/-- Apply overrides.  The report period and the threshold have to be
positive. -/
def withOverrides (settings : Settings) (lookup : String → Option String) :
    Logged Settings := do
  let reportPeriod ← override? lookup reportPeriodVariable 1 0xFFFFFFFFFFFFFFFF
  let identifyPeriod ← override? lookup identifyPeriodVariable 0 0xFFFFFFFFFFFFFFFF
  let threshold ← override? lookup failureWarnThresholdVariable 1 0xFFFFFFFF
  return { settings with
    timing :=
      { reportPeriod :=
          (reportPeriod.map UInt64.ofNat).getD settings.timing.reportPeriod
        identifyPeriod :=
          (identifyPeriod.map UInt64.ofNat).getD settings.timing.identifyPeriod }
    failureWarnThreshold :=
      (threshold.map UInt32.ofNat).getD settings.failureWarnThreshold }

end MapleBus.Settings
