import JqBle.LinkProfile.Transport

/-!
# Startup steps (`startup.rs`)
-/

namespace JqBle.LinkProfile
open Host

inductive StartupStep
  | pending
  | waitingForPower
  | retry
  | started
  | unsupported
deriving DecidableEq, Repr

def StartupStep.fromStartResult : Except BlewError Unit → StartupStep
  | .ok _ => .started
  | .error .alreadyAdvertising => .started
  | .error _ => .retry

structure BleStartupState where
  l2capListener : StartupStep := .pending
  gattService : StartupStep := .pending
  advertising : StartupStep := .pending
  scan : StartupStep := .pending
deriving DecidableEq, Repr

inductive AdapterPowerState
  | poweredOn
  | poweredOff
deriving DecidableEq, Repr

def AdapterPowerState.ofBool : Bool → AdapterPowerState
  | true => .poweredOn
  | false => .poweredOff

def AdapterPowerState.nextStep : AdapterPowerState → StartupStep
  | .poweredOn => .pending
  | .poweredOff => .waitingForPower

namespace BleStartupState

def centralPowerChanged (startup : BleStartupState) (power : AdapterPowerState) : BleStartupState :=
  { startup with scan := power.nextStep }

def peripheralPowerChanged (startup : BleStartupState) (power : AdapterPowerState) :
    BleStartupState :=
  { startup with
    l2capListener :=
      if startup.l2capListener ≠ .unsupported then power.nextStep else startup.l2capListener
    gattService := power.nextStep
    advertising := power.nextStep }

def retryDue (startup : BleStartupState) : Bool :=
  [startup.l2capListener, startup.gattService, startup.advertising, startup.scan].contains .retry

end BleStartupState

end JqBle.LinkProfile
