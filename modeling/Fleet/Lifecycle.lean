/-
# Moving through the lifecycle

Which signal leads from which state to which.  While a device is inactive its configuration stays
deactivated until it is activated again.
-/
import Fleet.Error

namespace Fleet.Status

/-- The state after a signal, if the state allows it. -/
def next? (s : Status) (signal : Signal) : Option Status :=
  match signal, s with
  | .applied, .modified | .applied, .error | .applied, .applied => some .applied
  | .failed, _ => some .error
  | .modified _, .deactivating => some .deactivating
  | .modified _, .deactivated => some .deactivated
  | .modified _, _ => some .modified
  | .deactivate, .deactivated => none
  | .deactivate, _ => some .deactivating
  | .confirmDeactivation, .deactivating | .confirmDeactivation, .deactivated => some .deactivated
  | .activate, .deactivated => some .modified
  | _, _ => none

/-- The state after a signal to the configuration of a device that is active or not. -/
def deviceNext? (active : Bool) (s : Status) (signal : Signal) : Option Status :=
  if active then s.next? signal
  else
    match signal, s with
    | .modified _, s => some s
    | .applied, _ => none
    | .activate, .error => some .modified
    | signal, s => s.next? signal

/-- The state after a signal, or the error that it is not allowed. -/
def after (active : Bool) (s : Status) (signal : Signal) : Except Error Status :=
  match s.deviceNext? active signal with
  | some t => .ok t
  | none => .error (.invalidTransition s signal)

end Fleet.Status
