import Watering.Time.Calendar

namespace Watering

inductive ZoneState where
  | off
  | starting (ticksLeft : Nat)
  | running
  | stopping (ticksLeft : Nat)
deriving DecidableEq,Repr

namespace ZoneState

/-- On, or on its way on. -/
def isOn : ZoneState → Bool
  | starting _ | running => true
  | _ => false

/-- Waiting for its station to answer. -/
def isPending : ZoneState → Bool
  | starting _ | stopping _ => true
  | _ => false

end ZoneState

/-- A request to water one zone; manual runs belong to no schedule. -/
structure ZoneRun where
  zone : UInt8
  minutes : UInt8
  schedule : Option UInt8 := none
  seasonal : UInt8 := 100
  weather : UInt8 := 100
deriving DecidableEq,Repr

/-- `remaining` counts the ticks to the end of the run; 0 means that there is no countdown. -/
structure ZoneStatus where
  state : ZoneState := .off
  remaining : Nat := 0
  run : Option ZoneRun := none
  startedAt : Option Instant := none
deriving DecidableEq,Repr

instance : Inhabited ZoneStatus := ⟨{}⟩

def confirmTicks : Nat := 5

/-- A tick lasts a second. -/
def ticksPerMinute : Nat := 60

inductive Expiry where
  | unconfirmed (was : ZoneState)
  | finished
deriving DecidableEq,Repr

namespace ZoneStatus

def start (run : ZoneRun) (confirmed : Bool) (now : Instant) : ZoneStatus :=
  {state:=if confirmed then .running else .starting confirmTicks,
    remaining:=run.minutes.toNat*ticksPerMinute,run:=some run,startedAt:=some now}

/-- An unconfirmed stop waits for the station; a zone that is off stays off. -/
def stop (z : ZoneStatus) (confirmed : Bool) : ZoneStatus :=
  if confirmed || z.state==.off then {} else {z with state:=.stopping confirmTicks,remaining:=0}

/-- What the owning station reports holds. -/
def confirm (z : ZoneStatus) (on : Bool) : ZoneStatus :=
  if on then {z with state:=.running} else {}

/-- One second passes: waiting ends after `confirmTicks`, a countdown at zero. -/
def tick (z : ZoneStatus) : ZoneStatus×Option Expiry :=
  match z.state with
  | .off => (z,none)
  | .starting n =>
    if 1<n then ({z with state:=.starting (n-1),remaining:=z.remaining-1},none)
    else ({},some (.unconfirmed z.state))
  | .stopping n =>
    if 1<n then ({z with state:=.stopping (n-1),remaining:=z.remaining-1},none)
    else ({},some (.unconfirmed z.state))
  | .running =>
    if z.remaining=0 then (z,none)
    else if z.remaining=1 then ({},some .finished)
    else ({z with remaining:=z.remaining-1},none)

end ZoneStatus

end Watering
