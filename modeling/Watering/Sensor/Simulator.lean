import Watering.Site.Station

namespace Watering

/-- Random numbers in [0,1), taken in order and from the start again at the end. -/
structure Draws where
  values : Array Float
  taken : Nat := 0

abbrev Chance := StateM Draws

namespace Chance

def draw : Chance Float := modifyGet fun d =>
  ((d.values[d.taken%d.values.size]?).getD 0.5,{d with taken:=d.taken+1})

/-- Roughly normal, with mean 0 and deviation 1: the sum of twelve numbers less 6. -/
def standard : Chance Float := do
  let mut sum : Float := 0
  for _ in List.range 12 do
    sum := sum+(← draw)
  return sum-6

def normal (deviation : Float) : Chance Float := return 0+deviation*(← standard)

def happens (probability : Float32) : Chance Bool := return (← draw).toFloat32<probability

end Chance

inductive Scenario where
  /-- Humidity falls through the day; some spikes. -/
  | drying
  /-- Little noise, hardly a spike. -/
  | stable
  /-- Much noise, many spikes. -/
  | flaky
  /-- Humid from the start. -/
  | wet
deriving DecidableEq,Repr

namespace Scenario

def name : Scenario → String
  | drying => "drying"
  | stable => "stable"
  | flaky => "flaky"
  | wet => "wet"

/-- The scenario of a name in either case of ASCII letters; any other name means drying. -/
def ofName (s : String) : Scenario :=
  ([stable,flaky,wet].find? (·.name==s.toLower)).getD drying

def drift : Scenario → Float
  | drying => -2
  | stable => 0
  | flaky => -1
  | wet => 0.5

def noise : Scenario → Float
  | drying => 1
  | stable => 0.5
  | flaky => 2.5
  | wet => 0.75

def spikes : Scenario → Float32
  | drying => 0.03
  | stable => 0.005
  | flaky => 0.1
  | wet => 0.02

/-- How far above its center humidity starts. -/
def headStart : Scenario → Float
  | wet => 250
  | _ => 0

end Scenario

/-- How a kind of sensor behaves. `swing` is the most that the time of day adds. -/
structure Climate where
  center : Float
  walk : Float
  reversion : Float
  noise : Float
  swing : Float
  low : Float
  high : Float

namespace Climate

def of : SensorKind → Climate
  | .temperature => ⟨200,3,0.05,2,60,0,600⟩
  | .humidity => ⟨550,8,0.03,5,-80,0,1000⟩
  | .pressure => ⟨10130,2,0.02,1,10,9500,10500⟩

def clamp (c : Climate) (x : Float) : Float := if x<c.low then c.low else if c.high<x then c.high else x

end Climate

structure SimulatedChannel where
  kind : SensorKind
  /-- The value without offset, time of day, noise and spikes. -/
  base : Float
  offset : Float
  reading : UInt16

/-- A simulated bank; readings are tenths of a degree, of a percent or of a hectopascal. -/
structure Simulator where
  scenario : Scenario
  channels : List SimulatedChannel
  /-- Calls of `sample` for each sample taken. -/
  cycle : Nat
  calls : Nat := 0
  period : Float
  watering : Bool := false

namespace Simulator

/-- A channel as it starts: near its center, with an offset. -/
def channel (scenario : Scenario) (kind : SensorKind) : Chance SimulatedChannel := do
  let c := Climate.of kind
  let start := if kind=.humidity then c.center+scenario.headStart else c.center
  let base := c.clamp (start+(← Chance.normal (c.walk*3)))
  let offset ← Chance.normal (c.noise*2)
  return {kind,base,offset,reading:=base.round.toUInt16}

def start (scenario : Scenario) (kinds : List SensorKind) (cycle : Nat) (period : Float) :
    Chance Simulator :=
  return {scenario,channels:=← kinds.mapM (channel scenario),cycle:=max cycle 1,period}

/-- One sample of a channel; `tide` is the sine of the time of day. -/
def advance (s : Simulator) (tide : Float) (x : SimulatedChannel) : Chance SimulatedChannel := do
  let c := Climate.of x.kind
  let walk ← Chance.normal c.walk
  let (drift,wet) : Float×Float :=
    if x.kind=.humidity then (s.scenario.drift,if s.watering then 15 else 0) else (0,0)
  let base := c.clamp (x.base+c.reversion*(c.center-x.base)+walk+drift+wet)
  let noise ← Chance.normal (c.noise*s.scenario.noise)
  let spike ← if ← Chance.happens s.scenario.spikes then Chance.normal (c.noise*20) else pure 0
  let reading := base+x.offset+c.swing*tide+noise+spike
  return {x with base,reading:=(c.clamp reading.round).toUInt16}

def pi : Float := 3.141592653589793

/-- Take a sample at a time in seconds, if the cycle has come round; the answer tells whether. -/
def sample (s : Simulator) (now : Int) : Chance (Simulator×Bool) :=
  if s.calls+1<s.cycle then return ({s with calls:=s.calls+1},false)
  else
    let tide := (2*pi*Float.ofInt now/s.period).sin
    return ({s with calls:=0,channels:=← s.channels.mapM (s.advance tide)},true)

def read (s : Simulator) (index : UInt8) : UInt16 :=
  ((s.channels[index.toNat]?).map (·.reading)).getD 0

def readings (s : Simulator) : List UInt16 := (s.channels.take 255).map (·.reading)

end Simulator

end Watering
