import Mathlib.Data.List.Nodup
import Watering.Proofs.Config.Layout
import Watering.Proofs.Plant

namespace Watering.Config

/-- Each channel of a station wired here, as station and channel, with its output. -/
def outputs (c : Config) : List ((UInt8×UInt8)×UInt16) :=
  c.stations.flatMap fun e =>
    if e.network.isLocal then
      (span 0 e.zoneCount).filterMap fun ch =>
        ((e.station c.sensors).output? ch).map ((e.id,ch),·)
    else []

variable {c : Config}

theorem Valid.mem_outputs (h : c.Valid) {id ch : UInt8} {st : Station} {o : UInt16}
    (hs : c.site.station? id=some st) (hn : st.network.isLocal=true) (hc : ch < st.zoneCount)
    (ho : st.output? ch=some o) : ((id,ch),o)∈c.outputs := by
  rw [h.station?_site] at hs
  obtain ⟨e,he,rfl⟩ := Option.map_eq_some_iff.mp hs
  obtain ⟨hmem,hid⟩ := mem_of_station? he
  have hspan : ch∈span 0 e.zoneCount := mem_span_zero.mpr hc
  refine List.mem_flatMap.mpr ⟨e,hmem,?_⟩
  rw [if_pos (show e.network.isLocal=true from hn)]
  exact List.mem_filterMap.mpr ⟨ch,hspan,by rw [ho,hid,Option.map_some]⟩

/-- Outputs are distinct if none is listed twice. -/
theorem Valid.outputsDistinct (h : c.Valid) (hn : (c.outputs.map (·.2)).Nodup) :
    c.site.OutputsDistinct := by
  intro o id st ch id' st' ch' hs hl hc hs' hl' hc' ho ho'
  have he := List.inj_on_of_nodup_map hn (h.mem_outputs hs hl hc ho)
    (h.mem_outputs hs' hl' hc' ho') rfl
  exact Prod.mk.inj (Prod.mk.inj he).1

/-- A station with two valves of its own. -/
def plot : Config :=
  {unit:=1,stations:=[{id:=1,name:="Plot",network:=.parallel,zoneCount:=2}]}

theorem plot_valid : plot.Valid := by decide

theorem plot_outputsDistinct : plot.site.OutputsDistinct :=
  plot_valid.outputsDistinct (by decide)

theorem plot_station : ∃ st,plot.site.station? 1=some st ∧ st.network.isLocal=true ∧
    0 < st.zoneCount ∧ st.zoneOf 0=0 ∧ st.output? 0=some 0 :=
  ⟨_,by rw [plot_valid.station?_site]; rfl,by decide,by decide,by decide,by decide⟩

/-- A plot that peers may neither read nor command, and beside it an annex with one valve. -/
def estate : Config :=
  {unit:=1,stations:=[
    {id:=1,name:="Plot",network:=.parallel,zoneCount:=2,remoteStatus:=false,remoteControl:=false},
    {id:=2,name:="Annex",network:=.serial,address:=2,zoneCount:=1,firstZone:=2}]}

theorem estate_valid : estate.Valid := by decide

theorem estate_outputsDistinct : estate.site.OutputsDistinct :=
  estate_valid.outputsDistinct (by decide)

/-- A master without valves of its own, and a station elsewhere with two. -/
def orchard : Config :=
  {unit:=0,stations:=[{id:=4,name:="Orchard",network:=.radio,zoneCount:=2}]}

theorem orchard_valid : orchard.Valid := by decide

end Watering.Config
