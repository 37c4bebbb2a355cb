import Watering.Proofs.Config.Outputs
import Watering.Proofs.Controller.Operation
import Watering.Radio.Scripted

namespace Watering.Controller

open Plant (Agrees Moves)

variable {σ : Type} {site : Site} {c : Controller σ}

/-- A station that only serves, with outputs and board in agreement. -/
structure Steady (site : Site) (c : Controller σ) : Prop where
  place : c.place=(.responder,site)
  agrees : c.plant.Agrees site

theorem steady_start (laid : site.Laid) (carrier : σ) {valves : ValveBoard}
    (off : ∀ o,valves.isOn o=false) (sensors : SensorBank) (clock : Instant) :
    Steady site (start .responder carrier site valves sensors clock) := by
  have state (i : UInt8) :
      (start .responder carrier site valves sensors clock).plant.zones.state i=.off :=
    state_start .responder carrier site valves sensors clock i
  have size := size_start .responder carrier site valves sensors clock laid.length_le
  refine ⟨rfl,⟨size,?_,?_,?_,fun _ => off _⟩⟩
  · intro i hi
    exact absurd (state i) hi
  · intro i o _
    rw [state]
    rfl
  · intro i o _
    rw [state]
    have hoff : (start .responder carrier site valves sensors clock).plant.valves.isOn o=false :=
      off o
    exact iff_of_false (by simp [hoff]) (by decide)

variable [Carrier σ]

/-- All that an operation does to outputs and board is moves, or a second. -/
theorem Steady.perform_cases (laid : site.Laid) (h : Steady site c) (op : Operation σ) :
    (c.perform op).place=c.place ∧
    (op=.tick ∧ (c.perform op).plant=c.plant.tick site ∨
      op≠.tick ∧ Moves site c.plant (c.starts op) (c.perform op).plant) :=
  Controller.perform_cases laid h.place h.agrees.size h.agrees.idle op

theorem Steady.perform (laid : site.Laid) (d : site.OutputsDistinct) (h : Steady site c)
    (op : Operation σ) : Steady site (c.perform op) where
  place := (h.perform_cases laid op).1.trans h.place
  agrees := by
    obtain ⟨_,⟨_,ht⟩ | ⟨_,m⟩⟩ := h.perform_cases laid op
    · rw [ht]
      exact Plant.tick_agrees laid d h.agrees
    · exact m.agrees laid d h.agrees

theorem Steady.performAll (laid : site.Laid) (d : site.OutputsDistinct) (h : Steady site c)
    (ops : List (Operation σ)) : Steady site (c.performAll ops) := by
  induction ops generalizing c with
  | nil => exact h
  | cons op ops ih => exact ih (h.perform laid d op)

/-- In every state that a station reaches, its local zones wait for nothing, their outputs are on
exactly while the board says that they run, and all other outputs are off. -/
theorem outputs_follow_board {cfg : Config} (hv : cfg.Valid) (d : cfg.site.OutputsDistinct)
    (carrier : σ) {valves : ValveBoard} (off : ∀ o,valves.isOn o=false) (sensors : SensorBank)
    (clock : Instant) (ops : List (Operation σ)) :
    let c := (start .responder carrier cfg.site valves sensors clock).performAll ops
    (∀ id st ch,cfg.site.station? id=some st → st.network.isLocal=true → ch < st.zoneCount →
      (c.zones.state (st.zoneOf ch)).isPending=false ∧
      ∃ o,st.output? ch=some o ∧
        (c.valves.isOn o=true ↔ c.zones.state (st.zoneOf ch)=.running)) ∧
    ∀ o,(∀ id st ch,cfg.site.station? id=some st → st.network.isLocal=true → ch < st.zoneCount →
      st.output? ch≠some o) → c.valves.isOn o=false := by
  intro c
  have h := ((steady_start hv.laid carrier off sensors clock).performAll hv.laid d ops).agrees
  refine ⟨?_,?_⟩
  · intro id st ch hs hn hc
    obtain ⟨o,ho⟩ := hv.laid.output? hs hn hc
    have w : cfg.site.Wires (st.zoneOf ch) o := ⟨id,st,ch,hs,hn,hc,rfl,ho⟩
    exact ⟨h.settled w,o,ho,h.on_iff w⟩
  · intro o ho
    apply h.dark
    rintro i ⟨id,st,ch,hs,hn,hc,_,he⟩
    exact ho id st ch hs hn hc he

/-- A plot that starts its first zone for a minute and lets a second pass. -/
def plotRun : Controller ScriptedRadio :=
  (start .responder {kind:=.short} Config.plot.site (.ofOutputs [0,1]) {} ⟨0,0⟩).performAll
    [.startZone {zone:=0,minutes:=1},.tick]

theorem plotRun_isOn : plotRun.valves.isOn 0=true := by decide +kernel

theorem outputs_follow_board_plot :
    (∀ o,(ValveBoard.ofOutputs [0,1]).isOn o=false) ∧ plotRun.valves.isOn 0=true ∧
    plotRun.zones.state 0=.running ∧ plotRun.valves.isOn 2=false := by
  have h := outputs_follow_board Config.plot_valid Config.plot_outputsDistinct
    ({kind:=.short} : ScriptedRadio) (ValveBoard.isOn_ofOutputs [0,1]) {} ⟨0,0⟩
    [.startZone {zone:=0,minutes:=1},.tick]
  obtain ⟨st,hs,hn,hc,hz,ho⟩ := Config.plot_station
  obtain ⟨_,o,he,hiff⟩ := h.1 1 st 0 hs hn hc
  rw [ho] at he
  obtain rfl := Option.some.inj he
  rw [hz] at hiff
  refine ⟨ValveBoard.isOn_ofOutputs _,plotRun_isOn,hiff.mp plotRun_isOn,h.2 2 ?_⟩
  intro id st' ch hs' hn' hc' ho'
  have hm := Config.plot_valid.mem_outputs hs' hn' hc' ho'
  rw [show Config.plot.outputs=[((1,0),0),((1,1),1)] by decide] at hm
  simp at hm

end Watering.Controller
