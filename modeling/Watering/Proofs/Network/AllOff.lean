import Watering.Proofs.Controller.Cleared
import Watering.Proofs.Network.Reading

namespace Watering.Network

open Controller (start allOffOf)

/-- What a station may be at any time in a network: it was switched on and did one thing after the
other, each on the bus as it was then. -/
inductive Reached (site : Site) (valves : ValveBoard) : Controller Transceiver → Prop
  | started (t : Transceiver) (sensors : SensorBank) (clock : Instant) :
    Reached site valves (start .responder t site valves sensors clock)
  | acted {s : Controller Transceiver} (bus : Bus) (a : Controller.Action (Transceiver×Bus)) :
    Reached site valves s → Reached site valves ((s.aboard bus).act a).ashore

variable {k : Addressing} {number : UInt8 → Option Nat} {u v : UInt8} {n : Network} {i j : Nat}
  {m s : Controller Transceiver} {mst sst : Station} {site : Site} {valves : ValveBoard}

theorem Reached.tended (laid : site.Laid) (off : ∀ o,valves.isOn o=false)
    (h : Reached site valves s) : s.Tended site valves.isWired := by
  induction h with
  | started t sensors clock => exact Controller.tended_start laid t off sensors clock
  | @acted s bus a _ ih =>
    have aboard : (s.aboard bus).Tended site valves.isWired := ih.of_still rfl
    exact (aboard.act laid a).of_still rfl

/-- Polls in a network are among what a station does. -/
theorem Reached.polled (h : ∀ s,n.nodes[j]?=some s → Reached site valves s) (polls : List Nat) :
    ∀ s,(n.polled polls).nodes[j]?=some s → Reached site valves s := by
  induction polls generalizing n with
  | nil => exact h
  | cons i polls ih =>
    rw [polled_cons]
    refine ih fun s hs => ?_
    cases hi : n.nodes[i]? with
    | none =>
      have idle : n.act i Controller.poll=(n,none) := by rw [act,hi]
      rw [idle] at hs
      exact h s hs
    | some c =>
      rw [act_eq hi] at hs
      by_cases e : i=j
      · subst e
        rw [List.getElem?_set_self (List.getElem?_eq_some_iff.mp hi).1] at hs
        rw [←Option.some.inj hs]
        exact .acted n.bus (.operate .poll) (h c hi)
      · rw [List.getElem?_set_ne e] at hs
        exact h s hs

/-- The master sends one request, behind what waits for the station already. -/
theorem Linked.allChannelsOff (h : Linked k number u v n i j m s) (unit : m.unit=u)
    (known : m.site.station? v=some mst) :
    ∃ m',Linked k number u v (n.act i (·.allChannelsOff v)).1 i j m' s ∧
      (airOf u v (n.act i (·.allChannelsOff v)).1.bus m' s).waiting u v=
        (airOf u v n.bus m s).waiting u v++[((allOffOf m.nextTransaction mst).frame v u).octets] := by
  have asks : n.act i (·.allChannelsOff v)=
      n.act i (·.request v (allOffOf m.nextTransaction mst).message) := by
    rw [act_eq h.near,act_eq h.near]
    have same : (m.aboard n.bus).allChannelsOff v=
        (m.aboard n.bus).request v (allOffOf m.nextTransaction mst).message := by
      unfold Controller.allChannelsOff
      rw [show (m.aboard n.bus).site.station? v=some mst from known]
      rfl
    rw [same]
  obtain ⟨m',linked,_,waiting,_⟩ := h.ask unit (allOffOf m.nextTransaction mst).fits
  rw [asks]
  exact ⟨m',linked,waiting⟩

/-- A station that polls serves the request that is next in line. -/
theorem Linked.serves_next (h : Linked k number u v n i j m s) (serves : s.role.serves=true)
    (own : s.unit=v) {q : Message} {t : UInt8} {rest : List (List UInt8)}
    (fits : q.payload.length ≤ maxPayload) (request : q.function.isRequest=true)
    (next : (airOf u v n.bus m s).waiting u v=(⟨t,v,u,q⟩ : Frame).octets::rest) :
    ∃ c : Controller (Transceiver×Bus),c.still=s.still ∧
      (n.act j Controller.poll).2=some (some (c.serve ⟨t,v,u,q.onWire⟩).2) ∧
      (n.act j Controller.poll).1.nodes[j]?=some (c.serve ⟨t,v,u,q.onWire⟩).1.ashore := by
  obtain ⟨line,_,hback⟩ := h.symm.ends
  rw [airOf_comm h.pair.ne,next] at hback
  have polled := Controller.poll_next line hback
  set c : Controller (Transceiver×Bus) :=
    {s.aboard n.bus with link:=(s.aboard n.bus).link.receive.1}
  rw [Controller.process_request (c:=c) serves (f:=⟨t,v,u,q⟩) own.symm fits request] at polled
  refine ⟨c,rfl,?_,?_⟩
  · rw [act_eq h.far,polled]
  · rw [act_eq h.far,polled]
    exact List.getElem?_set_self (List.getElem?_eq_some_iff.mp h.far).1

/-- A master that turns off all channels of a station sends it one request. Wherever the station
stands when it takes that in, the request is done if the station has fewer than 255 channels: they
and their outputs are off then, but for an output that is shared with a zone of another station that
runs. With 255 channels the request is refused, and nothing is turned off. -/
theorem all_off_works_below_everything {scfg : Config} (hv : scfg.Valid)
    (off : ∀ o,valves.isOn o=false) (operable : scfg.site.Operable valves.isWired v sst)
    (linked : Linked k number u v n i j m s) (unit : m.unit=u) (known : m.site.station? v=some mst)
    (same : mst.zoneCount=sst.zoneCount) :
    ∃ t m',Linked k number u v (n.act i (·.allChannelsOff v)).1 i j m' s ∧
      (airOf u v (n.act i (·.allChannelsOff v)).1.bus m' s).waiting u v=
        (airOf u v n.bus m s).waiting u v++[((allOffOf t mst).frame v u).octets] ∧
      ∀ p c d rest,Linked k number u v p i j c d → Reached scfg.site valves d → d.unit=v →
        (airOf u v p.bus c d).waiting u v=((allOffOf t mst).frame v u).octets::rest →
        (sst.zoneCount≠everything →
          (p.act j Controller.poll).2=some (some (.handled .zonesSet)) ∧
          ∃ e,(p.act j Controller.poll).1.nodes[j]?=some e ∧ e.plant.Cleared scfg.site v sst) ∧
        (sst.zoneCount=everything →
          (p.act j Controller.poll).2=some (some (.rejected .zonesSet .illegalAddress)) ∧
          ∃ e,(p.act j Controller.poll).1.nodes[j]?=some e ∧ e.plant=d.plant) := by
  obtain ⟨m',linked',waiting⟩ := linked.allChannelsOff unit known
  refine ⟨m.nextTransaction,m',linked',waiting,fun p c d rest linked reached own next => ?_⟩
  have tended := reached.tended hv.laid off
  have role : d.role=.responder := congrArg Prod.fst tended.place
  have request : allOffOf m.nextTransaction mst=allOffOf m.nextTransaction sst := by
    rw [allOffOf,allOffOf,same]
  rw [request] at next
  obtain ⟨x,still,outcome,node⟩ := linked.serves_next (by rw [role]; rfl) own
    (allOffOf m.nextTransaction sst).fits rfl next
  have station : x.unit=v := (congrArg (·.1.registers.unit) still).trans own
  have tended' := tended.of_still still
  rw [outcome]
  constructor
  · intro few
    rw [←station] at operable
    obtain ⟨done,cleared⟩ := tended'.serve_allOff_done hv.laid operable few
      (f:=⟨m.nextTransaction,v,u,(allOffOf m.nextTransaction sst).message.onWire⟩) rfl
    rw [station] at cleared
    exact ⟨congrArg (some ∘ some) done,_,node,cleared⟩
  · intro all
    have usable : x.Usable .control sst := by
      refine ⟨?_,operable.enabled,operable.control⟩
      rw [station,show x.site=scfg.site from congrArg Prod.snd tended'.place]
      exact operable.station
    obtain ⟨refused,plant⟩ := Controller.serve_allOff_refused usable all
      (f:=⟨m.nextTransaction,v,u,(allOffOf m.nextTransaction sst).message.onWire⟩) rfl
    exact ⟨congrArg (some ∘ some) refused,_,node,plant.trans (congrArg (·.2) still)⟩

/-- The plot, with both of its outputs wired. -/
theorem plot_operable : ∃ st,
    Config.plot.site.Operable (ValveBoard.ofOutputs [0,1]).isWired 1 st ∧ st.zoneCount=2 ∧
    st.zoneOf 0=0 ∧ st.zoneOf 1=1 ∧ st.output? 0=some 0 ∧ st.output? 1=some 1 := by
  refine ⟨_,⟨by rw [Config.plot_valid.station?_site]; rfl,by decide,by decide,by decide,by decide,
    fun {ch} hc => ?_⟩,by decide,by decide,by decide,by decide,by decide⟩
  have few : ch.toNat<2 := UInt8.lt_iff_toNat_lt.mp hc
  obtain rfl | rfl : ch=0 ∨ ch=1 := by
    rw [←UInt8.toNat_inj,←UInt8.toNat_inj]
    change ch.toNat=0 ∨ ch.toNat=1
    omega
  · exact ⟨0,by decide,by decide +kernel⟩
  · exact ⟨1,by decide,by decide +kernel⟩

/-- After the hub started the plot's second zone. -/
theorem hubRun_plot : ∃ number m s,Linked .short number 9 1 hubRun 0 1 m s ∧
    Reached Config.plot.site (.ofOutputs [0,1]) s ∧ m.unit=9 ∧ m.site=hub.site ∧ s.unit=1 := by
  obtain ⟨mst,sst,listed,radio,own,hm,hs,_⟩ := hub_plot
  have M := match_of_valid hub_valid Config.plot_valid listed radio own (hm.trans hs.symm)
    (by rw [hm]; decide) (by rw [hm]; decide)
  obtain ⟨number,t,r,linked,hout,hback⟩ := linked_pair (k:=.short)
    (show hub.site.unit≠Config.plot.site.unit by decide)
    (c:=(start .requester · hub.site {} {} ⟨0,0⟩))
    (d:=(start .responder · Config.plot.site (.ofOutputs [0,1]) {} ⟨0,0⟩)) (fun _ => rfl)
    fun _ => rfl
  have talking := talking_start M (by decide) linked hout hback
  obtain ⟨_,m,s,talking'⟩ := talking.exchanged M (talking.quiet_iff.mpr ⟨hout,hback⟩)
    (.round (.startZone {zone:=5,minutes:=1}) [1,0] .refl rfl hubRun_quiet)
  refine ⟨number,m,s,talking'.linked,?_,talking'.leads.unit,talking'.leads.site_eq,
    talking'.serves.unit⟩
  refine Reached.polled (j:=1) (fun d hd => ?_) [1,0] s talking'.linked.far
  rw [command,act_eq linked.near,List.getElem?_set_ne (by decide),linked.far] at hd
  rw [←Option.some.inj hd]
  exact .started r {} ⟨0,0⟩

theorem all_off_works_below_everything_plot :
    hubRun.Quiet ∧ hubRun.nodes[1]?.any (·.valves.isOn 1)=true ∧
    ((hubRun.act 0 (·.allChannelsOff 1)).1.act 1 Controller.poll).2=
      some (some (.handled .zonesSet)) ∧
    ∃ e,((hubRun.act 0 (·.allChannelsOff 1)).1.act 1 Controller.poll).1.nodes[1]?=some e ∧
      e.zones.state 0=.off ∧ e.zones.state 1=.off ∧
      e.valves.isOn 0=false ∧ e.valves.isOn 1=false := by
  obtain ⟨number,m,s,linked,reached,unit,site,own⟩ := hubRun_plot
  obtain ⟨mst,_,listed,_,_,hm,_⟩ := hub_plot
  obtain ⟨st,operable,count,z0,z1,o0,o1⟩ := plot_operable
  have known : m.site.station? 1=some mst := by
    rw [site]
    exact (Site.station?_of_enabledStation? listed).1
  obtain ⟨t,m',linked',waiting,works⟩ := all_off_works_below_everything Config.plot_valid
    (ValveBoard.isOn_ofOutputs [0,1]) operable linked unit known (hm.trans count.symm)
  rw [(linked.quiet_iff.mp hubRun_quiet).1] at waiting
  obtain ⟨outcome,e,node,cleared⟩ := (works _ _ _ [] linked' reached own waiting).1
    (by rw [count]; decide)
  have first : (0 : UInt8) < st.zoneCount := by rw [count]; decide
  have second : (1 : UInt8) < st.zoneCount := by rw [count]; decide
  have dark {ch : UInt8} {o : UInt16} (hc : ch < st.zoneCount) (ho : st.output? ch=some o) :=
    cleared.dark Config.plot_outputsDistinct operable.station operable.isLocal hc ho
  refine ⟨hubRun_quiet,by decide +kernel,outcome,e,node,?_,?_,dark first o0,dark second o1⟩
  · rw [←z0]
    exact cleared.zones first
  · rw [←z1]
    exact cleared.zones second

/-- A station with as many zones as can be numbered, and the master that has it in its store. -/
def expanse : Config :=
  {unit:=1,stations:=[{id:=1,name:="Expanse",network:=.parallel,zoneCount:=255}]}

def expanseHub : Config :=
  {unit:=9,stations:=[{id:=1,name:="Expanse",network:=.radio,zoneCount:=255}]}

def expanseValves : ValveBoard := .ofOutputs ((List.range 255).map UInt16.ofNat)

/-- The expanse runs its first zone. -/
def expanseRun : Network :=
  (pair .short 9 1 (start .requester · expanseHub.site {} {} ⟨0,0⟩)
    (start .responder · expanse.site expanseValves {} ⟨0,0⟩)).command 1
      (.startZone {zone:=0,minutes:=10})

/-- Asked to turn off all that it has, the expanse refuses, and waters on. -/
theorem expanse_refuses_all_off :
    let p := expanseRun.act 0 (·.allChannelsOff 1)
    expanse.Valid ∧ expanseHub.Valid ∧ expanseRun.Quiet ∧
      (expanse.site.station? 1).any (fun st => st.enabled && st.remoteControl &&
        st.zoneCount==255 && (expanseHub.site.station? 1).any (·.zoneCount==255) &&
        (List.range 255).all fun ch => (st.output? (UInt8.ofNat ch)).any expanseValves.isWired)=true ∧
      p.2=some true ∧ (p.1.pollEach [1]).2=[(1,.rejected .zonesSet .illegalAddress)] ∧
      (p.1.polled [1]).nodes[1]?.any (·.valves.isOn 0)=true := by
  decide +kernel

end Watering.Network
