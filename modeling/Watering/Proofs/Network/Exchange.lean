import Watering.Proofs.Config.Outputs
import Watering.Proofs.Controller.Dialogue
import Watering.Proofs.Network.Line

namespace Watering.Network

open Controller (Leads Serves start)

/-- Nothing waits for anybody. -/
def Quiet (n : Network) : Prop := ∀ c∈n.nodes,(n.bus.collect c.link.carrier).2=none

instance (n : Network) : Decidable n.Quiet :=
  inferInstanceAs (Decidable (∀ c∈n.nodes,(n.bus.collect c.link.carrier).2=none))

/-- Tell the `i`-th controller to do something. -/
def command (n : Network) (i : Nat) (op : Operation (Transceiver×Bus)) : Network :=
  (n.act i fun c => (c.perform op,())).1

/-- The network after each of some controllers in turn polled. -/
def polled (n : Network) (polls : List Nat) : Network := (n.pollEach polls).1

/-- What a network comes to by commands to the `i`-th controller, each followed by polls until
nothing waits. -/
inductive Exchanged (i : Nat) (n : Network) : Network → Prop
  | refl : Exchanged i n n
  | round {p : Network} (op : Operation (Transceiver×Bus)) (polls : List Nat) : Exchanged i n p →
    op.isCommand=true → ((p.command i op).polled polls).Quiet →
    Exchanged i n ((p.command i op).polled polls)

/-- Two controllers on one bus. -/
def pair (k : Addressing) (u v : UInt8) (c d : Transceiver → Controller Transceiver) : Network :=
  (({} : Network).join u k c).join v k d

theorem polled_cons (n : Network) (i : Nat) (polls : List Nat) :
    n.polled (i::polls)=(n.act i Controller.poll).1.polled polls := rfl

theorem linked_pair {k : Addressing} {u v : UInt8} (h : u≠v)
    {c d : Transceiver → Controller Transceiver} (hc : ∀ t,(c t).link={carrier:=t})
    (hd : ∀ t,(d t).link={carrier:=t}) :
    ∃ number t r,Linked k number u v (pair k u v c d) 0 1 (c t) (d r) ∧
      (airOf u v (pair k u v c d).bus (c t) (d r)).waiting u v=[] ∧
      (airOf u v (pair k u v c d).bus (c t) (d r)).waiting v u=[] := by
  obtain ⟨number,hp,hout,hback⟩ := Air.pair_fresh k h
  set t := (({} : Bus).attach u k).2
  set r := ((({} : Bus).attach u k).1.attach v k).2
  have air : airOf u v (pair k u v c d).bus (c t) (d r)=Air.ofUnits k [u,v] := by
    refine congrArg (Air.mk _) (funext fun w => ?_)
    rw [hc,hd]
    change _=if w=v then _ else if w=u then _ else none
    by_cases e : w=u
    · have : w≠v := fun k => h (e.symm.trans k)
      rw [if_pos e,if_neg this,if_pos e]
    · rw [if_neg e,if_neg e]
      rfl
  rw [←air] at hp hout hback
  refine ⟨number,t,r,⟨rfl,rfl,by decide,fun {l} h0 h1 => ?_,hp⟩,hout,hback⟩
  match l,h0,h1 with
  | l+2,_,_ => rfl

/-- Nothing waits exactly when nothing is on its way between the two. -/
theorem Linked.quiet_iff {k : Addressing} {number : UInt8 → Option Nat} {u v : UInt8} {n : Network}
    {i j : Nat} {m s : Controller Transceiver} (h : Linked k number u v n i j m s) : n.Quiet ↔
    (airOf u v n.bus m s).waiting u v=[] ∧ (airOf u v n.bus m s).waiting v u=[] := by
  have waits {u v : UInt8} {c d : Controller Transceiver}
      (hp : (airOf u v n.bus c d).Pair k number u v) :
      (n.bus.collect c.link.carrier).2=none ↔ (airOf u v n.bus c d).waiting v u=[] := by
    have hu := hp.sound.number_of (u:=u) (l:=c.link) (if_pos rfl)
    have hc := (hp.sound.holds.collect hu).2.1
    rw [show (n.bus.collect c.link.carrier).2=_ from hc,List.head?_eq_none_iff,
      ←List.length_eq_zero_iff,←List.length_eq_zero_iff,hp.symm.length_waiting]
  have hm := waits h.pair
  have hs := waits (c:=s) (d:=m) h.symm.pair
  rw [airOf_comm h.pair.ne] at hs
  constructor
  · intro hq
    exact ⟨hs.mp (hq s (List.mem_of_getElem? h.far)),hm.mp (hq m (List.mem_of_getElem? h.near))⟩
  · rintro ⟨hout,hback⟩ c hc
    obtain ⟨l,hl⟩ := List.mem_iff_getElem?.mp hc
    by_cases hi : l=i
    · rw [hi,h.near] at hl
      rw [←Option.some.inj hl]
      exact hm.mpr hback
    · by_cases hj : l=j
      · rw [hj,h.far] at hl
        rw [←Option.some.inj hl]
        exact hs.mpr hout
      · rw [h.alone hi hj] at hl
        cases hl

/-- A master and its station, and where their dialogue stands. -/
structure Talking (k : Addressing) (number : UInt8 → Option Nat) (msite ssite : Site)
    (mst sst : Station) (wired : UInt16 → Bool) (n : Network) (i j : Nat)
    (m s : Controller Transceiver) : Prop where
  linked : Linked k number msite.unit ssite.unit n i j m s
  leads : m.Leads msite
  serves : s.Serves ssite wired sst
  phase : Phase msite ssite mst sst m.zones (m.outstanding? ssite.unit) s.zones
    ((airOf msite.unit ssite.unit n.bus m s).waiting msite.unit ssite.unit)
    ((airOf msite.unit ssite.unit n.bus m s).waiting ssite.unit msite.unit)

namespace Talking

variable {k : Addressing} {number : UInt8 → Option Nat} {msite ssite : Site} {mst sst : Station}
  {wired : UInt16 → Bool} {n : Network} {i j : Nat} {m s : Controller Transceiver} {β : Type}
  {e : Controller (Transceiver×Bus)}

/-- The line as the master sees it. -/
theorem masterLine (h : Talking k number msite ssite mst sst wired n i j m s) :
    let L := lineOf k number msite.unit ssite.unit n.bus m s
    L.Open (m.aboard n.bus).link ∧
    L.out (m.aboard n.bus).link=
      (airOf msite.unit ssite.unit n.bus m s).waiting msite.unit ssite.unit ∧
    L.back (m.aboard n.bus).link=
      (airOf msite.unit ssite.unit n.bus m s).waiting ssite.unit msite.unit :=
  h.linked.ends

/-- The line as the station sees it. -/
theorem stationLine (h : Talking k number msite ssite mst sst wired n i j m s) :
    let L := lineOf k number ssite.unit msite.unit n.bus s m
    L.Open (s.aboard n.bus).link ∧
    L.out (s.aboard n.bus).link=
      (airOf msite.unit ssite.unit n.bus m s).waiting ssite.unit msite.unit ∧
    L.back (s.aboard n.bus).link=
      (airOf msite.unit ssite.unit n.bus m s).waiting msite.unit ssite.unit := by
  rw [←airOf_comm h.linked.pair.ne]
  exact h.linked.symm.ends

theorem master_acts (h : Talking k number msite ssite mst sst wired n i j m s)
    (f : Controller (Transceiver×Bus) → Controller (Transceiver×Bus)×β)
    (he : (f (m.aboard n.bus)).1=e)
    (ho : (lineOf k number msite.unit ssite.unit n.bus m s).Open e.link)
    (leads : e.Leads msite)
    (phase : Phase msite ssite mst sst e.zones (e.outstanding? ssite.unit) s.zones
      ((lineOf k number msite.unit ssite.unit n.bus m s).out e.link)
      ((lineOf k number msite.unit ssite.unit n.bus m s).back e.link)) :
    Talking k number msite ssite mst sst wired (n.act i f).1 i j e.ashore s ∧
    airOf msite.unit ssite.unit (n.act i f).1.bus e.ashore s=
      (lineOf k number msite.unit ssite.unit n.bus m s).now e.link := by
  obtain ⟨linked,air⟩ := h.linked.act f he ho
  refine ⟨⟨linked,leads.withCarrier _,h.serves,?_⟩,air⟩
  rw [air]
  exact phase

theorem station_acts (h : Talking k number msite ssite mst sst wired n i j m s)
    (f : Controller (Transceiver×Bus) → Controller (Transceiver×Bus)×β)
    (he : (f (s.aboard n.bus)).1=e)
    (ho : (lineOf k number ssite.unit msite.unit n.bus s m).Open e.link)
    (serves : e.Serves ssite wired sst)
    (phase : Phase msite ssite mst sst m.zones (m.outstanding? ssite.unit) e.zones
      ((lineOf k number ssite.unit msite.unit n.bus s m).back e.link)
      ((lineOf k number ssite.unit msite.unit n.bus s m).out e.link)) :
    Talking k number msite ssite mst sst wired (n.act j f).1 i j m e.ashore ∧
    airOf msite.unit ssite.unit (n.act j f).1.bus m e.ashore=
      (lineOf k number ssite.unit msite.unit n.bus s m).now e.link := by
  obtain ⟨linked,air⟩ := h.linked.symm.act f he ho
  rw [airOf_comm h.linked.pair.ne] at air
  refine ⟨⟨linked.symm,h.leads,serves.withCarrier _,?_⟩,air⟩
  rw [air]
  exact phase

variable (M : Match msite ssite mst sst)
include M

/-- A poll of the master takes in what came back. -/
theorem poll_master (h : Talking k number msite ssite mst sst wired n i j m s) :
    ∃ m',Talking k number msite ssite mst sst wired (n.act i Controller.poll).1 i j m' s ∧
      (airOf msite.unit ssite.unit (n.act i Controller.poll).1.bus m' s).waiting msite.unit
        ssite.unit=(airOf msite.unit ssite.unit n.bus m s).waiting msite.unit ssite.unit ∧
      (airOf msite.unit ssite.unit (n.act i Controller.poll).1.bus m' s).waiting ssite.unit
        msite.unit=[] := by
  obtain ⟨line,hout,hback⟩ := h.masterLine
  have leads : (m.aboard n.bus).Leads msite := h.leads.withCarrier _
  have phase := h.phase
  rw [←hout,←hback] at phase
  obtain ⟨line',leads',hout',hback',phase⟩ := leads.poll M line phase
  obtain ⟨talking,air⟩ := h.master_acts Controller.poll rfl line' leads' phase
  refine ⟨_,talking,?_,?_⟩
  · rw [air]
    exact hout'.trans hout
  · rw [air]
    exact hback'

/-- A poll of the station takes one frame off its way. -/
theorem poll_station (h : Talking k number msite ssite mst sst wired n i j m s) :
    ∃ s',Talking k number msite ssite mst sst wired (n.act j Controller.poll).1 i j m s' ∧
      (airOf msite.unit ssite.unit (n.act j Controller.poll).1.bus m s').waiting msite.unit
        ssite.unit=
      ((airOf msite.unit ssite.unit n.bus m s).waiting msite.unit ssite.unit).tail := by
  obtain ⟨line,hout,hback⟩ := h.stationLine
  have serves : (s.aboard n.bus).Serves ssite wired sst := h.serves.withCarrier _
  have phase := h.phase
  rw [←hout,←hback] at phase
  obtain ⟨line',serves',hback',phase⟩ := serves.poll M rfl rfl line phase
  obtain ⟨talking,air⟩ := h.station_acts Controller.poll rfl line' serves' phase
  refine ⟨_,talking,?_⟩
  rw [air]
  exact hback'.trans (congrArg List.tail hback)

theorem polled (h : Talking k number msite ssite mst sst wired n i j m s) (polls : List Nat) :
    ∃ m' s',Talking k number msite ssite mst sst wired (n.polled polls) i j m' s' := by
  induction polls generalizing n m s with
  | nil => exact ⟨m,s,h⟩
  | cons l polls ih =>
    rw [polled_cons]
    by_cases hi : l=i
    · obtain ⟨m',h',_⟩ := h.poll_master M
      rw [hi]
      exact ih h'
    · by_cases hj : l=j
      · obtain ⟨s',h',_⟩ := h.poll_station M
        rw [hj]
        exact ih h'
      · have : (n.act l Controller.poll).1=n := by
          unfold Network.act
          rw [h.linked.alone hi hj]
        rw [this]
        exact ih h

omit M in
theorem quiet_iff (h : Talking k number msite ssite mst sst wired n i j m s) : n.Quiet ↔
    (airOf msite.unit ssite.unit n.bus m s).waiting msite.unit ssite.unit=[] ∧
    (airOf msite.unit ssite.unit n.bus m s).waiting ssite.unit msite.unit=[] := h.linked.quiet_iff

/-- The two can always poll until nothing waits. -/
theorem settle (h : Talking k number msite ssite mst sst wired n i j m s) :
    ∃ polls,(n.polled polls).Quiet := by
  generalize hk : (airOf msite.unit ssite.unit n.bus m s).waiting msite.unit ssite.unit=out
  induction out generalizing n m s with
  | nil =>
    obtain ⟨m',h',hout,hback⟩ := h.poll_master M
    exact ⟨[i],h'.quiet_iff.mpr ⟨hout.trans hk,hback⟩⟩
  | cons b out ih =>
    obtain ⟨s',h',hout⟩ := h.poll_station M
    rw [hk] at hout
    obtain ⟨polls,hq⟩ := ih h' hout
    exact ⟨j::polls,hq⟩

omit M in
theorem agree (h : Talking k number msite ssite mst sst wired n i j m s) (quiet : n.Quiet) :
    ∀ ch < mst.zoneCount,AgreeAt mst sst m.zones s.zones ch :=
  h.phase.agree (h.quiet_iff.mp quiet).1 (h.quiet_iff.mp quiet).2

theorem command (h : Talking k number msite ssite mst sst wired n i j m s) (quiet : n.Quiet)
    {op : Operation (Transceiver×Bus)} (hop : op.isCommand=true) :
    ∃ m',Talking k number msite ssite mst sst wired (n.command i op) i j m' s := by
  obtain ⟨line,hout,hback⟩ := h.masterLine
  obtain ⟨hqo,hqb⟩ := h.quiet_iff.mp quiet
  have leads : (m.aboard n.bus).Leads msite := h.leads.withCarrier _
  obtain ⟨line',leads',phase⟩ := leads.open_dialogue M rfl rfl line (hout.trans hqo)
    (hback.trans hqb) (h.agree quiet) hop
  exact ⟨_,(h.master_acts (fun c => (c.perform op,())) rfl line' leads' phase).1⟩

theorem exchanged (h : Talking k number msite ssite mst sst wired n i j m s) (quiet : n.Quiet)
    {p : Network} (run : Exchanged i n p) :
    p.Quiet ∧ ∃ m' s',Talking k number msite ssite mst sst wired p i j m' s' := by
  induction run with
  | refl => exact ⟨quiet,m,s,h⟩
  | round op polls _ hop hq ih =>
    obtain ⟨quiet',m',s',h'⟩ := ih
    obtain ⟨m'',h''⟩ := h'.command M quiet' hop
    exact ⟨hq,h''.polled M polls⟩

end Talking

section Start

variable {mcfg scfg : Config} {mst sst : Station}

theorem match_of_valid (hm : mcfg.Valid) (hs : scfg.Valid)
    (listed : mcfg.site.enabledStation? scfg.unit=some mst) (radio : mst.network.isLocal=false)
    (own : scfg.site.station? scfg.unit=some sst) (count : mst.zoneCount=sst.zoneCount)
    (pos : 1 ≤ mst.zoneCount) (few : mst.zoneCount≤254) : Match mcfg.site scfg.site mst sst := by
  have hu := scfg.unit_site.1
  refine ⟨hm.laid,hs.laid,?_,radio,?_,count,pos,UInt8.le_iff_toNat_le.mp few⟩
  · rwa [hu]
  · rwa [hu]

/-- A master and a station that were just switched on. -/
theorem talking_start (M : Match mcfg.site scfg.site mst sst) {role : Role} (hr : role≠.responder)
    {k : Addressing} {number : UInt8 → Option Nat} {n : Network} {i j : Nat} {t r : Transceiver}
    {mv sv : ValveBoard} {mse sse : SensorBank} {mcl scl : Instant}
    (linked : Linked k number mcfg.site.unit scfg.site.unit n i j
      (start role t mcfg.site mv mse mcl) (start .responder r scfg.site sv sse scl))
    (hout : (airOf mcfg.site.unit scfg.site.unit n.bus (start role t mcfg.site mv mse mcl)
      (start .responder r scfg.site sv sse scl)).waiting mcfg.site.unit scfg.site.unit=[])
    (hback : (airOf mcfg.site.unit scfg.site.unit n.bus (start role t mcfg.site mv mse mcl)
      (start .responder r scfg.site sv sse scl)).waiting scfg.site.unit mcfg.site.unit=[]) :
    Talking k number mcfg.site scfg.site mst sst sv.isWired n i j
      (start role t mcfg.site mv mse mcl) (start .responder r scfg.site sv sse scl) where
  linked := linked
  leads := by
    refine ⟨?_,rfl,rfl,rfl,Controller.size_start role t mcfg.site mv mse mcl M.master.length_le,
      fun i hi => absurd (Controller.state_start role t mcfg.site mv mse mcl i) hi⟩
    change role.consumes=true
    cases role with
    | responder => exact absurd rfl hr
    | _ => rfl
  serves := ⟨rfl,rfl,fun _ => rfl,
    Controller.size_start .responder r scfg.site sv sse scl M.station.length_le,
    fun _ hon => absurd (Controller.state_start .responder r scfg.site sv sse scl _) hon⟩
  phase := by
    rw [hout,hback]
    refine .calm nofun fun ch _ => ?_
    rw [AgreeAt,Controller.state_start,Controller.state_start]
    exact ⟨rfl,rfl⟩

/-- Whatever commands a master is given, with polls after each until nothing waits: it then waits for
nothing of its station, and has on exactly the channels that the station has on. And it can always
come to that, whichever command is next. -/
theorem master_agrees_with_station (hm : mcfg.Valid) (hs : scfg.Valid)
    (distinct : mcfg.unit≠scfg.unit) (listed : mcfg.site.enabledStation? scfg.unit=some mst)
    (radio : mst.network.isLocal=false) (own : scfg.site.station? scfg.unit=some sst)
    (count : mst.zoneCount=sst.zoneCount) (pos : 1 ≤ mst.zoneCount) (few : mst.zoneCount≤254)
    {role : Role} (hr : role≠.responder) (k : Addressing) (mv sv : ValveBoard)
    (mse sse : SensorBank) (mcl scl : Instant) {n p : Network} {i j : Nat}
    (hn : n=pair k mcfg.unit scfg.unit (start role · mcfg.site mv mse mcl)
        (start .responder · scfg.site sv sse scl) ∧ i=0 ∧ j=1 ∨
      n=pair k scfg.unit mcfg.unit (start .responder · scfg.site sv sse scl)
        (start role · mcfg.site mv mse mcl) ∧ i=1 ∧ j=0)
    (run : Exchanged i n p) :
    (∃ m s,p.nodes[i]?=some m ∧ p.nodes[j]?=some s ∧ ∀ ch < mst.zoneCount,
      (m.zones.state (mst.zoneOf ch)).isPending=false ∧
      ((m.zones.state (mst.zoneOf ch)).isOn=true ↔
        (s.zones.state (sst.zoneOf ch)).isOn=true)) ∧
    ∀ op : Operation (Transceiver×Bus),op.isCommand=true →
      ∃ polls,((p.command i op).polled polls).Quiet := by
  have M := match_of_valid hm hs listed radio own count pos few
  rw [←mcfg.unit_site.1,←scfg.unit_site.1] at distinct hn
  obtain ⟨number,m,s,start⟩ : ∃ number m s,
      Talking k number mcfg.site scfg.site mst sst sv.isWired n i j m s ∧ n.Quiet := by
    obtain ⟨rfl,rfl,rfl⟩ | ⟨rfl,rfl,rfl⟩ := hn
    · obtain ⟨number,t,r,linked,hout,hback⟩ := linked_pair (k:=k) distinct
        (c:=(start role · mcfg.site mv mse mcl)) (d:=(start .responder · scfg.site sv sse scl))
        (fun _ => rfl) fun _ => rfl
      have talking := talking_start M hr linked hout hback
      exact ⟨number,_,_,talking,talking.quiet_iff.mpr ⟨hout,hback⟩⟩
    · obtain ⟨number,t,r,linked,hout,hback⟩ := linked_pair (k:=k) distinct.symm
        (c:=(start .responder · scfg.site sv sse scl)) (d:=(start role · mcfg.site mv mse mcl))
        (fun _ => rfl) fun _ => rfl
      rw [airOf_comm distinct] at hout hback
      have talking := talking_start M hr linked.symm hback hout
      exact ⟨number,_,_,talking,talking.quiet_iff.mpr ⟨hback,hout⟩⟩
  obtain ⟨talking,quiet⟩ := start
  obtain ⟨quiet',m',s',talking'⟩ := talking.exchanged M quiet run
  refine ⟨⟨m',s',talking'.linked.near,talking'.linked.far,fun ch hc => ?_⟩,fun op hop => ?_⟩
  · obtain ⟨settled,same⟩ := talking'.agree quiet' ch hc
    exact ⟨settled,by rw [same]⟩
  · obtain ⟨m'',talking''⟩ := talking'.command M quiet' hop
    exact talking''.settle M

/-- A master of the plot's two valves. -/
def hub : Config :=
  {unit:=9,stations:=[{id:=1,name:="Plot",network:=.radio,zoneCount:=2,firstZone:=4}]}

theorem hub_valid : hub.Valid := by decide

theorem hub_plot : ∃ mst sst,hub.site.enabledStation? 1=some mst ∧ mst.network.isLocal=false ∧
    Config.plot.site.station? 1=some sst ∧ mst.zoneCount=2 ∧ sst.zoneCount=2 ∧ mst.zoneOf 1=5 ∧
    sst.zoneOf 1=1 :=
  ⟨_,_,by rw [Site.enabledStation?,hub_valid.station?_site]; rfl,by decide,
    by rw [Config.plot_valid.station?_site]; rfl,by decide,by decide,by decide,by decide⟩

/-- The hub and the plot, after the plot's second zone was started. -/
def hubRun : Network :=
  ((pair .short 9 1 (start .requester · hub.site {} {} ⟨0,0⟩)
    (start .responder · Config.plot.site (.ofOutputs [0,1]) {} ⟨0,0⟩)).command 0
      (.startZone {zone:=5,minutes:=1})).polled [1,0]

theorem hubRun_quiet : hubRun.Quiet := by decide +kernel

theorem hubRun_isOn : hubRun.nodes[0]?.any (fun m => (m.zones.state 5).isOn)=true := by
  decide +kernel

theorem master_agrees_with_station_plot : hubRun.Quiet ∧
    (∃ m s,hubRun.nodes[0]?=some m ∧ hubRun.nodes[1]?=some s ∧
      (m.zones.state 5).isPending=false ∧ (s.zones.state 1).isOn=true) ∧
    ∃ polls,((hubRun.command 0 .stopAll).polled polls).Quiet := by
  obtain ⟨mst,sst,listed,radio,own,hm,hs,hmz,hsz⟩ := hub_plot
  obtain ⟨⟨m,s,near,far,h⟩,next⟩ := master_agrees_with_station hub_valid Config.plot_valid
    (by decide) listed radio own (hm.trans hs.symm) (by rw [hm]; decide) (by rw [hm]; decide)
    (show Role.requester≠.responder by decide) .short {} (.ofOutputs [0,1]) {} {} ⟨0,0⟩ ⟨0,0⟩
    (.inl ⟨rfl,rfl,rfl⟩) (.round (.startZone {zone:=5,minutes:=1}) [1,0] .refl rfl hubRun_quiet)
  obtain ⟨settled,same⟩ := h 1 (by rw [hm]; decide)
  rw [hmz] at settled same
  rw [hsz] at same
  have on := hubRun_isOn
  have near' : hubRun.nodes[0]?=some m := near
  rw [near',Option.any_some] at on
  exact ⟨hubRun_quiet,⟨m,s,near,far,settled,same.mp on⟩,next .stopAll rfl⟩

end Start

end Watering.Network
