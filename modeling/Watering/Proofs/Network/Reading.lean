import Watering.Proofs.Controller.Replies
import Watering.Proofs.Network.Exchange

namespace Watering

namespace RemoteView

/-- What is known after a report of words. -/
def heard (r : RemoteView) (source : UInt8) : Message → RemoteView
  | .sensorsReport first values => {r with sensors:=putAll r.sensors source first values}
  | .registersReport first values => {r with registers:=putAll r.registers source first values}
  | _ => r

/-- Values stored from the first index on are found where they belong. -/
theorem getElem?_putAll (t : Std.TreeMap UInt8 (Std.TreeMap UInt8 UInt16)) (station : UInt8)
    {values : List UInt16} (short : values.length≤256) (x : UInt8) :
    ((putAll t station 0 values).getD station {})[x]?=
      if x.toNat < values.length then values[x.toNat]? else (t.getD station {})[x]? := by
  induction values using List.reverseRecOn with
  | nil => rfl
  | append_singleton values v ih =>
    rw [List.length_append,List.length_singleton] at short ⊢
    have index : (addCapped 0 (UInt8.ofNat values.length)).toNat=values.length := by
      rw [addCapped_toNat,UInt8.toNat_ofNat_of_lt' (by simp only [UInt8.size]; omega)]
      change min (0+values.length) 255=_
      omega
    have last : putAll t station 0 (values++[v])=(putAll t station 0 values).insert station
        (((putAll t station 0 values).getD station {}).insert
          (addCapped 0 (UInt8.ofNat values.length)) v) := by
      simp only [putAll,List.zipIdx_append,List.foldl_append,List.zipIdx_singleton,Nat.zero_add]
      rfl
    rw [last,Std.TreeMap.getD_insert_self,Std.TreeMap.getElem?_insert]
    by_cases e : x.toNat=values.length
    · have e' : addCapped 0 (UInt8.ofNat values.length)=x :=
        UInt8.toNat_inj.mp (index.trans e.symm)
      simp [e',e]
    · have e' : addCapped 0 (UInt8.ofNat values.length)≠x := fun k => e (by rw [←k,index])
      rw [if_neg (by simpa using e'),ih (by omega)]
      by_cases lt : x.toNat < values.length
      · rw [if_pos lt,if_pos (by omega),List.getElem?_append_left lt]
      · rw [if_neg lt,if_neg (by omega)]

/-- Words read from the first index on are found where they were read. -/
theorem getElem?_putAll_span (t : Std.TreeMap UInt8 (Std.TreeMap UInt8 UInt16)) (station : UInt8)
    (word : UInt8 → UInt16) {count x : UInt8} (h : x < count) :
    ((putAll t station 0 ((span 0 count).map word)).getD station {})[x]?=some (word x) := by
  have hx : x.toNat < count.toNat := UInt8.lt_iff_toNat_lt.mp h
  have length : ((span 0 count).map word).length=count.toNat := by
    rw [List.length_map,length_span_zero]
  rw [getElem?_putAll t station (by rw [length]; exact count.toNat_lt.le),length,if_pos hx,
    List.getElem?_map,getElem?_span_zero h]
  rfl

end RemoteView

namespace Controller

variable {σ : Type} {c : Controller σ} {f : Frame} {st : Station}

/-- A report of words is remembered, and sends nothing. -/
theorem consume_words {first : UInt8} {values : List UInt16}
    (hm : f.message=.sensorsReport first values ∨ f.message=.registersReport first values) :
    (c.consume f).1.root=c.root ∧ (c.consume f).1.remote=c.remote.heard f.source f.message := by
  refine ⟨c.root_consume f,?_⟩
  obtain ⟨transaction,target,source,m⟩ := f
  obtain hm | hm := hm
  · obtain rfl : m=_ := hm
    change (c.consumeSensors source first values).remote=_
    unfold consumeSensors
    refine (foldl_same (g:=Controller.remote) (fun _ _ => ?_) values.zipIdx _).trans rfl
    rfl
  · obtain rfl : m=_ := hm
    rfl

variable [Carrier σ]

theorem serve_sensorsRead (usable : c.Usable .status st) (some' : 0 < c.sensors.count.toNat)
    (hm : f.message=.sensorsRead 0 everything) :
    (c.serve f).1=c.reply f (.sensorsReport 0 ((span 0 c.sensors.count).map c.sensors.read)) := by
  have all : Within 0 everything c.sensors.count := ⟨some',Nat.le_of_eq (Nat.zero_add _)⟩
  have hs : c.serve f=c.serveSensorsRead f 0 everything := by
    unfold serve
    rw [hm]
  rw [hs,serveSensorsRead,addressable?_eq_some.mpr usable]
  dsimp only
  rw [resolveRange_within all,expand_everything]
  dsimp only [handle]

theorem serve_registersRead (hm : f.message=.registersRead 0 everything) :
    (c.serve f).1=c.reply f (c.registersReport 0 c.registerCount) := by
  have some' : 0 < c.registerCount.toNat := by
    rw [←min_registerContext_count]
    change 0 < min (22+_) 255
    omega
  have all : Within 0 everything c.registerCount := ⟨some',Nat.le_of_eq (Nat.zero_add _)⟩
  have hs : c.serve f=c.serveRegistersRead f 0 everything := by
    unfold serve
    rw [hm]
  rw [hs,c.serveRegistersRead_within f all,expand_everything]

/-- An answer comes to who asked if it fits in a frame, and else to nobody. -/
theorem reply_far {L : Line} {c : Controller (Transceiver×Bus)} (h : L.Open c.link)
    (own : c.unit=L.near) (asker : f.source=L.far) (m : Message) :
    L.Open (c.reply f m).link ∧
    L.out (c.reply f m).link=L.out c.link++
      (if m.fits=true then [(⟨f.transaction,f.source,c.unit,m⟩ : Frame).octets] else []) ∧
    L.back (c.reply f m).link=L.back c.link := by
  by_cases hm : m.fits=true
  · rw [if_pos hm]
    unfold reply
    rw [asker]
    obtain ⟨_,sent⟩ := sendFrame_far (f:=⟨f.transaction,L.far,c.unit,m⟩) h (of_decide_eq_true hm) own
    exact sent
  · rw [if_neg hm,reply_eq_self hm,List.append_nil]
    exact ⟨h,rfl,rfl⟩

end Controller

namespace Network

variable {k : Addressing} {number : UInt8 → Option Nat} {u v : UInt8} {n : Network} {i j : Nat}
  {m s : Controller Transceiver} {st : Station} {β : Type} {e : Controller (Transceiver×Bus)}

namespace Linked

/-- What the first of the two does, as it shows in what is on its way. -/
theorem act_waiting (h : Linked k number u v n i j m s)
    (f : Controller (Transceiver×Bus) → Controller (Transceiver×Bus)×β)
    (he : (f (m.aboard n.bus)).1=e) (ho : (lineOf k number u v n.bus m s).Open e.link) :
    Linked k number u v (n.act i f).1 i j e.ashore s ∧
    (airOf u v (n.act i f).1.bus e.ashore s).waiting u v=
      (lineOf k number u v n.bus m s).out e.link ∧
    (airOf u v (n.act i f).1.bus e.ashore s).waiting v u=
      (lineOf k number u v n.bus m s).back e.link := by
  obtain ⟨linked,air⟩ := h.act f he ho
  rw [air]
  exact ⟨linked,rfl,rfl⟩

/-- The first of the two asks something of the other. -/
theorem ask (h : Linked k number u v n i j m s) (unit : m.unit=u) {q : Message}
    (fits : q.payload.length ≤ maxPayload) :
    ∃ m',Linked k number u v (n.act i (·.request v q)).1 i j m' s ∧ m'.still=m.still ∧
      (airOf u v (n.act i (·.request v q)).1.bus m' s).waiting u v=
        (airOf u v n.bus m s).waiting u v++[(⟨m.nextTransaction,v,u,q⟩ : Frame).octets] ∧
      (airOf u v (n.act i (·.request v q)).1.bus m' s).waiting v u=
        (airOf u v n.bus m s).waiting v u := by
  obtain ⟨line,hout,hback⟩ := h.ends
  obtain ⟨_,hlink,_⟩ := (m.aboard n.bus).request_parts v q
  obtain ⟨_,line',hout',hback'⟩ := Controller.sendFrame_far
    (c:=(m.aboard n.bus).takeTransaction.1) (f:=⟨m.nextTransaction,v,m.unit,q⟩) line fits unit
  have still : ((m.aboard n.bus).request v q).1.still=m.still := Controller.still_request ..
  obtain ⟨linked,out,back⟩ := h.act_waiting (fun c => c.request v q) rfl (by rw [hlink]; exact line')
  refine ⟨_,linked,still,?_,?_⟩
  · rw [out,hlink]
    refine hout'.trans ?_
    rw [unit]
    exact congrArg (·++_) hout
  · rw [back,hlink]
    exact hback'.trans hback

/-- The first of the two polls. -/
theorem poll (h : Linked k number u v n i j m s) : ∃ c : Controller (Transceiver×Bus),
    c.still=m.still ∧ (lineOf k number u v n.bus m s).Open c.link ∧
    (lineOf k number u v n.bus m s).out c.link=(airOf u v n.bus m s).waiting u v ∧
    match (airOf u v n.bus m s).waiting v u with
    | [] => (m.aboard n.bus).poll.1=c ∧ (lineOf k number u v n.bus m s).back c.link=[]
    | frame::rest => (m.aboard n.bus).poll.1=(c.process frame).1 ∧
      (lineOf k number u v n.bus m s).back c.link=rest := by
  obtain ⟨line,hout,hback⟩ := h.ends
  obtain ⟨line',hout',next⟩ := Controller.poll_line line
  rw [hback] at next
  refine ⟨_,rfl,line',?_,next⟩
  rw [←hout]
  exact hout'

end Linked

/-- Nothing is under way between a master and a station that it may read. -/
structure Reading (k : Addressing) (number : UInt8 → Option Nat) (u v : UInt8) (n : Network)
    (i j : Nat) (m s : Controller Transceiver) (st : Station) : Prop where
  linked : Linked k number u v n i j m s
  quiet : n.Quiet
  consumes : m.role.consumes=true
  unit : m.unit=u
  serves : s.role.serves=true
  own : s.unit=v
  usable : s.Usable .status st

namespace Reading

/-- The station answers what waits for it. -/
theorem answer (linked : Linked k number u v n i j m s) (serves : s.role.serves=true)
    (own : s.unit=v) {q report : Message} {t : UInt8} (onWire : q.onWire=q)
    (fits : q.payload.length ≤ maxPayload) (request : q.function.isRequest=true)
    (asked : (airOf u v n.bus m s).waiting u v=[(⟨t,v,u,q⟩ : Frame).octets])
    (calm : (airOf u v n.bus m s).waiting v u=[])
    (served : ∀ c : Controller (Transceiver×Bus),c.still=s.still →
      (c.serve ⟨t,v,u,q⟩).1=c.reply ⟨t,v,u,q⟩ report) :
    ∃ s',Linked k number u v (n.act j Controller.poll).1 i j m s' ∧ s'.still=s.still ∧
      (airOf u v (n.act j Controller.poll).1.bus m s').waiting u v=[] ∧
      (airOf u v (n.act j Controller.poll).1.bus m s').waiting v u=
        if report.fits=true then [(⟨t,u,v,report⟩ : Frame).octets] else [] := by
  obtain ⟨c,still,line,hout,next⟩ := linked.symm.poll
  rw [airOf_comm linked.pair.ne] at hout next
  rw [asked] at next
  obtain ⟨hpoll,hback⟩ := next
  rw [calm] at hout
  have role : c.role=s.role := congrArg (·.1.role) still
  have unit : c.unit=v := (congrArg (·.1.registers.unit) still).trans own
  have processed : (c.process (⟨t,v,u,q⟩ : Frame).octets).1=c.reply ⟨t,v,u,q⟩ report := by
    rw [Controller.process_request (by rw [role]; exact serves) (f:=⟨t,v,u,q⟩) unit.symm fits
      request]
    dsimp only
    rw [onWire]
    exact served c still
  rw [processed] at hpoll
  have still' : (c.reply ⟨t,v,u,q⟩ report).still=s.still := (Controller.still_reply ..).trans still
  obtain ⟨line',hout',hback'⟩ := Controller.reply_far (f:=⟨t,v,u,q⟩) line unit rfl report
  obtain ⟨linked',out,back⟩ := linked.symm.act_waiting Controller.poll hpoll line'
  rw [airOf_comm linked.pair.ne] at out back
  refine ⟨_,linked'.symm,still',back.trans (hback'.trans hback),?_⟩
  rw [out]
  refine hout'.trans ?_
  rw [hout,unit]
  rfl

/-- The master takes in what was answered, if anything was. -/
theorem hear (linked : Linked k number u v n i j m s) (consumes : m.role.consumes=true)
    (unit : m.unit=u) {report : Message} {t first : UInt8} {values : List UInt16}
    (words : report=.sensorsReport first values ∨ report=.registersReport first values)
    (calm : (airOf u v n.bus m s).waiting u v=[])
    (answered : (airOf u v n.bus m s).waiting v u=
      if report.fits=true then [(⟨t,u,v,report⟩ : Frame).octets] else []) :
    ∃ m',Linked k number u v (n.act i Controller.poll).1 i j m' s ∧
      (n.act i Controller.poll).1.Quiet ∧ m'.role=m.role ∧ m'.unit=m.unit ∧
      m'.remote=if report.fits=true then m.remote.heard v report else m.remote := by
  obtain ⟨c,still,line,hout,next⟩ := linked.poll
  have role : c.role=m.role := congrArg (·.1.role) still
  have unit' : c.unit=m.unit := congrArg (·.1.registers.unit) still
  have remote : c.remote=m.remote := congrArg (·.1.remote) still
  rw [calm] at hout
  rw [answered] at next
  by_cases short : report.fits=true
  · rw [if_pos short] at next ⊢
    obtain ⟨hpoll,hback⟩ := next
    have payload : report.payload.length ≤ maxPayload := of_decide_eq_true short
    have onWire : report.onWire=report := by
      obtain rfl | rfl := words <;> rfl
    have answer : report.function.isRequest=false := by
      obtain rfl | rfl := words <;> rfl
    rw [Controller.process_answer (by rw [role]; exact consumes) (f:=⟨t,u,v,report⟩)
      (unit'.trans unit).symm payload answer] at hpoll
    dsimp only at hpoll
    rw [onWire] at hpoll
    obtain ⟨root,heard⟩ := c.consume_words (f:=⟨t,u,v,report⟩) words
    have link := Controller.link_of_root root
    obtain ⟨linked',out,back⟩ := linked.act_waiting Controller.poll hpoll (by rwa [link])
    rw [link] at out back
    refine ⟨_,linked',linked'.quiet_iff.mpr ⟨out.trans hout,back.trans hback⟩,?_,?_,?_⟩
    · exact (congrArg (·.1) root).trans role
    · exact (congrArg (·.2.2.1.unit) root).trans unit'
    · rw [←remote]
      exact heard
  · rw [if_neg short] at next ⊢
    obtain ⟨hpoll,hback⟩ := next
    obtain ⟨linked',out,back⟩ := linked.act_waiting Controller.poll hpoll line
    exact ⟨_,linked',linked'.quiet_iff.mpr ⟨out.trans hout,back.trans hback⟩,role,unit',remote⟩

/-- A read, a poll of the station and a poll of the master. -/
theorem exchange (h : Reading k number u v n i j m s st) {q report : Message} {first : UInt8}
    {values : List UInt16} (onWire : q.onWire=q) (fits : q.payload.length ≤ maxPayload)
    (request : q.function.isRequest=true)
    (words : report=.sensorsReport first values ∨ report=.registersReport first values)
    (served : ∀ (c : Controller (Transceiver×Bus)) (t : UInt8),c.still=s.still →
      (c.serve ⟨t,v,u,q⟩).1=c.reply ⟨t,v,u,q⟩ report) :
    ∃ m' s',Reading k number u v ((n.act i (·.request v q)).1.polled [j,i]) i j m' s' st ∧
      s'.still=s.still ∧
      m'.remote=if report.fits=true then m.remote.heard v report else m.remote := by
  obtain ⟨calm,calm'⟩ := h.linked.quiet_iff.mp h.quiet
  obtain ⟨m₁,linked,still,asked,back⟩ := h.linked.ask h.unit fits
  rw [calm,List.nil_append] at asked
  obtain ⟨s',linked,still',out,answered⟩ := answer linked h.serves h.own onWire fits request asked
    (back.trans calm') fun c => served c _
  have role : m₁.role=m.role := congrArg (·.1.role) still
  have unit : m₁.unit=u := (congrArg (·.1.registers.unit) still).trans h.unit
  have remote : m₁.remote=m.remote := congrArg (·.1.remote) still
  obtain ⟨m',linked,quiet,role',unit',remote'⟩ := hear linked (by rw [role]; exact h.consumes) unit
    words out answered
  rw [remote] at remote'
  refine ⟨m',s',⟨linked,quiet,?_,unit'.trans unit,?_,?_,?_⟩,still',remote'⟩
  · rw [role',role]
    exact h.consumes
  · rw [show s'.role=s.role from congrArg (·.1.role) still']
    exact h.serves
  · exact (congrArg (·.1.registers.unit) still').trans h.own
  · exact h.usable.of_still still'

/-- A read of so many words from the first on, a poll of the station and a poll of the master. -/
theorem exchange_span (h : Reading k number u v n i j m s st) {q report : Message} {count : UInt8}
    {word : UInt8 → UInt16} (onWire : q.onWire=q) (fits : q.payload.length ≤ maxPayload)
    (request : q.function.isRequest=true)
    (words : report=.sensorsReport 0 ((span 0 count).map word) ∨
      report=.registersReport 0 ((span 0 count).map word))
    (served : ∀ (c : Controller (Transceiver×Bus)) (t : UInt8),c.still=s.still →
      (c.serve ⟨t,v,u,q⟩).1=c.reply ⟨t,v,u,q⟩ report) :
    ∃ m' s',Reading k number u v ((n.act i (·.request v q)).1.polled [j,i]) i j m' s' st ∧
      s'.still=s.still ∧ (count.toNat≤126 → m'.remote=m.remote.heard v report) ∧
      (126 < count.toNat → m'.remote=m.remote) := by
  obtain ⟨m',s',reading,still,remote⟩ := h.exchange onWire fits request words served
  have carried : report.words=some ((span 0 count).map word) := by
    obtain rfl | rfl := words <;> rfl
  refine ⟨m',s',reading,still,fun few => ?_,fun many => ?_⟩
  · rw [remote,if_pos (report.fits_iff.mpr ?_)]
    rintro ⟨ws,hw,long⟩
    rw [carried] at hw
    rw [←Option.some.inj hw,List.length_map,length_span_zero] at long
    exact Nat.not_lt.mpr few long
  · rw [remote,if_neg fun short => report.fits_iff.mp short ⟨_,carried,?_⟩]
    rwa [List.length_map,length_span_zero]

/-- All readings of the station arrive, or none. -/
theorem sensors (h : Reading k number u v n i j m s st) (some' : 0 < s.sensors.count.toNat) :
    ∃ m' s',Reading k number u v ((n.act i (·.pollSensors v)).1.polled [j,i]) i j m' s' st ∧
      s'.still=s.still ∧
      (s.sensors.count.toNat≤126 → ∀ x < s.sensors.count,
        (m'.remote.sensors.getD v {})[x]?=some (s.sensors.read x)) ∧
      (126 < s.sensors.count.toNat → m'.remote=m.remote) := by
  have served (c : Controller (Transceiver×Bus)) (t : UInt8) (same : c.still=s.still) :
      (c.serve ⟨t,v,u,.sensorsRead 0 everything⟩).1=c.reply ⟨t,v,u,.sensorsRead 0 everything⟩
        (.sensorsReport 0 ((span 0 s.sensors.count).map s.sensors.read)) := by
    have sensors : c.sensors=s.sensors := congrArg (·.1.sensors) same
    rw [←sensors]
    exact Controller.serve_sensorsRead (h.usable.of_still same) (by rwa [sensors]) rfl
  obtain ⟨m',s',reading,still,few,many⟩ := h.exchange_span rfl (by decide) rfl (.inl rfl) served
  refine ⟨m',s',reading,still,fun hn x hx => ?_,many⟩
  rw [few hn]
  exact RemoteView.getElem?_putAll_span _ v s.sensors.read hx

/-- All registers of the station arrive, or none. -/
theorem registers (h : Reading k number u v n i j m s st) :
    ∃ m' s',Reading k number u v ((n.act i (·.readRegisters v 0 everything)).1.polled [j,i]) i j
        m' s' st ∧
      s'.still=s.still ∧
      (s.registerCount.toNat≤126 → ∀ a < s.registerCount,
        (m'.remote.registers.getD v {})[a]?=some (s.registers.read a s.registerContext)) ∧
      (126 < s.registerCount.toNat → m'.remote=m.remote) := by
  have served (c : Controller (Transceiver×Bus)) (t : UInt8) (same : c.still=s.still) :
      (c.serve ⟨t,v,u,.registersRead 0 everything⟩).1=c.reply ⟨t,v,u,.registersRead 0 everything⟩
        (.registersReport 0 ((span 0 s.registerCount).map (s.registers.read · s.registerContext)))
        := by
    have report := congrFun (Controller.report?_of_still same) (.registersRead 0 everything)
    rw [Controller.serve_registersRead rfl]
    exact congrArg (c.reply _) (Option.some.inj report)
  obtain ⟨m',s',reading,still,few,many⟩ := h.exchange_span rfl (by decide) rfl (.inr rfl) served
  refine ⟨m',s',reading,still,fun hn a ha => ?_,many⟩
  rw [few hn]
  exact RemoteView.getElem?_putAll_span _ v (s.registers.read · s.registerContext) ha

end Reading

open Controller (start)

/-- A master asks its station for all sensors, or for all registers, and the station polls and then
the master. The master then has every value, each under its index, if the station counts at most 126;
a frame does not hold more, and then the master has learned nothing. -/
theorem reads_that_fit_arrive (h : Reading k number u v n i j m s st) :
    (0 < s.sensors.count.toNat → ∃ m' s',
      Reading k number u v ((n.act i (·.pollSensors v)).1.polled [j,i]) i j m' s' st ∧
      s'.still=s.still ∧
      (s.sensors.count.toNat≤126 → ∀ x < s.sensors.count,
        (m'.remote.sensors.getD v {})[x]?=some (s.sensors.read x)) ∧
      (126 < s.sensors.count.toNat → m'.remote=m.remote)) ∧
    ∃ m' s',
      Reading k number u v ((n.act i (·.readRegisters v 0 everything)).1.polled [j,i]) i j m' s' st ∧
      s'.still=s.still ∧
      (22+st.zoneCount.toNat≤126 → ∀ a : UInt8,a.toNat<22+st.zoneCount.toNat →
        (m'.remote.registers.getD v {})[a]?=some (s.registers.read a s.registerContext)) ∧
      (126<22+st.zoneCount.toNat → m'.remote=m.remote) := by
  have counted : s.registerCount.toNat=min (22+st.zoneCount.toNat) 255 := by
    rw [Controller.registerCount,h.usable.1,UInt8.toNat_ofNat_of_lt' (Nat.lt_succ_of_le
      (Nat.min_le_right ..))]
    rfl
  obtain ⟨m',s',reading,still,few,many⟩ := h.registers
  refine ⟨h.sensors,m',s',reading,still,fun hz a ha => ?_,fun hz => many (by omega)⟩
  exact few (by omega) a (UInt8.lt_iff_toNat_lt.mpr (by omega))

/-- A master and a station that were just switched on. -/
theorem reading_start {a b : Site} (distinct : a.unit≠b.unit)
    (own : b.station? b.unit=some st) (enabled : st.enabled=true) (status : st.remoteStatus=true)
    {role : Role} (consumes : role.consumes=true) (k : Addressing) (mv sv : ValveBoard)
    (mse sse : SensorBank) (mcl scl : Instant) : ∃ number t r,
    Reading k number a.unit b.unit (pair k a.unit b.unit (start role · a mv mse mcl)
      (start .responder · b sv sse scl)) 0 1 (start role t a mv mse mcl)
      (start .responder r b sv sse scl) st := by
  obtain ⟨number,t,r,linked,hout,hback⟩ := linked_pair (k:=k) distinct
    (c:=(start role · a mv mse mcl)) (d:=(start .responder · b sv sse scl)) (fun _ => rfl)
    fun _ => rfl
  exact ⟨number,t,r,linked,linked.quiet_iff.mpr ⟨hout,hback⟩,consumes,rfl,rfl,rfl,own,enabled,status⟩

/-- The hub and the plot, with sensors at the plot. -/
def sensing (values : List UInt16) : Network :=
  pair .short 9 1 (start .requester · hub.site {} {} ⟨0,0⟩)
    (start .responder · Config.plot.site (.ofOutputs [0,1]) {values} ⟨0,0⟩)

theorem reads_that_fit_arrive_plot :
    (∃ m,(((sensing [181,640]).act 0 (·.pollSensors 1)).1.polled [1,0]).nodes[0]?=some m ∧
      (m.remote.sensors.getD 1 {})[(0 : UInt8)]?=some 181 ∧
      (m.remote.sensors.getD 1 {})[(1 : UInt8)]?=some 640) ∧
    ∃ m,(((sensing [181,640]).act 0 (·.readRegisters 1 0 everything)).1.polled [1,0]).nodes[0]?=
        some m ∧
      (m.remote.registers.getD 1 {})[(3 : UInt8)]?=some 2 := by
  obtain ⟨st,own,enabled,status,count⟩ : ∃ st,Config.plot.site.station? 1=some st ∧
      st.enabled=true ∧ st.remoteStatus=true ∧ st.zoneCount=2 :=
    ⟨_,by rw [Config.plot_valid.station?_site]; rfl,rfl,rfl,rfl⟩
  obtain ⟨number,t,r,h⟩ := reading_start (a:=hub.site) (b:=Config.plot.site) (by decide) own enabled
    status (show Role.requester.consumes=true from rfl) .short {} (.ofOutputs [0,1]) {}
    {values:=[181,640]} ⟨0,0⟩ ⟨0,0⟩
  obtain ⟨sensors,m₂,_,reading₂,_,few₂,_⟩ := reads_that_fit_arrive h
  obtain ⟨m₁,_,reading₁,_,few₁,_⟩ := sensors (show 0<2 by decide)
  have all := few₁ (show 2≤126 by decide)
  rw [count] at few₂
  refine ⟨⟨m₁,reading₁.linked.near,all 0 (show (0 : UInt8)<2 by decide),
    all 1 (show (1 : UInt8)<2 by decide)⟩,m₂,reading₂.linked.near,
    (few₂ (by decide) 3 (by decide)).trans ?_⟩
  change some (((Config.plot.site.station? 1).map Station.zoneCount).getD 0).toUInt16=_
  rw [own,Option.map_some,count]
  rfl

/-- With one sensor more than a frame can tell of, the plot, which may be read, serves the request, and
yet the hub hears nothing. -/
theorem crowded_plot_stays_silent :
    let n := sensing (List.replicate 127 7)
    let p := n.act 0 (·.pollSensors 1)
    Config.plot.Valid ∧
      (Config.plot.site.station? 1).any (fun st => st.enabled && st.remoteStatus)=true ∧
      p.2=some true ∧ (p.1.pollEach [1,0]).2=[(1,.handled .sensorsRead)] ∧
      (p.1.polled [1,0]).Quiet ∧
      (p.1.polled [1,0]).nodes[0]?.any (·.remote.sensors.isEmpty)=true := by
  decide +kernel

end Network

end Watering
