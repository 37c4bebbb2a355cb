import Watering.Controller.Inbox
import Watering.Proofs.Controller.Settling

namespace Watering

/-- A master's site that lists a station elsewhere, and the site of that station. -/
structure Match (msite ssite : Site) (mst sst : Station) : Prop where
  master : msite.Laid
  station : ssite.Laid
  listed : msite.enabledStation? ssite.unit=some mst
  radio : mst.network.isLocal=false
  own : ssite.station? ssite.unit=some sst
  count : mst.zoneCount=sst.zoneCount
  pos : 1 ≤ mst.zoneCount
  few : mst.zoneCount.toNat≤254

namespace Controller

theorem isAddressed_own {σ : Type} (c : Controller σ) {f : Frame} (h : f.target=c.unit) :
    c.isAddressed f=true := by
  rw [isAddressed,h,beq_self_eq_true,Bool.true_or]

section Process

variable {σ : Type} [Carrier σ] {c : Controller σ} {unit : UInt8}

theorem process_stray (hu : c.unit=unit) {bytes : List UInt8} (h : Stray unit bytes) :
    (c.process bytes).1=c := by
  obtain ⟨f,hd,hne,hf⟩ := h
  have ha : c.isAddressed f=false := by
    have : (f.target==c.unit)=false := by rwa [hu,beq_eq_false_iff_ne]
    rw [isAddressed,this,hf]
    exact Bool.and_false _
  rw [process_decoded hd,ha]
  rfl

theorem process_request (hs : c.role.serves=true) {f : Frame} (ht : f.target=c.unit)
    (fits : f.message.payload.length ≤ maxPayload) (hr : f.function.isRequest=true) :
    c.process f.octets=c.serve {f with message:=f.message.onWire} := by
  have ha := c.isAddressed_own (f:={f with message:=f.message.onWire}) ht
  have hr' : ({f with message:=f.message.onWire} : Frame).function.isRequest=true := by
    rw [Frame.function,Message.function_onWire]
    exact hr
  unfold process
  rw [Frame.decode_octets fits]
  dsimp only
  rw [ha,hr',hs]
  rfl

theorem process_answer (hc : c.role.consumes=true) {f : Frame} (ht : f.target=c.unit)
    (fits : f.message.payload.length ≤ maxPayload) (hr : f.function.isRequest=false) :
    (c.process f.octets).1=(c.consume {f with message:=f.message.onWire}).1 := by
  have ha := c.isAddressed_own (f:={f with message:=f.message.onWire}) ht
  have hr' : ({f with message:=f.message.onWire} : Frame).function.isRequest=false := by
    rw [Frame.function,Message.function_onWire]
    exact hr
  rw [process_decoded (Frame.decode_octets fits),ha,hr',hc]
  rfl

end Process

variable {σ : Type} {msite ssite : Site} {mst sst : Station} {wired : UInt16 → Bool}
  {q : ZonesRequest} {pending : Option (List UInt8)} {m s : ZoneBoard} {c d : Controller σ}

/-- A request was sent and not yet served. -/
structure Awaits (msite : Site) (mst sst : Station) (q : ZonesRequest)
    (pending : Option (List UInt8)) (m s : ZoneBoard) : Prop where
  pending : pending=some (q.channels.map mst.zoneOf)
  within : q.Within mst.zoneCount
  agree {ch : UInt8} : ch < mst.zoneCount → ch∉q.channels → AgreeAt mst sst m s ch
  waits {ch : UInt8} : ch∈q.channels →
    m.state (mst.zoneOf ch)=.off ∨ (m.state (mst.zoneOf ch)).isPending=true
  may {ch : UInt8} : ch < mst.zoneCount →
    (s.state (sst.zoneOf ch)).isOn=true ∨ q.minutes≠0 ∧ ch∈q.channels →
    ∃ z,msite.MayRun (mst.zoneOf ch) z

theorem channels_onWire (q : ZonesRequest) :
    (span q.first q.count).filter (⟨q.mask.fit (bitmapLength q.first q.count)⟩ : ZoneMask).get=
      q.channels := q.mask.filter_fit q.first q.count

/-- The answer to a request settles it. -/
theorem Awaits.settles (M : Match msite ssite mst sst)
    (h : Awaits msite mst sst q pending m c.zones) (t : Touches sst q.channels c d)
    (stops : q.minutes=0 → ∀ ch∈q.channels,d.zones.state (sst.zoneOf ch)=.off) {a : Message}
    (answer : Answers sst q.first q.count q.channels d a) :
    Settles mst sst pending m d.zones a.onWire ∧ MayBeOn msite mst sst d.zones := by
  have same {ch : UInt8} (hc : ch < mst.zoneCount) (hn : ch∉q.channels) :
      d.zones.state (sst.zoneOf ch)=c.zones.state (sst.zoneOf ch) :=
    t.others (by rwa [←M.count]) hn
  refine ⟨?_,fun ch hc hon => ?_⟩
  · obtain ⟨service,rfl⟩ | ⟨e,rfl,hoff⟩ := answer
    · refine .report h.within.le (fun ch hm => ?_) fun ch hc hn => ?_
      · rw [ZoneMask.get_fit_of_mem _ _ _ _ hm,ZoneMask.get_build,if_pos hm]
      · have hn' : ch∉q.channels := fun k => hn (ZonesRequest.mem_channels.mp k).1
        exact (h.agree hc hn').of_same rfl (same hc hn')
    · refine .refusal h.pending fun ch hc => ?_
      by_cases hm : ch∈q.channels
      · refine Or.inr ⟨by rw [hoff ch hm]; rfl,?_⟩
        obtain hz | hz := h.waits hm
        · exact Or.inl hz
        · exact Or.inr ⟨List.mem_map_of_mem hm,hz⟩
      · exact Or.inl ((h.agree hc hm).of_same rfl (same hc hm))
  · by_cases hm : ch∈q.channels
    · refine h.may hc (Or.inr ⟨fun h0 => ?_,hm⟩)
      rw [stops h0 ch hm] at hon
      cases hon
    · rw [same hc hm] at hon
      exact h.may hc (Or.inl hon)

theorem Answers.fits {st : Station} {first count : UInt8} {channels : List UInt8} {a : Message}
    (h : Answers st first count channels d a) :
    a.payload.length ≤ maxPayload ∧ a.function.isRequest=false := by
  obtain ⟨service,rfl⟩ | ⟨e,rfl,_⟩ := h
  · refine ⟨?_,rfl⟩
    have hf := first.toNat_lt
    have hc := count.toNat_lt
    simp only [Message.payload,List.length_append,List.length_cons,List.length_nil,
      ZoneMask.fit_length,bitmapLength,maxPayload]
    omega
  · exact ⟨by simp [Message.payload,maxPayload],rfl⟩

/-- A station that takes in a request answers it, and the answer settles the request. -/
theorem Awaits.serve [Carrier σ] (M : Match msite ssite mst sst)
    (h : Awaits msite mst sst q pending m c.zones) (hs : c.Serves ssite wired sst) :
    ∃ (d : Controller σ) (a : Message),(c.process (q.frame ssite.unit msite.unit).octets).1=
        d.reply (q.frame ssite.unit msite.unit) a ∧
      d.link=c.link ∧ d.Serves ssite wired sst ∧
      Settles mst sst pending m d.zones a.onWire ∧ MayBeOn msite mst sst d.zones ∧
      a.payload.length ≤ maxPayload ∧ a.function.isRequest=false := by
  have hserves : c.role.serves=true := by
    rw [show c.role=.responder from congrArg Prod.fst hs.place]
    rfl
  set f : Frame := {q.frame ssite.unit msite.unit with message:=q.message.onWire}
  have hfm : f.message=.zonesSet .standard q.schedule q.first q.minutes q.count
      ⟨q.mask.fit (bitmapLength q.first q.count)⟩ := rfl
  have hle := h.within.le
  have few := M.few
  rw [M.count] at hle few
  obtain ⟨d,a,hserve,t,hd,stops,answer⟩ := hs.serve M.station M.own hfm h.within.one_le hle few
    (by rw [channels_onWire]; exact h.within.few)
  rw [channels_onWire] at t stops answer
  obtain ⟨settles,on⟩ := h.settles M t stops answer
  obtain ⟨fits,hr⟩ := answer.fits
  refine ⟨d,a,?_,t.link,hd,settles,on,fits,hr⟩
  rw [process_request hserves (f:=q.frame ssite.unit msite.unit) hs.unit.symm q.fits rfl]
  exact hserve

end Controller

/-- Where a dialogue stands, by the boards of both, what the master has pending with the station, and
the frames on their way to the station and back. -/
inductive Phase (msite ssite : Site) (mst sst : Station) (m : ZoneBoard)
    (pending : UInt8 → Option (List UInt8)) (s : ZoneBoard) :
    List (List UInt8) → List (List UInt8) → Prop
  | calm {out : List (List UInt8)} : (∀ b∈out,Stray ssite.unit b) →
    (∀ ch < mst.zoneCount,AgreeAt mst sst m s ch) → Phase msite ssite mst sst m pending s out []
  | asked {p r : List (List UInt8)} {q : ZonesRequest} : (∀ b∈p++r,Stray ssite.unit b) →
    Controller.Awaits msite mst sst q (pending q.transaction) m s →
    Phase msite ssite mst sst m pending s (p++(q.frame ssite.unit msite.unit).octets::r) []
  | answered {out : List (List UInt8)} {t : UInt8} {a : Message} :
    (∀ b∈out,Stray ssite.unit b) → Controller.Settles mst sst (pending t) m s a.onWire →
    MayBeOn msite mst sst s → a.payload.length ≤ maxPayload → a.function.isRequest=false →
    Phase msite ssite mst sst m pending s out [(⟨t,msite.unit,ssite.unit,a⟩ : Frame).octets]

variable {msite ssite : Site} {mst sst : Station} {wired : UInt16 → Bool} {m s : ZoneBoard}
  {pending : UInt8 → Option (List UInt8)} {out back : List (List UInt8)} {b : List UInt8} {L : Line}
  {c : Controller (Transceiver×Bus)}

namespace Phase

/-- With nothing on its way there is nothing open. -/
theorem agree (h : Phase msite ssite mst sst m pending s out back) (ho : out=[]) (hb : back=[]) :
    ∀ ch < mst.zoneCount,AgreeAt mst sst m s ch := by
  cases h with
  | calm _ agree => exact agree
  | asked => simp at ho
  | answered => cases hb

/-- What comes next to the station is either nothing to it, or the one request. -/
theorem next (h : Phase msite ssite mst sst m pending s (b::out) back) :
    Stray ssite.unit b ∧ Phase msite ssite mst sst m pending s out back ∨
    ∃ q,b=(q.frame ssite.unit msite.unit).octets ∧ back=[] ∧ (∀ b∈out,Stray ssite.unit b) ∧
      Controller.Awaits msite mst sst q (pending q.transaction) m s := by
  generalize ho : b::out=o at h
  cases h with
  | calm stray agree =>
    subst ho
    exact Or.inl ⟨stray b List.mem_cons_self,
      .calm (fun x hx => stray x (List.mem_cons_of_mem _ hx)) agree⟩
  | @asked p r q stray awaits =>
    cases p with
    | nil =>
      obtain ⟨rfl,rfl⟩ := List.cons.inj ho
      exact Or.inr ⟨q,rfl,rfl,stray,awaits⟩
    | cons x p =>
      obtain ⟨rfl,rfl⟩ := List.cons.inj ho
      exact Or.inl ⟨stray b List.mem_cons_self,
        .asked (fun x hx => stray x (List.mem_cons_of_mem _ hx)) awaits⟩
  | answered stray settles on fits hr =>
    subst ho
    exact Or.inl ⟨stray b List.mem_cons_self,
      .answered (fun x hx => stray x (List.mem_cons_of_mem _ hx)) settles on fits hr⟩

/-- What comes back to the master is the answer. -/
theorem answer (h : Phase msite ssite mst sst m pending s out (b::back)) :
    ∃ t a,b=(⟨t,msite.unit,ssite.unit,a⟩ : Frame).octets ∧ back=[] ∧
      (∀ b∈out,Stray ssite.unit b) ∧ Controller.Settles mst sst (pending t) m s a.onWire ∧
      MayBeOn msite mst sst s ∧ a.payload.length ≤ maxPayload ∧ a.function.isRequest=false := by
  cases h with
  | answered stray settles on fits hr => exact ⟨_,_,rfl,rfl,stray,settles,on,fits,hr⟩

end Phase

namespace Controller

/-- What a station does when it polls: the next frame on its way is gone, and if it was the request,
the answer is on its way back. -/
theorem Serves.poll (M : Match msite ssite mst sst) (near : L.near=ssite.unit)
    (far : L.far=msite.unit) (h : c.Serves ssite wired sst) (ho : L.Open c.link)
    (phase : Phase msite ssite mst sst m pending c.zones (L.back c.link) (L.out c.link)) :
    L.Open c.poll.1.link ∧ c.poll.1.Serves ssite wired sst ∧
    L.back c.poll.1.link=(L.back c.link).tail ∧
    Phase msite ssite mst sst m pending c.poll.1.zones (L.back c.poll.1.link)
      (L.out c.poll.1.link) := by
  obtain ⟨line,hout,hback⟩ := poll_line ho
  set d : Controller (Transceiver×Bus) := {c with link:=c.link.receive.1}
  have hd : d.Serves ssite wired sst := ⟨h.place,h.unit,h.wires,h.size,h.runs⟩
  cases hb : L.back c.link with
  | nil =>
    rw [hb] at hback phase
    obtain ⟨hpoll,hnil⟩ := hback
    rw [hpoll]
    refine ⟨line,hd,hnil,?_⟩
    change Phase msite ssite mst sst m pending c.zones (L.back d.link) (L.out d.link)
    rw [show L.back d.link=[] from hnil,show L.out d.link=L.out c.link from hout]
    exact phase
  | cons b rest =>
    rw [hb] at hback phase
    obtain ⟨hpoll,hrest⟩ := hback
    obtain ⟨stray,phase⟩ | ⟨q,rfl,hempty,stray,awaits⟩ := phase.next
    · rw [hpoll,process_stray (c:=d) h.unit stray]
      refine ⟨line,hd,hrest,?_⟩
      change Phase msite ssite mst sst m pending c.zones (L.back d.link) (L.out d.link)
      rw [show L.back d.link=rest from hrest,show L.out d.link=L.out c.link from hout]
      exact phase
    · obtain ⟨e,a,hprocess,hlink,he,settles,on,fits,hr⟩ := Awaits.serve (c:=d) M awaits hd
      have hline : L.Open e.link := by rwa [hlink]
      obtain ⟨_,line',hout',hback'⟩ := sendFrame_far (c:=e) hline
        (f:=⟨q.transaction,msite.unit,e.unit,a⟩) fits (he.unit.trans near.symm)
      have hreply : e.reply (q.frame ssite.unit msite.unit) a=
          (e.sendFrame (.unit L.far) ⟨q.transaction,msite.unit,e.unit,a⟩).1 := by
        rw [far]
        rfl
      rw [hpoll,hprocess,hreply]
      have still := still_sendFrame e (.unit L.far) ⟨q.transaction,msite.unit,e.unit,a⟩
      refine ⟨line',he.of_still still,hback'.trans (by rw [hlink]; exact hrest),?_⟩
      rw [show (e.sendFrame (.unit L.far) ⟨q.transaction,msite.unit,e.unit,a⟩).1.zones=e.zones from
        zones_of_still still,hout',hback',hlink,he.unit]
      rw [show L.back d.link=rest from hrest,show L.out d.link=L.out c.link from hout,hempty]
      exact .answered stray settles on fits hr

/-- What a master does when it polls: an answer that was on its way back is taken in. -/
theorem Leads.poll (M : Match msite ssite mst sst) (h : c.Leads msite) (ho : L.Open c.link)
    (phase : Phase msite ssite mst sst c.zones (c.outstanding? ssite.unit) s (L.out c.link)
      (L.back c.link)) :
    L.Open c.poll.1.link ∧ c.poll.1.Leads msite ∧ L.out c.poll.1.link=L.out c.link ∧
    L.back c.poll.1.link=[] ∧
    Phase msite ssite mst sst c.poll.1.zones (c.poll.1.outstanding? ssite.unit) s
      (L.out c.poll.1.link) (L.back c.poll.1.link) := by
  obtain ⟨line,hout,hback⟩ := poll_line ho
  set d : Controller (Transceiver×Bus) := {c with link:=c.link.receive.1}
  have hd : d.Leads msite := ⟨h.consumes,h.site_eq,h.unit,h.alone,h.size,h.idle⟩
  cases hb : L.back c.link with
  | nil =>
    rw [hb] at hback phase
    obtain ⟨hpoll,hnil⟩ := hback
    rw [hpoll]
    refine ⟨line,hd,hout,hnil,?_⟩
    change Phase msite ssite mst sst c.zones (c.outstanding? ssite.unit) s (L.out d.link)
      (L.back d.link)
    rw [show L.back d.link=[] from hnil,show L.out d.link=L.out c.link from hout]
    exact phase
  | cons b rest =>
    rw [hb] at hback phase
    obtain ⟨hpoll,hrest⟩ := hback
    obtain ⟨t,a,rfl,rfl,stray,settles,on,fits,hr⟩ := phase.answer
    obtain ⟨hlead,hlink,agree⟩ := hd.consume M.master M.listed on (t:=t) (m:=a.onWire) settles
      msite.unit
    have hprocess : (d.process (⟨t,msite.unit,ssite.unit,a⟩ : Frame).octets).1=
        (d.consume ⟨t,msite.unit,ssite.unit,a.onWire⟩).1 :=
      process_answer hd.consumes (f:=⟨t,msite.unit,ssite.unit,a⟩) hd.unit.symm fits hr
    rw [hpoll,hprocess,hlink]
    refine ⟨line,hlead,hout,hrest,?_⟩
    rw [show L.back d.link=[] from hrest,show L.out d.link=L.out c.link from hout]
    exact .calm stray agree

/-- What a command starts: nothing, or a dialogue. -/
theorem Leads.open_dialogue (M : Match msite ssite mst sst) (near : L.near=msite.unit)
    (far : L.far=ssite.unit) (h : c.Leads msite) (ho : L.Open c.link) (hout : L.out c.link=[])
    (hback : L.back c.link=[]) (agree : ∀ ch < mst.zoneCount,AgreeAt mst sst c.zones s ch)
    {op : Operation (Transceiver×Bus)} (hop : op.isCommand=true) :
    L.Open (c.perform op).link ∧ (c.perform op).Leads msite ∧
    Phase msite ssite mst sst (c.perform op).zones ((c.perform op).outstanding? ssite.unit) s
      (L.out (c.perform op).link) (L.back (c.perform op).link) := by
  have R : L.Reaches msite mst := ⟨M.master,near,by rw [far]; exact M.listed,M.radio,M.few⟩
  have lead := h.command M.master hop
  obtain aside | ⟨q,asked⟩ := h.command_outcome R M.pos ho hop
  · obtain ⟨l,stray,hl⟩ := aside.hush.out
    rw [hout,List.nil_append] at hl
    refine ⟨aside.hush.line,lead,?_⟩
    rw [hl,aside.hush.back,hback]
    rw [far] at stray
    exact .calm stray fun ch hc => (agree ch hc).of_same (aside.spares hc) rfl
  · obtain ⟨p,r,stray,hl⟩ := asked.tells.out
    rw [hout,List.nil_append] at hl
    refine ⟨asked.tells.line,lead,?_⟩
    rw [hl,asked.tells.back,hback,far,near]
    rw [far] at stray
    have pending := asked.tells.pending
    rw [far] at pending
    refine .asked stray ⟨pending,asked.within,fun {ch} hc hn =>
      (agree ch hc).of_same (asked.spares hc hn) rfl,asked.waits,fun {ch} hc k => ?_⟩
    obtain hon | ⟨h0,hm⟩ := k
    · refine h.idle _ fun hoff => ?_
      have := (agree ch hc).2
      rw [show c.zones.state (mst.zoneOf ch)=.off from hoff,hon] at this
      cases this
    · exact asked.may h0 hm

end Controller

end Watering
