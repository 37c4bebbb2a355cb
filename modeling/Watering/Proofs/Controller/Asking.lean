import Watering.Proofs.Controller.Line
import Watering.Proofs.Controller.Moves
import Watering.Proofs.Zone.Mask

namespace Watering

/-- A frame that a unit lets pass: a request to set zones of another. -/
def Stray (unit : UInt8) (bytes : List UInt8) : Prop :=
  ∃ f,Frame.decode bytes=.ok f ∧ f.target≠unit ∧ f.function=.zonesSet

/-- A request to set zones, answered with a report or an error. -/
structure ZonesRequest where
  transaction : UInt8
  schedule : UInt8
  first : UInt8
  minutes : UInt8
  count : UInt8
  mask : ZoneMask

namespace ZonesRequest

def message (q : ZonesRequest) : Message :=
  .zonesSet .standard q.schedule q.first q.minutes q.count q.mask

def frame (q : ZonesRequest) (target source : UInt8) : Frame :=
  ⟨q.transaction,target,source,q.message⟩

def channels (q : ZonesRequest) : List UInt8 := (span q.first q.count).filter q.mask.get

/-- A request for channels of a station with `n` of them, that starts one at most. -/
structure Within (q : ZonesRequest) (n : UInt8) : Prop where
  one_le : 1≤q.count
  le : q.first.toNat+q.count.toNat≤n.toNat
  few : q.minutes=0 ∨ q.channels.length≤1

variable {q : ZonesRequest} {n ch : UInt8}

theorem fits (q : ZonesRequest) : q.message.payload.length ≤ maxPayload := by
  have hf := q.first.toNat_lt
  have hc := q.count.toNat_lt
  simp only [message,Message.payload,List.length_append,List.length_cons,List.length_nil,
    ZoneMask.fit_length,bitmapLength,maxPayload]
  omega

theorem mem_channels : ch∈q.channels ↔ ch∈span q.first q.count ∧ q.mask.get ch=true :=
  List.mem_filter

theorem Within.lt (h : q.Within n) (hc : ch∈span q.first q.count) : ch<n :=
  lt_of_mem_span hc h.le

def single (transaction schedule minutes ch : UInt8) : ZonesRequest :=
  ⟨transaction,schedule,ch,minutes,1,.single ch⟩

theorem channels_single (transaction schedule minutes : UInt8) (h : ch.toNat<255) :
    (single transaction schedule minutes ch).channels=[ch] := by
  have hspan : span ch 1=[ch] := by
    have : min (1 : UInt8).toNat (255-ch.toNat)=1 := by
      rw [show (1 : UInt8).toNat=1 from rfl]
      omega
    rw [span,this]
    simp
  have hget : (ZoneMask.single ch).get ch=true := by
    rw [ZoneMask.single,ZoneMask.get_range,hspan]
    simp
  simp [channels,single,hspan,hget]

theorem within_single (transaction schedule minutes : UInt8) (hc : ch<n) (hn : n.toNat≤254) :
    (single transaction schedule minutes ch).Within n := by
  have := UInt8.lt_iff_toNat_lt.mp hc
  refine ⟨UInt8.le_refl _,?_,Or.inr ?_⟩
  · change ch.toNat+1≤n.toNat
    omega
  · rw [channels_single transaction schedule minutes (by omega)]
    exact Nat.le_refl _

/-- The request that turns off the masked ones of `n` channels. -/
def off (transaction n : UInt8) (mask : ZoneMask) : ZonesRequest := ⟨transaction,0,0,0,n,mask⟩

theorem mem_channels_off {t : UInt8} {mask : ZoneMask} :
    ch∈(off t n mask).channels ↔ ch<n ∧ mask.get ch=true :=
  mem_channels.trans (and_congr_left' mem_span_zero)

theorem within_off {t : UInt8} {mask : ZoneMask} (pos : 1≤n) : (off t n mask).Within n :=
  ⟨pos,Nat.le_of_eq (Nat.zero_add _),Or.inl rfl⟩

end ZonesRequest

namespace Line

variable {L : Line} {c d e : Controller (Transceiver×Bus)} {f : Frame} {zones : List UInt8}

/-- Nothing was sent but what the far unit lets pass. -/
structure Hush (L : Line) (c d : Controller (Transceiver×Bus)) : Prop where
  line : L.Open d.link
  back : L.back d.link=L.back c.link
  out : ∃ l,(∀ b∈l,Stray L.far b) ∧ L.out d.link=L.out c.link++l
  pending (t : UInt8) : d.outstanding? L.far t=c.outstanding? L.far t

/-- One frame was sent that concerns the far unit, and now waits for the answer. -/
structure Tells (L : Line) (f : Frame) (zones : List UInt8) (c d : Controller (Transceiver×Bus)) :
    Prop where
  line : L.Open d.link
  back : L.back d.link=L.back c.link
  out : ∃ p s,(∀ b∈p++s,Stray L.far b) ∧ L.out d.link=L.out c.link++(p++f.octets::s)
  pending : d.outstanding? L.far f.transaction=some zones

theorem Hush.of_silent (h : L.Open c.link) (link : d.link=c.link)
    (inFlight : d.inFlight=c.inFlight) : L.Hush c d where
  line := by rwa [link]
  back := by rw [link]
  out := ⟨[],nofun,by rw [link,List.append_nil]⟩
  pending t := by
    unfold Controller.outstanding?
    rw [inFlight]

theorem Hush.trans (h : L.Hush c d) (h' : L.Hush d e) : L.Hush c e where
  line := h'.line
  back := h'.back.trans h.back
  out := by
    obtain ⟨l,hl,hout⟩ := h.out
    obtain ⟨l',hl',hout'⟩ := h'.out
    refine ⟨l++l',fun b hb => ?_,by rw [hout',hout,List.append_assoc]⟩
    obtain hb | hb := List.mem_append.mp hb
    · exact hl b hb
    · exact hl' b hb
  pending t := (h'.pending t).trans (h.pending t)

theorem Hush.tells (h : L.Hush c d) (h' : L.Tells f zones d e) : L.Tells f zones c e where
  line := h'.line
  back := h'.back.trans h.back
  out := by
    obtain ⟨l,hl,hout⟩ := h.out
    obtain ⟨p,s,hps,hout'⟩ := h'.out
    refine ⟨l++p,s,fun b hb => ?_,by rw [hout',hout]; simp⟩
    rw [List.append_assoc] at hb
    obtain hb | hb := List.mem_append.mp hb
    · exact hl b hb
    · exact hps b hb
  pending := h'.pending

theorem Tells.hush (h : L.Tells f zones c d) (h' : L.Hush d e) : L.Tells f zones c e where
  line := h'.line
  back := h'.back.trans h.back
  out := by
    obtain ⟨p,s,hps,hout⟩ := h.out
    obtain ⟨l,hl,hout'⟩ := h'.out
    refine ⟨p,s++l,fun b hb => ?_,by rw [hout',hout]; simp⟩
    rw [←List.append_assoc] at hb
    obtain hb | hb := List.mem_append.mp hb
    · exact hps b hb
    · exact hl b hb
  pending := (h'.pending _).trans h.pending

end Line

namespace Controller

variable {L : Line} {c d e : Controller (Transceiver×Bus)} {id : UInt8} {q : ZonesRequest}

theorem inFlight_sendFrame {σ : Type} [Carrier σ] (c : Controller σ) (t : Destination)
    (f : Frame) : (c.sendFrame t f).1.inFlight=c.inFlight := by
  unfold sendFrame
  split <;> rfl

/-- A request is sent, and noted if it was taken and selects zones. -/
theorem request_parts {σ : Type} [Carrier σ] (c : Controller σ) (id : UInt8) (m : Message) :
    let r := c.takeTransaction.1.sendFrame (.unit id) ⟨c.nextTransaction,id,c.unit,m⟩
    (c.request id m).2=r.2 ∧ (c.request id m).1.link=r.1.link ∧
    (c.request id m).1.inFlight=
      if r.2=true ∧ c.commandedZones id m≠[] then
        ⟨id,c.nextTransaction,c.commandedZones id m⟩::
          c.inFlight.filter fun o => !(o.station==id && o.transaction==c.nextTransaction)
      else c.inFlight := by
  intro r
  have hin : r.1.inFlight=c.inFlight := inFlight_sendFrame ..
  have hreq : c.request id m=
      if r.2 && !(c.commandedZones id m).isEmpty then
        ({r.1.settle id c.nextTransaction with
          inFlight:=⟨id,c.nextTransaction,c.commandedZones id m⟩::
            (r.1.settle id c.nextTransaction).inFlight},true)
      else (r.1,r.2) := rfl
  rw [hreq]
  cases hok : r.2 with
  | false => exact ⟨rfl,rfl,hin⟩
  | true =>
    cases hz : c.commandedZones id m with
    | nil => exact ⟨rfl,rfl,hin⟩
    | cons z zones =>
      refine ⟨rfl,rfl,?_⟩
      refine Eq.trans ?_ (if_pos ⟨rfl,List.cons_ne_nil _ _⟩).symm
      exact congrArg (fun l => (⟨id,c.nextTransaction,z::zones⟩ : Outstanding)::l.filter
        fun o => !(o.station==id && o.transaction==c.nextTransaction)) hin

theorem outstanding?_filter_ne {σ : Type} {c d : Controller σ} {far t : UInt8} (hid : id≠far)
    (h : d.inFlight=c.inFlight.filter fun o => !(o.station==id && o.transaction==t)) (t' : UInt8) :
    d.outstanding? far t'=c.outstanding? far t' := by
  unfold outstanding?
  rw [h]
  congr 1
  rw [List.find?_filter]
  refine congrArg (List.find? · c.inFlight) (funext fun o => ?_)
  by_cases e : o.station=far
  · have : (far==id)=false := beq_eq_false_iff_ne.mpr fun k => hid k.symm
    rw [Bool.eq_iff_iff]
    simp [e,this]
  · have : (o.station==far)=false := beq_eq_false_iff_ne.mpr e
    simp [this]

section Request

variable (h : L.Open c.link) (hu : c.unit=L.near)
include h hu

/-- A request to the far unit arrives there, and is noted. -/
theorem request_far (hz : c.commandedZones L.far q.message≠[])
    (ht : q.transaction=c.nextTransaction) :
    (c.request L.far q.message).2=true ∧
    L.Tells (q.frame L.far L.near) (c.commandedZones L.far q.message) c
      (c.request L.far q.message).1 := by
  obtain ⟨hok,hlink,hin⟩ := c.request_parts L.far q.message
  obtain ⟨hsent,hline,hout,hback⟩ := sendFrame_far (c:=c.takeTransaction.1)
    (f:=⟨c.nextTransaction,L.far,c.unit,q.message⟩) h q.fits hu
  rw [if_pos ⟨hsent,hz⟩] at hin
  refine ⟨hok.trans hsent,⟨by rwa [hlink],by rw [hlink,hback]; rfl,⟨[],[],nofun,?_⟩,?_⟩⟩
  · rw [hlink,hout,hu,←ht]
    rfl
  · unfold outstanding?
    rw [hin,ZonesRequest.frame,ht]
    simp

/-- A request to a unit that is not there is nothing to the far unit. -/
theorem request_away (hnear : id≠L.near) (hfar : id≠L.far) :
    L.Hush c (c.request id q.message).1 := by
  obtain ⟨_,hlink,hin⟩ := c.request_parts id q.message
  obtain ⟨hline,hback,hout⟩ := sendFrame_away (c:=c.takeTransaction.1)
    (f:=⟨c.nextTransaction,id,c.unit,q.message⟩) h q.fits hu hnear
  refine ⟨by rwa [hlink],by rw [hlink,hback]; rfl,?_,fun t => ?_⟩
  · rw [hlink]
    obtain hout | hout := hout
    · exact ⟨[],nofun,hout.trans (List.append_nil _).symm⟩
    · refine ⟨_,fun b hb => ?_,hout⟩
      rw [List.mem_singleton.mp hb]
      exact ⟨_,Frame.decode_octets q.fits,hfar,rfl⟩
  · split_ifs at hin with k
    · set d : Controller (Transceiver×Bus) := {c with
        inFlight:=c.inFlight.filter fun o => !(o.station==id && o.transaction==c.nextTransaction)}
      have hd : (c.request id q.message).1.outstanding? L.far t=d.outstanding? L.far t := by
        have : (id==L.far)=false := beq_eq_false_iff_ne.mpr hfar
        unfold outstanding?
        rw [hin,List.find?_cons,this]
        rfl
      rw [hd]
      exact outstanding?_filter_ne (c:=c) hfar rfl t
    · unfold outstanding?
      rw [hin]

end Request

theorem commandedZones_eq {σ : Type} {c : Controller σ} {st : Station}
    (hs : c.site.station? id=some st) (hq : q.Within st.zoneCount) :
    c.commandedZones id q.message=q.channels.map st.zoneOf := by
  have hf : (span q.first q.count).filter (fun ch => ch < st.zoneCount && q.mask.get ch)=
      q.channels := List.filter_congr fun ch hc => by simp [hq.lt hc]
  simp only [commandedZones,ZonesRequest.message,hs]
  rw [hf]

end Controller

end Watering
