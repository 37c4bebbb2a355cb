import Watering.Proofs.Controller.Bookkeeping
import Watering.Proofs.Controller.Intake
import Watering.Proofs.Controller.Refusal
import Watering.Proofs.Controller.Switching
import Watering.Proofs.Frame.Fidelity

namespace Watering

/-- A report of zones to a station that did not ask for it. -/
def Frame.pushes (station : UInt8) (f : Frame) : Bool :=
  f.target==station && f.transaction==0 && f.function==.zonesReport

theorem Frame.pushes_of_function {f : Frame} (h : f.function≠.zonesReport) (station : UInt8) :
    f.pushes station=false := by
  rw [pushes,beq_false_of_ne h,Bool.and_false]

/-- What a link tells a unit is in the log. -/
theorem Link.frames_of_tells {σ : Type} [Carrier σ] {unit : UInt8} {bytes : List UInt8} {f : Frame}
    {l r : Link (Logged σ)} (h : Tells unit [bytes] l r) (hf : Frame.decode bytes=.ok f) :
    r.carrier.frames=f::l.carrier.frames := by
  obtain ⟨new,taken,inner,_⟩ := h.sent
  rw [Logged.frames,taken,List.map_append,inner,List.filterMap_append,List.reverse_singleton,
    List.filterMap_cons,hf]
  rfl

namespace Controller

variable {σ : Type} {c d e : Controller (Logged σ)} {st : Station} {m : EventMaster}

/-- What reports depend on besides the board: the site, the own number and who gets them. -/
def post (c : Controller (Logged σ)) : Site×UInt8×Option EventMaster := (c.site,c.unit,c.eventMaster)

theorem post_of_setting (h : d.setting=c.setting) : d.post=c.post :=
  congrArg (fun s : Setting => (s.site,s.registers.unit,s.eventMaster)) h

variable [Carrier σ]

/-- The own station is wired here, and its zones are reported to a master that all frames get to. -/
structure Reports (c : Controller (Logged σ)) (st : Station) (m : EventMaster) : Prop where
  laid : c.site.Laid
  own : c.site.station? c.unit=some st
  wired : st.network.isLocal=true
  master : c.eventMaster=some m
  wants : m.events.contains .reportZones=true
  willing : Carrier.Willing c.link.carrier.carrier

/-- Frames were sent, the newest first. -/
structure Onward (c d : Controller (Logged σ)) (new : List Frame) : Prop where
  frames : d.link.carrier.frames=new++c.link.carrier.frames
  post : d.post=c.post
  willing : Carrier.Willing c.link.carrier.carrier → Carrier.Willing d.link.carrier.carrier

theorem Onward.trans {new new' : List Frame} (h : Onward c d new) (h' : Onward d e new') :
    Onward c e (new'++new) :=
  ⟨by rw [h'.frames,h.frames,List.append_assoc],h'.post.trans h.post,fun w => h'.willing (h.willing w)⟩

theorem Onward.site {new : List Frame} (s : Onward c d new) : d.site=c.site := congrArg (·.1) s.post

theorem Onward.unit {new : List Frame} (s : Onward c d new) : d.unit=c.unit := congrArg (·.2.1) s.post

theorem onward_of_carrier (carrier : d.link.carrier=c.link.carrier) (post : d.post=c.post) :
    Onward c d [] :=
  ⟨congrArg Logged.frames carrier,post,fun w => by rwa [carrier]⟩

theorem Reports.onward {new : List Frame} (h : c.Reports st m) (s : Onward c d new) :
    d.Reports st m where
  laid := by
    rw [s.site]
    exact h.laid
  own := by
    rw [s.site,s.unit]
    exact h.own
  wired := h.wired
  master := (congrArg (·.2.2) s.post : d.eventMaster=c.eventMaster).trans h.master
  wants := h.wants
  willing := s.willing h.willing

/-- The master was told nothing of zones. -/
def Untold (m : EventMaster) (c d : Controller (Logged σ)) : Prop :=
  ∃ new,Onward c d new ∧ ∀ f∈new,f.pushes m.station=false

/-- The master was told nothing, and none of the own zones went on or off. -/
def Mute (st : Station) (m : EventMaster) (c d : Controller (Logged σ)) : Prop :=
  ∃ new,Onward c d new ∧ (∀ f∈new,f.pushes m.station=false) ∧
    ∀ ch < st.zoneCount,(d.zones.state (st.zoneOf ch)).isOn=(c.zones.state (st.zoneOf ch)).isOn

/-- The master was told, and the last that it was told is which of the own zones are on. -/
def Informed (st : Station) (m : EventMaster) (c d : Controller (Logged σ)) : Prop :=
  ∃ new,Onward c d new ∧ ∃ service mask,
    new.find? (·.pushes m.station)=some ⟨0,m.station,c.unit,.zonesReport service 0 st.zoneCount mask⟩ ∧
    ∀ ch,mask.get ch=true ↔ ch < st.zoneCount ∧ (d.zones.state (st.zoneOf ch)).isOn=true

/-- The master was told, unless there was nothing to tell. -/
def Abreast (st : Station) (m : EventMaster) (c d : Controller (Logged σ)) : Prop :=
  Mute st m c d ∨ Informed st m c d

section Laws

theorem Untold.trans (h : Untold m c d) (h' : Untold m d e) : Untold m c e := by
  obtain ⟨new,s,quiet⟩ := h
  obtain ⟨new',s',quiet'⟩ := h'
  exact ⟨new'++new,s.trans s',fun f hf => (List.mem_append.mp hf).elim (quiet' f) (quiet f)⟩

theorem Untold.refl (c : Controller (Logged σ)) : Untold m c c := ⟨[],onward_of_carrier rfl rfl,nofun⟩

theorem Untold.onward (h : Untold m c d) (s : Onward d e []) : Untold m c e :=
  h.trans ⟨[],s,nofun⟩

theorem untold_foldl {α : Type} {f : Controller (Logged σ) → α → Controller (Logged σ)} {l : List α}
    (step : ∀ d,Untold m c d → ∀ x∈l,Untold m d (f d x)) : Untold m c (l.foldl f c) :=
  List.foldlRecOn l f (.refl c) fun d u x hx => u.trans (step d u x hx)

theorem Mute.untold (h : Mute st m c d) : Untold m c d := by
  obtain ⟨new,s,quiet,_⟩ := h
  exact ⟨new,s,quiet⟩

theorem Mute.trans (h : Mute st m c d) (h' : Mute st m d e) : Mute st m c e := by
  obtain ⟨new,s,quiet,same⟩ := h
  obtain ⟨new',s',quiet',same'⟩ := h'
  refine ⟨new'++new,s.trans s',fun f hf => ?_,fun ch hc => (same' ch hc).trans (same ch hc)⟩
  exact (List.mem_append.mp hf).elim (quiet' f) (quiet f)

theorem Informed.after {new : List Frame} (s : Onward c d new) (h : Informed st m d e) :
    Informed st m c e := by
  obtain ⟨new',s',service,mask,last,told⟩ := h
  refine ⟨new'++new,s.trans s',service,mask,?_,told⟩
  rw [List.find?_append,last,s.unit]
  rfl

/-- What was told last stays true while nothing is told. -/
theorem Informed.mute (h : Informed st m c d) (h' : Mute st m d e) : Informed st m c e := by
  obtain ⟨new,s,service,mask,last,told⟩ := h
  obtain ⟨new',s',quiet,same⟩ := h'
  refine ⟨new'++new,s.trans s',service,mask,?_,fun ch => (told ch).trans (and_congr_right fun hc => ?_)⟩
  · rw [List.find?_append,List.find?_eq_none.mpr fun f hf => by rw [quiet f hf]; nofun]
    exact last
  · rw [same ch hc]

theorem Informed.trans (h : Informed st m c d) (h' : Abreast st m d e) : Informed st m c e := by
  obtain quiet | told := h'
  · exact h.mute quiet
  · obtain ⟨new,s,_⟩ := h
    exact told.after s

theorem Abreast.onward (h : Abreast st m c d) : ∃ new,Onward c d new := by
  obtain ⟨new,s,_⟩ | ⟨new,s,_⟩ := h <;> exact ⟨new,s⟩

theorem Abreast.site (h : Abreast st m c d) : d.site=c.site := by
  obtain ⟨_,s⟩ := h.onward
  exact s.site

theorem Abreast.trans (h : Abreast st m c d) (h' : Abreast st m d e) : Abreast st m c e := by
  obtain quiet | told := h
  · obtain quiet' | told' := h'
    · exact .inl (quiet.trans quiet')
    · obtain ⟨_,s,_⟩ := quiet
      exact .inr (told'.after s)
  · exact .inr (told.trans h')

/-- Whoever is kept abreast is informed of a change. -/
theorem Abreast.informed (h : Abreast st m c d) {ch : UInt8} (hc : ch < st.zoneCount)
    (changed : (d.zones.state (st.zoneOf ch)).isOn≠(c.zones.state (st.zoneOf ch)).isOn) :
    Informed st m c d := by
  obtain ⟨_,_,_,same⟩ | told := h
  · exact absurd (same ch hc) changed
  · exact told

theorem Reports.abreast (h : c.Reports st m) (a : Abreast st m c d) : d.Reports st m := by
  obtain ⟨_,s⟩ := a.onward
  exact h.onward s

/-- Nothing is sent and no own zone is touched. -/
theorem mute_of_carrier (carrier : d.link.carrier=c.link.carrier) (post : d.post=c.post)
    (same : ∀ ch < st.zoneCount,d.zones.state (st.zoneOf ch)=c.zones.state (st.zoneOf ch)) :
    Mute st m c d :=
  ⟨[],onward_of_carrier carrier post,nofun,fun ch hc => congrArg ZoneState.isOn (same ch hc)⟩

theorem Mute.refl (c : Controller (Logged σ)) : Mute st m c c := mute_of_carrier rfl rfl fun _ _ => rfl

theorem mute_foldl {α : Type} {f : Controller (Logged σ) → α → Controller (Logged σ)}
    (step : ∀ d x,Mute st m d (f d x)) (l : List α) : Mute st m c (l.foldl f c) :=
  List.foldlRecOn l f (.refl c) fun d quiet x _ => quiet.trans (step d x)

/-- Many steps that each keep the master abreast. -/
theorem abreast_foldl {α : Type} {f : Controller (Logged σ) → α → Controller (Logged σ)} {l : List α}
    (step : ∀ d,Abreast st m c d → ∀ x∈l,Abreast st m d (f d x)) : Abreast st m c (l.foldl f c) :=
  List.foldlRecOn l f (.inl (.refl c)) fun d a x hx => a.trans (step d a x hx)

end Laws

/-- A frame that is no report of zones. -/
theorem mute_sendFrame (id : UInt8) {f : Frame} (hf : f.function≠.zonesReport) :
    Mute st m c (c.sendFrame (.unit id) f).1 := by
  have still : (c.sendFrame (.unit id) f).1.still=c.still := still_sendFrame ..
  have willing (w : Carrier.Willing c.link.carrier.carrier) :
      Carrier.Willing (c.sendFrame (.unit id) f).1.link.carrier.carrier := by
    unfold sendFrame
    cases f.encode with
    | error => exact w
    | ok bytes => exact (Link.tells_send w id bytes).willing
  have frames := c.frames_sendFrame (.unit id) f
  have post := post_of_setting (setting_of_still still)
  have same (ch : UInt8) (_ : ch < st.zoneCount) :
      ((c.sendFrame (.unit id) f).1.zones.state (st.zoneOf ch)).isOn=
        (c.zones.state (st.zoneOf ch)).isOn := by
    rw [zones_of_still still]
  by_cases hok : (c.sendFrame (.unit id) f).2=true
  · rw [if_pos hok] at frames
    refine ⟨[_],⟨frames,post,willing⟩,List.forall_mem_singleton.mpr ?_,same⟩
    exact Frame.pushes_of_function (by rwa [Frame.function,Message.function_onWire]) _
  · rw [if_neg hok] at frames
    exact ⟨[],⟨frames,post,willing⟩,List.forall_mem_nil _,same⟩

theorem mute_request (id : UInt8) {q : Message} (hq : q.function≠.zonesReport) :
    Mute st m c (c.request id q).1 := by
  obtain ⟨_,link,_⟩ := c.request_parts id q
  have still : (c.request id q).1.still=c.still := still_request ..
  have sent : Mute st m c.takeTransaction.1
      (c.takeTransaction.1.sendFrame (.unit id) ⟨c.nextTransaction,id,c.unit,q⟩).1 :=
    mute_sendFrame id hq
  obtain ⟨new,s,quiet,_⟩ := sent
  refine ⟨new,⟨?_,post_of_setting (setting_of_still still),fun w => ?_⟩,quiet,fun ch _ => ?_⟩
  · rw [link]
    exact s.frames
  · rw [link]
    exact s.willing w
  · rw [zones_of_still still]

/-- The own zones are told of as they are. -/
theorem Reports.push (h : c.Reports st m) : Informed st m c (c.pushZones c.unit) := by
  set report := c.zonesReport st 0 st.zoneCount
  have short : report.payload.length ≤ maxPayload := by
    by_contra k
    obtain ⟨_,hw,_⟩ := (Message.overfull_iff report).mpr (Nat.lt_of_not_le k)
    cases hw
  have eq : c.pushZones c.unit=c.notify m.station report := by
    unfold pushZones
    rw [h.master,h.own]
    exact if_pos ⟨rfl,h.wants⟩
  have told : Link.Tells m.station [(⟨0,m.station,c.unit,report⟩ : Frame).octets] c.link
      (c.notify m.station report).link := by
    unfold notify
    rw [sendFrame_eq short]
    exact Link.tells_send h.willing ..
  have still : (c.notify m.station report).still=c.still := still_notify ..
  have pushes : Frame.pushes m.station ⟨0,m.station,c.unit,report.onWire⟩=true := by
    have function : report.onWire.function=.zonesReport := Message.function_onWire report
    rw [Frame.pushes,Frame.function,function,beq_self_eq_true]
    rfl
  rw [eq]
  refine ⟨[⟨0,m.station,c.unit,report.onWire⟩],
    ⟨Link.frames_of_tells told (Frame.decode_octets short),
      post_of_setting (setting_of_still still),fun _ => told.willing⟩,_,_,
    List.find?_cons_of_pos pushes,fun ch => ?_⟩
  rw [zones_of_still still,ZoneMask.get_fit,ZoneMask.get_build]
  by_cases hc : ch∈span 0 st.zoneCount
  · rw [if_pos (ZoneMask.lt_bitmapLength ch 0 _ hc),if_pos hc,and_iff_right (mem_span_zero.mp hc)]
  · rw [if_neg hc,ite_self]
    exact iff_of_false Bool.false_ne_true fun k => hc (mem_span_zero.mpr k.1)

theorem pushZones_else {id : UInt8} (h : id≠c.unit) : c.pushZones id=c := by
  unfold pushZones
  split
  · exact if_neg fun k => h k.1
  · rfl

/-- Whatever happened, the push of the own station tells of it. -/
theorem Reports.told {new : List Frame} (h : c.Reports st m) (s : Onward c d new) :
    Informed st m c (d.pushZones c.unit) := by
  have push := (h.onward s).push
  rw [s.unit] at push
  exact push.after s

/-- A push of any station after what needs no telling. -/
theorem Reports.pushed (h : c.Reports st m) (quiet : Mute st m c d) (id : UInt8) :
    Abreast st m c (d.pushZones id) := by
  obtain ⟨new,s,frames,same⟩ := quiet
  by_cases own : id=c.unit
  · rw [own]
    exact .inr (h.told s)
  · rw [pushZones_else (s.unit ▸ own)]
    exact .inl ⟨new,s,frames,same⟩

/-- A zone of another station is no own channel. -/
theorem Reports.apart (h : c.Reports st m) {i : UInt8} {z : Zone} (hz : c.site.zone? i=some z)
    (other : z.station≠c.unit) : ∀ ch < st.zoneCount,st.zoneOf ch≠i := by
  rintro ch hc rfl
  obtain ⟨y,hy,hid,_⟩ := h.laid.zone_of h.own hc
  rw [hz] at hy
  exact other (Option.some.inj hy ▸ hid)

/-- While the own station is in service, a station that is out of service is another one. -/
theorem Reports.ne_of_out (h : c.Reports st m) (on : st.enabled=true) {id : UInt8}
    (out : c.site.enabledStation? id=none) : id≠c.unit := by
  rintro rfl
  rw [Site.enabledStation?,h.own,Option.filter_some,if_pos on] at out
  cases out

section One

variable {i : UInt8} {z : Zone}

theorem mute_edit (apart : ∀ ch < st.zoneCount,st.zoneOf ch≠i) (f : ZoneStatus → ZoneStatus)
    (e : Event) : Mute st m c (record {c with zones:=c.zones.modify i f} e) :=
  mute_of_carrier rfl rfl fun ch hc => ZoneBoard.state_modify_ne c.zones f (apart ch hc)

/-- An edit of a zone that is told of if the zone is of the own station. -/
theorem Reports.edit (h : c.Reports st m) (hz : c.site.zone? i=some z) (f : ZoneStatus → ZoneStatus)
    (e : Event) :
    Abreast st m c ((record {c with zones:=c.zones.modify i f} e).pushZones z.station) := by
  by_cases own : z.station=c.unit
  · rw [own]
    exact .inr (h.told (onward_of_carrier rfl rfl))
  · rw [pushZones_else (c:=record {c with zones:=c.zones.modify i f} e) own]
    exact .inl (mute_edit (h.apart hz own) f e)

theorem mute_failSafeOff (hz : c.site.zone? i=some z) (apart : ∀ ch < st.zoneCount,st.zoneOf ch≠i) :
    Mute st m c (c.failSafeOff i) := by
  have zones : (c.failSafeOff i).zones=_ := congrArg Plant.zones (c.plant_failSafeOff hz)
  refine mute_of_carrier (congrArg Link.carrier (c.failSafeOff_silent i).1)
    (post_of_setting (setting_failSafeOff ..)) fun ch hc => ?_
  rw [zones]
  split_ifs
  · rfl
  · exact ZoneBoard.state_modify_ne c.zones _ (apart ch hc)

theorem mute_setValve (s : Station) (ch : UInt8) (on : Bool) : Mute st m c (c.setValve s ch on).1 := by
  obtain ⟨link,_,_,zones⟩ := c.setValve_frame s ch on
  exact mute_of_carrier (congrArg Link.carrier link) (post_of_setting (setting_setValve ..))
    fun ch _ => by rw [zones]

theorem mute_close (z : Zone) (s : Station) : Mute st m c (c.close z s).1 := by
  unfold close
  split_ifs
  · exact mute_setValve ..
  · exact mute_request _ nofun

theorem mute_openFor (z : Zone) (s : Station) (run : ZoneRun) :
    Mute st m c (c.openFor z s run).1 := by
  unfold openFor
  split_ifs
  · exact mute_setValve ..
  · exact mute_request _ nofun

theorem Reports.stopZone (h : c.Reports st m) (on : st.enabled=true) (i : UInt8) :
    Abreast st m c (c.stopZone i).1 := by
  refine stopZoneFrom_cases (P:=fun r => Abreast st m c r.1) ?unknown ?off ?out ?refused ?done
  case unknown => exact fun _ => .inl (.refl c)
  case off => exact fun _ => .inl (.refl c)
  case out => exact fun z hz _ hs => .inl (mute_failSafeOff hz (h.apart hz (h.ne_of_out on hs)))
  case refused => exact fun z s _ _ _ _ => .inl (mute_close z s)
  case done =>
    intro z s hz _ _ _
    have closed : Abreast st m c (c.close z s).1 := .inl (mute_close z s)
    have hz : (c.close z s).1.site.zone? i=some z := by rwa [closed.site]
    exact closed.trans ((h.abreast closed).edit hz _ (.zoneStopped i .commanded))

theorem Reports.startZone (h : c.Reports st m) (on : st.enabled=true) (run : ZoneRun) :
    Abreast st m c (c.startZone run).1 := by
  refine startZoneFrom_cases (P:=fun r => Abreast st m c r.1) ?unfit ?out ?stop ?refused ?done
  case unfit => exact fun _ => .inl (.refl c)
  case out => exact fun z hz hs => .inl (mute_failSafeOff hz.1 (h.apart hz.1 (h.ne_of_out on hs)))
  case stop => exact fun _ _ _ _ _ => h.stopZone on run.zone
  case refused => exact fun z s _ _ _ _ => .inl (mute_openFor z s _)
  case done =>
    intro z s hz _ _ _
    have opened : Abreast st m c (c.openFor z s (c.capped run)).1 := .inl (mute_openFor z s _)
    have hz : (c.openFor z s (c.capped run)).1.site.zone? (c.capped run).zone=some z := by
      rw [opened.site]
      exact hz.1
    exact opened.trans ((h.abreast opened).edit hz _ (.zoneStarted (c.capped run)))

end One

end Controller

end Watering
