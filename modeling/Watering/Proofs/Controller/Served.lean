import Watering.Proofs.Controller.Serving

namespace Watering.Controller

open Plant (Move Moves)

variable {σ : Type} [Carrier σ] (c : Controller σ)

@[simp] theorem still_reject (f : Frame) (e : Exception) (tell : Bool) :
    (c.reject f e tell).1.still=c.still := by
  unfold reject
  dsimp only
  split_ifs <;> simp only [still_reply,still_record]

@[simp] theorem still_acknowledge (f : Frame) (flags : AckFlags)
    (report : Controller σ → Message) : (c.acknowledge f flags report).1.still=c.still := by
  unfold acknowledge handle
  dsimp only
  split_ifs <;> simp only [still_reply]

/-- The run that a request asks for on a channel. -/
def channelRun (st : Station) (schedule minutes channel : UInt8) : ZoneRun :=
  {zone:=st.zoneOf channel,minutes,schedule:=if schedule=0 then none else some schedule}

def applyOne (c : Controller σ) (st : Station) (schedule minutes channel : UInt8) :
    Controller σ×Bool :=
  if minutes=0 then c.stopZoneFrom (st.zoneOf channel) .peer
  else c.startZoneFrom (channelRun st schedule minutes channel) .peer

def oneStarts (c : Controller σ) (st : Station) (schedule minutes channel : UInt8) : List Start :=
  if minutes=0 then [] else c.startOf (channelRun st schedule minutes channel) .peer

/-- The starts that a request makes, channel after channel up to the first that fails. -/
def applyStarts (c : Controller σ) (st : Station) (schedule minutes : UInt8) :
    List UInt8 → List Start
  | [] => []
  | channel::channels =>
    c.oneStarts st schedule minutes channel++
      if (c.applyOne st schedule minutes channel).2 then
        (c.applyOne st schedule minutes channel).1.applyStarts st schedule minutes channels
      else []

variable {st : Station} {schedule minutes : UInt8}

theorem applyZones_cons (channel : UInt8) (channels : List UInt8) :
    c.applyZones st schedule minutes (channel::channels)=
      if (c.applyOne st schedule minutes channel).2 then
        (c.applyOne st schedule minutes channel).1.applyZones st schedule minutes channels
      else ((c.applyOne st schedule minutes channel).1,false) := rfl

theorem setting_applyOne (channel : UInt8) :
    (c.applyOne st schedule minutes channel).1.setting=c.setting := by
  unfold applyOne
  split_ifs
  · exact setting_stopZoneFrom ..
  · exact setting_startZoneFrom ..

theorem setting_applyZones (channels : List UInt8) :
    (c.applyZones st schedule minutes channels).1.setting=c.setting := by
  induction channels generalizing c with
  | nil => rfl
  | cons channel channels ih =>
    rw [applyZones_cons]
    split_ifs
    · exact (ih _).trans (setting_applyOne ..)
    · exact setting_applyOne ..

variable {c}

theorem applyOne_moves (idle : c.plant.Idle c.site) (channel : UInt8) :
    Moves c.site c.plant (c.oneStarts st schedule minutes channel)
      (c.applyOne st schedule minutes channel).1.plant := by
  unfold applyOne oneStarts
  split_ifs
  · have m := stopZoneFrom_moves (c:=c) (i:=st.zoneOf channel) .peer none (by simp) idle
    rwa [Option.toList_none,ite_self] at m
  · exact startZoneFrom_moves _ _ idle

theorem applyZones_moves (channels : List UInt8) (idle : c.plant.Idle c.site) :
    Moves c.site c.plant (c.applyStarts st schedule minutes channels)
      (c.applyZones st schedule minutes channels).1.plant := by
  induction channels generalizing c with
  | nil => exact Moves.refl
  | cons channel channels ih =>
    have m : Moves _ _ _ (c.applyOne st schedule minutes channel).1.plant :=
      applyOne_moves idle channel
    have same : (c.applyOne st schedule minutes channel).1.site=c.site :=
      site_of_setting (setting_applyOne ..)
    rw [applyZones_cons,applyStarts]
    by_cases h : (c.applyOne st schedule minutes channel).2=true
    · rw [if_pos h,if_pos h]
      have rest := ih (c:=(c.applyOne st schedule minutes channel).1) (by
        rw [same]
        exact m.idle idle)
      rw [same] at rest
      exact m.trans rest
    · rwa [if_neg h,if_neg h,List.append_nil]

/-- The own station and the channels that a request to set zones goes through, unless it is refused
at once. -/
def grant (c : Controller σ) (first count : UInt8) (mask : ZoneMask) :
    Option (Station×List UInt8) :=
  match c.addressable? .control with
  | none => none
  | some st =>
    if resolveRange first count st.zoneCount=none ∨ count=everything then none
    else some (st,(span first count).filter mask.get)

/-- The starts that a request makes. -/
def requestStarts (c : Controller σ) : Message → List Start
  | .zonesSet _ schedule first minutes count mask =>
    match c.grant first count mask with
    | none => []
    | some (st,channels) => c.applyStarts st schedule minutes channels
  | _ => []

section ZonesSet

variable {f : Frame} {flags : AckFlags} {first count : UInt8} {mask : ZoneMask}
  {channels : List UInt8}

theorem serveZonesSet_refused (h : c.grant first count mask=none) :
    c.serveZonesSet f flags schedule first minutes count mask=
      c.reject f .illegalAddress (flags.contains .error) := by
  unfold grant at h
  unfold serveZonesSet
  cases ha : c.addressable? .control with
  | none => rfl
  | some st =>
    rw [ha] at h
    dsimp only at h ⊢
    split_ifs at h ⊢
    rfl

theorem serveZonesSet_granted (h : c.grant first count mask=some (st,channels)) :
    c.serveZonesSet f flags schedule first minutes count mask=
      if (c.applyZones st schedule minutes channels).2 then
        (c.applyZones st schedule minutes channels).1.acknowledge f flags
          fun d => d.zonesReport st first count
      else
        (c.applyZones st schedule minutes channels).1.reject f .applyFailure
          (flags.contains .error) := by
  unfold grant at h
  unfold serveZonesSet
  cases ha : c.addressable? .control with
  | none =>
    rw [ha] at h
    cases h
  | some st' =>
    rw [ha] at h
    dsimp only at h ⊢
    by_cases hr : resolveRange first count st'.zoneCount=none ∨ count=everything
    · rw [if_pos hr] at h
      cases h
    rw [if_neg hr] at h ⊢
    obtain ⟨rfl,rfl⟩ := Prod.mk.inj (Option.some.inj h)
    cases c.applyZones st' schedule minutes ((span first count).filter mask.get) with
    | mk d ok => cases ok <;> rfl

theorem still_serveZonesSet_refused (h : c.grant first count mask=none) :
    (c.serveZonesSet f flags schedule first minutes count mask).1.still=c.still := by
  rw [serveZonesSet_refused h]
  exact still_reject ..

theorem still_serveZonesSet_granted (h : c.grant first count mask=some (st,channels)) :
    (c.serveZonesSet f flags schedule first minutes count mask).1.still=
      (c.applyZones st schedule minutes channels).1.still := by
  rw [serveZonesSet_granted h]
  split_ifs
  · exact still_acknowledge ..
  · exact still_reject ..

variable (c) in
theorem setting_serveZonesSet :
    (c.serveZonesSet f flags schedule first minutes count mask).1.setting=c.setting := by
  cases h : c.grant first count mask with
  | none => exact setting_of_still (still_serveZonesSet_refused h)
  | some g =>
    exact (setting_of_still (still_serveZonesSet_granted h)).trans (setting_applyZones ..)

theorem serveZonesSet_moves (idle : c.plant.Idle c.site) :
    Moves c.site c.plant (c.requestStarts (.zonesSet flags schedule first minutes count mask))
      (c.serveZonesSet f flags schedule first minutes count mask).1.plant := by
  cases h : c.grant first count mask with
  | none =>
    rw [requestStarts,h]
    exact moves_of_still (still_serveZonesSet_refused h)
  | some g =>
    rw [requestStarts,h,plant_of_still (still_serveZonesSet_granted h)]
    exact applyZones_moves g.2 idle

end ZonesSet

theorem ground_serving (f : Frame) (x : Serving) : (Serving.act f c x).ground=c.ground := by
  cases x with
  | told => exact ground_of_still (still_reply ..)
  | noted => rfl
  | wrote => rfl
  | named => rfl

theorem ground_serve {f : Frame} (h : f.function≠.zonesSet) : (c.serve f).1.ground=c.ground :=
  (servedBy_serve h).keeps (P:=fun d => d.ground=c.ground)
    (fun d x hd => (d.ground_serving f x).trans hd) rfl

theorem place_serve (f : Frame) : (c.serve f).1.place=c.place := by
  by_cases h : f.function=.zonesSet
  · obtain ⟨transaction,target,source,m⟩ := f
    cases m <;> cases h
    exact place_of_setting (c.setting_serveZonesSet ..)
  · exact congrArg Prod.fst (c.ground_serve h)

theorem serve_moves {c : Controller σ} (idle : c.plant.Idle c.site) (f : Frame) :
    Moves c.site c.plant (c.requestStarts f.message) (c.serve f).1.plant := by
  by_cases h : f.function=.zonesSet
  · obtain ⟨transaction,target,source,m⟩ := f
    cases m <;> cases h
    exact serveZonesSet_moves idle
  · have hp : (c.serve f).1.plant=c.plant := congrArg Prod.snd (c.ground_serve h)
    have hs : c.requestStarts f.message=[] := by
      obtain ⟨transaction,target,source,m⟩ := f
      cases m with
      | zonesSet => exact absurd rfl h
      | _ => rfl
    rw [hp,hs]
    exact Moves.refl

/-- The starts that a frame makes. -/
def frameStarts (c : Controller σ) (bytes : List UInt8) : List Start :=
  match Frame.decode bytes with
  | .error _ => []
  | .ok f => if c.isAddressed f && f.function.isRequest && c.role.serves then
      c.requestStarts f.message else []

/-- What is for here is served if it is a request, and taken in otherwise, as far as the role has
it. -/
theorem process_decoded {bytes : List UInt8} {f : Frame} (hf : Frame.decode bytes=.ok f) :
    (c.process bytes).1=
      if c.isAddressed f then
        if f.function.isRequest then if c.role.serves then (c.serve f).1 else c
        else if c.role.consumes then (c.consume f).1 else c
      else c := by
  unfold process
  rw [hf]
  dsimp only
  cases c.isAddressed f <;> cases f.function.isRequest <;> cases c.role.serves <;>
    cases c.role.consumes <;> rfl

/-- Who only serves takes in requests for itself and nothing else. -/
theorem process_eq (h : c.role.consumes=false) (bytes : List UInt8) :
    (c.process bytes).1=
      match Frame.decode bytes with
      | .error _ => c
      | .ok f => if c.isAddressed f && f.function.isRequest && c.role.serves then (c.serve f).1
        else c := by
  cases hf : Frame.decode bytes with
  | error e =>
    unfold process
    rw [hf]
  | ok f =>
    rw [process_decoded hf,h]
    dsimp only
    cases c.isAddressed f <;> cases f.function.isRequest <;> cases c.role.serves <;> rfl

theorem place_process (h : c.role.consumes=false) (bytes : List UInt8) :
    (c.process bytes).1.place=c.place := by
  rw [c.process_eq h]
  split
  · rfl
  · split_ifs
    · exact place_serve ..
    · rfl

theorem process_moves {c : Controller σ} (h : c.role.consumes=false) (idle : c.plant.Idle c.site)
    (bytes : List UInt8) :
    Moves c.site c.plant (c.frameStarts bytes) (c.process bytes).1.plant := by
  rw [c.process_eq h]
  unfold frameStarts
  cases Frame.decode bytes with
  | error e => exact Moves.refl
  | ok f =>
    dsimp only
    split_ifs
    · exact serve_moves idle f
    · exact Moves.refl

/-- The starts that the next frame on the air makes. -/
def pollStarts (c : Controller σ) : List Start :=
  match c.link.receive with
  | (_,none) => []
  | (link,some delivery) => frameStarts {c with link} delivery.frame

theorem place_poll (h : c.role.consumes=false) : c.poll.1.place=c.place := by
  unfold poll
  split
  · rfl
  · refine (place_process ?_ _).trans rfl
    exact h

theorem poll_moves {c : Controller σ} (h : c.role.consumes=false) (idle : c.plant.Idle c.site) :
    Moves c.site c.plant c.pollStarts c.poll.1.plant := by
  unfold poll pollStarts
  cases hr : c.link.receive with
  | mk link o =>
    cases o with
    | none => exact Moves.refl
    | some delivery => exact process_moves (c:={c with link}) h idle delivery.frame

end Watering.Controller
