import Watering.Proofs.Controller.Strides
import Watering.Proofs.Controller.Takings

namespace Watering.Controller

variable {σ : Type} [Carrier σ] {E : ZoneBoard → ZoneBoard → Prop} (c : Controller σ)

theorem strides_serving (f : Frame) (x : Serving) : Strides E c (Serving.act f c x) := by
  cases x with
  | told m h => exact c.strides_reply h f
  | noted e => exact c.strides_record e
  | wrote => exact strides_aside rfl rfl rfl rfl
  | named => exact strides_aside rfl rfl rfl rfl

variable {c} in
theorem ServedBy.strides {f : Frame} {g : Controller σ → Controller σ} (h : ServedBy f g c) :
    Strides E c (g c) :=
  h.keeps (P:=Strides E c) (fun d x before => before.trans (d.strides_serving f x)) .refl

section Served

variable {s : Site}

theorem strides_applyOne {c : Controller σ} (hs : c.site=s) (st : Station)
    (schedule minutes ch : UInt8) :
    Strides (Commanded s) c (c.applyOne st schedule minutes ch).1 := by
  unfold applyOne
  split_ifs
  · exact strides_stopZoneFrom hs ..
  · exact strides_startZoneFrom hs ..

theorem strides_applyZones {c : Controller σ} (hs : c.site=s) (st : Station)
    (schedule minutes : UInt8) (channels : List UInt8) :
    Strides (Commanded s) c (c.applyZones st schedule minutes channels).1 := by
  induction channels generalizing c with
  | nil => exact .refl
  | cons ch channels ih =>
    have one := strides_applyOne hs st schedule minutes ch
    rw [applyZones_cons]
    split_ifs
    · exact one.trans (ih (one.site.trans hs))
    · exact one

theorem strides_serveZonesSet {c : Controller σ} (hs : c.site=s) (f : Frame) (flags : AckFlags)
    (schedule first minutes count : UInt8) (mask : ZoneMask) :
    Strides (Commanded s) c (c.serveZonesSet f flags schedule first minutes count mask).1 := by
  cases h : c.grant first count mask with
  | none =>
    rw [serveZonesSet_refused h]
    exact (servedBy_reject ..).strides
  | some g =>
    have applied := strides_applyZones hs g.1 schedule minutes g.2
    rw [serveZonesSet_granted h]
    split_ifs
    · exact applied.trans (servedBy_acknowledge f flags _ (fun _ _ => rfl) (fun _ => by nofun) _).strides
    · exact applied.trans (servedBy_reject ..).strides

end Served

theorem strides_serve {s : Site} (hs : c.site=s) (f : Frame) :
    Strides (Commanded s) c (c.serve f).1 := by
  by_cases h : f.function=.zonesSet
  · obtain ⟨transaction,target,source,m⟩ := f
    cases m <;> cases h
    exact strides_serveZonesSet hs ..
  · exact (servedBy_serve h).strides

theorem strides_taken (f : Frame) : Strides E c (c.taken f) := by
  unfold taken
  refine strides_foldl (s:=c.site) (fun d _ t _ => ?_) rfl
  cases t with
  | settled => exact .single (.settled _)
  | knows => exact strides_aside rfl rfl rfl rfl
  | noted e => exact d.strides_record e

theorem strides_reported (i : UInt8) (on : Bool) :
    Strides Reported c (News.act c (.reported i on)) := by
  have edited : Strides Reported c {c with zones:=(c.zones.confirm i on).1} := by
    rw [ZoneBoard.confirm_fst]
    exact c.strides_edited (.confirmed ..)
  change Strides Reported c (c.confirmOne i on)
  unfold confirmOne
  split_ifs
  · exact edited.trans (strides_record _ _)
  · exact edited

theorem strides_refused (s : Site) (i : UInt8) :
    Strides (Commanded s) c (News.act c (.refused i)) := by
  change Strides (Commanded s) c (c.refuseOne i)
  unfold refuseOne
  split_ifs
  · exact (c.strides_edited (.off i)).trans (strides_record _ _)
  · exact .refl

/-- Answers and reports edit the board as commands do or as reports do. -/
theorem consume_cases (s : Site) (f : Frame) : Strides (Commanded s) c (c.consume f).1 ∨
    Strides Reported c (c.consume f).1 := by
  rw [consume_eq]
  obtain none | ⟨_,first,count,mask,st,_,_,_,told⟩ | ⟨_,_,told⟩ := c.news_cases f
  · rw [none]
    exact .inl (c.strides_taken f)
  · rw [told,List.foldl_map]
    exact .inr ((c.strides_taken f).trans
      (strides_foldl (s:=(c.taken f).site) (fun d _ ch _ => d.strides_reported ..) rfl))
  · rw [told,List.foldl_map]
    exact .inl ((c.strides_taken f).trans
      (strides_foldl (s:=(c.taken f).site) (fun d _ i _ => d.strides_refused s i) rfl))

theorem process_cases (bytes : List UInt8) :
    Strides (Commanded c.site) c (c.process bytes).1 ∨ Strides Reported c (c.process bytes).1 := by
  unfold process
  cases Frame.decode bytes with
  | error e => exact Or.inl .refl
  | ok f =>
    dsimp only
    split_ifs
    · exact Or.inl .refl
    · exact Or.inl (c.strides_serve rfl f)
    · exact Or.inl .refl
    · exact c.consume_cases c.site f
    · exact Or.inl .refl

theorem poll_cases : Strides (Commanded c.site) c c.poll.1 ∨ Strides Reported c c.poll.1 := by
  have heard : ∀ {E},Strides E c {c with link:=c.link.receive.1} := .single .heard
  unfold poll
  split
  · next link h =>
    rw [h] at heard
    exact Or.inl heard
  · next link delivery h =>
    rw [h] at heard
    obtain frame | frame := process_cases {c with link} delivery.frame
    · exact Or.inl (heard.trans frame)
    · exact Or.inr (heard.trans frame)

theorem strides_conclude (t : Transition) : Strides E c (c.conclude t) := by
  unfold conclude finishRun
  cases t.expiry with
  | unconfirmed => exact c.strides_record _
  | finished =>
    dsimp only
    cases c.site.zone? t.zone with
    | none => exact .refl
    | some z =>
      exact ((c.strides_releaseValve z).trans (strides_record _ _)).trans (strides_pushZones _ _)

theorem strides_checkSensors : Strides E c c.checkSensors := by
  have note (d : Controller σ) (x : UInt16×Nat) : Strides E d (noteReading c.lastReadings d x) := by
    unfold noteReading
    split_ifs
    · exact .refl
    · exact d.strides_record _
  have read (d : Controller σ) (values : List UInt16) :
      Strides E d {d with lastReadings:=values} := strides_aside rfl rfl rfl rfl
  rw [checkSensors_eq]
  split_ifs
  · exact .refl
  · have noted : Strides E c (c.sensors.readings.zipIdx.foldl (noteReading c.lastReadings) c) :=
      strides_foldl (s:=c.site) (fun d _ x _ => note d x) rfl
    exact (noted.trans (read _ _)).trans (strides_pushSensors _ _)

theorem strides_dropSettled : Strides E c c.dropSettled := .single (.settled _)

/-- A second; what it does to the board is not told. -/
theorem strides_tick : Strides (fun _ _ => True) c c.tick := by
  have resized (d : Controller σ) : Strides (fun _ _ => True) d d.resizeBoard := by
    unfold resizeBoard
    dsimp only
    split_ifs
    · exact .refl
    · exact d.strides_edited trivial
  have ended (d : Controller σ) (ts : List Transition) :
      Strides (fun _ _ => True) d (ts.foldl conclude d) :=
    strides_foldl (s:=d.site) (fun e _ t _ => e.strides_conclude t) rfl
  have counted : Strides (fun _ _ => True) c c.counted := by
    have ticks : Strides (fun _ _ => True) c {c with ticks:=c.ticks+1} :=
      strides_aside rfl rfl rfl rfl
    have ready := ((ticks.tail (.ticked (c.ticks+1))).trans (resized _)).trans
      (strides_dropSettled _)
    exact (ready.trans (strides_edited _ trivial)).trans (ended _ _)
  have measured : Strides (fun _ _ => True) c {c.counted with sensors:=c.counted.sensors.sample.1} :=
    counted.trans (strides_aside rfl rfl rfl rfl)
  rw [tick_eq,sampled]
  split_ifs
  · exact measured.trans (strides_checkSensors _)
  · exact measured

end Watering.Controller
