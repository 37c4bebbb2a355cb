import Watering.Proofs.Controller.Bookkeeping
import Watering.Proofs.Controller.Takings

namespace Watering

namespace Controller

variable {σ : Type} {c : Controller σ} {starts : List Start}

/-- What a report makes of a zone: one that is off is not on, and one that is on stays so. -/
theorem isOn_confirm (b : ZoneBoard) (i : UInt8) (on : Bool) :
    (((b.modify i (·.confirm on)).status i).state.isOn=true) ↔ on=true ∧ i.toNat<b.size := by
  rw [ZoneBoard.status,ZoneBoard.status?_modify,if_pos rfl,←ZoneBoard.status?_isSome]
  cases b.status? i <;> cases on <;> simp [ZoneStatus.confirm,ZoneState.isOn]

theorem books_confirmOne (i : UInt8) (on : Bool) : Books (·=i) starts (·.confirmOne i on) c := by
  have edit := c.zones.confirm_fst i on
  by_cases gone : on=false ∧ (c.zones.state i).isOn=true
  · obtain ⟨rfl,was⟩ := gone
    obtain ⟨z,hz,hs⟩ := ZoneBoard.exists_status (ZoneState.ne_off was)
    have changed : (c.zones.confirm i false).2=true := by
      rw [ZoneBoard.confirm,hz]
      refine decide_eq_true fun same => ?_
      rw [←hs,←same] at was
      cases was
    have noted : Books (·=i) starts (fun d =>
        record {d with zones:=(d.zones.confirm i false).1} (.zoneStopped i .reported)) c := by
      refine ⟨[c.notice _],fun _ => rfl,?_⟩
      change Account _ _ _ (c.zones.confirm i false).1 _
      rw [edit]
      refine .one (.stopped .reported (ZoneState.ne_off was) ?_)
      exact Bool.eq_false_iff.mpr fun k => Bool.false_ne_true ((isOn_confirm ..).mp k).1
    refine noted.congr fun j => if_pos ?_
    rw [zones_withJournal,changed,was]
    rfl
  · have quiet : Books (·=i) starts (fun d => {d with zones:=(d.zones.confirm i on).1}) c := by
      refine ⟨[],fun _ => rfl,?_⟩
      change Account _ _ _ (c.zones.confirm i on).1 _
      rw [edit]
      refine .one (.silent fun was => (isOn_confirm ..).mpr ?_)
      obtain ⟨z,hz,_⟩ := ZoneBoard.exists_status (b:=c.zones) (z:=i) (ZoneState.ne_off was)
      refine ⟨eq_true_of_ne_false fun h => gone ⟨h,was⟩,?_⟩
      exact ZoneBoard.status?_isSome.mp (Option.isSome_iff_exists.mpr ⟨z,hz⟩)
    refine quiet.congr fun j => if_neg fun k => ?_
    rw [Bool.and_eq_true,Bool.and_eq_true,Bool.not_eq_true'] at k
    exact gone ⟨k.1.2,k.2⟩

/-- Channels whose states are taken over one after the other are different zones. -/
theorem books_confirmAll {st : Station} (fits : st.firstZone.toNat+st.zoneCount.toNat≤255)
    (mask : ZoneMask) {channels : List UInt8} (nodup : channels.Nodup)
    (below : ∀ ch∈channels,ch < st.zoneCount) :
    Books (fun i => ∃ ch∈channels,i=st.zoneOf ch) starts
      (fun d => channels.foldl (fun d ch => d.confirmOne (st.zoneOf ch) (mask.get ch)) d) c := by
  refine books_foldl (K:=fun ch i => i=st.zoneOf ch) (I:=fun _ => True) ?_
    (fun d _ ch _ _ => ⟨books_confirmOne ..,trivial⟩) trivial
  exact nodup.imp_of_mem fun ha hb ne i hi hi' =>
    ne (Station.zoneOf_inj fits (below _ ha) (below _ hb) (hi.symm.trans hi'))

/-- Of the zones that a refused change named those that still wait are turned off, each once. -/
theorem books_refuseAll (zones : List UInt8) (c : Controller σ) :
    Books (fun i => i∈zones ∧ (c.zones.state i).isPending=true) starts
      (fun d => zones.foldl refuseOne d) c := by
  induction zones generalizing c with
  | nil => exact (notes_nothing c).only.books rfl
  | cons z zones ih =>
    by_cases pending : (c.zones.state z).isPending=true
    · have busy : c.zones.state z≠.off := fun off => by
        rw [off] at pending
        cases pending
      have first : Books (·=z) starts (fun d =>
          record {d with zones:=d.zones.forceOff z} (.zoneStopped z .rejected)) c :=
        books_forceOff z .rejected busy
      have off := first.comp (ih _) fun i hi k => by
        rw [hi] at k
        have gone : ((c.zones.forceOff z).state z).isPending=true := k.2
        rw [ZoneBoard.state_forceOff_self] at gone
        cases gone
      refine (off.congr fun j => congrArg (List.foldl _ · zones) (if_pos pending)).mono fun i k => ?_
      obtain rfl | ⟨hi,k⟩ := k
      · exact ⟨List.mem_cons_self,pending⟩
      · by_cases e : i=z
        · rw [e]
          exact ⟨List.mem_cons_self,pending⟩
        · have same : (c.zones.forceOff z).state i=c.zones.state i := ZoneBoard.state_modify_ne _ _ e
          exact ⟨List.mem_cons_of_mem _ hi,same ▸ k⟩
    · refine ((ih c).congr fun j => congrArg (List.foldl _ · zones) (if_neg pending)).mono
        fun i k => ⟨List.mem_cons_of_mem _ k.1,k.2⟩

theorem books_consume (laid : c.site.Laid) (f : Frame) :
    Books (fun _ => True) starts (fun d => (d.consume f).1) c := by
  have news : Books (fun _ => True) starts (fun d => (c.news f).foldl News.act d) (c.taken f) := by
    obtain none | ⟨_,first,count,mask,st,_,hs,range,told⟩ | ⟨_,_,told⟩ := c.news_cases f
    · rw [none]
      exact (notes_nothing _).only.books rfl
    · simp only [told,List.foldl_map]
      exact (books_confirmAll (laid.fits (Site.station?_of_enabledStation? hs).1) mask
        (nodup_span first count) fun ch hch => lt_of_mem_span hch range).mono fun _ _ => trivial
    · simp only [told,List.foldl_map]
      exact (books_refuseAll _ _).mono fun _ _ => trivial
  exact (Books.before (c.aside_taken f) (c.zones_taken f) news).congr fun j =>
    (c.withJournal j).consume_eq f

variable [Carrier σ]

section Served

variable {st : Station} {schedule minutes : UInt8}

theorem books_applyOne (h : c.Matched) (ch : UInt8) : BooksWith (·=st.zoneOf ch)
    (c.oneStarts st schedule minutes ch) (·.applyOne st schedule minutes ch) c := by
  by_cases h0 : minutes=0
  · exact (books_stopZoneFrom _ .peer).congr fun _ => if_pos h0
  · rw [oneStarts,if_neg h0]
    exact (books_startZoneFrom h (channelRun st schedule minutes ch) .peer).congr fun _ => if_neg h0

theorem Matched.applyOne (h : c.Matched) (ch : UInt8) :
    (c.applyOne st schedule minutes ch).1.Matched := by
  refine h.of_same (site_of_setting (c.setting_applyOne ch)) ?_
  unfold Controller.applyOne
  split_ifs
  · exact (c.stopZoneFrom_spares (st.zoneOf ch) .peer).size
  · exact (c.startZoneFrom_spares (channelRun st schedule minutes ch) .peer).size

/-- Channels that are switched one after the other are different zones. -/
theorem books_applyZones (h : c.Matched) {channels : List UInt8}
    (apart : channels.Pairwise fun a b => st.zoneOf a≠st.zoneOf b) :
    BooksWith (fun i => ∃ ch∈channels,i=st.zoneOf ch) (c.applyStarts st schedule minutes channels)
      (·.applyZones st schedule minutes channels) c := by
  induction channels generalizing c with
  | nil => exact ((notes_nothing c).only.books rfl).answering true
  | cons ch channels ih =>
    obtain ⟨first,rest⟩ := List.pairwise_cons.mp apart
    have one : BooksWith (·=st.zoneOf ch) (c.applyStarts st schedule minutes (ch::channels))
        (·.applyOne st schedule minutes ch) c :=
      (books_applyOne h ch).accepting fun s hs => List.mem_append_left _ hs
    have later (ok : (c.applyOne st schedule minutes ch).2=true) :
        BooksWith (fun i => ∃ ch∈channels,i=st.zoneOf ch)
          (c.applyStarts st schedule minutes (ch::channels))
          (·.applyZones st schedule minutes channels) (c.applyOne st schedule minutes ch).1 :=
      (ih (h.applyOne ch) rest).accepting fun s hs => List.mem_append_right _ (by rwa [if_pos ok])
    have all := one.next later fun i hi k => ?_
    · refine (all.congr fun j => (c.withJournal j).applyZones_cons ch channels).mono fun i k => ?_
      obtain k | ⟨x,hx,k⟩ := k
      · exact ⟨ch,List.mem_cons_self,k⟩
      · exact ⟨x,List.mem_cons_of_mem _ hx,k⟩
    · obtain ⟨x,hx,k⟩ := k
      exact first x hx (hi.symm.trans k)

theorem books_serveZonesSet (h : c.Matched) (laid : c.site.Laid) (f : Frame) (flags : AckFlags)
    (first count : UInt8) (mask : ZoneMask) : Books (fun _ => True)
      (c.requestStarts (.zonesSet flags schedule first minutes count mask))
      (fun d => (d.serveZonesSet f flags schedule first minutes count mask).1) c := by
  by_cases granted : ∃ st,c.Commandable first count st
  · obtain ⟨st,ok⟩ := granted
    have range : expand first count st.zoneCount=count := expand_of_ne ok.2.1
    have below : ∀ ch∈(span first count).filter mask.get,ch < st.zoneCount := fun ch hc =>
      ok.2.2.lt_limit (by rw [range]; exact (List.mem_filter.mp hc).1)
    have apart := ((nodup_span first count).filter mask.get).imp_of_mem fun ha hb ne e =>
      ne (Station.zoneOf_inj (laid.fits ok.1.1) (below _ ha) (below _ hb) e)
    have grant : c.grant first count mask=some (st,(span first count).filter mask.get) :=
      grant_of_commandable ok
    have applied : BooksWith (fun _ => True)
        (c.requestStarts (.zonesSet flags schedule first minutes count mask))
        (·.applyZones st schedule minutes ((span first count).filter mask.get)) c := by
      rw [requestStarts,grant]
      exact (books_applyZones h apart).mono fun _ _ => trivial
    by_cases done : (c.applyZones st schedule minutes ((span first count).filter mask.get)).2=true
    · have answered := (servedBy_acknowledge f flags (fun d => d.zonesReport st first count)
        (fun _ _ => rfl) (fun _ k => by cases k) (c.applyZones st schedule minutes
          ((span first count).filter mask.get)).1).aside
      refine (applied.books.after answered (zones_of_still (still_acknowledge ..))).congr fun j => ?_
      rw [serveZonesSet_granted (c:=c.withJournal j) grant,if_pos ((applied.answer j).trans done)]
    · refine (applied.books.after (servedBy_reject f .applyFailure (flags.contains .error) _).aside
        (zones_of_still (still_reject ..))).congr fun j => ?_
      rw [serveZonesSet_granted (c:=c.withJournal j) grant,
        if_neg fun k => done ((applied.answer j).symm.trans k)]
  · have refused : c.grant first count mask=none := grant_of_not_commandable granted
    refine ((servedBy_reject f .illegalAddress (flags.contains .error) c).aside.books
      (zones_of_still (still_reject ..))).congr fun j => ?_
    rw [serveZonesSet_refused (c:=c.withJournal j) refused]

end Served

end Controller

end Watering
