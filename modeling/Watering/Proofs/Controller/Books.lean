import Watering.Proofs.Controller.Change
import Watering.Proofs.Controller.Grounds
import Watering.Proofs.Controller.Notes
import Watering.Proofs.Zone.Account

namespace Watering

namespace ZoneBoard

variable (b : ZoneBoard) (i : UInt8)

theorem status_stop (confirmed : Bool) : ((b.stop i confirmed).status i).state.isOn=false := by
  have gone (z : ZoneStatus) : (z.stop confirmed).state.isOn=false := by
    obtain h | ⟨_,_,h⟩ := z.stop_cases confirmed <;> rw [h] <;> rfl
  rw [status,stop,status?_modify,if_pos rfl]
  cases b.status? i with
  | none => rfl
  | some z => exact gone z

theorem status_forceOff : (b.forceOff i).status i={} := by
  rw [status,forceOff,status?_modify,if_pos rfl]
  cases b.status? i <;> rfl

end ZoneBoard

namespace Controller

variable {σ : Type}

/-- What `f` notes is an account of what it does to the zones in `K`. -/
def Books (K : UInt8 → Prop) (starts : List Start) (f : Controller σ → Controller σ)
    (c : Controller σ) : Prop :=
  ∃ ns,Notes f c ns ∧ Account K starts c.zones (f c).zones (ns.map (·.event))

/-- The same of what also gives an answer. -/
def BooksWith {α : Type} (K : UInt8 → Prop) (starts : List Start)
    (f : Controller σ → Controller σ×α) (c : Controller σ) : Prop :=
  ∃ ns,Responds f c ns ∧ Account K starts c.zones (f c).1.zones (ns.map (·.event))

/-- What `f` notes tells of no zone. -/
abbrev NotesAside (f : Controller σ → Controller σ) (c : Controller σ) : Prop :=
  NotesOnly (·.zone?=none) f c

section Laws

variable {K K' : UInt8 → Prop} {starts : List Start} {f g : Controller σ → Controller σ}
  {c : Controller σ}

theorem Books.congr (h : Books K starts f c)
    (same : ∀ j,g (c.withJournal j)=f (c.withJournal j)) : Books K starts g c := by
  obtain ⟨ns,notes,account⟩ := h
  have now : g c=f c := same c.journal
  exact ⟨ns,notes.congr same,now ▸ account⟩

theorem BooksWith.congr {α : Type} {f g : Controller σ → Controller σ×α}
    (h : BooksWith K starts f c) (same : ∀ j,g (c.withJournal j)=f (c.withJournal j)) :
    BooksWith K starts g c := by
  obtain ⟨ns,responds,account⟩ := h
  have now : g c=f c := same c.journal
  exact ⟨ns,responds.congr same,now ▸ account⟩

theorem NotesOnly.books (h : NotesAside f c) (same : (f c).zones=c.zones) : Books K starts f c := by
  obtain ⟨ns,notes,none⟩ := h
  exact ⟨ns,notes,.aside same (List.forall_mem_map.mpr none)⟩

theorem BooksWith.books {α : Type} {f : Controller σ → Controller σ×α} (h : BooksWith K starts f c) :
    Books K starts (fun d => (f d).1) c := by
  obtain ⟨ns,notes,account⟩ := h
  exact ⟨ns,notes.notes,account⟩

theorem Books.answering {α : Type} (h : Books K starts f c) (a : α) :
    BooksWith K starts (fun d => (f d,a)) c := by
  obtain ⟨ns,notes,account⟩ := h
  exact ⟨ns,notes.answering a,account⟩

theorem BooksWith.answer {α : Type} {f : Controller σ → Controller σ×α} (h : BooksWith K starts f c)
    (j : Journal) : (f (c.withJournal j)).2=(f c).2 := by
  obtain ⟨_,responds,_⟩ := h
  rw [responds j]

theorem Books.mono (h : Books K starts f c) (hK : ∀ i,K i → K' i) : Books K' starts f c := by
  obtain ⟨ns,notes,account⟩ := h
  exact ⟨ns,notes,account.mono hK⟩

theorem Books.comp (h : Books K starts f c) (h' : Books K' starts g (f c))
    (apart : ∀ i,K i → ¬K' i) : Books (fun i => K i ∨ K' i) starts (fun d => g (f d)) c := by
  obtain ⟨ns,notes,account⟩ := h
  obtain ⟨ns',notes',account'⟩ := h'
  refine ⟨ns++ns',notes.comp notes',?_⟩
  rw [List.map_append]
  exact account.trans account' apart

/-- What tells of no zone may come before or after. -/
theorem Books.before (h : NotesAside f c) (same : (f c).zones=c.zones)
    (h' : Books K starts g (f c)) : Books K starts (fun d => g (f d)) c :=
  ((h.books (K:=fun _ => False) same).comp h' nofun).mono fun _ k => k.resolve_left id

theorem Books.after (h : Books K starts f c) (h' : NotesAside g (f c))
    (same : (g (f c)).zones=(f c).zones) : Books K starts (fun d => g (f d)) c :=
  (h.comp (h'.books (K:=fun _ => False) same) fun _ _ => id).mono fun _ k => k.resolve_right id

theorem BooksWith.mono {α : Type} {f : Controller σ → Controller σ×α} (h : BooksWith K starts f c)
    (hK : ∀ i,K i → K' i) : BooksWith K' starts f c := by
  obtain ⟨ns,responds,account⟩ := h
  exact ⟨ns,responds,account.mono hK⟩

theorem BooksWith.accepting {α : Type} {f : Controller σ → Controller σ×α}
    (h : BooksWith K starts f c) {starts' : List Start} (hs : ∀ s∈starts,s∈starts') :
    BooksWith K starts' f c := by
  obtain ⟨ns,responds,account⟩ := h
  exact ⟨ns,responds,account.accepting hs⟩

/-- What is gone on with if the answer is yes. -/
theorem BooksWith.next {f g : Controller σ → Controller σ×Bool} (h : BooksWith K starts g c)
    (h' : (g c).2=true → BooksWith K' starts f (g c).1) (apart : ∀ i,K i → ¬K' i) :
    BooksWith (fun i => K i ∨ K' i) starts
      (fun d => if (g d).2=true then f (g d).1 else ((g d).1,false)) c := by
  obtain ⟨ns,responds,account⟩ := h
  by_cases yes : (g c).2=true
  · obtain ⟨ns',responds',account'⟩ := h' yes
    refine ⟨_,responds.next fun _ => responds',?_⟩
    dsimp only
    rw [if_pos yes,if_pos yes,List.map_append]
    exact account.trans account' apart
  · have refused : (g c).2=true → Responds f (g c).1 [] := fun k => absurd k yes
    refine ⟨_,responds.next refused,?_⟩
    dsimp only
    rw [if_neg yes,if_neg yes,List.append_nil]
    exact account.mono fun _ => .inl

/-- What is asked for first and done if the answer is yes. -/
theorem Responds.booksWith {g : Controller σ → Controller σ×Bool} (asked : Responds g c [])
    (same : (g c).1.zones=c.zones) (done : (g c).2=true → Books K starts f (g c).1) :
    BooksWith K starts (fun d => if (g d).2=true then (f (g d).1,true) else ((g d).1,false)) c := by
  have first : BooksWith (fun _ => False) starts g c := ⟨[],asked,.aside same nofun⟩
  exact (first.next (fun yes => (done yes).answering true) nofun).mono fun _ k => k.resolve_left id

/-- The books of many steps, no two of which concern one zone. -/
theorem books_foldl {α : Type} {f : Controller σ → α → Controller σ} {K : α → UInt8 → Prop}
    {I : Controller σ → Prop} {l : List α} (apart : l.Pairwise fun x y => ∀ i,K x i → ¬K y i)
    (step : ∀ d,I d → ∀ x∈l,(∀ i,K x i → d.zones.status i=c.zones.status i) →
      Books (K x) starts (f · x) d ∧ I (f d x)) (hc : I c) :
    Books (fun i => ∃ x∈l,K x i) starts (fun d => l.foldl f d) c := by
  induction l generalizing c with
  | nil => exact (notes_nothing c).only.books rfl
  | cons x l ih =>
    obtain ⟨first,rest⟩ := List.pairwise_cons.mp apart
    obtain ⟨books,hI⟩ := step c hc x List.mem_cons_self fun _ _ => rfl
    have left (i : UInt8) (k : ¬K x i) : (f c x).zones.status i=c.zones.status i := by
      obtain ⟨_,_,account⟩ := books
      exact (account.others k).1
    have later := ih (c:=f c x) rest (fun d hd y hy same =>
      step d hd y (List.mem_cons_of_mem _ hy) fun i hi =>
        (same i hi).trans (left i fun k => first y hy i k hi)) hI
    refine (books.comp (g:=fun d => l.foldl f d) later fun i k => ?_).mono ?_
    · rintro ⟨y,hy,hi⟩
      exact first y hy i k hi
    · rintro i (k | ⟨y,hy,k⟩)
      · exact ⟨x,List.mem_cons_self,k⟩
      · exact ⟨y,List.mem_cons_of_mem _ hy,k⟩

end Laws

/-- The board has the zones of the site, as many as an octet can index. -/
structure Matched (c : Controller σ) : Prop where
  size : c.zones.size=c.site.zones.length
  small : c.site.zones.length≤255

namespace Matched

variable {c d : Controller σ} (h : c.Matched)
include h

theorem lt_size {i : UInt8} {z : Zone} (hz : c.site.zone? i=some z) : i.toNat<c.zones.size := by
  rw [h.size]
  exact (List.getElem?_eq_some_iff.mp hz).1

theorem zone {i : UInt8} (hi : i.toNat<c.zones.size) : ∃ z,c.site.zone? i=some z := by
  rw [h.size] at hi
  exact ⟨_,List.getElem?_eq_getElem hi⟩

theorem zone_of_status {i : UInt8} {y : ZoneStatus} (hy : c.zones.status? i=some y) :
    ∃ z,c.site.zone? i=some z :=
  h.zone (ZoneBoard.status?_isSome.mp (Option.isSome_iff_exists.mpr ⟨y,hy⟩))

/-- An octet can index the board. -/
theorem indexed : c.zones.size≤256 := by
  rw [h.size]
  exact Nat.le_succ_of_le h.small

theorem size_eq_zoneCount : c.zones.size=c.site.zoneCount.toNat := by
  rw [h.size,Site.zoneCount,lengthCapped,Nat.min_eq_left h.small,
    UInt8.toNat_ofNat_of_lt' (Nat.lt_succ_of_le h.small)]

theorem of_same (site : d.site=c.site) (size : d.zones.size=c.zones.size) : d.Matched :=
  ⟨by rw [size,site,h.size],by rw [site]; exact h.small⟩

end Matched

section Edits

variable {c : Controller σ} {starts : List Start} (i : UInt8)

/-- An edit of one zone with the note that goes with it. -/
theorem books_edit {f : ZoneStatus → ZoneStatus} (e : Event)
    (p : Page starts i (c.zones.status i) ((c.zones.modify i f).status i) [e]) :
    Books (·=i) starts (fun d => record {d with zones:=d.zones.modify i f} e) c :=
  ⟨[c.notice e],fun _ => rfl,.one p⟩

theorem books_forceOff (r : StopReason) (h : c.zones.state i≠.off) :
    Books (·=i) starts (fun d => record {d with zones:=d.zones.forceOff i} (.zoneStopped i r)) c :=
  books_edit i _ (.stopped r h (congrArg (·.state.isOn) (c.zones.status_forceOff i)))

theorem books_stop (confirmed : Bool) (h : c.zones.state i≠.off) : Books (·=i) starts
    (fun d => record {d with zones:=d.zones.stop i confirmed} (.zoneStopped i .commanded)) c :=
  books_edit i _ (.stopped .commanded h (c.zones.status_stop i confirmed))

theorem books_failSafeOff : Books (·=i) starts (·.failSafeOff i) c := by
  have off (d : Controller σ) : Books (·=i) starts (fun d => if d.zones.state i=.off then d else
      record {d with zones:=d.zones.forceOff i} (.zoneStopped i .stationDisabled)) d := by
    by_cases h : d.zones.state i=.off
    · exact ((notes_nothing d).only.books rfl).congr fun _ => if_pos h
    · exact (books_forceOff i .stationDisabled h).congr fun _ => if_neg h
  cases hz : c.site.zone? i with
  | none =>
    refine (off c).congr fun j => ?_
    simp only [failSafeOff,site_withJournal,hz]
  | some z =>
    have released : (c.releaseValve z).zones=c.zones :=
      congrArg Plant.zones (c.plant_releaseValve z)
    refine (Books.before (notes_releaseValve z c).only released (off _)).congr fun j => ?_
    simp only [failSafeOff,site_withJournal,hz]

end Edits

section One

variable [Carrier σ] {c : Controller σ} {starts : List Start}

theorem books_stopped (i : UInt8) (confirmed : Bool) (station : UInt8) (origin : Origin)
    (h : c.zones.state i≠.off) :
    Books (·=i) starts (·.stopped i confirmed station origin) c := by
  have stop : Books (·=i) starts (fun d =>
      record {d with zones:=d.zones.stop i confirmed} (.zoneStopped i .commanded)) c :=
    books_stop i confirmed h
  by_cases here : origin=.here
  · exact (stop.after (notes_pushZones station _).only (zones_of_still (still_pushZones ..))).congr
      fun j => if_pos here
  · exact stop.congr fun j => if_neg here

theorem books_stopZoneFrom (i : UInt8) (origin : Origin) :
    BooksWith (·=i) starts (·.stopZoneFrom i origin) c := by
  have nothing (a : Bool) : BooksWith (·=i) starts (fun d : Controller σ => (d,a)) c :=
    ((notes_nothing c).only.books rfl).answering a
  have other (j : Journal) := stopZoneFrom_else (c:=c.withJournal j) (i:=i) origin
  cases hz : c.site.zone? i with
  | none => exact (nothing false).congr fun j => (other j).1 hz
  | some z =>
    by_cases h : c.zones.state i=.off
    · exact (nothing true).congr fun j => (other j).2.1 z hz h
    cases hs : c.site.enabledStation? z.station with
    | none => exact ((books_failSafeOff i).answering false).congr fun j => (other j).2.2 z hz h hs
    | some st =>
      have closed := c.zones_close z st
      refine ((responds_close z st c).booksWith closed fun _ =>
        books_stopped i st.network.isLocal z.station origin ?_).congr fun j =>
          stopZoneFrom_eq (c:=c.withJournal j) origin hz h hs
      rwa [closed]

theorem books_started (run : ZoneRun) (confirmed : Bool) (now : Instant) (station : UInt8)
    (origin : Origin) {s : Start} (accepted : s∈starts) (zone : s.zone=run.zone)
    (minutes : s.minutes=run.minutes) (room : run.zone.toNat<c.zones.size) :
    Books (·=run.zone) starts (·.started run confirmed now station origin) c := by
  have under : (c.zones.start run confirmed now).status run.zone=.start run confirmed now := by
    rw [ZoneBoard.status,ZoneBoard.start,ZoneBoard.status?_modify,if_pos rfl]
    obtain ⟨z,hz⟩ := Option.isSome_iff_exists.mp (ZoneBoard.status?_isSome.mpr room)
    rw [hz]
    rfl
  have start : Books (·=run.zone) starts
      (fun d => record {d with zones:=d.zones.start run confirmed now} (.zoneStarted run)) c := by
    refine books_edit run.zone _ (.started accepted zone minutes rfl ?_ ?_)
    · rw [show (c.zones.modify run.zone _).status run.zone=_ from under]
      cases confirmed <;> rfl
    · rw [show (c.zones.modify run.zone _).status run.zone=_ from under]
      rfl
  by_cases here : origin=.here
  · exact (start.after (notes_pushZones station _).only (zones_of_still (still_pushZones ..))).congr
      fun j => if_pos here
  · exact start.congr fun j => if_neg here

theorem books_startZoneFrom (h : c.Matched) (run : ZoneRun) (origin : Origin) :
    BooksWith (·=run.zone) (c.startOf run origin) (·.startZoneFrom run origin) c := by
  have refused : BooksWith (·=run.zone) (c.startOf run origin) (fun d : Controller σ => (d,false)) c :=
    ((notes_nothing c).only.books rfl).answering false
  have other (j : Journal) := (c.withJournal j).startZoneFrom_else run origin
  by_cases hz : ∃ z,c.site.MayRun run.zone z
  · obtain ⟨z,hz⟩ := hz
    cases hs : c.site.enabledStation? z.station with
    | none =>
      exact ((books_failSafeOff run.zone).answering false).congr fun j => (other j).2 z hz hs
    | some st =>
      have eq (j : Journal) : (c.withJournal j).startZoneFrom run origin=
          if (c.capped run).minutes=0 then (c.withJournal j).stopZoneFrom run.zone origin
          else if ((c.withJournal j).openFor z st (c.capped run)).2=true then
            (((c.withJournal j).openFor z st (c.capped run)).1.started (c.capped run)
              st.network.isLocal c.now z.station origin,true)
          else (((c.withJournal j).openFor z st (c.capped run)).1,false) :=
        startZoneFrom_eq (c:=c.withJournal j) origin hz hs
      by_cases h0 : (c.capped run).minutes=0
      · exact (books_stopZoneFrom run.zone origin).congr fun j => (eq j).trans (if_pos h0)
      have opened := c.zones_openFor z st (c.capped run)
      have started (yes : (c.openFor z st (c.capped run)).2=true) :
          Books (·=run.zone) (c.startOf run origin)
            (·.started (c.capped run) st.network.isLocal c.now z.station origin)
            (c.openFor z st (c.capped run)).1 := by
        have accepted : ⟨run.zone,run.minutes,c.maxRun⟩∈c.startOf run origin := by
          rw [startOf,startZoneFrom_eq origin hz hs,if_neg h0,if_pos yes]
          exact List.mem_singleton_self _
        refine books_started (c.capped run) _ c.now z.station origin accepted rfl rfl ?_
        rw [opened]
        exact h.lt_size hz.1
      refine ((responds_openFor z st (c.capped run) c).booksWith opened started).congr fun j => ?_
      exact (eq j).trans (if_neg h0)
  · exact refused.congr fun j => (other j).1 fun z h => hz ⟨z,h⟩

end One

end Controller

end Watering
