import Watering.Proofs.Site.Layout
import Watering.Proofs.Valves
import Watering.Proofs.Zone.Board

namespace Watering

/-- The part of a controller that has to do with water. -/
structure Plant where
  valves : ValveBoard
  zones : ZoneBoard

/-- A start that was accepted: what was asked for, and the longest run allowed then. -/
structure Start where
  zone : UInt8
  requested : UInt8
  cap : UInt8
deriving DecidableEq,Repr

def Start.minutes (s : Start) : UInt8 := min s.requested s.cap

namespace Site

/-- The output of a zone whose station is wired here. -/
def outputOf? (s : Site) (z : Zone) : Option UInt16 :=
  match s.station? z.station with
  | some st => if st.network.isLocal then st.output? z.channel else none
  | none => none

/-- The zone at an index, if it may be started. -/
def MayRun (s : Site) (i : UInt8) (z : Zone) : Prop := s.zone? i=some z ∧ z.enabled=true

/-- Zone `i` is a channel of a station wired here, and `o` is its output. -/
def Wires (s : Site) (i : UInt8) (o : UInt16) : Prop :=
  ∃ id st ch,s.station? id=some st ∧ st.network.isLocal=true ∧ ch < st.zoneCount ∧
    st.zoneOf ch=i ∧ st.output? ch=some o

/-- No two channels of stations wired here share an output. -/
def OutputsDistinct (s : Site) : Prop :=
  ∀ o id st ch id' st' ch',s.station? id=some st → st.network.isLocal=true → ch < st.zoneCount →
    s.station? id'=some st' → st'.network.isLocal=true → ch' < st'.zoneCount →
    st.output? ch=some o → st'.output? ch'=some o → id=id' ∧ ch=ch'

theorem station?_of_enabledStation? {s : Site} {id : UInt8} {st : Station}
    (h : s.enabledStation? id=some st) : s.station? id=some st ∧ st.enabled=true := by
  simpa [enabledStation?,Option.filter_eq_some_iff] using h

theorem outputOf?_local {s : Site} {z : Zone} {st : Station} (hs : s.station? z.station=some st)
    (hn : st.network.isLocal=true) : s.outputOf? z=st.output? z.channel := by
  simp [outputOf?,hs,hn]

variable {s : Site} {i j : UInt8} {o k : UInt16} {z : Zone}

theorem Wires.station (h : s.Laid) (w : s.Wires i o) (hz : s.zone? i=some z) :
    ∃ st,s.station? z.station=some st ∧ st.network.isLocal=true ∧ st.output? z.channel=some o := by
  obtain ⟨id,st,ch,hs,hn,hc,rfl,ho⟩ := w
  obtain ⟨y,hy,rfl,rfl⟩ := h.zone_of hs hc
  rw [hy] at hz
  rw [←Option.some.inj hz]
  exact ⟨st,hs,hn,ho⟩

theorem Wires.zone (h : s.Laid) (w : s.Wires i o) : ∃ z,s.zone? i=some z := by
  obtain ⟨id,st,ch,hs,_,hc,rfl,_⟩ := w
  obtain ⟨y,hy,_⟩ := h.zone_of hs hc
  exact ⟨y,hy⟩

theorem Wires.outputOf? (h : s.Laid) (w : s.Wires i o) (hz : s.zone? i=some z) :
    s.outputOf? z=some o := by
  obtain ⟨st,hs,hn,ho⟩ := w.station h hz
  rw [outputOf?_local hs hn,ho]

theorem Wires.output_unique (h : s.Laid) (w : s.Wires i o) (w' : s.Wires i k) : o=k := by
  obtain ⟨z,hz⟩ := w.zone h
  exact Option.some.inj ((w.outputOf? h hz).symm.trans (w'.outputOf? h hz))

theorem Wires.zone_unique (d : s.OutputsDistinct) (w : s.Wires i o) (w' : s.Wires j o) : i=j := by
  obtain ⟨id,st,ch,hs,hn,hc,rfl,ho⟩ := w
  obtain ⟨id',st',ch',hs',hn',hc',rfl,ho'⟩ := w'
  obtain ⟨rfl,rfl⟩ := d o id st ch id' st' ch' hs hn hc hs' hn' hc' ho ho'
  rw [Option.some.inj (hs.symm.trans hs')]

theorem wires_of_outputOf? (h : s.Laid) (hz : s.MayRun i z) (ho : s.outputOf? z=some o) :
    s.Wires i o := by
  obtain ⟨st,hs,hc,hi⟩ := h.owner hz.1 hz.2
  rw [Site.outputOf?,hs] at ho
  dsimp only at ho
  split_ifs at ho with hn
  exact ⟨_,st,_,hs,hn,hc,hi,ho⟩

theorem not_wires_of_radio (h : s.Laid) {st : Station} (hz : s.zone? i=some z)
    (hs : s.enabledStation? z.station=some st) (hn : st.network.isLocal=false) : ¬s.Wires i o := by
  intro w
  obtain ⟨t,ht,hl,_⟩ := w.station h hz
  rw [Option.some.inj ((station?_of_enabledStation? hs).1.symm.trans ht),hl] at hn
  cases hn

end Site

namespace Plant

/-- What one command does to one zone, or to all of them. An accepted start stands beside the move
that it made. -/
inductive Move (site : Site) (p : Plant) : Option Start → Plant → Prop
  | opened {s : Start} {z : Zone} {st : Station} {o : UInt16} {run : ZoneRun} (now : Instant) :
    site.MayRun s.zone z → site.enabledStation? z.station=some st → st.network.isLocal=true →
    st.output? z.channel=some o → p.valves.isWired o=true → run.zone=s.zone →
    run.minutes=s.minutes → s.minutes≠0 →
    Move site p (some s) ⟨(p.valves.set o true).1,p.zones.start run true now⟩
  /-- A station elsewhere was asked to open its valve. -/
  | asked {s : Start} {z : Zone} {st : Station} {run : ZoneRun} (now : Instant) :
    site.MayRun s.zone z → site.enabledStation? z.station=some st → st.network.isLocal=false →
    run.zone=s.zone → run.minutes=s.minutes → s.minutes≠0 →
    Move site p (some s) ⟨p.valves,p.zones.start run false now⟩
  /-- A start of no length, of a zone that is off. -/
  | skipped {s : Start} : s.minutes=0 → p.zones.state s.zone=.off → Move site p (some s) p
  /-- A stop, which may be a start of no length. -/
  | closed {l : Option Start} {i : UInt8} {z : Zone} {st : Station} :
    site.MayRun i z → site.enabledStation? z.station=some st → st.network.isLocal=true →
    (∀ s∈l,s.zone=i ∧ s.minutes=0) →
    Move site p l ⟨p.valves.release (site.outputOf? z),p.zones.stop i true⟩
  /-- A station elsewhere was asked to close its valve. -/
  | toldOff {l : Option Start} {i : UInt8} {z : Zone} {st : Station} :
    site.MayRun i z → site.enabledStation? z.station=some st → st.network.isLocal=false →
    (∀ s∈l,s.zone=i ∧ s.minutes=0) → Move site p l ⟨p.valves,p.zones.stop i false⟩
  | failed {i : UInt8} {z : Zone} : site.MayRun i z → site.enabledStation? z.station=none →
    Move site p none ⟨p.valves.release (site.outputOf? z),p.zones.forceOff i⟩
  | released {i : UInt8} {z : Zone} : site.MayRun i z → site.enabledStation? z.station=none →
    p.zones.state i=.off → Move site p none ⟨p.valves.release (site.outputOf? z),p.zones⟩
  | dropped {i : UInt8} : site.zone? i=none → Move site p none ⟨p.valves,p.zones.forceOff i⟩
  | allOff : Move site p none ⟨p.valves.allOff,p.zones.allOff⟩

/-- Moves one after the other, with the starts that were accepted, in order. -/
inductive Moves (site : Site) (p : Plant) : List Start → Plant → Prop
  | refl : Moves site p [] p
  | tail {l : List Start} {o : Option Start} {q r : Plant} :
    Moves site p l q → Move site q o r → Moves site p (l++o.toList) r

variable {site : Site} {p q r : Plant} {l l' : List Start} {o : Option Start}

theorem Move.moves (m : Move site p o q) : Moves site p o.toList q := Moves.refl.tail m

theorem Moves.trans (h : Moves site p l q) (h' : Moves site q l' r) : Moves site p (l++l') r := by
  induction h' with
  | refl => rwa [List.append_nil]
  | tail _ m ih =>
    rw [←List.append_assoc]
    exact ih.tail m

/-- A zone that may not run is off. -/
def Idle (site : Site) (p : Plant) : Prop := ∀ i,p.zones.state i≠.off → ∃ z,site.MayRun i z

theorem Idle.update (h : p.Idle site) {i : UInt8}
    (zones : ∀ j,j≠i → q.zones.state j=p.zones.state j)
    (own : q.zones.state i≠.off → ∃ z,site.MayRun i z) : q.Idle site := by
  intro j hj
  by_cases e : j=i
  · subst e
    exact own hj
  · rw [zones j e] at hj
    exact h j hj

theorem Move.idle (h : p.Idle site) (m : Move site p o q) : q.Idle site := by
  cases m with
  | opened now hz hs hn ho hw hr =>
    exact h.update (fun j hj => ZoneBoard.state_modify_ne _ _ (hr ▸ hj)) fun _ => ⟨_,hz⟩
  | asked now hz hs hn hr =>
    exact h.update (fun j hj => ZoneBoard.state_modify_ne _ _ (hr ▸ hj)) fun _ => ⟨_,hz⟩
  | skipped => exact h
  | closed hz => exact h.update (fun j hj => ZoneBoard.state_modify_ne _ _ hj) fun _ => ⟨_,hz⟩
  | toldOff hz => exact h.update (fun j hj => ZoneBoard.state_modify_ne _ _ hj) fun _ => ⟨_,hz⟩
  | failed hz => exact h.update (fun j hj => ZoneBoard.state_modify_ne _ _ hj) fun _ => ⟨_,hz⟩
  | released => exact h
  | dropped =>
    exact h.update (fun j hj => ZoneBoard.state_modify_ne _ _ hj)
      fun k => absurd (ZoneBoard.state_forceOff_self ..) k
  | allOff =>
    intro i hi
    exact absurd (ZoneBoard.state_allOff ..) hi

theorem Moves.idle (h : p.Idle site) (m : Moves site p l q) : q.Idle site := by
  induction m with
  | refl => exact h
  | tail _ m ih => exact m.idle ih

theorem Move.size (m : Move site p o q) : q.zones.size=p.zones.size := by
  cases m with
  | opened => exact ZoneBoard.size_start ..
  | asked => exact ZoneBoard.size_start ..
  | skipped => rfl
  | closed => exact ZoneBoard.size_stop ..
  | toldOff => exact ZoneBoard.size_stop ..
  | failed => exact ZoneBoard.size_forceOff ..
  | released => rfl
  | dropped => exact ZoneBoard.size_forceOff ..
  | allOff => exact ZoneBoard.size_allOff _

theorem Moves.size (m : Moves site p l q) : q.zones.size=p.zones.size := by
  induction m with
  | refl => rfl
  | tail _ m ih => exact m.size.trans ih

/-- A board with all zones of a site has a record of each. -/
theorem status?_of_zone? (size : p.zones.size=site.zones.length) {i : UInt8} {z : Zone}
    (hz : site.zone? i=some z) : ∃ s,p.zones.status? i=some s := by
  apply Option.isSome_iff_exists.mp
  rw [ZoneBoard.status?_isSome,size]
  exact (List.getElem?_eq_some_iff.mp hz).1

/-- Local zones are never waiting, their outputs are on exactly while they run, and all else is
off. -/
structure Agrees (site : Site) (p : Plant) : Prop where
  size : p.zones.size=site.zones.length
  idle : p.Idle site
  settled {i : UInt8} {o : UInt16} : site.Wires i o → (p.zones.state i).isPending=false
  on_iff {i : UInt8} {o : UInt16} : site.Wires i o →
    (p.valves.isOn o=true ↔ p.zones.state i=.running)
  dark {o : UInt16} : (∀ i,¬site.Wires i o) → p.valves.isOn o=false

namespace Agrees

theorem status? (h : p.Agrees site) {i : UInt8} {z : Zone} (hz : site.zone? i=some z) :
    ∃ s,p.zones.status? i=some s := status?_of_zone? h.size hz

/-- A change of one zone keeps the agreement if it keeps that of the zone's own output. -/
theorem update (d : site.OutputsDistinct) (h : p.Agrees site) {i : UInt8}
    (size : q.zones.size=p.zones.size) (zones : ∀ j,j≠i → q.zones.state j=p.zones.state j)
    (idle : q.zones.state i≠.off → ∃ z,site.MayRun i z)
    (outputs : ∀ k,¬site.Wires i k → q.valves.isOn k=p.valves.isOn k)
    (own : ∀ k,site.Wires i k → (q.zones.state i).isPending=false ∧
      (q.valves.isOn k=true ↔ q.zones.state i=.running)) : q.Agrees site where
  size := size.trans h.size
  idle := h.idle.update zones idle
  settled {j k} w := by
    by_cases e : j=i
    · subst e
      exact (own k w).1
    · rw [zones j e]
      exact h.settled w
  on_iff {j k} w := by
    by_cases e : j=i
    · subst e
      exact (own k w).2
    · rw [zones j e,outputs k fun w' => e (w.zone_unique d w')]
      exact h.on_iff w
  dark {k} hk := by
    rw [outputs k (hk i)]
    exact h.dark hk

theorem turnOff (laid : site.Laid) (d : site.OutputsDistinct) (h : p.Agrees site) {i : UInt8}
    {z : Zone} (hz : site.MayRun i z) {zones : ZoneBoard} (size : zones.size=p.zones.size)
    (same : ∀ j,j≠i → zones.state j=p.zones.state j) (off : zones.state i=.off) :
    Agrees site ⟨p.valves.release (site.outputOf? z),zones⟩ := by
  refine h.update d size same (fun k => absurd off k) ?_ ?_
  · intro k hk
    have : (some k==site.outputOf? z)=false := by
      rw [beq_eq_false_iff_ne]
      exact fun e => hk (Site.wires_of_outputOf? laid hz e.symm)
    simp [ValveBoard.isOn_release,this]
  · intro k w
    simp [ValveBoard.isOn_release,w.outputOf? laid hz.1,off,ZoneState.isPending]

theorem changeRadio (d : site.OutputsDistinct) (h : p.Agrees site) {i : UInt8} {z : Zone}
    (hz : site.MayRun i z) (hw : ∀ o,¬site.Wires i o) {zones : ZoneBoard}
    (size : zones.size=p.zones.size) (same : ∀ j,j≠i → zones.state j=p.zones.state j) :
    Agrees site ⟨p.valves,zones⟩ :=
  h.update d size same (fun _ => ⟨z,hz⟩) (fun _ _ => rfl) fun k w => absurd w (hw k)

end Agrees

theorem Move.agrees (laid : site.Laid) (d : site.OutputsDistinct) (h : p.Agrees site)
    (m : Move site p o q) : q.Agrees site := by
  cases m with
  | @opened s z st out run now hz hs hn ho hw hr hm h0 =>
    have hout : site.outputOf? z=some out :=
      (Site.outputOf?_local (Site.station?_of_enabledStation? hs).1 hn).trans ho
    have w := Site.wires_of_outputOf? laid hz hout
    obtain ⟨y,hy⟩ := h.status? hz.1
    rw [←hr] at w hy hz
    have hrun : (p.zones.start run true now).state run.zone=.running :=
      ZoneBoard.state_modify_self _ hy
    refine h.update (i:=run.zone) d (ZoneBoard.size_start ..)
      (fun j hj => ZoneBoard.state_modify_ne _ _ hj) (fun _ => ⟨z,hz⟩) ?_ ?_
    · intro k hk
      rw [ValveBoard.isOn_set,if_neg]
      rintro ⟨rfl,_⟩
      exact hk w
    · intro k wk
      rw [wk.output_unique laid w,ValveBoard.isOn_set,hrun,if_pos ⟨rfl,hw⟩]
      exact ⟨rfl,by simp⟩
  | @asked s z st run now hz hs hn hr hm h0 =>
    rw [←hr] at hz
    exact h.changeRadio d hz (fun _ => Site.not_wires_of_radio laid hz.1 hs hn)
      (ZoneBoard.size_start ..) fun j hj => ZoneBoard.state_modify_ne _ _ hj
  | skipped => exact h
  | closed hz =>
    exact h.turnOff laid d hz (ZoneBoard.size_stop ..)
      (fun j hj => ZoneBoard.state_modify_ne _ _ hj) (ZoneBoard.state_stop_self ..)
  | toldOff hz hs hn =>
    exact h.changeRadio d hz (fun _ => Site.not_wires_of_radio laid hz.1 hs hn)
      (ZoneBoard.size_stop ..) fun j hj => ZoneBoard.state_modify_ne _ _ hj
  | failed hz =>
    exact h.turnOff laid d hz (ZoneBoard.size_forceOff ..)
      (fun j hj => ZoneBoard.state_modify_ne _ _ hj) (ZoneBoard.state_forceOff_self ..)
  | released hz _ hoff => exact h.turnOff laid d hz rfl (fun _ _ => rfl) hoff
  | @dropped i hz =>
    refine h.update (i:=i) d (ZoneBoard.size_forceOff ..)
      (fun j hj => ZoneBoard.state_modify_ne _ _ hj)
      (fun k => absurd (ZoneBoard.state_forceOff_self ..) k) (fun _ _ => rfl) ?_
    intro k w
    obtain ⟨z,hz'⟩ := w.zone laid
    rw [hz] at hz'
    cases hz'
  | allOff =>
    refine ⟨(ZoneBoard.size_allOff _).trans h.size,?_,?_,?_,fun _ => ValveBoard.isOn_allOff ..⟩
    · intro i hi
      exact absurd (ZoneBoard.state_allOff ..) hi
    · intro i k _
      rw [ZoneBoard.state_allOff]
      rfl
    · intro i k _
      simp

theorem Moves.agrees (laid : site.Laid) (d : site.OutputsDistinct) (h : p.Agrees site)
    (m : Moves site p l q) : q.Agrees site := by
  induction m with
  | refl => exact h
  | tail _ m ih => exact m.agrees laid d ih

end Plant

end Watering
