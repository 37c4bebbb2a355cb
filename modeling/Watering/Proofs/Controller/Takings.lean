import Watering.Proofs.Controller.Notes
import Watering.Proofs.Zone.Account
import Watering.Proofs.Zone.Edits

namespace Watering.Controller

variable {σ : Type}

/-- Taking over the reported state of one zone. -/
def confirmOne (c : Controller σ) (i : UInt8) (on : Bool) : Controller σ :=
  if (c.zones.confirm i on).2 && !on && (c.zones.state i).isOn then
    record {c with zones:=(c.zones.confirm i on).1} (.zoneStopped i .reported)
  else {c with zones:=(c.zones.confirm i on).1}

/-- A zone is off if it waits for what was refused. -/
def refuseOne (c : Controller σ) (i : UInt8) : Controller σ :=
  if (c.zones.state i).isPending then
    record {c with zones:=c.zones.forceOff i} (.zoneStopped i .rejected)
  else c

/-- What a frame that is taken in does besides its news of zones. -/
inductive Taking
  | settled (station transaction : UInt8)
  | knows : RemoteView → Taking
  | noted (e : Event) : e.zone?=none → Taking

/-- What a frame says of a zone: that it is on or off, or that it was refused what it waits for. -/
inductive News
  | reported (zone : UInt8) (on : Bool)
  | refused (zone : UInt8)

def Taking.act (c : Controller σ) : Taking → Controller σ
  | settled station transaction => c.settle station transaction
  | knows remote => {c with remote}
  | noted e _ => c.record e

def News.act (c : Controller σ) : News → Controller σ
  | reported i on => c.confirmOne i on
  | refused i => c.refuseOne i

def News.edit (b : ZoneBoard) : News → ZoneBoard
  | reported i on => b.modify i (·.confirm on)
  | refused i => if (b.state i).isPending then b.forceOff i else b

variable (c : Controller σ) (f : Frame)

def takings : List Taking :=
  match f.message with
  | .zonesReport .. => if f.transaction=0 then [] else [.settled f.source f.transaction]
  | .sensorsReport first values =>
    .knows {c.remote with
      sensors:=RemoteView.putAll c.remote.sensors f.source first values}::
      values.zipIdx.map fun x =>
        let channel := addCapped first (UInt8.ofNat x.2)
        .noted (.sensorReading f.source channel (c.site.sensorKind? f.source channel) x.1) rfl
  | .registersReport first values =>
    [.knows {c.remote with
      registers:=RemoteView.putAll c.remote.registers f.source first values}]
  | .eventMasterReport events master address =>
    [.knows {c.remote with
      eventMasters:=c.remote.eventMasters.insert f.source ⟨master,address,events⟩}]
  | .scanReply => [.knows {c.remote with discovered:=c.remote.discovered.insert f.source}]
  | .pingReply cookie => [.knows {c.remote with pings:=c.remote.pings.insert f.source cookie}]
  | .responseOk _ => [.settled f.source f.transaction]
  | .responseError function e =>
    .knows {c.remote with errors:=c.remote.errors.insert f.source (function,e)}::
    .noted (.error ("station "++toString f.source.toNat++" refused function "++
      toString function.toNat++": "++e.name)) rfl::
      if function=Function.zonesSet.code ∧ (c.outstanding? f.source f.transaction).isSome then
        [.settled f.source f.transaction]
      else []
  | _ => []

def news : List News :=
  match f.message with
  | .zonesReport _ first count mask =>
    match c.site.enabledStation? f.source with
    | none => []
    | some st =>
      if st.zoneCount.toNat<first.toNat+count.toNat then []
      else (span first count).map fun ch => .reported (st.zoneOf ch) (mask.get ch)
  | .responseError function _ =>
    if function=Function.zonesSet.code then
      ((c.outstanding? f.source f.transaction).getD []).map .refused
    else []
  | _ => []

/-- A controller once a frame was taken in but for its news. -/
def taken : Controller σ := (c.takings f).foldl Taking.act c

/-- To take a frame in is to take in its parts. -/
theorem consume_eq : (c.consume f).1=(c.news f).foldl News.act (c.taken f) := by
  obtain ⟨transaction,target,source,m⟩ := f
  cases m with
  | zonesReport service first count mask =>
    set d := if transaction=0 then c else c.settle source transaction with hd
    have start : c.taken ⟨transaction,target,source,.zonesReport service first count mask⟩=d := by
      rw [hd]
      unfold taken takings
      dsimp only
      split_ifs <;> rfl
    have site : d.site=c.site := by
      rw [hd]
      split_ifs <;> rfl
    rw [start]
    change (d.consumeZones source first count mask).1=_
    unfold consumeZones news
    rw [site]
    dsimp only
    cases c.site.enabledStation? source with
    | none => rfl
    | some st =>
      dsimp only
      split_ifs
      · rfl
      · rw [List.foldl_map]
        rfl
  | sensorsReport first values =>
    have each (l : List (UInt16×Nat)) (d : Controller σ) (hd : d.site=c.site) :
        l.foldl (fun d x => d.record (.sensorReading source (addCapped first (UInt8.ofNat x.2))
          (d.site.sensorKind? source (addCapped first (UInt8.ofNat x.2))) x.1)) d=
        l.foldl (fun d x => d.record (.sensorReading source (addCapped first (UInt8.ofNat x.2))
          (c.site.sensorKind? source (addCapped first (UInt8.ofNat x.2))) x.1)) d := by
      induction l generalizing d with
      | nil => rfl
      | cons x l ih =>
        rw [List.foldl_cons,List.foldl_cons,hd]
        exact ih _ hd
    unfold taken takings
    dsimp only
    rw [List.foldl_cons,List.foldl_map]
    exact each values.zipIdx {c with remote:={c.remote with
      sensors:=RemoteView.putAll c.remote.sensors source first values}} rfl
  | responseError function e =>
    change c.consumeError source transaction function e=_
    unfold consumeError taken takings news
    dsimp only
    by_cases command : function=Function.zonesSet.code
    · cases ho : c.outstanding? source transaction with
      | none =>
        rw [if_pos command,if_pos command,if_neg fun k => Bool.false_ne_true k.2]
        unfold revert
        rw [show outstanding? (record {c with remote:=_} _) source transaction=none from ho]
        rfl
      | some zones =>
        rw [if_pos command,if_pos command,if_pos ⟨command,rfl⟩,Option.getD_some,List.foldl_map]
        unfold revert
        rw [show outstanding? (record {c with remote:=_} _) source transaction=some zones from ho]
        rfl
    · rw [if_neg command,if_neg command,if_neg fun k => command k.1]
      rfl
  | _ => rfl

theorem taking_leaves (t : Taking) :
    ∃ remote journal inFlight,Taking.act c t={c with remote,journal,inFlight} := by
  cases t <;> exact ⟨_,_,_,rfl⟩

theorem news_leaves (n : News) : ∃ zones journal,News.act c n={c with zones,journal} := by
  cases n with
  | reported i on =>
    change ∃ _ _,c.confirmOne i on=_
    unfold confirmOne
    split_ifs <;> exact ⟨_,_,rfl⟩
  | refused i =>
    change ∃ _ _,c.refuseOne i=_
    unfold refuseOne
    split_ifs <;> exact ⟨_,_,rfl⟩

theorem taken_leaves : ∃ remote journal inFlight,c.taken f={c with remote,journal,inFlight} :=
  List.foldlRecOn (motive:=fun d => ∃ remote journal inFlight,d={c with remote,journal,inFlight})
    (c.takings f) Taking.act ⟨_,_,_,rfl⟩ fun d ⟨_,_,_,hd⟩ t _ => by
      obtain ⟨_,_,_,ht⟩ := d.taking_leaves t
      rw [ht,hd]
      exact ⟨_,_,_,rfl⟩

theorem foldl_news_leaves (ns : List News) :
    ∃ zones journal,ns.foldl News.act c={c with zones,journal} :=
  List.foldlRecOn (motive:=fun d => ∃ zones journal,d={c with zones,journal}) ns News.act
    ⟨_,_,rfl⟩ fun d ⟨_,_,hd⟩ n _ => by
      obtain ⟨_,_,hn⟩ := d.news_leaves n
      rw [hn,hd]
      exact ⟨_,_,rfl⟩

/-- A frame that is taken in changes the board, what is known of others, the journal and what is
outstanding, and nothing else. -/
theorem consume_leaves :
    ∃ zones remote journal inFlight,(c.consume f).1={c with zones,remote,journal,inFlight} := by
  obtain ⟨_,_,_,taken⟩ := c.taken_leaves f
  obtain ⟨_,_,told⟩ := (c.taken f).foldl_news_leaves (c.news f)
  rw [consume_eq,told,taken]
  exact ⟨_,_,_,_,rfl⟩

theorem remote_consume : (c.consume f).1.remote=(c.taken f).remote := by
  obtain ⟨_,_,told⟩ := (c.taken f).foldl_news_leaves (c.news f)
  rw [consume_eq,told]

theorem inFlight_consume : (c.consume f).1.inFlight=(c.taken f).inFlight := by
  obtain ⟨_,_,told⟩ := (c.taken f).foldl_news_leaves (c.news f)
  rw [consume_eq,told]

theorem zones_taken : (c.taken f).zones=c.zones := by
  obtain ⟨_,_,_,taken⟩ := c.taken_leaves f
  rw [taken]

theorem zones_news (n : News) : (News.act c n).zones=n.edit c.zones := by
  cases n with
  | reported i on =>
    change (c.confirmOne i on).zones=c.zones.modify i (·.confirm on)
    rw [←ZoneBoard.confirm_fst,confirmOne]
    split_ifs <;> rfl
  | refused i =>
    change (c.refuseOne i).zones=if (c.zones.state i).isPending then c.zones.forceOff i else c.zones
    unfold refuseOne
    split_ifs <;> rfl

theorem zones_consume : (c.consume f).1.zones=(c.news f).foldl News.edit c.zones := by
  have each (ns : List News) (d : Controller σ) :
      (ns.foldl News.act d).zones=ns.foldl News.edit d.zones := by
    induction ns generalizing d with
    | nil => rfl
    | cons n ns ih =>
      rw [List.foldl_cons,List.foldl_cons,ih,zones_news]
  rw [consume_eq,each,zones_taken]

variable {c f}

theorem zones_reported {service first count : UInt8} {mask : ZoneMask} {st : Station}
    (hm : f.message=.zonesReport service first count mask)
    (hs : c.site.enabledStation? f.source=some st)
    (range : first.toNat+count.toNat ≤ st.zoneCount.toNat) :
    (c.consume f).1.zones=(span first count).foldl
      (fun b ch => b.modify (st.zoneOf ch) (·.confirm (mask.get ch))) c.zones := by
  have told : c.news f=(span first count).map fun ch => .reported (st.zoneOf ch) (mask.get ch) := by
    rw [news,hm]
    dsimp only
    rw [hs]
    exact if_neg (Nat.not_lt.mpr range)
  rw [zones_consume,told,List.foldl_map]
  rfl

/-- Of the zones that are outstanding under the key of a refusal those that wait are off. -/
theorem zones_refused {e : Exception} (hm : f.message=.responseError Function.zonesSet.code e) :
    (c.consume f).1.zones=((c.outstanding? f.source f.transaction).getD []).foldl
      (fun b i => if (b.state i).isPending then b.forceOff i else b) c.zones := by
  have told : c.news f=((c.outstanding? f.source f.transaction).getD []).map .refused := by
    rw [news,hm]
    exact if_pos rfl
  rw [zones_consume,told,List.foldl_map]
  rfl

variable (c f)

/-- A frame brings no news, those of a report that is believed, or those of a refusal. -/
theorem news_cases : c.news f=[] ∨
    (∃ service first count mask st,f.message=.zonesReport service first count mask ∧
      c.site.enabledStation? f.source=some st ∧ first.toNat+count.toNat ≤ st.zoneCount.toNat ∧
      c.news f=(span first count).map fun ch => .reported (st.zoneOf ch) (mask.get ch)) ∨
    ∃ e,f.message=.responseError Function.zonesSet.code e ∧
      c.news f=((c.outstanding? f.source f.transaction).getD []).map .refused := by
  obtain ⟨transaction,target,source,m⟩ := f
  cases m with
  | zonesReport service first count mask =>
    unfold news
    cases hs : c.site.enabledStation? source with
    | none => exact .inl rfl
    | some st =>
      dsimp only
      split_ifs with beyond
      · exact .inl rfl
      · exact .inr (.inl ⟨service,first,count,mask,st,rfl,rfl,Nat.not_lt.mp beyond,rfl⟩)
  | responseError function e =>
    unfold news
    by_cases command : function=Function.zonesSet.code
    · rw [command]
      exact .inr (.inr ⟨e,rfl,if_pos rfl⟩)
    · exact .inl (if_neg command)
  | _ => exact .inl rfl

theorem Taking.aside (t : Taking) (c : Controller σ) :
    NotesOnly (·.zone?=none) (Taking.act · t) c := by
  cases t with
  | settled => exact Notes.only fun _ => rfl
  | knows => exact Notes.only fun _ => rfl
  | noted e h => exact notesOnly_record h c

theorem aside_taken : NotesOnly (·.zone?=none) (·.taken f) c :=
  notesOnly_foldl (l:=c.takings f) (fun t _ => Taking.aside t) c

end Watering.Controller
