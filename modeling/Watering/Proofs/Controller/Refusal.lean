import Watering.Proofs.Controller.Asking
import Watering.Proofs.Controller.Intake
import Watering.Proofs.Radio.Logged

namespace Watering

/-- The operation beside a log, which no change outside touches. -/
def Operation.logged {σ : Type} (taken : List (Address×List UInt8)) :
    Operation σ → Operation (Logged σ)
  | startZone run => .startZone run
  | stopZone i => .stopZone i
  | turnOffAll => .turnOffAll
  | stopAll => .stopAll
  | tick => .tick
  | process bytes => .process bytes
  | poll => .poll
  | outside carrier sensors clock => .outside ⟨carrier,taken⟩ sensors clock

namespace Controller

variable {σ : Type} {c d : Controller (Logged σ)}

def Action.logged (taken : List (Address×List UInt8)) : Action σ → Action (Logged σ)
  | operate op => .operate (op.logged taken)
  | ask id m => .ask id m
  | scan => .scan
  | broadcastTime => .broadcastTime

/-- The changes of zones that were sent, newest first; those that select no zone do not count. -/
def commands (c : Controller (Logged σ)) : List Frame :=
  c.link.carrier.frames.filter fun q => c.commandedZones q.target q.message≠[]

/-- The latest change of zones that was sent to a station under a transaction. -/
def latest? (c : Controller (Logged σ)) (id transaction : UInt8) : Option Frame :=
  c.commands.find? fun q => q.target==id && q.transaction==transaction

/-- Whatever is outstanding was sent, and is the latest under its key. -/
def Traced (c : Controller (Logged σ)) : Prop :=
  ∀ o∈c.inFlight,∃ q,c.latest? o.station o.transaction=some q ∧
    c.commandedZones q.target q.message=o.zones

theorem commandedZones_of_site {τ : Type} {c d : Controller τ} (h : d.site=c.site) :
    d.commandedZones=c.commandedZones := by
  funext id m
  unfold commandedZones
  rw [h]

/-- A mask selects the same zones on the wire. -/
theorem commandedZones_onWire {τ : Type} (c : Controller τ) (id : UInt8) (m : Message) :
    c.commandedZones id m.onWire=c.commandedZones id m := by
  cases m with
  | zonesSet flags schedule first minutes count mask =>
    simp only [Message.onWire,commandedZones]
    cases c.site.station? id with
    | none => rfl
    | some st =>
      refine congrArg (List.map st.zoneOf) (List.filter_congr fun ch hc => ?_)
      rw [ZoneMask.get_fit_of_mem _ _ _ _ hc]
  | _ => rfl

theorem commands_congr (taken : d.link.carrier.taken=c.link.carrier.taken) (site : d.site=c.site) :
    d.commands=c.commands := by
  unfold commands Logged.frames
  rw [taken,commandedZones_of_site site]

/-- The log is all that matters to what is outstanding. -/
theorem Traced.congr (h : c.Traced) (taken : d.link.carrier.taken=c.link.carrier.taken)
    (site : d.site=c.site) (inFlight : ∀ o∈d.inFlight,o∈c.inFlight) : d.Traced := by
  intro o ho
  obtain ⟨q,hq,hz⟩ := h o (inFlight o ho)
  refine ⟨q,?_,?_⟩
  · rw [latest?,commands_congr taken site]
    exact hq
  · rw [commandedZones_of_site site]
    exact hz

variable [Carrier σ]

theorem frames_sendFrame (c : Controller (Logged σ)) (t : Destination) (f : Frame) :
    (c.sendFrame t f).1.link.carrier.frames=
      if (c.sendFrame t f).2=true then {f with message:=f.message.onWire}::c.link.carrier.frames
      else c.link.carrier.frames := by
  unfold sendFrame
  cases h : f.encode with
  | error e => rfl
  | ok bytes =>
    dsimp only [Logged.frames]
    rw [Link.inner_send]
    split_ifs
    · rw [List.filterMap_cons,Frame.decode_encode h]
      rfl
    · rfl

theorem commands_sendFrame (c : Controller (Logged σ)) (t : Destination) (f : Frame) :
    (c.sendFrame t f).1.commands=
      if (c.sendFrame t f).2=true ∧ c.commandedZones f.target f.message≠[] then
        {f with message:=f.message.onWire}::c.commands
      else c.commands := by
  have site : (c.sendFrame t f).1.site=c.site :=
    site_of_still (still_sendFrame ..)
  unfold commands
  rw [frames_sendFrame,commandedZones_of_site site]
  by_cases hok : (c.sendFrame t f).2=true
  · rw [if_pos hok,List.filter_cons]
    dsimp only
    rw [commandedZones_onWire]
    by_cases hz : c.commandedZones f.target f.message=[]
    · simp [hz]
    · simp [hz,hok]
  · rw [if_neg hok,if_neg fun k => hok k.1]

/-- A request enters the log exactly when it becomes outstanding. -/
theorem commands_request (c : Controller (Logged σ)) (id : UInt8) (m : Message) :
    (c.request id m).1.commands=
      if (c.request id m).2=true ∧ c.commandedZones id m≠[] then
        ⟨c.nextTransaction,id,c.unit,m.onWire⟩::c.commands
      else c.commands := by
  obtain ⟨hok,hlink,_⟩ := c.request_parts id m
  have site : (c.request id m).1.site=c.site :=
    site_of_still (still_request ..)
  have hsite : (c.takeTransaction.1.sendFrame (.unit id)
      ⟨c.nextTransaction,id,c.unit,m⟩).1.site=c.site :=
    (site_of_still (still_sendFrame ..)).trans rfl
  rw [hok]
  refine (commands_congr (congrArg (fun l => l.carrier.taken) hlink) (site.trans hsite.symm)).trans ?_
  exact (commands_sendFrame ..).trans rfl

theorem Traced.request (h : c.Traced) (id : UInt8) (m : Message) : (c.request id m).1.Traced := by
  obtain ⟨hok,_,hin⟩ := c.request_parts id m
  have hcommands := c.commands_request id m
  have site : (c.request id m).1.commandedZones=c.commandedZones :=
    commandedZones_of_site (site_of_still (still_request ..))
  rw [←hok] at hin
  intro o ho
  rw [latest?,hcommands,site]
  rw [hin] at ho
  split_ifs at ho ⊢ with hsent
  · obtain rfl | ho := List.mem_cons.mp ho
    · refine ⟨_,List.find?_cons_of_pos (by simp),?_⟩
      exact c.commandedZones_onWire id m
    · obtain ⟨hmem,hkey⟩ := List.mem_filter.mp ho
      obtain ⟨q,hq,hz⟩ := h o hmem
      refine ⟨q,(List.find?_cons_of_neg ?_).trans hq,hz⟩
      rintro k
      simp only [Bool.and_eq_true,beq_iff_eq] at k
      simp [k.1,k.2] at hkey
  · exact h o ho

theorem Stride.traced {E : ZoneBoard → ZoneBoard → Prop} (s : Stride E c d) (h : c.Traced) :
    d.Traced := by
  cases s with
  | aside site _ link inFlight =>
    exact h.congr (by rw [link]) site fun o ho => by rwa [inFlight] at ho
  | ticked n => exact h.congr rfl rfl fun _ ho => ho
  | heard => exact h.congr (Link.taken_receive ..) rfl fun _ ho => ho
  | settled p => exact h.congr rfl rfl fun _ ho => (List.mem_filter.mp ho).1
  | edited => exact h.congr rfl rfl fun _ ho => ho
  | asked id m => exact h.request id m
  | @sent t f hf =>
    have none' : c.commandedZones f.target f.message=[] := by
      obtain ⟨transaction,target,source,m⟩ := f
      cases m with
      | zonesSet => exact absurd rfl hf
      | _ => rfl
    have same : (c.sendFrame t f).1.commands=c.commands := by
      rw [commands_sendFrame,if_neg fun k => k.2 none']
    have site : (c.sendFrame t f).1.site=c.site :=
      site_of_still (still_sendFrame ..)
    intro o ho
    rw [inFlight_sendFrame] at ho
    rw [latest?,same,commandedZones_of_site site]
    exact h o ho

theorem Strides.traced {E : ZoneBoard → ZoneBoard → Prop} (s : Strides E c d) (h : c.Traced) :
    d.Traced := by
  induction s with
  | refl => exact h
  | tail _ s ih => exact s.traced ih

/-- Actions one after the other beside the log. -/
def actLogged (c : Controller (Logged σ)) (actions : List (Action σ)) : Controller (Logged σ) :=
  actions.foldl (fun c a => c.act (a.logged c.link.carrier.taken)) c

theorem Traced.act (h : c.Traced) (a : Action σ) :
    (c.act (a.logged c.link.carrier.taken)).Traced := by
  by_cases ha : ∃ x s t,a=.operate (.outside x s t)
  · obtain ⟨x,s,t,rfl⟩ := ha
    exact h.congr rfl rfl fun _ ho => ho
  · have inside : ∀ x s t,a.logged c.link.carrier.taken≠.operate (.outside x s t) := by
      intro x s t k
      cases a with
      | operate op =>
        cases op with
        | outside y s t => exact ha ⟨y,s,t,rfl⟩
        | _ => cases k
      | _ => cases k
    obtain second | strides | ⟨_,strides⟩ := c.act_cases inside
    · rw [second]
      exact Strides.traced c.strides_tick h
    · exact Strides.traced strides h
    · exact Strides.traced strides h

theorem Traced.actLogged (h : c.Traced) (actions : List (Action σ)) :
    (c.actLogged actions).Traced := by
  induction actions generalizing c with
  | nil => exact h
  | cons a actions ih => exact ih (h.act a)

/-- A refusal that is taken in turns off exactly the zones that wait among those outstanding under its
key, which are the zones that the latest change sent to its sender under its transaction selects; it
leaves all others alone and switches no output. -/
theorem refusal_undoes_what_it_answers (role : Role) (carrier : σ) (site : Site)
    (valves : ValveBoard) (sensors : SensorBank) (clock : Instant) (actions : List (Action σ))
    {bytes : List UInt8} {f : Frame} {e : Exception} (hf : Frame.decode bytes=.ok f)
    (hm : f.message=.responseError Function.zonesSet.code e) :
    let c := (start role (⟨carrier,[]⟩ : Logged σ) site valves sensors clock).actLogged actions
    let d := (c.process bytes).1
    d.valves=c.valves ∧
    (∀ i,d.zones.status? i=
      if (c.isAddressed f=true ∧ c.role.consumes=true) ∧
          i∈(c.outstanding? f.source f.transaction).getD [] ∧ (c.zones.state i).isPending=true
      then some {} else c.zones.status? i) ∧
    ∀ zones,c.outstanding? f.source f.transaction=some zones →
      ∃ q,c.latest? f.source f.transaction=some q ∧ c.commandedZones q.target q.message=zones := by
  intro c d
  have answer : f.function.isRequest=false := by
    rw [Frame.function,hm]
    rfl
  have taken : d=if c.isAddressed f=true ∧ c.role.consumes=true then (c.consume f).1 else c :=
    process_of_answer hf answer
  refine ⟨?_,fun i => ?_,fun zones ho => ?_⟩
  · rw [taken]
    split_ifs
    · exact valves_consume f
    · rfl
  · rw [taken]
    by_cases h : c.isAddressed f=true ∧ c.role.consumes=true
    · rw [if_pos h,zones_refused hm,ZoneBoard.status?_foldl_forceOff]
      exact if_congr (and_iff_right h).symm rfl rfl
    · rw [if_neg h,if_neg fun k => h k.1]
  · have traced : c.Traced := by
      refine Traced.actLogged ?_ actions
      intro o ho
      cases ho
    obtain ⟨o,hfind,rfl⟩ := Option.map_eq_some_iff.mp ho
    have hkey := List.find?_some hfind
    simp only [Bool.and_eq_true,beq_iff_eq] at hkey
    obtain ⟨q,hq,hz⟩ := traced o (List.mem_of_find?_eq_some hfind)
    rw [hkey.1,hkey.2] at hq
    exact ⟨q,hq,hz⟩

/-- A master that starts zones of the orchard, each by a request of its own. -/
def startOrchard (runs : List ZoneRun) : Controller (Logged ScriptedRadio) :=
  (start .requester (⟨{kind:=.short},[]⟩ : Logged ScriptedRadio) Config.orchard.site {} {}
    ⟨0,0⟩).actLogged (runs.map fun run => .operate (.startZone run))

/-- The orchard's refusal of the first request. -/
def firstRefusal : Frame := ⟨1,0,4,.responseError Function.zonesSet.code .applyFailure⟩

/-- Both zones were asked for, and the one asked for first is refused. -/
theorem refusal_undoes_what_it_answers_orchard :
    let c := startOrchard [{zone:=0,minutes:=1},{zone:=1,minutes:=1}]
    let d := (c.process firstRefusal.octets).1
    Frame.decode firstRefusal.octets=.ok firstRefusal ∧ d.zones.status? 0=some {} ∧
      d.zones.status? 1=c.zones.status? 1 ∧
      ∃ q,c.latest? 4 1=some q ∧ c.commandedZones q.target q.message=[0] := by
  intro c d
  have hf : Frame.decode firstRefusal.octets=.ok firstRefusal := by decide
  have taken : c.isAddressed firstRefusal=true ∧ c.role.consumes=true := by decide +kernel
  have outstanding : c.outstanding? 4 1=some [0] := by decide +kernel
  have mem : 0∈(c.outstanding? 4 1).getD [] := by
    rw [outstanding]
    decide
  have not_mem : ¬1∈(c.outstanding? 4 1).getD [] := by
    rw [outstanding]
    decide
  have waits : (c.zones.state 0).isPending=true := by decide +kernel
  obtain ⟨_,zones,sent⟩ := refusal_undoes_what_it_answers .requester
    ({kind:=.short} : ScriptedRadio) Config.orchard.site {} {} ⟨0,0⟩
    [.operate (.startZone {zone:=0,minutes:=1}),.operate (.startZone {zone:=1,minutes:=1})] hf rfl
  exact ⟨hf,(zones 0).trans (if_pos ⟨taken,mem,waits⟩),
    (zones 1).trans (if_neg fun k => not_mem k.2.1),sent [0] outstanding⟩

/-- One zone was asked for twice, and the second request waits for its answer: the refusal of the
first one ends the wait and turns the zone off. -/
theorem refusal_undoes_later_request :
    let c := startOrchard [{zone:=0,minutes:=1},{zone:=0,minutes:=2}]
    let d := (c.process firstRefusal.octets).1
    Config.orchard.Valid ∧ Frame.decode firstRefusal.octets=.ok firstRefusal ∧
      c.commands.map (fun q => (q.target,q.transaction,c.commandedZones q.target q.message))=
        [(4,2,[0]),(4,1,[0])] ∧
      c.outstanding? 4 2=some [0] ∧ c.zones.state 0=.starting 5 ∧ d.zones.status? 0=some {} := by
  intro c d
  exact ⟨Config.orchard_valid,by decide,by decide +kernel,by decide +kernel,by decide +kernel,
    by decide +kernel⟩

end Controller

end Watering
