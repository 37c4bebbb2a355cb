import Watering.Proofs.Config.Outputs
import Watering.Proofs.Controller.Correspondence
import Watering.Radio.Scripted

namespace Watering

namespace Controller

variable {σ : Type} [Carrier σ] {c : Controller σ}

theorem books_serve (h : c.Matched) (laid : c.site.Laid) (f : Frame) :
    Books (fun _ => True) (c.requestStarts f.message) (fun d => (d.serve f).1) c := by
  by_cases hf : f.function=.zonesSet
  · obtain ⟨transaction,target,source,m⟩ := f
    cases m <;> cases hf
    exact books_serveZonesSet h laid ..
  · exact (servedBy_serve hf).aside.books (congrArg (fun g => g.2.zones) (c.ground_serve hf))

theorem books_process (h : c.Matched) (laid : c.site.Laid) (bytes : List UInt8) :
    Books (fun _ => True) (c.frameStarts bytes) (fun d => (d.process bytes).1) c := by
  have nothing : Books (fun _ => True) (c.frameStarts bytes) (fun d => d) c :=
    (notes_nothing c).only.books rfl
  cases hf : Frame.decode bytes with
  | error e =>
    refine nothing.congr fun j => ?_
    unfold process
    rw [hf]
  | ok f =>
    have eq (j : Journal) : ((c.withJournal j).process bytes).1=
        if c.isAddressed f then
          if f.function.isRequest then
            if c.role.serves then ((c.withJournal j).serve f).1 else c.withJournal j
          else if c.role.consumes then ((c.withJournal j).consume f).1 else c.withJournal j
        else c.withJournal j := (c.withJournal j).process_decoded hf
    by_cases addressed : c.isAddressed f=true
    · by_cases request : f.function.isRequest=true
      · by_cases serves : c.role.serves=true
        · have mine : c.frameStarts bytes=c.requestStarts f.message := by
            rw [frameStarts,hf]
            dsimp only
            rw [addressed,request,serves]
            rfl
          rw [mine]
          refine (books_serve h laid f).congr fun j => ?_
          rw [eq,if_pos addressed,if_pos request,if_pos serves]
        · refine nothing.congr fun j => ?_
          rw [eq,if_pos addressed,if_pos request,if_neg serves]
      · by_cases consumes : c.role.consumes=true
        · refine (books_consume laid f).congr fun j => ?_
          rw [eq,if_pos addressed,if_neg request,if_pos consumes]
        · refine nothing.congr fun j => ?_
          rw [eq,if_pos addressed,if_neg request,if_neg consumes]
    · refine nothing.congr fun j => ?_
      rw [eq,if_neg addressed]

theorem books_poll (h : c.Matched) (laid : c.site.Laid) :
    Books (fun _ => True) c.pollStarts (fun d => d.poll.1) c := by
  have heard (link : Link σ) : NotesAside (fun d => {d with link}) c := Notes.only fun _ => rfl
  unfold poll pollStarts
  cases hr : c.link.receive with
  | mk link o =>
    cases o with
    | none =>
      refine ((heard link).books rfl).congr fun j => ?_
      rw [link_withJournal,hr]
    | some delivery =>
      have framed := books_process (c:={c with link}) ⟨h.size,h.small⟩ laid delivery.frame
      refine (Books.before (heard link) rfl framed).congr fun j => ?_
      rw [link_withJournal,hr]

theorem books_perform (h : c.Matched) (laid : c.site.Laid) (op : Operation σ) :
    Books (fun _ => True) (c.starts op) (·.perform op) c := by
  cases op with
  | startZone run => exact (books_startZoneFrom h run .here).books.mono fun _ _ => trivial
  | stopZone i => exact (books_stopZoneFrom i .here).books.mono fun _ _ => trivial
  | turnOffAll => exact books_turnOffAll h
  | stopAll => exact books_stopAll h
  | tick => exact books_tick h
  | process bytes => exact books_process h laid bytes
  | poll => exact books_poll h laid
  | outside carrier sensors clock => exact (Notes.only fun _ => rfl).books rfl

/-- Whatever the journal holds, just these are added to it. -/
def Records (c : Controller σ) (op : Operation σ) (ns : List Notification) : Prop :=
  ∀ j : Journal,(perform {c with journal:=j} op).journal=ns.foldl Journal.push j

theorem Records.unique {op : Operation σ} {ns ns' : List Notification} (h : c.Records op ns)
    (h' : c.Records op ns') : ns'=ns :=
  Journal.eq_of_foldl_push fun j => (h' j).symm.trans (h j)

/-- What an operation records is the history of the zones: in every state that is reached a zone that
goes off is stopped once in it, only what was not off and is not on any more is stopped, and only a
start that was accepted is a start, which left the zone on with that run. -/
theorem records_match_zones {cfg : Config} (hv : cfg.Valid) (role : Role) (carrier : σ)
    (valves : ValveBoard) (sensors : SensorBank) (clock : Instant) (actions : List (Action σ))
    (op : Operation σ) :
    let c := (start role carrier cfg.site valves sensors clock).actAll actions
    let d := c.perform op
    ∃ ns,(∀ ns',c.Records op ns' ↔ ns'=ns) ∧
      (∀ i,(c.zones.state i).isOn=true → (d.zones.state i).isOn=false →
        ns.countP (fun n => n.event.stops i)=1) ∧
      (∀ n∈ns,∀ i r,n.event=.zoneStopped i r →
        c.zones.state i≠.off ∧ (d.zones.state i).isOn=false) ∧
      ∀ n∈ns,∀ run,n.event=.zoneStarted run →
        (∃ s∈c.starts op,s.zone=run.zone ∧ s.minutes=run.minutes) ∧
        ∃ z,d.zones.status? run.zone=some z ∧ z.state.isOn=true ∧ z.run=some run := by
  intro c d
  have fits : Fits cfg.site c := (fits_start role carrier cfg.site valves sensors clock).actAll actions
  have laid : c.site.Laid := by
    rw [fits.site_eq]
    exact hv.laid
  obtain ⟨ns,notes,account⟩ := books_perform (fits.matched hv.laid) laid op
  have records : c.Records op ns := fun j => congrArg journal (notes j)
  refine ⟨ns,fun ns' => ⟨records.unique,fun h => h ▸ records⟩,fun i on off => ?_,?_,?_⟩
  · have once := account.stops_once on off
    rwa [List.countP_map] at once
  · intro n hn i r h
    exact account.of_stop (List.mem_map.mpr ⟨n,hn,h⟩)
  · intro n hn run h
    exact account.of_start (List.mem_map.mpr ⟨n,hn,h⟩)

/-- Both zones of the plot are watered and then turned off: each is stopped once. -/
theorem records_match_zones_plot :
    let c := (start .responder ({kind:=.short} : ScriptedRadio) Config.plot.site
      (.ofOutputs [0,1]) {} ⟨0,0⟩).actAll [.operate (.startZone {zone:=0,minutes:=1}),
        .operate (.startZone {zone:=1,minutes:=1})]
    Config.plot.Valid ∧ ∃ ns,c.Records .turnOffAll ns ∧
      ns.countP (fun n => n.event.stops 0)=1 ∧ ns.countP (fun n => n.event.stops 1)=1 := by
  intro c
  obtain ⟨ns,records,stopped,_⟩ := records_match_zones Config.plot_valid .responder
    ({kind:=.short} : ScriptedRadio) (.ofOutputs [0,1]) {} ⟨0,0⟩
    [.operate (.startZone {zone:=0,minutes:=1}),.operate (.startZone {zone:=1,minutes:=1})] .turnOffAll
  exact ⟨Config.plot_valid,ns,(records ns).mpr rfl,stopped 0 (by decide +kernel) (by decide +kernel),
    stopped 1 (by decide +kernel) (by decide +kernel)⟩

end Controller

end Watering
