import Mathlib.Tactic.Common
import Watering.Zone.Board

namespace Watering

theorem ZoneState.ne_off {s : ZoneState} (on : s.isOn=true) : s≠.off := by
  rintro rfl
  cases on

namespace ZoneStatus

@[simp] theorem start_state (run : ZoneRun) (confirmed : Bool) (now : Instant) :
    (start run confirmed now).state=if confirmed then .running else .starting confirmTicks := rfl

@[simp] theorem start_remaining (run : ZoneRun) (confirmed : Bool) (now : Instant) :
    (start run confirmed now).remaining=run.minutes.toNat*ticksPerMinute := rfl

/-- A stopped zone is off, or waits for its station if it was not off before. -/
theorem stop_cases (z : ZoneStatus) (confirmed : Bool) :
    (z.stop confirmed).state=.off ∨
      confirmed=false ∧ z.state≠.off ∧ (z.stop confirmed).state=.stopping confirmTicks := by
  unfold stop
  split_ifs with h
  · exact Or.inl rfl
  · simp only [Bool.or_eq_true,beq_iff_eq,not_or] at h
    exact Or.inr ⟨by simpa using h.1,h.2,rfl⟩

theorem tick_off {z : ZoneStatus} (h : z.state=.off) : z.tick=(z,none) := by
  simp [tick,h]

/-- What runs after a second ran before it. -/
theorem running_of_tick (z : ZoneStatus) (h : z.tick.1.state=.running) : z.state=.running := by
  unfold tick at h
  split at h
  · next hz => rw [hz] at h; cases h
  · split_ifs at h
  · split_ifs at h
  · next hz => exact hz

theorem tick_running {z : ZoneStatus} (h : z.state=.running) :
    z.tick=if z.remaining=0 then (z,none)
      else if z.remaining=1 then ({},some .finished)
      else ({z with remaining:=z.remaining-1},none) := by
  simp [tick,h]

/-- A second turns a zone that waits for nothing off exactly by ending its run. -/
theorem tick_settled {z : ZoneStatus} (h : z.state.isPending=false) :
    z.tick.1.state.isPending=false ∧
    (z.tick.1.state=.running ↔ z.state=.running ∧ z.tick.2≠some .finished) := by
  cases hz : z.state with
  | off => simp [tick_off hz,hz,ZoneState.isPending]
  | starting n => simp [hz,ZoneState.isPending] at h
  | stopping n => simp [hz,ZoneState.isPending] at h
  | running =>
    rw [tick_running hz]
    split_ifs <;> simp [hz,ZoneState.isPending]

end ZoneStatus

namespace ZoneBoard

theorem status?_isSome {b : ZoneBoard} {z : UInt8} : (b.status? z).isSome=true ↔ z.toNat<b.size := by
  simp [status?,size]

theorem state_of_status? {b : ZoneBoard} {z : UInt8} {s : ZoneStatus} (h : b.status? z=some s) :
    b.state z=s.state := by
  simp [state,h]

theorem exists_status {b : ZoneBoard} {z : UInt8} (h : b.state z≠.off) :
    ∃ s,b.status? z=some s ∧ s.state=b.state z := by
  cases hs : b.status? z with
  | none => simp [state,hs] at h
  | some s => exact ⟨s,rfl,(state_of_status? hs).symm⟩

theorem status?_modify_ne (b : ZoneBoard) {zone z : UInt8} (f : ZoneStatus → ZoneStatus)
    (h : z≠zone) : (b.modify zone f).status? z=b.status? z := by
  rw [status?_modify,if_neg h]

theorem state_modify_ne (b : ZoneBoard) {zone z : UInt8} (f : ZoneStatus → ZoneStatus)
    (h : z≠zone) : (b.modify zone f).state z=b.state z := by
  rw [state,status?_modify_ne b f h,state]

theorem state_modify_self {b : ZoneBoard} {z : UInt8} {s : ZoneStatus} (f : ZoneStatus → ZoneStatus)
    (h : b.status? z=some s) : (b.modify z f).state z=(f s).state := by
  simp [state,status?_modify,h]

@[simp] theorem size_start (b : ZoneBoard) (run : ZoneRun) (confirmed : Bool) (now : Instant) :
    (b.start run confirmed now).size=b.size := size_modify ..

@[simp] theorem size_stop (b : ZoneBoard) (zone : UInt8) (confirmed : Bool) :
    (b.stop zone confirmed).size=b.size := size_modify ..

@[simp] theorem size_forceOff (b : ZoneBoard) (zone : UInt8) : (b.forceOff zone).size=b.size :=
  size_modify ..

@[simp] theorem size_allOff (b : ZoneBoard) : b.allOff.size=b.size := List.length_map _

@[simp] theorem size_tick (b : ZoneBoard) : b.tick.1.size=b.size := List.length_map _

/-- A run is on if the board has its zone. -/
theorem isOn_start (b : ZoneBoard) (run : ZoneRun) (confirmed : Bool) (now : Instant) :
    ((b.start run confirmed now).state run.zone).isOn=true ↔ run.zone.toNat<b.size := by
  rw [←status?_isSome]
  cases h : b.status? run.zone with
  | none => simp [start,state,status?_modify,h,ZoneState.isOn]
  | some s =>
    rw [start,state_modify_self _ h]
    cases confirmed <;> simp [ZoneState.isOn]

@[simp] theorem state_forceOff_self (b : ZoneBoard) (z : UInt8) : (b.forceOff z).state z=.off := by
  cases h : b.status? z with
  | none => simp [forceOff,state,status?_modify,h]
  | some s => exact state_modify_self _ h

@[simp] theorem state_stop_self (b : ZoneBoard) (z : UInt8) : (b.stop z true).state z=.off := by
  cases h : b.status? z with
  | none => simp [stop,state,status?_modify,h]
  | some s => exact state_modify_self _ h

/-- Zones that are stopped one after the other are off, or wait for their station. -/
theorem state_foldl_stop (b : ZoneBoard) (l : List UInt8) (confirmed : Bool) (z : UInt8) :
    (z∉l → (l.foldl (fun b i => b.stop i confirmed) b).state z=b.state z) ∧
    (z∈l → (l.foldl (fun b i => b.stop i confirmed) b).state z=.off ∨
      ((l.foldl (fun b i => b.stop i confirmed) b).state z).isPending=true) := by
  induction l generalizing b with
  | nil => exact ⟨fun _ => rfl,nofun⟩
  | cons i l ih =>
    obtain ⟨hout,hin⟩ := ih (b.stop i confirmed)
    refine ⟨fun hz => ?_,fun hz => ?_⟩
    · rw [List.mem_cons,not_or] at hz
      exact (hout hz.2).trans (state_modify_ne b _ hz.1)
    · by_cases hl : z∈l
      · exact hin hl
      obtain rfl : z=i := (List.mem_cons.mp hz).resolve_right hl
      rw [List.foldl_cons,hout hl]
      cases hs : b.status? z with
      | none =>
        left
        simp [stop,state,status?_modify,hs]
      | some x =>
        rw [stop,state_modify_self _ hs]
        obtain hx | ⟨_,_,hx⟩ := x.stop_cases confirmed
        · exact Or.inl hx
        · exact Or.inr (by rw [hx]; rfl)

theorem confirm_fst (b : ZoneBoard) (z : UInt8) (on : Bool) :
    (b.confirm z on).1=b.modify z (·.confirm on) := by
  unfold confirm
  cases hs : b.status? z with
  | none =>
    refine congrArg ZoneBoard.mk (List.modify_eq_self ?_).symm
    exact List.getElem?_eq_none_iff.mp hs
  | some x => rfl

@[simp] theorem state_allOff (b : ZoneBoard) (z : UInt8) : b.allOff.state z=.off := by
  simp only [state,status?,allOff,List.getElem?_map]
  cases b.zones[z.toNat]? <;> rfl

theorem status?_tick (b : ZoneBoard) (z : UInt8) :
    b.tick.1.status? z=(b.status? z).map fun s => s.tick.1 := by
  simp [status?,tick]

@[simp] theorem state_ofCount (n : Nat) (z : UInt8) : (ofCount n).state z=.off := by
  simp only [state,status?,ofCount]
  cases h : (List.replicate n ({} : ZoneStatus))[z.toNat]? with
  | none => rfl
  | some s => rw [List.eq_of_mem_replicate (List.mem_of_getElem? h)]; rfl

@[simp] theorem size_resize (b : ZoneBoard) (n : Nat) : (b.resize n).size=n := by
  simp only [resize,size,List.length_append,List.length_take,List.length_replicate]
  omega

/-- Zones that stay keep their record. -/
theorem status?_resize {b : ZoneBoard} {z : UInt8} {s : ZoneStatus} {n : Nat} (hz : z.toNat<n)
    (hs : b.status? z=some s) : (b.resize n).status? z=some s := by
  have hb := (List.getElem?_eq_some_iff.mp hs).1
  rw [status?,resize,List.getElem?_append_left (by rw [List.length_take]; omega),
    List.getElem?_take_of_lt hz]
  exact hs

/-- What is on a board of another size was on it before, or is new. -/
theorem status?_resize_cases {b : ZoneBoard} {z : UInt8} {s : ZoneStatus} {n : Nat}
    (hs : (b.resize n).status? z=some s) : s={} ∨ b.status? z=some s := by
  rw [status?,resize,List.getElem?_append] at hs
  split_ifs at hs
  · rw [List.getElem?_take] at hs
    split_ifs at hs
    exact .inr hs
  · exact .inl (List.eq_of_mem_replicate (List.mem_of_getElem? hs))

/-- A tick reports exactly the zones whose record says so, on a board that an octet can index. -/
theorem mem_tick {b : ZoneBoard} (hb : b.size≤256) {t : Transition} :
    t∈b.tick.2 ↔ ∃ s,b.status? t.zone=some s ∧ s.tick.2=some t.expiry := by
  simp only [tick,List.mem_filterMap,Prod.exists,List.mk_mem_zipIdx_iff_getElem?,
    Option.map_eq_some_iff]
  constructor
  · rintro ⟨s,i,hs,e,he,rfl⟩
    have hi : i<256 := by
      have := (List.getElem?_eq_some_iff.mp hs).1
      exact Nat.lt_of_lt_of_le this hb
    refine ⟨s,?_,he⟩
    rw [status?,UInt8.toNat_ofNat_of_lt' hi]
    exact hs
  · rintro ⟨s,hs,he⟩
    exact ⟨s,t.zone.toNat,hs,t.expiry,he,by rw [UInt8.ofNat_toNat]⟩

/-- A zone that waits for nothing goes on or off in a second only by the end of its run. -/
theorem finished_of_tick {b : ZoneBoard} (hb : b.size≤256) {z : UInt8}
    (settled : (b.state z).isPending=false) (changed : (b.tick.1.state z).isOn≠(b.state z).isOn) :
    ⟨z,.finished⟩∈b.tick.2 := by
  obtain ⟨s,hs⟩ : ∃ s,b.status? z=some s := by
    by_contra none
    refine changed ?_
    rw [state,state,status?_tick,Option.eq_none_iff_forall_ne_some.mpr fun s hs => none ⟨s,hs⟩]
    rfl
  have next : b.tick.1.state z=s.tick.1.state := state_of_status? (by rw [status?_tick,hs]; rfl)
  rw [state_of_status? hs] at settled changed
  rw [next] at changed
  obtain ⟨settled',running⟩ := ZoneStatus.tick_settled settled
  refine (mem_tick hb).mpr ⟨s,hs,Classical.byContradiction fun k => changed ?_⟩
  have on {x : ZoneState} (hx : x.isPending=false) : x.isOn=true ↔ x=.running := by
    cases x <;> simp_all [ZoneState.isOn,ZoneState.isPending]
  rw [Bool.eq_iff_iff,on settled',on settled,running]
  exact and_iff_left k

/-- The zones that are on, on a board that an octet can index. -/
theorem mem_active {b : ZoneBoard} (hb : b.size≤256) {z : UInt8} :
    z∈b.active ↔ (b.state z).isOn=true := by
  simp only [active,List.mem_map,List.mem_filter,Prod.exists,List.mk_mem_zipIdx_iff_getElem?]
  constructor
  · rintro ⟨s,i,⟨hs,hon⟩,rfl⟩
    have hi : i<256 := by
      have := (List.getElem?_eq_some_iff.mp hs).1
      exact Nat.lt_of_lt_of_le this hb
    rwa [state_of_status? (s:=s)]
    rw [status?,UInt8.toNat_ofNat_of_lt' hi]
    exact hs
  · intro hon
    obtain ⟨s,hs,he⟩ := exists_status (ZoneState.ne_off hon)
    exact ⟨s,z.toNat,⟨hs,by rwa [he]⟩,UInt8.ofNat_toNat⟩

end ZoneBoard

end Watering
