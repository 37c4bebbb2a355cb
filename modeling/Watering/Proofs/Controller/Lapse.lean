import Mathlib.Data.List.Induction
import Watering.Proofs.Config.Outputs
import Watering.Proofs.Controller.Course
import Watering.Proofs.Frame.RoundTrip
import Watering.Radio.Scripted

namespace Watering

namespace ZoneStatus

/-- The countdown is kept: time is left while a run waits for its station or runs, none while its
stop waits, and a wait is shorter than what it waits for. -/
def Counted (z : ZoneStatus) : Prop :=
  match z.state with
  | .off => z.run=none
  | .starting n => n<z.remaining ∧ ∀ r∈z.run,z.remaining≤60*r.minutes.toNat
  | .running => ∀ r∈z.run,0<z.remaining ∧ z.remaining≤60*r.minutes.toNat
  | .stopping _ => z.remaining=0

/-- A run with nothing left to count. -/
structure Lapsed (z : ZoneStatus) : Prop where
  running : z.state=.running
  spent : z.remaining=0
  recorded : z.run≠none

theorem Lapsed.not_counted {z : ZoneStatus} (h : z.Lapsed) : ¬z.Counted := by
  intro k
  obtain ⟨r,hr⟩ := Option.ne_none_iff_exists'.mp h.recorded
  simp only [Counted,h.running,h.spent] at k
  exact absurd (k r hr).1 (Nat.lt_irrefl 0)

theorem counted_off : Counted {} := rfl

theorem counted_start {run : ZoneRun} (h : run.minutes≠0) (confirmed : Bool) (now : Instant) :
    (start run confirmed now).Counted := by
  have pos : 0<run.minutes.toNat := by
    rw [Nat.pos_iff_ne_zero]
    exact fun k => h (UInt8.toNat_inj.mp k)
  have le : ∀ r∈some run,run.minutes.toNat*ticksPerMinute≤60*r.minutes.toNat := by
    rintro r ⟨⟩
    exact Nat.le_of_eq (Nat.mul_comm ..)
  have long : confirmTicks<run.minutes.toNat*ticksPerMinute := by
    simp only [confirmTicks,ticksPerMinute]
    omega
  cases confirmed with
  | true => exact fun r hr => ⟨Nat.zero_lt_of_lt long,le r hr⟩
  | false => exact ⟨long,le⟩

theorem counted_stop (z : ZoneStatus) (confirmed : Bool) : (z.stop confirmed).Counted := by
  unfold stop
  split_ifs
  · exact counted_off
  · exact (rfl : (0 : Nat)=0)

theorem Counted.tick {z : ZoneStatus} (h : z.Counted) : z.tick.1.Counted := by
  unfold Counted at h
  unfold ZoneStatus.tick
  cases hz : z.state with
  | off =>
    rw [hz] at h
    dsimp only at h ⊢
    rw [Counted,hz]
    exact h
  | starting n =>
    rw [hz] at h
    obtain ⟨hn,hr⟩ := h
    dsimp only
    split_ifs
    · exact ⟨by dsimp only; omega,fun r hmem => Nat.le_trans (Nat.sub_le ..) (hr r hmem)⟩
    · exact counted_off
  | stopping n =>
    rw [hz] at h
    dsimp only
    split_ifs
    · exact (by dsimp only at h ⊢; omega : z.remaining-1=0)
    · exact counted_off
  | running =>
    rw [hz] at h
    dsimp only
    split_ifs with h0 h1
    · rw [Counted,hz]
      exact h
    · exact counted_off
    · intro r hmem
      exact ⟨Nat.sub_pos_of_lt (by omega),Nat.le_trans (Nat.sub_le ..) (h r hmem).2⟩

/-- Only a stop that waits can be confirmed into a run with nothing left to count. -/
theorem Counted.confirm {z : ZoneStatus} (h : z.Counted) : (z.confirm true).Counted ∨
    (z.confirm true).Lapsed ∧ ∃ n,z.state=.stopping n := by
  unfold Counted at h
  cases hz : z.state with
  | off =>
    rw [hz] at h
    left
    rintro r (hr : z.run=some r)
    rw [h] at hr
    cases hr
  | starting n =>
    rw [hz] at h
    exact Or.inl fun r hr => ⟨Nat.zero_lt_of_lt h.1,h.2 r hr⟩
  | running =>
    rw [hz] at h
    exact Or.inl h
  | stopping n =>
    rw [hz] at h
    cases hr : z.run with
    | none =>
      left
      rintro r (k : z.run=some r)
      rw [hr] at k
      cases k
    | some r => exact Or.inr ⟨⟨rfl,h,by rw [ZoneStatus.confirm,if_pos rfl]; simp [hr]⟩,n,rfl⟩

theorem Lapsed.confirm {z : ZoneStatus} (h : z.Lapsed) : z.confirm true=z := by
  rw [ZoneStatus.confirm,if_pos rfl,←h.running]

theorem Lapsed.tick {z : ZoneStatus} (h : z.Lapsed) : z.tick.1=z := by
  rw [tick_running h.running,if_pos h.spent]

/-- A run that counts down is over after as many seconds as are left, and not before. -/
theorem iterate_tick {z : ZoneStatus} (run : z.state=.running) (pos : 0<z.remaining) (n : Nat) :
    (fun z : ZoneStatus => z.tick.1)^[n] z=
      if n<z.remaining then {z with remaining:=z.remaining-n} else {} := by
  induction n generalizing z with
  | zero => exact (if_pos pos).symm
  | succ n ih =>
    rw [Function.iterate_succ_apply,tick_running run,if_neg (Nat.pos_iff_ne_zero.mp pos)]
    by_cases h1 : z.remaining=1
    · rw [if_pos h1,if_neg (by omega)]
      exact Function.iterate_fixed rfl n
    · rw [if_neg h1,ih (z:={z with remaining:=z.remaining-1}) run (Nat.sub_pos_of_lt (by omega))]
      have same : z.remaining-1-n=z.remaining-(n+1) := by omega
      dsimp only
      rw [same]
      exact if_congr (by omega) rfl rfl

end ZoneStatus

namespace Controller

variable {σ : Type} [Carrier σ] {site : Site} {c : Controller σ} {i : UInt8} {z : ZoneStatus}

/-- The zone was waiting for its stop when a frame was taken in, and from then on it has been as it
is now, with the run that was to be stopped. -/
def ReportedLate (c : Controller σ) (actions : List (Action σ)) (i : UInt8) (z : ZoneStatus) :
    Prop :=
  ∃ before a after y n,actions=before++a::after ∧ a.hears=true ∧
    (c.actAll before).zones.status? i=some y ∧ y.state=.stopping n ∧ y.run=z.run ∧
    ∀ p,p<+:after → (c.actAll (before++a::p)).zones.status? i=some z

/-- One action: countdowns are kept, or were lost before, or are lost to a late report. -/
theorem Fits.act_counted (h : Fits site c) (a : Action σ)
    (all : ∀ j y,c.zones.status? j=some y → y.Counted ∨ y.Lapsed)
    (hz : (c.act a).zones.status? i=some z) :
    z.Counted ∨ z.Lapsed ∧ (c.zones.status? i=some z ∨
      a.hears=true ∧ ∃ y n,c.zones.status? i=some y ∧ y.state=.stopping n ∧ y.run=z.run) := by
  obtain ⟨_,board⟩ | edits | ⟨hears,edits⟩ := h.board a
  · rw [board,ZoneBoard.status?_tick] at hz
    obtain ⟨y,hy,rfl⟩ := Option.map_eq_some_iff.mp hz
    obtain counted | lapsed := all i y hy
    · exact Or.inl counted.tick
    · rw [lapsed.tick]
      exact Or.inr ⟨lapsed,Or.inl hy⟩
  · have keeps := keeps_of_commanded
      (P:=fun j x => x.Counted ∨ x.Lapsed ∧ c.zones.status? j=some x) ?_ edits
      (fun j y hy => (all j y hy).imp_right fun lapsed => ⟨lapsed,hy⟩) i z hz
    · exact keeps.imp_right fun k => ⟨k.1,Or.inl k.2⟩
    · rintro j y x made hy
      cases made with
      | same => exact hy
      | off => exact Or.inl ZoneStatus.counted_off
      | stopped => exact Or.inl (y.counted_stop _)
      | started now _ _ h0 => exact Or.inl (ZoneStatus.counted_start h0 _ now)
  · obtain ⟨y,hy,rfl | rfl | rfl | rfl⟩ := zone_of_reported edits hz
    · exact (all i z hy).imp_right fun lapsed => ⟨lapsed,Or.inl hy⟩
    · exact Or.inl ZoneStatus.counted_off
    · obtain counted | lapsed := all i y hy
      · refine counted.confirm.imp_right ?_
        rintro ⟨lapsed,n,hn⟩
        exact ⟨lapsed,Or.inr ⟨hears,y,n,hy,hn,rfl⟩⟩
      · rw [lapsed.confirm]
        exact Or.inr ⟨lapsed,Or.inl hy⟩
    · exact Or.inl nofun

theorem Fits.actAll_counted (h : Fits site c) (all : ∀ j y,c.zones.status? j=some y → y.Counted)
    (actions : List (Action σ)) (hz : (c.actAll actions).zones.status? i=some z) :
    z.Counted ∨ z.Lapsed ∧ ReportedLate c actions i z := by
  induction actions using List.reverseRecOn generalizing i z with
  | nil => exact Or.inl (all i z hz)
  | append_singleton actions a ih =>
    rw [actAll_append] at hz
    have fits := h.actAll actions
    have before : ∀ j y,(c.actAll actions).zones.status? j=some y → y.Counted ∨ y.Lapsed :=
      fun j y hy => (ih hy).imp_right And.left
    obtain counted | ⟨lapsed,hy | ⟨hears,y,n,hy,hn,hrun⟩⟩ := fits.act_counted a before hz
    · exact Or.inl counted
    · obtain ⟨first,late,after,y,n,rfl,hears,hy,hn,hrun,same⟩ :=
        ((ih hy).resolve_left lapsed.not_counted).2
      refine Or.inr ⟨lapsed,first,late,after++[a],y,n,by simp,hears,hy,hn,hrun,fun p hp => ?_⟩
      obtain rfl | hp := List.prefix_concat_iff.mp hp
      · rw [show first++late::(after++[a])=(first++late::after)++[a] by simp,actAll_append]
        exact hz
      · exact same p hp
    · refine Or.inr ⟨lapsed,actions,a,[],y,n,rfl,hears,hy,hn,hrun,fun p hp => ?_⟩
      obtain rfl := List.prefix_nil.mp hp
      rw [actAll_append]
      exact hz

/-- A zone that runs for a recorded run counts down to its end, within the minutes of that run; or
it was reported on after it was told to stop, and then no second ends it. -/
theorem run_ends_unless_reported_late (role : Role) (carrier : σ) (site : Site)
    (valves : ValveBoard) (sensors : SensorBank) (clock : Instant) (actions : List (Action σ))
    {r : ZoneRun} (hz : ((start role carrier site valves sensors clock).actAll
      actions).zones.status? i=some z) (running : z.state=.running) (recorded : z.run=some r) :
    let c := (start role carrier site valves sensors clock).actAll actions
    0<z.remaining ∧ z.remaining≤60*r.minutes.toNat ∧
      (∀ n,(c.actAll (seconds n)).zones.state i=.off ↔ z.remaining≤n) ∨
    z.remaining=0 ∧ (∀ n,(c.actAll (seconds n)).zones.status? i=some z) ∧
      ReportedLate (start role carrier site valves sensors clock) actions i z := by
  intro c
  have fits := fits_start role carrier site valves sensors clock
  have off : ∀ j y,(start role carrier site valves sensors clock).zones.status? j=some y →
      y.Counted := by
    intro j y hy
    obtain rfl : y={} := List.eq_of_mem_replicate (List.mem_of_getElem? hy)
    exact ZoneStatus.counted_off
  have pass (n : Nat) : (c.actAll (seconds n)).zones.status? i=
      some ((fun z : ZoneStatus => z.tick.1)^[n] z) := by
    rw [(fits.actAll actions).status?_seconds,hz,Option.map_some]
  obtain counted | ⟨lapsed,late⟩ := fits.actAll_counted off actions hz
  · left
    simp only [ZoneStatus.Counted,running] at counted
    obtain ⟨pos,le⟩ := counted r recorded
    refine ⟨pos,le,fun n => ?_⟩
    rw [ZoneBoard.state_of_status? (pass n),ZoneStatus.iterate_tick running pos]
    split_ifs with hn
    · exact iff_of_false (by simp [running]) (Nat.not_le.mpr hn)
    · exact iff_of_true rfl (Nat.not_lt.mp hn)
  · right
    refine ⟨lapsed.spent,fun n => (pass n).trans ?_,late⟩
    rw [Function.iterate_fixed lapsed.tick]

/-- A master that starts a zone of the orchard for a minute, and hears that it is on. -/
def confirmedStart : List (Action ScriptedRadio) :=
  [.operate (.startZone {zone:=0,minutes:=1}),
    .operate (.process (Frame.octets ⟨1,0,4,.zonesReport 1 0 1 (.single 0)⟩))]

theorem run_ends_unless_reported_late_orchard :
    let c := (start .requester ({kind:=.short} : ScriptedRadio) Config.orchard.site {} {}
      ⟨0,0⟩).actAll confirmedStart
    c.zones.state 0=.running ∧ ∀ n,(c.actAll (seconds n)).zones.state 0=.off ↔ 60≤n := by
  intro c
  have status : c.zones.status? 0=some ⟨.running,60,some {zone:=0,minutes:=1},some ⟨0,0⟩⟩ := by
    decide +kernel
  obtain ⟨_,_,ends⟩ | ⟨spent,_⟩ := run_ends_unless_reported_late .requester
    ({kind:=.short} : ScriptedRadio) Config.orchard.site {} {} ⟨0,0⟩ confirmedStart status rfl rfl
  · exact ⟨ZoneBoard.state_of_status? status,ends⟩
  · exact absurd spent (by decide)

/-- A run that goes on for good: the zone is told to stop, and a report that is late says that it is
on. -/
theorem late_report_revives_run :
    Config.orchard.Valid ∧ ∃ z,
      let c := (start .requester ({kind:=.short} : ScriptedRadio) Config.orchard.site {} {}
        ⟨0,0⟩).actAll (confirmedStart++[.operate (.stopZone 0),
          .operate (.process (Frame.octets ⟨0,0,4,.zonesReport 1 0 1 (.single 0)⟩))])
      c.zones.status? 0=some z ∧ z.state=.running ∧ z.run=some {zone:=0,minutes:=1} ∧
        z.remaining=0 ∧ (c.actAll (seconds 60)).zones.state 0=.running :=
  ⟨Config.orchard_valid,⟨.running,0,some {zone:=0,minutes:=1},some ⟨0,0⟩⟩,by decide +kernel,rfl,rfl,rfl,
    by decide +kernel⟩

end Controller

end Watering
