import Mathlib.Data.Nat.Init
import Mathlib.Tactic.Common
import Watering.Proofs.Schedule.Lit

namespace Watering

structure Program (σ : Type) where
  scheduler : Scheduler
  controller : Controller σ

namespace Program

variable {σ : Type} [Carrier σ]

/-- What a scheduler is told while it drives a controller. -/
def handle (p : Program σ) (op : Scheduler.Operation) : Program σ :=
  ⟨(p.scheduler.handle p.controller op).1,(p.scheduler.handle p.controller op).2⟩

/-- Local second `x` comes: the clock moves, runs count down, and what is due is carried out. -/
def second (p : Program σ) (x : Int) : Program σ :=
  handle {p with controller:=
    Controller.tick {p.controller with clock:=p.controller.clock.shift 1}} (.tick (.ofSecond x))

/-- So many seconds after local second `x`. -/
def after (p : Program σ) (x : Int) : Nat → Program σ
  | 0 => p
  | n+1 => (p.after x n).second (x+n+1)

/-- A zone runs. -/
def Waters (p : Program σ) (i : UInt8) : Prop := p.controller.zones.state i=.running

instance (p : Program σ) (i : UInt8) : Decidable (p.Waters i) := inferInstanceAs (Decidable (_=_))

open Scheduler

variable {p : Program σ} {x : Int}

def Holds (p : Program σ) (P : Scheduler → Controller σ → Prop) : Prop := P p.scheduler p.controller

theorem second_keeps {Q : Int → Scheduler → Controller σ → Prop} (h : p.Holds (Rests x))
    (hq : p.Holds (Q x))
    (turned : ∀ {run s t c d},(x+1)%60=0 → Tends (x+1) s c → Q (x+1) s c →
      Turned (x+1) run s t c d → Q (x+1) t d)
    (spent : ∀ {x y s t c d},Q x s c → Spent x y s t c d → Q y t d) :
    (p.second (x+1)).Holds (Rests (x+1)) ∧ (p.second (x+1)).Holds (Q (x+1)) := by
  let c : Controller σ := {p.controller with clock:=p.controller.clock.shift 1}
  have later : Rests x p.scheduler c :=
    ⟨⟨h.orderly,h.spaced,⟨h.atHome.wired,h.atHome.size,h.atHome.idle,h.atHome.timed⟩,h.dark⟩,
      h.today,h.later⟩
  have same : Spent x x p.scheduler p.scheduler p.controller c :=
    ⟨fun _ _ => id,.inr ⟨rfl,fun _ m _ => m⟩⟩
  exact later.second (spent hq same) turned spent

theorem lit_second {alike : Int → Int → Prop} (h : p.Holds (Rests x)) (l : p.Holds (Lit 0 alike x)) :
    (p.second (x+1)).Holds (Lit 0 alike (x+1)) :=
  (second_keeps h l (fun starts tends l k => l.turned starts tends.atHome k) fun l k => l.spent k).2

/-- The second run may find the first one's zone, if the minute begins. -/
theorem joined_or_lit_second {slack : Int} (hs : slack<60) (h : p.Holds (Rests x))
    (l : p.Holds (Lit slack Any x)) :
    (x+1)%60=0 ∧ (p.second (x+1)).Holds (Lit 0 (Together (x+1) slack) (x+1)) ∨
      (p.second (x+1)).Holds (Lit slack Any (x+1)) := by
  refine (second_keeps (Q:=fun y s c => (x+1)%60=0 ∧ Lit 0 (Together (x+1) slack) y s c ∨
    Lit slack Any y s c) h (.inr l) ?_ ?_).2
  · rintro run s t c d starts tends (⟨_,l⟩ | l) k
    · exact .inl ⟨starts,l.turned starts tends.atHome k⟩
    · exact .inl ⟨starts,l.joined starts hs k⟩
  · rintro y z s t c d (⟨starts,l⟩ | l) k
    · exact .inl ⟨starts,l.spent k⟩
    · exact .inr (l.spent k)

theorem rests_after (h : p.Holds (Rests x)) (n : Nat) : (p.after x n).Holds (Rests (x+n)) := by
  induction n with
  | zero =>
    rw [show x+(0 : Nat)=x by omega]
    exact h
  | succ n ih =>
    rw [show x+(n+1 : Nat)=x+n+1 by omega]
    exact (second_keeps (Q:=fun _ _ _ => True) ih trivial (fun _ _ _ _ => trivial)
      fun _ _ => trivial).1

/-- What holds at first, but not always, fails right after it held so far. -/
theorem exists_last {P : Nat → Prop} (first : P 0) (fails : ¬∀ n,P n) :
    ∃ m,(∀ n≤ m,P n) ∧ ¬P (m+1) := by
  by_contra never
  apply fails
  intro n
  induction n using Nat.strongRecOn with
  | ind n ih =>
    cases n with
    | zero => exact first
    | succ m =>
      by_contra failed
      exact never ⟨m,fun k hk => ih k (Nat.lt_succ_of_le hk),failed⟩

/-- Only one run comes late enough to find the zone of the one before it: the second one. -/
theorem exists_base {slack : Int} (hs : slack<60) (h : p.Holds (Rests x))
    (l : p.Holds (Lit slack Any x)) :
    ∃ base : Int,base%60=0 ∧ ∀ n : Nat,
      base≤x+n ∧ (p.after x n).Holds (Lit 0 (Together base slack) (x+n)) ∨
        (p.after x n).Holds (Lit slack Any (x+n)) := by
  have next (n : Nat) : x+(n+1 : Nat)=x+n+1 := by omega
  by_cases always : ∀ n : Nat,(p.after x n).Holds (Lit slack Any (x+n))
  · exact ⟨0,rfl,fun n => .inr (always n)⟩
  have first : (p.after x 0).Holds (Lit slack Any (x+(0 : Nat))) := by
    rw [show x+(0 : Nat)=x by omega]
    exact l
  obtain ⟨m,before,failed⟩ := exists_last first always
  rw [next] at failed
  obtain ⟨starts,joined⟩ | lit := joined_or_lit_second hs (rests_after h m) (before m (Nat.le_refl m))
  · refine ⟨x+m+1,starts,fun n => ?_⟩
    obtain hn | hn := Nat.lt_or_ge m n
    · refine .inl ⟨by omega,?_⟩
      induction n,hn using Nat.le_induction with
      | base =>
        rw [next]
        exact joined
      | succ n hn ih =>
        rw [next]
        exact lit_second (rests_after h n) ih
    · exact .inr (before n hn)
  · exact absurd lit failed

omit [Carrier σ] in
/-- A zone that runs will do so until some second. -/
theorem Waters.runsUntil {i : UInt8} (h : p.Waters i) (x : Int) :
    ∃ e,p.controller.RunsUntil x i e := by
  have on : p.controller.zones.state i≠.off := by
    rw [show p.controller.zones.state i=.running from h]
    decide
  obtain ⟨z,hz,hs⟩ := ZoneBoard.exists_status on
  exact ⟨_,z,hz,hs.trans h,rfl⟩

omit [Carrier σ] in
/-- Two zones run in a window of some seconds only, one that ends in it and one that does not. -/
theorem turns_of_lit {base slack : Int} (h : p.Holds (Rests x))
    (l : base≤x ∧ p.Holds (Lit 0 (Together base slack) x) ∨ p.Holds (Lit slack Any x)) :
    (∀ i j,p.Waters i → p.Waters j → i=j ∨ base≤x ∧ x<base+slack) ∧
      ∀ i j k,p.Waters i → p.Waters j → p.Waters k → i=j ∨ j=k ∨ i=k := by
  obtain ⟨late,alone⟩ | alone := l
  · refine ⟨fun i j hi hj => ?_,fun i j k hi hj hk => ?_⟩
    · obtain ⟨e,he⟩ := hi.runsUntil x
      obtain ⟨f,hf⟩ := hj.runsUntil x
      have lt := h.atHome.lt he
      have lt' := h.atHome.lt hf
      by_cases within : x<base+slack
      · exact .inr ⟨late,within⟩
      · have alike : Together base slack e f := by
          rw [Together]
          omega
        exact .inl (alone.one i j e f he hf alike)
    · obtain ⟨e,he⟩ := hi.runsUntil x
      obtain ⟨f,hf⟩ := hj.runsUntil x
      obtain ⟨g,hg⟩ := hk.runsUntil x
      -- Of three ends two are on the same side.
      have two : Together base slack e f ∨ Together base slack f g ∨ Together base slack e g := by
        simp only [Together]
        omega
      obtain alike | alike | alike := two
      · exact .inl (alone.one i j e f he hf alike)
      · exact .inr (.inl (alone.one j k f g hf hg alike))
      · exact .inr (.inr (alone.one i k e g he hg alike))
  · have same {i j : UInt8} (hi : p.Waters i) (hj : p.Waters j) : i=j := by
      obtain ⟨e,he⟩ := hi.runsUntil x
      obtain ⟨f,hf⟩ := hj.runsUntil x
      exact alone.one i j e f he hf trivial
    exact ⟨fun i j hi hj => .inl (same hi hj),fun i j k hi hj _ => .inl (same hi hj)⟩

/-- Take a controller all zones of which are wired to it and off, and a scheduler with no schedule
active, whatever it was told before. It begins to water at any second, by a start time or by a quick
run, and then each second the controller counts down and the scheduler carries out what is due. Two
zones never run at once but within as many seconds of one minute as the start was late in its own, and
three zones never do. -/
theorem zones_take_turns (c : Controller σ) (wired : c.site.AllLocal) (size : c.zones.size≤255)
    (off : ∀ i,c.zones.state i=.off) (schedules : List Schedule) (enabled : Bool) (seasonal : UInt8)
    (earlier : List (Controller σ×Scheduler.Operation))
    (idle : ((ofSchedules schedules enabled seasonal).handleAll earlier).active=none) (x : Int)
    (op : Scheduler.Operation) (hop : op.moment?=some (.ofSecond x)) :
    let p := handle ⟨(ofSchedules schedules enabled seasonal).handleAll earlier,c⟩ op
    ∃ base : Int,base%60=0 ∧ ∀ n : Nat,let q := p.after x n
      (∀ i j,q.Waters i → q.Waters j → i=j ∨ base≤x+n ∧ x+n<base+x%60) ∧
      ∀ i j k,q.Waters i → q.Waters j → q.Waters k → i=j ∨ j=k ∨ i=k := by
  intro p
  have first := orderly_ofSchedules schedules enabled seasonal
  have quiet : Quiet ((ofSchedules schedules enabled seasonal).handleAll earlier) c :=
    ⟨first.handleAll earlier,Spaced.kept.handleAll (.of_starts fun _ m => by cases m) first earlier,
      idle,.of_off wired size off,off⟩
  obtain ⟨rests,lit⟩ := quiet.start hop
  obtain ⟨base,hb,lit⟩ := exists_base (p:=p) (Int.emod_lt_of_pos x (by decide)) rests lit
  exact ⟨base,hb,fun n => turns_of_lit (rests_after (p:=p) rests n) (lit n)⟩

theorem plot_allLocal : Config.plot.site.AllLocal := by
  intro i z hz
  have all : ∀ z∈Config.plot.site.zones,
      (Config.plot.site.station? z.station).any (·.network.isLocal)=true := by decide +kernel
  obtain ⟨st,hs,h⟩ := (Option.any_eq_true ..).mp (all z (List.mem_of_getElem? hz))
  exact ⟨st,hs,h⟩

/-- A gateway that waters both of its zones for a minute each, from a second of the day on. -/
def plotFrom (x : Int) : Program ScriptedRadio :=
  handle ⟨ofSchedules [] true 100,Controller.gatewayAt Config.plot.site⟩ (.runQuick [1,1] (.ofSecond x))

theorem zones_take_turns_plot :
    let c := Controller.gatewayAt Config.plot.site
    (c.site.AllLocal ∧ c.zones.size≤255 ∧ (∀ i,c.zones.state i=.off) ∧
      ((plotFrom 1079).after 1079 0).Waters 0) ∧
    ∃ base : Int,base%60=0 ∧ ∀ n : Nat,let q := (plotFrom 1079).after 1079 n
      (∀ i j,q.Waters i → q.Waters j → i=j ∨ base≤1079+n ∧ 1079+n<base+59) ∧
      ∀ i j k,q.Waters i → q.Waters j → q.Waters k → i=j ∨ j=k ∨ i=k := by
  intro c
  have size : c.zones.size≤255 := by decide +kernel
  have off (i : UInt8) : c.zones.state i=.off := Controller.state_start ..
  refine ⟨⟨plot_allLocal,size,off,by decide +kernel⟩,?_⟩
  exact zones_take_turns c plot_allLocal size off [] true 100 [] rfl 1079
    (.runQuick [1,1] (.ofSecond 1079)) rfl

/-- A quick run begins in the last second of a minute: one second later the second zone is started,
and the first has 59 seconds left. -/
theorem zones_overlap_after_late_start :
    let c := Controller.gatewayAt Config.plot.site
    let q := (plotFrom 1079).after 1079 1
    c.site.AllLocal ∧ c.site.OutputsDistinct ∧ (∀ i,c.zones.state i=.off) ∧
      (ofSchedules [] true 100).active=none ∧ q.Waters 0 ∧ q.Waters 1 := by
  exact ⟨plot_allLocal,Config.plot_outputsDistinct,fun i => Controller.state_start ..,rfl,
    by decide +kernel,by decide +kernel⟩

end Program

end Watering
