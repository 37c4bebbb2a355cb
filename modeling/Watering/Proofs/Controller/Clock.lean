import Watering.Proofs.Controller.Sets

namespace Watering

/-- Half of the last 32 bits of a time, as one register holds it. -/
inductive ClockHalf where
  | low
  | high

namespace ClockHalf

def address : ClockHalf → UInt8
  | low => 14
  | high => 16

/-- The sixteen bits of a time that a half holds. -/
def bits (time : Int) : ClockHalf → Int
  | low => time%65536
  | high => time/65536%65536

/-- The last 32 bits of a time with one half replaced. -/
def put (time : Int) (value : UInt16) : ClockHalf → Int
  | low => bits time high*65536+value.toNat
  | high => value.toNat*65536+bits time low

theorem put_put (time : Int) (lo hi : UInt16) :
    high.put (low.put time lo) hi=hi.toNat*65536+lo.toNat ∧
    low.put (high.put time hi) lo=hi.toNat*65536+lo.toNat := by
  have hlo := lo.toNat_lt
  have hhi := hi.toNat_lt
  simp only [put,bits]
  omega

/-- The last 32 bits of a clock, cut in two. -/
theorem bits_eq (time : Int) : low.bits time=(clockBits time%65536 : Nat) ∧
    high.bits time=(clockBits time/65536 : Nat) := by
  simp only [clockBits,bits]
  omega

end ClockHalf

namespace Registers

variable (r : Registers) (h : ClockHalf)

theorem read_half (ctx : RegisterContext) :
    ((r.read h.address ctx).toNat : Int)=h.bits ctx.now := by
  have bound := clockBits_lt ctx.now
  have halves := ClockHalf.bits_eq ctx.now
  cases h with
  | low =>
    have word : r.read 14 ctx=UInt16.ofNat (clockBits ctx.now%65536) := rfl
    rw [ClockHalf.address,word,UInt16.toNat_ofNat_of_lt' (Nat.mod_lt _ (by decide)),halves.1]
  | high =>
    have half : clockBits ctx.now/65536<65536 := by omega
    have word : r.read 16 ctx=UInt16.ofNat (clockBits ctx.now/65536) := rfl
    rw [ClockHalf.address,word,UInt16.toNat_ofNat_of_lt' half,halves.2]

/-- A half of the clock takes any value, and the other half stays. -/
theorem write?_half (value : UInt16) (now : Int) : ∃ r',r.write? h.address value now=some r' ∧
    now+r'.clockOffset=h.put (now+r.clockOffset) value := by
  have halves := ClockHalf.bits_eq (now+r.clockOffset)
  cases h with
  | low =>
    refine ⟨_,rfl,?_⟩
    simp only [ClockHalf.put]
    omega
  | high =>
    refine ⟨_,rfl,?_⟩
    simp only [ClockHalf.put]
    omega

end Registers

namespace Controller

variable {σ : Type} {c d : Controller σ} {time : Int}

/-- The clock stands at a time, and its registers are read like that. -/
structure Shows (c : Controller σ) (time : Int) : Prop where
  clock : c.now.seconds=time
  low : ((c.registers.read 14 c.registerContext).toNat : Int)=time%65536
  high : ((c.registers.read 16 c.registerContext).toNat : Int)=time/65536%65536

theorem shows_of_now (h : c.now.seconds=time) : c.Shows time := by
  subst h
  exact ⟨rfl,c.registers.read_half .low _,c.registers.read_half .high _⟩

theorem now_of_setting (h : d.setting=c.setting) : d.now=c.now := by
  have clock : d.clock=c.clock := congrArg Setting.clock h
  have registers : d.registers=c.registers := congrArg Setting.registers h
  rw [now,now,clock,registers]

/-- Setting half of the clock from here. -/
theorem write?_shows (c : Controller σ) (h : ClockHalf) (value : UInt16) :
    ∃ r,c.registers.write? h.address value c.clock.seconds=some r ∧
      Shows {c with registers:=r} (h.put c.now.seconds value) := by
  obtain ⟨r,written,stands⟩ := c.registers.write?_half h value c.clock.seconds
  exact ⟨r,written,shows_of_now stands⟩

variable [Carrier σ]

/-- A request to write one register that is there is granted if it can take the value. -/
theorem serve_writes {f : Frame} {flags : AckFlags} {address : UInt8} {value : UInt16}
    {r : Registers} (hm : f.message=.registersSet flags address [value]) (fixed : address.toNat<22)
    (written : c.registers.write? address value c.clock.seconds=some r) :
    (c.serve f).1.setting=({c with registers:=r} : Controller σ).setting := by
  have within : ¬([value]=[] ∨ min c.registerContext.count 255<address.toNat+[value].length) := by
    have count : 22≤c.registerContext.count := Nat.le_add_right ..
    simp only [List.cons_ne_nil,List.length_singleton,false_or]
    omega
  have all : c.registers.writeAll c.clock.seconds address [value]=(r,true) := by
    rw [Registers.writeAll,written]
    rfl
  rw [serve,hm]
  dsimp only
  rw [serveRegistersSet,if_neg within,all]
  exact setting_of_still (still_acknowledge ..)

/-- Setting half of the clock from afar. -/
theorem serve_half {f : Frame} {flags : AckFlags} {h : ClockHalf} {value : UInt16}
    (hm : f.message=.registersSet flags h.address [value]) :
    (c.serve f).1.Shows (h.put c.now.seconds value) := by
  obtain ⟨r,written,stands⟩ := c.write?_shows h value
  have fixed : h.address.toNat<22 := by cases h <;> decide
  have same := now_of_setting (serve_writes hm fixed written)
  exact shows_of_now ((congrArg Instant.seconds same).trans stands.clock)

/-- Setting the clock is exact. Once both halves are written, in whichever order, the clock stands at the
time that they make up; after one of them the other is what it was. A time that is broadcast is the time
that the clock stands at. What is read of the clock afterwards are the low and the high sixteen bits of
that time. -/
theorem clock_set_exactly (c : Controller σ) (lo hi : UInt16) :
    let before := c.now.seconds
    let whole : Int := hi.toNat*65536+lo.toNat
    (∃ r,c.registers.write? 14 lo c.clock.seconds=some r ∧
      Shows {c with registers:=r} (before/65536%65536*65536+lo.toNat) ∧
      ∃ r',r.write? 16 hi c.clock.seconds=some r' ∧ Shows {c with registers:=r'} whole) ∧
    (∃ r,c.registers.write? 16 hi c.clock.seconds=some r ∧
      Shows {c with registers:=r} (hi.toNat*65536+before%65536) ∧
      ∃ r',r.write? 14 lo c.clock.seconds=some r' ∧ Shows {c with registers:=r'} whole) ∧
    (∀ (f g : Frame) flags flags',f.message=.registersSet flags 14 [lo] →
      g.message=.registersSet flags' 16 [hi] →
      ((c.serve f).1.serve g).1.Shows whole ∧ ((c.serve g).1.serve f).1.Shows whole) ∧
    ∀ bytes f time,Frame.decode bytes=.ok f → f.message=.timeBroadcast time →
      c.isAddressed f=true → c.role.serves=true → (c.process bytes).1.Shows time.toNat := by
  intro before whole
  have both := ClockHalf.put_put before lo hi
  refine ⟨?_,?_,?_,?_⟩
  · obtain ⟨r,written,first⟩ := c.write?_shows .low lo
    obtain ⟨r',written',second⟩ := write?_shows {c with registers:=r} .high hi
    rw [first.clock,both.1] at second
    exact ⟨r,written,first,r',written',second⟩
  · obtain ⟨r,written,first⟩ := c.write?_shows .high hi
    obtain ⟨r',written',second⟩ := write?_shows {c with registers:=r} .low lo
    rw [first.clock,both.2] at second
    exact ⟨r,written,first,r',written',second⟩
  · intro f g flags flags' hf hg
    have low := serve_half (c:=c) (h:=.low) hf
    have high := serve_half (c:=c) (h:=.high) hg
    have low_high := serve_half (c:=(c.serve f).1) (h:=.high) hg
    have high_low := serve_half (c:=(c.serve g).1) (h:=.low) hf
    rw [low.clock,both.1] at low_high
    rw [high.clock,both.2] at high_low
    exact ⟨low_high,high_low⟩
  · intro bytes f time decoded hm addressed serves
    have request : f.function.isRequest=true := by rw [Frame.function,hm]; rfl
    have served : (c.process bytes).1=(c.serve f).1 := by
      rw [c.process_decoded decoded,if_pos addressed,if_pos request,if_pos serves]
    rw [served,serve,hm]
    apply shows_of_now
    change c.clock.seconds+(time.toNat-c.clock.seconds)=_
    omega

/-- A plot whose clock stands a second before 1970 while its system clock stands far beyond 32 bits, told
that it is noon of the second of January 1970. -/
theorem clock_set_exactly_plot :
    let registers : Registers := {unit:=1,clockOffset:=-1000000000001}
    let c : Controller ScriptedRadio := {start .responder {kind:=.short} Config.plot.site
      (.ofOutputs [0,1]) {} ⟨1000000000000,0⟩ with registers}
    let noon : Frame := ⟨0,255,0,.timeBroadcast 129600⟩
    c.now.seconds=-1 ∧ Frame.decode noon.octets=.ok noon ∧
    (c.process noon.octets).1.Shows 129600 ∧
    ∃ r,c.registers.write? 14 7 c.clock.seconds=some r ∧ Shows {c with registers:=r} 4294901767 ∧
      ∃ r',r.write? 16 2 c.clock.seconds=some r' ∧ Shows {c with registers:=r'} 131079 := by
  intro registers c noon
  obtain ⟨low_first,-,-,told⟩ := clock_set_exactly c 7 2
  have decoded : Frame.decode noon.octets=.ok noon := rfl
  exact ⟨rfl,decoded,told _ noon _ decoded rfl rfl rfl,low_first⟩

end Controller

end Watering
