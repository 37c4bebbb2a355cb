import Mathlib.Data.List.Basic
import Watering.Radio.Broker

namespace Watering

namespace Text

variable {isSeparator : Char → Bool} {s part : List Char}

theorem splitOn_eq_splitOnP (s : List Char) : splitOn isSeparator s=s.splitOnP isSeparator := by
  induction s with
  | nil => rfl
  | cons c s ih =>
    obtain ⟨part,parts,h⟩ := List.exists_cons_of_ne_nil (List.splitOnP_ne_nil isSeparator s)
    rw [splitOn,List.splitOnP_cons_eq_if_modifyHead,ih,h]
    rfl

/-- There is no separator in a part. -/
theorem isSeparator_of_mem_splitOn (m : part∈splitOn isSeparator s) : ∀ c∈part,isSeparator c=false := by
  induction s generalizing part with
  | nil =>
    obtain rfl := List.mem_singleton.mp m
    exact nofun
  | cons c s ih =>
    rw [splitOn] at m
    split_ifs at m with hc
    · obtain rfl | m := List.mem_cons.mp m
      · exact nofun
      · exact ih m
    · have word : isSeparator c=false := by simpa using hc
      cases h : splitOn isSeparator s with
      | nil =>
        rw [h] at m
        obtain rfl := List.mem_singleton.mp m
        exact List.forall_mem_singleton.mpr word
      | cons first parts =>
        rw [h] at m ih
        obtain rfl | m := List.mem_cons.mp m
        · exact List.forall_mem_cons.mpr ⟨word,ih List.mem_cons_self⟩
        · exact ih (List.mem_cons_of_mem _ m)

end Text

namespace Numeral

theorem isDigit_of_mem_decimal {n : Nat} {c : Char} (m : c∈(toString n).toList) : isDigit c=true := by
  rw [Nat.toString_eq_ofList_toDigits,String.toList_ofList] at m
  exact Nat.isDigit_of_mem_toDigits (by decide) (by decide) m

/-- A number is read back from its decimal digits. -/
theorem upTo?_decimal {n limit : Nat} (h : n≤limit) : upTo? limit (toString n).toList=some n := by
  have digits : ∀ c∈(toString n).toList,isDigit c=true := fun c m => isDigit_of_mem_decimal m
  have read : value (toString n).toList=n := by
    rw [Nat.toString_eq_ofList_toDigits,String.toList_ofList]
    exact Nat.ofDigitChars_ten_toDigits
  have some_digit : (toString n).toList≠[] := by
    rw [Nat.toString_eq_ofList_toDigits,String.toList_ofList]
    exact Nat.toDigits_ne_nil
  have plain : unsigned (toString n).toList=(toString n).toList := by
    unfold unsigned
    split
    · rename_i rest e
      have plus := digits '+' (by rw [e]; exact List.mem_cons_self)
      cases plus
    · rfl
  rw [upTo?,plain,read]
  exact if_pos ⟨some_digit,List.all_eq_true.mpr digits,h⟩

theorem octet?_decimal (u : UInt8) : octet? (toString u.toNat).toList=some u := by
  have bound : u.toNat≤255 := by
    have := u.toNat_lt
    omega
  rw [octet?,upTo?_decimal bound,Option.map_some,UInt8.ofNat_toNat]

end Numeral

namespace Broker

variable {network last : List Char} {target : Address} {t : Topic}

def topicOf (network last : List Char) : Topic := "rf/".toList++network++ '/'::last

/-- The last segment of the topic for an address; hardware addresses have no topic. -/
def lastFor? : Address → Option (List Char)
  | .broadcast => some "bcast".toList
  | .short unit => some (toString unit.toNat).toList
  | .long _ => none

def readLast? (last : List Char) : Option Address :=
  if last="bcast".toList then some .broadcast else (Numeral.octet? last).map .short

theorem unicastTopic_eq (network : List Char) (unit : UInt8) :
    unicastTopic network unit=topicOf network (toString unit.toNat).toList := rfl

theorem broadcastTopic_eq (network : List Char) :
    broadcastTopic network=topicOf network "bcast".toList := rfl

theorem readLast?_lastFor? (h : lastFor? target=some last) : readLast? last=some target := by
  cases target with
  | broadcast =>
    obtain rfl := Option.some.inj h
    exact if_pos rfl
  | short unit =>
    obtain rfl := Option.some.inj h
    have number : (toString unit.toNat).toList≠"bcast".toList := by
      intro e
      have letter : Numeral.isDigit 'b'=true :=
        Numeral.isDigit_of_mem_decimal (by rw [e]; decide)
      cases letter
    rw [readLast?,if_neg number,Numeral.octet?_decimal,Option.map_some]
  | long => cases h

theorem plain_lastFor? (h : lastFor? target=some last) : '/'∉last := by
  cases target with
  | broadcast =>
    obtain rfl := Option.some.inj h
    decide
  | short unit =>
    obtain rfl := Option.some.inj h
    intro m
    cases Numeral.isDigit_of_mem_decimal m
  | long => cases h

/-- A topic leads to the address that it was made for, if the name of the network is one segment of it. -/
theorem target?_topicOf (segment : '/'∉network) (h : lastFor? target=some last) :
    target? network (topicOf network last)=some target := by
  have slash := plain_lastFor? h
  have one {part : List Char} (h : '/'∉part) : ∀ c∈part,(c== '/')=false := by
    intro c m
    apply beq_false_of_ne
    rintro rfl
    exact h m
  have split : topicOf network last="rf".toList++ '/'::(network++ '/'::last) := by
    rw [topicOf,List.append_assoc]
    rfl
  have parts : (topicOf network last).segments=["rf".toList,network,last] := by
    rw [Topic.segments,Text.splitOn_eq_splitOnP,split,
      List.splitOnP_append_cons_of_forall_mem (one (by decide)) '/' (by decide),
      List.splitOnP_append_cons_of_forall_mem (one segment) '/' (by decide),
      List.splitOnP_eq_singleton (one slash)]
  rw [target?,parts]
  change (if _ then readLast? last else none)=_
  rw [if_pos ⟨rfl,rfl⟩]
  exact readLast?_lastFor? h

/-- No topic is one of a network whose name takes more than one segment. -/
theorem target?_of_slash (slashed : '/'∈network) (t : Topic) : target? network t=none := by
  rw [target?]
  split
  · rename_i root name last parts
    have other : name≠network := by
      rintro rfl
      have m : name∈Text.splitOn (·== '/') t := by
        rw [←Topic.segments,parts]
        exact List.mem_cons_of_mem _ List.mem_cons_self
      have plain := Text.isSeparator_of_mem_splitOn m _ slashed
      cases plain
    rw [if_neg fun h => other h.2]
  · rfl

theorem inbound?_topicOf (unit sender : UInt8) (frame : List UInt8) (h : lastFor? target=some last) :
    inbound? network unit (topicOf network last) (wrap sender (target=.broadcast) frame)=
      if sender≠unit ∧ '/'∉network then some ⟨frame,.short sender,0,target=.broadcast⟩
      else none := by
  rw [inbound?]
  by_cases slashed : '/'∈network
  · rw [target?_of_slash slashed,if_neg fun k => k.2 slashed]
  · rw [target?_topicOf slashed h]
    by_cases own : sender=unit
    · rw [if_neg fun k => k.1 own]
      exact if_pos own
    · rw [if_pos ⟨own,slashed⟩]
      apply (if_neg own).trans
      cases decide (target=.broadcast) with
      | true | false => rfl

theorem eq_of_lastFor? {other : Address} (h : lastFor? target=some last)
    (ho : lastFor? other=some last) : target=other := by
  have read := readLast?_lastFor? h
  rw [readLast?_lastFor? ho] at read
  exact (Option.some.inj read).symm

theorem topicOf_inj {other : List Char} (h : topicOf network last=topicOf network other) :
    last=other := (List.cons.inj (List.append_cancel_left h)).2

/-- Just what a client takes is added to what it has for the broker, oldest first. -/
structure Client.Queues {κ : Type} [Client κ] (outgoing : κ → List Publication) : Prop where
  taken {c : κ} {p : Publication} : (Client.publish c p).2=true →
    outgoing (Client.publish c p).1=outgoing c++[p]
  refused {c : κ} {p : Publication} : (Client.publish c p).2=false →
    outgoing (Client.publish c p).1=outgoing c

/-- A client whose requests wait in 64 places, and which takes no topic with a wildcard. -/
structure RequestQueue where
  waiting : List Publication := []

instance : Client RequestQueue where
  publish c p :=
    if '+'∉p.topic ∧ '#'∉p.topic ∧ c.waiting.length<64 then ({waiting:=c.waiting++[p]},true)
    else (c,false)

theorem RequestQueue.queues : Client.Queues RequestQueue.waiting where
  taken {c p} h := by
    simp only [Client.publish] at h ⊢
    split_ifs at h ⊢
    rfl
  refused {c p} h := by
    simp only [Client.publish] at h ⊢
    split_ifs at h ⊢
    rfl

end Broker

namespace BrokerRadio

open Broker

variable {κ : Type} {last : List Char} {target : Address} (r q : BrokerRadio κ) (frame : List UInt8)

/-- What a station makes of a publication: the broker hands it on for each subscription to its topic. -/
def receive (q : BrokerRadio κ) (p : Publication) : BrokerRadio κ :=
  (q.subscriptions.filter (·=p.topic)).foldl (fun q _ => q.hear p) q

theorem publication?_of_lastFor? (h : lastFor? target=some last) : r.publication? frame target=
    some ⟨topicOf r.network last,wrap r.unit (target=.broadcast) frame⟩ := by
  cases target with
  | broadcast | short =>
    obtain rfl := Option.some.inj h
    rfl
  | long => cases h

/-- A station subscribes once to each of the topics for it, and to no other. -/
theorem filter_subscriptions (h : lastFor? target=some last) :
    q.subscriptions.filter (·=topicOf q.network last)=
      if target=.broadcast ∨ target=.short q.unit then [topicOf q.network last] else [] := by
  have topic (other : Address) {l : List Char} (ho : lastFor? other=some l) :
      topicOf q.network l=topicOf q.network last ↔ target=other := by
    constructor
    · intro e
      obtain rfl := topicOf_inj e
      exact eq_of_lastFor? h ho
    · rintro rfl
      rw [Option.some.inj (ho.symm.trans h)]
  have own := topic (.short q.unit) rfl
  have all := topic .broadcast rfl
  rw [subscriptions,unicastTopic_eq,broadcastTopic_eq]
  simp only [List.filter_cons,List.filter_nil,decide_eq_true_eq,own,all]
  by_cases to_all : target=.broadcast
  · have not_own : target≠.short q.unit := by
      rw [to_all]
      exact nofun
    rw [if_neg not_own,if_pos to_all,if_pos (.inl to_all),all.mpr to_all]
  · by_cases to_own : target=.short q.unit
    · rw [if_pos to_own,if_neg to_all,if_pos (.inr to_own),own.mpr to_own]
    · rw [if_neg to_own,if_neg to_all,if_neg (not_or.mpr ⟨to_all,to_own⟩)]

theorem hear_topicOf (sender : UInt8) (h : lastFor? target=some last) :
    q.hear ⟨topicOf q.network last,wrap sender (target=.broadcast) frame⟩=
      if sender≠q.unit ∧ '/'∉q.network then
        {q with arrived:=q.arrived++[⟨frame,.short sender,0,target=.broadcast⟩]}
      else q := by
  rw [hear,inbound?_topicOf q.unit sender frame h]
  split_ifs <;> rfl

theorem receive_topicOf (sender : UInt8) (h : lastFor? target=some last) :
    q.receive ⟨topicOf q.network last,wrap sender (target=.broadcast) frame⟩=
      if sender≠q.unit ∧ '/'∉q.network ∧ (target=.broadcast ∨ target=.short q.unit) then
        {q with arrived:=q.arrived++[⟨frame,.short sender,0,target=.broadcast⟩]}
      else q := by
  rw [receive,filter_subscriptions q h]
  by_cases addressed : target=.broadcast ∨ target=.short q.unit
  · rw [if_pos addressed]
    change q.hear _=_
    rw [hear_topicOf q frame sender h]
    simp only [addressed,and_true]
  · rw [if_neg addressed,if_neg fun k => addressed k.2.2]
    rfl

theorem send_of_lastFor? [Client κ] (h : lastFor? target=some last) : Carrier.send r target frame=
    let p : Publication := ⟨topicOf r.network last,wrap r.unit (target=.broadcast) frame⟩
    ({r with client:=(Client.publish r.client p).1},(Client.publish r.client p).2) := by
  simp only [Carrier.send,publication?_of_lastFor? r frame h]

/-- Hardware addresses are refused. For any other address there is one publication, which the client is
given: the send is accepted iff the client takes it, and then this and nothing else goes out. Each
station of the network makes of it just this: a station other than the sender, if the frame is for its
unit or for all, hears the frame once, from the sender, marked as a broadcast iff it was for all; but only
if there is no slash in the name of the network. Any other station hears nothing, and neither does the
sender. -/
theorem sent_received_exactly [Client κ] {outgoing : κ → List Publication}
    (queues : Client.Queues outgoing) (r : BrokerRadio κ) (target : Address) (frame : List UInt8) :
    let sent := Carrier.send r target frame
    (sent.2=false → outgoing sent.1.client=outgoing r.client) ∧
    ((∃ hardware,target=.long hardware) → sent=(r,false)) ∧
    ((∀ hardware,target≠.long hardware) → ∃ p : Publication,
      sent=({r with client:=(Client.publish r.client p).1},(Client.publish r.client p).2) ∧
      (sent.2=true → outgoing sent.1.client=outgoing r.client++[p]) ∧
      ∀ q : BrokerRadio κ,q.network=r.network → q.receive p=
        if r.unit≠q.unit ∧ '/'∉r.network ∧ (target=.broadcast ∨ target=.short q.unit) then
          {q with arrived:=q.arrived++[⟨frame,.short r.unit,0,target=.broadcast⟩]}
        else q) := by
  intro sent
  cases h : lastFor? target with
  | none =>
    cases target with
    | broadcast | short => cases h
    | long hardware =>
      exact ⟨fun _ => rfl,fun _ => rfl,fun routable => absurd rfl (routable hardware)⟩
  | some last =>
    have given : sent=_ := send_of_lastFor? r frame h
    rw [given]
    refine ⟨queues.refused,?_,fun _ => ⟨_,rfl,queues.taken,?_⟩⟩
    · rintro ⟨hardware,rfl⟩
      cases h
    · intro q same
      rw [←same]
      exact receive_topicOf q frame r.unit h

/-- Unit 0 sends to all, over a client that has room: unit 4 hears it, and unit 0 does not. -/
theorem garden_hears_broadcast :
    let hub : BrokerRadio RequestQueue := {client:={},network:="garden".toList,unit:=0}
    let plot : BrokerRadio RequestQueue := {client:={},network:="garden".toList,unit:=4}
    let sent := Carrier.send hub .broadcast [1,2]
    sent.2=true ∧ ∃ p,sent.1.client.waiting=[p] ∧
      plot.receive p={plot with arrived:=[⟨[1,2],.short 0,0,true⟩]} ∧ hub.receive p=hub := by
  intro hub plot sent
  obtain ⟨_,_,routed⟩ := sent_received_exactly RequestQueue.queues hub .broadcast [1,2]
  obtain ⟨p,_,out,hears⟩ := routed nofun
  have taken : sent.2=true := by decide
  refine ⟨taken,p,out taken,?_,?_⟩
  · exact (hears plot rfl).trans (if_pos (by decide))
  · exact (hears hub rfl).trans (if_neg (by decide))

/-- On a network whose name has a slash in it a client with room takes a frame, and the broker hands it on
to the unit that it is for, which cannot read the topic. -/
theorem slashed_network_unheard :
    let hub : BrokerRadio RequestQueue := {client:={},network:="a/b".toList,unit:=0}
    let plot : BrokerRadio RequestQueue := {client:={},network:="a/b".toList,unit:=4}
    let sent := Carrier.send hub (.short 4) [1]
    sent.2=true ∧
    sent.1.client.waiting.map (·.topic)=["rf/a/b/4".toList] ∧
    "rf/a/b/4".toList∈plot.subscriptions ∧
    target? "a/b".toList "rf/a/b/4".toList=none ∧
    ∀ p∈sent.1.client.waiting,(plot.receive p).arrived=[] := by
  decide

end BrokerRadio

end Watering
