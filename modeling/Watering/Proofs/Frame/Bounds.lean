import Watering.Proofs.Frame.Grammar

namespace Watering.Checked

def add (a b : UInt8) : Option UInt8 := if a.toNat+b.toNat<256 then some (a+b) else none

def sub (a b : UInt8) : Option UInt8 := if b≤a then some (a-b) else none

/-- The difference of two lengths. -/
def less (m n : Nat) : Option Nat := if n ≤ m then some (m-n) else none

def front (bytes : List UInt8) (n : Nat) : Option (List UInt8) :=
  if n≤bytes.length then some (bytes.take n) else none

/-- What is left behind the first octets. -/
def skip (bytes : List UInt8) (n : Nat) : Option (List UInt8) :=
  if n≤bytes.length then some (bytes.drop n) else none

def octet : List UInt8 → Option (UInt8×List UInt8)
  | [] => none
  | b::buf => some (b,buf)

def word16 : List UInt8 → Option (UInt16×List UInt8)
  | low::high::buf => some (Word.join16 low high,buf)
  | _ => none

def word32 : List UInt8 → Option (UInt32×List UInt8)
  | a::b::c::d::buf => some (Word.join32 a b c d,buf)
  | _ => none

def words (buf : List UInt8) : Nat → Option (List UInt16)
  | 0 => some []
  | n+1 => do
    let (w,buf) ← word16 buf
    (words buf n).map (w::·)

/-- A count and that many words. Lists that are shorter or longer are malformed, and then no word is
read. -/
def counted (buf : List UInt8) : Option (Option (List UInt16)) :=
  if buf.length<1 then some none
  else do
    let (count,buf) ← octet buf
    if buf.length≠2*count.toNat then some none else (words buf count.toNat).map some

/-- Read a payload; the inner result is none if it is malformed. -/
def payload (function : Function) (bytes : List UInt8) : Option (Option Message) :=
  match function with
  | .zonesRead | .sensorsRead | .registersRead =>
    if bytes.length≠2 then some none
    else do
      let (first,buf) ← octet bytes
      let (count,_) ← octet buf
      match function with
      | .zonesRead => some (some (.zonesRead first count))
      | .sensorsRead => some (some (.sensorsRead first count))
      | _ => some (some (.registersRead first count))
  | .zonesSet =>
    if bytes.length<5 then some none
    else do
      let first ← bytes[2]?
      let count ← bytes[4]?
      if bytes.length≠5+bitmapLength first count then some none
      else
        let (flags,buf) ← octet bytes
        let (schedule,buf) ← octet buf
        let buf ← skip buf 1
        let (minutes,buf) ← octet buf
        let buf ← skip buf 1
        some (some (.zonesSet ⟨flags⟩ schedule first minutes count ⟨buf⟩))
  | .zonesReport =>
    if bytes.length<3 then some none
    else do
      let first ← bytes[1]?
      let count ← bytes[2]?
      if bytes.length≠3+bitmapLength first count then some none
      else
        let (station,buf) ← octet bytes
        let buf ← skip buf 2
        some (some (.zonesReport station first count ⟨buf⟩))
  | .sensorsReport | .registersReport =>
    if bytes.length=0 then some none
    else do
      let (first,buf) ← octet bytes
      match ← counted buf with
      | none => some none
      | some values =>
        if function=.sensorsReport then some (some (.sensorsReport first values))
        else some (some (.registersReport first values))
  | .registersSet =>
    if bytes.length<2 then some none
    else do
      let (flags,buf) ← octet bytes
      let (first,buf) ← octet buf
      match ← counted buf with
      | none => some none
      | some values => some (some (.registersSet ⟨flags⟩ first values))
  | .eventMasterRead => if bytes.length≠0 then some none else some (some .eventMasterRead)
  | .eventMasterSet =>
    if bytes.length≠6 then some none
    else do
      let (flags,buf) ← octet bytes
      let (events,buf) ← word16 buf
      let (master,buf) ← octet buf
      let (address,_) ← word16 buf
      some (some (.eventMasterSet ⟨flags⟩ ⟨events⟩ master address))
  | .eventMasterReport =>
    if bytes.length≠5 then some none
    else do
      let (events,buf) ← word16 bytes
      let (master,buf) ← octet buf
      let (address,_) ← word16 buf
      some (some (.eventMasterReport ⟨events⟩ master address))
  | .scan => if bytes.length≠0 then some none else some (some .scan)
  | .scanReply => if bytes.length≠0 then some none else some (some .scanReply)
  | .ping =>
    if bytes.length≠4 then some none
    else do
      let (cookie,_) ← word32 bytes
      some (some (.ping cookie))
  | .pingReply =>
    if bytes.length≠4 then some none
    else do
      let (cookie,_) ← word32 bytes
      some (some (.pingReply cookie))
  | .timeBroadcast =>
    if bytes.length≠4 then some none
    else do
      let (time,_) ← word32 bytes
      some (some (.timeBroadcast time))
  | .responseOk =>
    if bytes.length≠1 then some none
    else do
      let (function,_) ← octet bytes
      some (some (.responseOk function))
  | .responseError =>
    if bytes.length≠2 then some none
    else do
      let (function,buf) ← octet bytes
      let (exception,_) ← octet buf
      some (some (.responseError function (.ofCode exception)))

/-- Read a frame: the octets of its header one by one, and then its payload. -/
def decode (bytes : List UInt8) : Option (Except FrameError Frame) :=
  if bytes.length<headerLength then some (.error (.tooShort bytes.length))
  else do
    let header ← front bytes headerLength
    let (protocol,header) ← octet header
    if protocol≠protocolId then some (.error (.protocolId protocol))
    else
      let (transaction,header) ← octet header
      let (target,header) ← octet header
      let (source,header) ← octet header
      let (declared,header) ← octet header
      let actual ← less bytes.length headerLength
      if declared.toNat≠actual then some (.error (.lengthMismatch declared.toNat actual))
      else
        let (code,_) ← octet header
        match Function.ofCode? code with
        | none => some (.error (.unknownFunction code))
        | some function =>
          let rest ← skip bytes headerLength
          match ← payload function rest with
          | none => some (.error (.payload function rest.length))
          | some message => some (.ok ⟨transaction,target,source,message⟩)

theorem words_eq {buf : List UInt8} {n : Nat} (h : buf.length=2*n) : words buf n=Word.ofBytes? buf := by
  induction n generalizing buf with
  | zero =>
    rw [List.eq_nil_of_length_eq_zero h]
    rfl
  | succ n ih =>
    match buf,h with
    | low::high::rest,h =>
      have half : rest.length=2*n := by
        simp only [List.length_cons] at h
        omega
      exact congrArg (Option.map (Word.join16 low high::·)) (ih half)

theorem counted_cons (count : UInt8) (rest : List UInt8) :
    counted (count::rest)=some (Message.words? count rest) := by
  change (if rest.length≠2*count.toNat then some none else (words rest count.toNat).map some)=_
  unfold Message.words?
  by_cases h : rest.length=2*count.toNat
  · rw [if_neg (not_not.mpr h),if_pos h,words_eq h]
    obtain ⟨ws,hw⟩ := Option.isSome_iff_exists.mp (Word.ofBytes?_isSome _ h)
    rw [hw]
    rfl
  · rw [if_pos h,if_neg h]

/-- A bitmap is read behind octets that are there. -/
theorem masked (n : Nat) (first count : UInt8) (rest : List UInt8) (message : ZoneMask → Message) :
    (if rest.length+n≠n+bitmapLength first count then some none else some (some (message ⟨rest⟩)))=
      some ((Message.mask? first count rest).map message) := by
  unfold Message.mask?
  by_cases h : rest.length=bitmapLength first count
  · rw [if_neg (not_not.mpr (by rw [h,Nat.add_comm])),if_pos h]
    rfl
  · rw [if_pos (by omega),if_neg h]
    rfl

/-- No octet is read that a payload does not have. -/
theorem payload_eq (function : Function) (bytes : List UInt8) :
    payload function bytes=some (Message.ofPayload? function bytes) := by
  -- Each length is checked before anything is read, so payloads are told apart by that check.
  cases function with
  | zonesRead | sensorsRead | registersRead | responseError =>
    match bytes with
    | [] | [_] | [_,_] | _::_::_::_ => rfl
  | eventMasterRead | scan | scanReply =>
    match bytes with
    | [] | _::_ => rfl
  | responseOk =>
    match bytes with
    | [] | [_] | _::_::_ => rfl
  | ping | pingReply | timeBroadcast =>
    match bytes with
    | [] | [_] | [_,_] | [_,_,_] | [_,_,_,_] | _::_::_::_::_::_ => rfl
  | eventMasterSet =>
    match bytes with
    | [] | [_] | [_,_] | [_,_,_] | [_,_,_,_] | [_,_,_,_,_] | [_,_,_,_,_,_]
    | _::_::_::_::_::_::_::_ => rfl
  | eventMasterReport =>
    match bytes with
    | [] | [_] | [_,_] | [_,_,_] | [_,_,_,_] | [_,_,_,_,_] | _::_::_::_::_::_::_ => rfl
  | sensorsReport | registersReport =>
    match bytes with
    | [] | [_] => rfl
    | first::count::rest =>
      change (counted (count::rest)).bind _=some ((Message.words? count rest).map _)
      rw [counted_cons]
      cases Message.words? count rest <;> rfl
  | registersSet =>
    match bytes with
    | [] | [_] | [_,_] => rfl
    | flags::first::count::rest =>
      change (counted (count::rest)).bind _=some ((Message.words? count rest).map _)
      rw [counted_cons]
      cases Message.words? count rest <;> rfl
  | zonesReport =>
    match bytes with
    | [] | [_] | [_,_] => rfl
    | station::first::count::rest =>
      exact masked 3 first count rest (.zonesReport station first count)
  | zonesSet =>
    match bytes with
    | [] | [_] | [_,_] | [_,_,_] | [_,_,_,_] => rfl
    | flags::schedule::first::minutes::count::rest =>
      exact masked 5 first count rest (.zonesSet ⟨flags⟩ schedule first minutes count)

/-- Nor is one read that a frame does not have. -/
theorem decode_eq (bytes : List UInt8) : decode bytes=some (Frame.decode bytes) := by
  match bytes with
  | [] | [_] | [_,_] | [_,_,_] | [_,_,_,_] | [_,_,_,_,_] => rfl
  | protocol::transaction::target::source::declared::code::rest =>
    have header : decode (protocol::transaction::target::source::declared::code::rest)=
        if protocol≠protocolId then some (.error (.protocolId protocol))
        else if declared.toNat≠rest.length then
          some (.error (.lengthMismatch declared.toNat rest.length))
        else match Function.ofCode? code with
          | none => some (.error (.unknownFunction code))
          | some function => (payload function rest).bind fun
            | none => some (.error (.payload function rest.length))
            | some message => some (.ok ⟨transaction,target,source,message⟩) := rfl
    rw [header,Frame.decode]
    split_ifs
    · rfl
    · rfl
    · cases Function.ofCode? code with
      | none => rfl
      | some function =>
        dsimp only
        rw [payload_eq]
        cases Message.ofPayload? function rest <;> rfl

end Watering.Checked
