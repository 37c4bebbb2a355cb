import Watering.Frame.Wire

namespace Watering

inductive DropReason where
  | malformed (error : FrameError)
  | notForUs (target : UInt8)
  /-- The function belongs to the role that the controller does not play. -/
  | wrongRole (function : Function)
  | unknownStation (id : UInt8)
  | outOfRange (function : Function)
deriving DecidableEq,Repr

inductive Outcome where
  | handled (function : Function)
  /-- The request was refused; the asker was told if it wanted to know. -/
  | rejected (function : Function) (exception : Exception)
  | dropped (reason : DropReason)
deriving DecidableEq,Repr

end Watering
