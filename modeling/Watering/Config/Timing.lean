import Watering.Text.Blank
import Watering.Text.Numeral

namespace Watering.Config

def dayNames : List (List Char) := ["sun","mon","tue","wed","thu","fri","sat"].map String.toList

/-- The bit of a day of the week; its first three letters name it, small or large. -/
def dayBit? (name : String) : Option UInt8 :=
  let key := (Text.trim name.toList).map Char.toLower
  (dayNames.findIdx? (·.isPrefixOf key)).map fun i => 1<<<UInt8.ofNat i

/-- Minutes since midnight of a time written as hours and minutes with a colon between. -/
def startMinute? (text : String) : Option Nat :=
  let s := Text.trim text.toList
  match s.dropWhile (·≠ ':') with
  | [] => none
  | _::minute =>
    match Numeral.upTo? 23 (s.takeWhile (·≠ ':')),Numeral.upTo? 59 minute with
    | some h,some m => some (60*h+m)
    | _,_ => none

end Watering.Config
