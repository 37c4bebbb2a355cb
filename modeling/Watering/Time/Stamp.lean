import Watering.Time.Calendar

namespace Watering

/-- An instant and the offset from UTC, in minutes, that it is written in. -/
structure Stamp where
  instant : Instant
  offset : Int := 0
deriving DecidableEq,Repr

namespace Stamp

def padded (width n : Nat) : String :=
  let digits := toString n
  String.ofList (List.replicate (width-digits.length) '0')++digits

/-- The fraction of a second: nine digits less trailing zeros, nothing for zero. -/
def fraction (nanos : Nat) : String :=
  if nanos=0 then ""
  else "."++String.ofList ((padded 9 nanos).toList.reverse.dropWhile (·== '0')).reverse

def zone (offset : Int) : String :=
  if offset=0 then "Z"
  else (if offset<0 then "-" else "+")++padded 2 (offset.natAbs/60)++":"++padded 2 (offset.natAbs%60)

/-- The text of a stamp. Years before 0 or after 9999 have none, nor have offsets of a day or more. -/
def render? (t : Stamp) : Option String :=
  let s := t.instant.seconds+60*t.offset
  let date := Date.ofNumber (s/86400)
  let second := (s%86400).toNat
  if 0≤date.year ∧ date.year≤9999 ∧ t.offset.natAbs<1440 then
    some (padded 4 date.year.toNat++"-"++padded 2 date.month++"-"++padded 2 date.day++"T"++
      padded 2 (second/3600)++":"++padded 2 (second/60%60)++":"++padded 2 (second%60)++
      fraction t.instant.nanos++zone t.offset)
  else none

end Stamp

end Watering
