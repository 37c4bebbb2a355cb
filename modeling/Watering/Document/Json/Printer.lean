import Watering.Document.Value
import Watering.Text.Hex

namespace Watering.Document

namespace Json

def escaped (c : Char) : List Char :=
  if c== '"' || c== '\\' then ['\\',c]
  else if c< ' ' then '\\':: 'u'::Hex.digits 4 c.toNat
  else [c]

def quoted (s : String) : String := "\""++String.ofList (s.toList.flatMap escaped)++"\""

end Json

namespace Value

open Json

mutual

/-- The text of a value; what JSON has no form for is written as null. -/
def json : Value → String
  | null => "null"
  | boolean b => toString b
  | integer n => toString n
  | decimal m e => toString m++"e"++toString e
  | text s => quoted s
  | nonFinite | moment => "null"
  | list items => "["++",".intercalate (jsonItems items)++"]"
  | table fields => "\x7b"++",".intercalate (jsonFields fields)++"\x7d"

def jsonItems : List Value → List String
  | [] => []
  | v::vs => v.json::jsonItems vs

def jsonFields : List (String×Value) → List String
  | [] => []
  | (key,v)::fields => (quoted key++":"++v.json)::jsonFields fields

end

end Value

end Watering.Document
