import Watering.Document.Toml.Space
import Watering.Text.Hex

namespace Watering.Document.Toml

def escape? : Char → Option Char
  | 'b' => some '\x08'
  | 't' => some '\t'
  | 'n' => some '\n'
  | 'f' => some '\x0C'
  | 'r' => some '\r'
  | '"' => some '"'
  | '\\' => some '\\'
  | _ => none

/-- The character with a number; surrogates are none. -/
def scalar? (digits : List Char) : Option Char :=
  match Hex.value? digits with
  | none => none
  | some n => if n<0xD800 ∨ (0xDFFF<n ∧ n<0x110000) then some (Char.ofNat n) else none

/-- The rest of a basic string behind its opening quote; `done` holds what is read, newest first. -/
def basic? (done : List Char) : List Char → Option (String×List Char)
  | '"'::s => some (String.ofList done.reverse,s)
  | '\\':: 'u'::a::b::c::d::s =>
    match scalar? [a,b,c,d] with
    | some x => basic? (x::done) s
    | none => none
  | '\\':: 'U'::a::b::c::d::e::f::g::h::s =>
    match scalar? [a,b,c,d,e,f,g,h] with
    | some x => basic? (x::done) s
    | none => none
  | '\\'::e::s =>
    match escape? e with
    | some x => basic? (x::done) s
    | none => none
  | c::s => if isPlain c then basic? (c::done) s else none
  | [] => none

def literal? (done : List Char) : List Char → Option (String×List Char)
  | '\''::s => some (String.ofList done.reverse,s)
  | c::s => if isPlain c then literal? (c::done) s else none
  | [] => none

/-- What follows the three quotes that end a string: up to two more belong to it. -/
def closed (quote : Char) (done s : List Char) : String×List Char :=
  let extra := (s.takeWhile (·==quote)).take 2
  (String.ofList (extra++done).reverse,s.drop extra.length)

/-- The rest of a basic string of several lines. After a backslash at the end of a line it is
`joining`: it passes over blanks and ends of lines. -/
def basicLines? (joining : Bool) (done : List Char) : List Char → Option (String×List Char)
  | '"':: '"':: '"'::s => some (closed '"' done s)
  | '\n'::s => basicLines? joining (if joining then done else '\n'::done) s
  | '\r':: '\n'::s => basicLines? joining (if joining then done else '\n'::done) s
  | '\\':: 'u'::a::b::c::d::s =>
    match scalar? [a,b,c,d] with
    | some x => basicLines? false (x::done) s
    | none => none
  | '\\':: 'U'::a::b::c::d::e::f::g::h::s =>
    match scalar? [a,b,c,d,e,f,g,h] with
    | some x => basicLines? false (x::done) s
    | none => none
  | '\\'::e::s =>
    match escape? e with
    | some x => basicLines? false (x::done) s
    | none =>
      if (newline? (skipBlanks (e::s))).isSome then basicLines? true done s else none
  | c::s =>
    if joining && isBlank c then basicLines? true done s
    else if isPlain c then basicLines? false (c::done) s
    else none
  | [] => none

def literalLines? (done : List Char) : List Char → Option (String×List Char)
  | '\'':: '\'':: '\''::s => some (closed '\'' done s)
  | '\n'::s => literalLines? ('\n'::done) s
  | '\r':: '\n'::s => literalLines? ('\n'::done) s
  | c::s => if isPlain c then literalLines? (c::done) s else none
  | [] => none

/-- An end of line right behind the opening quotes is no part of the string. -/
def trimmed (s : List Char) : List Char := (newline? s).getD s

def text? : List Char → Option (String×List Char)
  | '"':: '"':: '"'::s => basicLines? false [] (trimmed s)
  | '\'':: '\'':: '\''::s => literalLines? [] (trimmed s)
  | '"'::s => basic? [] s
  | '\''::s => literal? [] s
  | _ => none

end Watering.Document.Toml
