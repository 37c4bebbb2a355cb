import Watering.Document.Json.Number
import Watering.Text.Hex

namespace Watering.Document.Json

def isSpace (c : Char) : Bool := c== ' ' || c== '\t' || c== '\n' || c== '\r'

def skip (s : List Char) : List Char := s.dropWhile isSpace

def escape? : Char → Option Char
  | '"' => some '"'
  | '\\' => some '\\'
  | '/' => some '/'
  | 'b' => some '\x08'
  | 'f' => some '\x0C'
  | 'n' => some '\n'
  | 'r' => some '\r'
  | 't' => some '\t'
  | _ => none

/-- The rest of a string behind its opening quote; `done` holds what is read, newest first. -/
def string? (done : List Char) : List Char → Option (String×List Char)
  | '"'::s => some (String.ofList done.reverse,s)
  | '\\':: 'u'::a::b::c::d::s =>
    match Hex.value? [a,b,c,d] with
    | none => none
    | some high =>
      if 0xD800≤high ∧ high<0xDC00 then
        match s with
        | '\\':: 'u'::e::f::g::h::s =>
          match Hex.value? [e,f,g,h] with
          | none => none
          | some low =>
            if 0xDC00≤low ∧ low<0xE000 then
              string? (Char.ofNat (0x10000+(high-0xD800)*0x400+(low-0xDC00))::done) s
            else none
        | _ => none
      else if 0xDC00≤high ∧ high<0xE000 then none
      else string? (Char.ofNat high::done) s
  | '\\'::e::s =>
    match escape? e with
    | none => none
    | some c => string? (c::done) s
  | c::s => if c< ' ' then none else string? (c::done) s
  | [] => none

mutual

/-- One value and what follows it; `fuel` bounds the characters, `depth` the nesting. -/
def value? (fuel depth : Nat) (s : List Char) : Option (Value×List Char) :=
  match fuel with
  | 0 => none
  | fuel+1 =>
    match skip s with
    | 'n':: 'u':: 'l':: 'l'::s => some (.null,s)
    | 't':: 'r':: 'u':: 'e'::s => some (.boolean true,s)
    | 'f':: 'a':: 'l':: 's':: 'e'::s => some (.boolean false,s)
    | '"'::s => (string? [] s).map fun (t,s) => (.text t,s)
    | '['::s =>
      if depth=0 then none
      else match skip s with
        | ']'::s => some (.list [],s)
        | s => items? fuel (depth-1) [] s
    | '{'::s =>
      if depth=0 then none
      else match skip s with
        | '}'::s => some (.table [],s)
        | s => fields? fuel (depth-1) [] s
    | s => number? s

def items? (fuel depth : Nat) (done : List Value) (s : List Char) : Option (Value×List Char) :=
  match fuel with
  | 0 => none
  | fuel+1 =>
    match value? fuel depth s with
    | none => none
    | some (v,s) =>
      match skip s with
      | ','::s => items? fuel depth (v::done) s
      | ']'::s => some (.list (v::done).reverse,s)
      | _ => none

def fields? (fuel depth : Nat) (done : List (String×Value)) (s : List Char) :
    Option (Value×List Char) :=
  match fuel with
  | 0 => none
  | fuel+1 =>
    match skip s with
    | '"'::s =>
      match string? [] s with
      | none => none
      | some (key,s) =>
        match skip s with
        | ':'::s =>
          match value? fuel depth s with
          | none => none
          | some (v,s) =>
            match skip s with
            | ','::s => fields? fuel depth ((key,v)::done) s
            | '}'::s => some (.table ((key,v)::done).reverse,s)
            | _ => none
        | _ => none
    | _ => none

end

def parse? (depth : Nat) (s : List Char) : Option Value :=
  match value? (2*s.length+2) depth s with
  | some (v,s) => if skip s==[] then some v else none
  | none => none

end Watering.Document.Json
