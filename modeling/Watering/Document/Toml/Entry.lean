import Watering.Document.Toml.Number
import Watering.Document.Toml.Table
import Watering.Document.Toml.Text

namespace Watering.Document.Toml

/-- Neither nested values nor the parts of a key may reach this number. -/
def depthLimit : Nat := 80

def isBare (c : Char) : Bool :=
  Numeral.isDigit c || ('a'≤c && c≤ 'z') || ('A'≤c && c≤ 'Z') || c== '-' || c== '_'

def keyPart? (s : List Char) : Option (String×List Char) :=
  match s with
  | '"'::s => basic? [] s
  | '\''::s => literal? [] s
  | s =>
    match s.takeWhile isBare with
    | [] => none
    | part => some (String.ofList part,s.dropWhile isBare)

/-- A key: the parts before its last one, and the last one; at most `limit` parts. -/
def key? (limit : Nat) (s : List Char) : Option (List String×String×List Char) :=
  match limit with
  | 0 => none
  | limit+1 =>
    match keyPart? (skipBlanks s) with
    | none => none
    | some (part,s) =>
      match skipBlanks s with
      | '.'::s => (key? limit s).map fun (path,last,s) => (part::path,last,s)
      | s => some ([],part,s)

mutual

/-- One value and what follows it; `fuel` bounds the characters, `depth` the nesting. -/
def value? (fuel depth : Nat) (s : List Char) : Option (Value×List Char) :=
  match fuel with
  | 0 => none
  | fuel+1 =>
    match s with
    | '"'::_ => (text? s).map fun (t,s) => (.text t,s)
    | '\''::_ => (text? s).map fun (t,s) => (.text t,s)
    | 't':: 'r':: 'u':: 'e'::s => some (.boolean true,s)
    | 'f':: 'a':: 'l':: 's':: 'e'::s => some (.boolean false,s)
    | '['::s => if depth=0 then none else items? fuel (depth-1) [] s
    | '{'::s =>
      if depth=0 then none
      else match skipBlanks s with
        | '}'::s => some (.table [],s)
        | s => fields? fuel (depth-1) [] s
    | s => scalarNumber? s

/-- The items of a list up to its bracket, on any number of lines; a comma may follow the last. -/
def items? (fuel depth : Nat) (done : List Value) (s : List Char) : Option (Value×List Char) :=
  match fuel with
  | 0 => none
  | fuel+1 =>
    match gap? false s with
    | none => none
    | some (']'::s) => some (.list done.reverse,s)
    | some s =>
      match value? fuel depth s with
      | none => none
      | some (v,s) =>
        match gap? false s with
        | some (','::s) => items? fuel depth (v::done) s
        | some (']'::s) => some (.list (v::done).reverse,s)
        | _ => none

def fields? (fuel depth : Nat) (t : Table) (s : List Char) : Option (Value×List Char) :=
  match fuel with
  | 0 => none
  | fuel+1 =>
    match key? (depthLimit-1) s with
    | some (path,last,'='::s) =>
      match value? fuel depth (skipBlanks s) with
      | none => none
      | some (v,s) =>
        match t.put? last v path,skipBlanks s with
        | some t,','::s => fields? fuel depth t s
        | some t,'}'::s => some (t.finish,s)
        | _,_ => none
    | _ => none

end

end Watering.Document.Toml
