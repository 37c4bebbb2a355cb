import Watering.Document.Toml.Entry

namespace Watering.Document.Toml

inductive Line where
  /-- A value under a dotted key of the table that was begun last. -/
  | entry (path : List String) (key : String) (value : Value)
  | table (path : List String) (key : String)
  | item (path : List String) (key : String)

/-- One line that says something, and the text behind it. -/
def line? (s : List Char) : Option (Line×List Char) :=
  match s with
  | '[':: '['::s =>
    match key? (depthLimit-1) s with
    | some (path,key,']':: ']'::s) => (lineEnd? s).map (.item path key,·)
    | _ => none
  | '['::s =>
    match key? (depthLimit-1) s with
    | some (path,key,']'::s) => (lineEnd? s).map (.table path key,·)
    | _ => none
  | s =>
    match key? (depthLimit-1) s with
    | some (path,key,'='::s) =>
      match value? (2*s.length+2) (depthLimit-1) (skipBlanks s) with
      | some (v,s) => (lineEnd? s).map (.entry path key v,·)
      | none => none
    | _ => none

/-- The lines of a document; `fuel` bounds their number. -/
def lines? (fuel : Nat) (s : List Char) : Option (List Line) :=
  match fuel with
  | 0 => none
  | fuel+1 =>
    match skipBlanks s with
    | [] => some []
    | c::s =>
      if c== '\n' then lines? fuel s
      else if c== '\r' || c== '#' then (lineEnd? (c::s)).bind (lines? fuel)
      else match line? (c::s) with
        | none => none
        | some (l,s) => (lines? fuel s).map (l::·)

/-- A document that is being put together: its root table and the way to the table begun last. -/
structure Draft where
  root : Table := []
  current : List String := []

namespace Draft

def add? (d : Draft) : Line → Option Draft
  | .entry path key v => (d.root.modify? (Table.put? key v path) d.current).map ({d with root:=·})
  | .table path key => (d.root.modify? (Table.state? key) path).map (⟨·,path++[key]⟩)
  | .item path key => (d.root.modify? (Table.begin? key) path).map (⟨·,path++[key]⟩)

end Draft

/-- The table that a whole document describes; a byte order mark may begin it. -/
def parse? (s : List Char) : Option Value := do
  let s := match s with
    | '\uFEFF'::s => s
    | s => s
  let lines ← lines? (s.length+1) s
  let draft ← lines.foldlM Draft.add? {}
  return draft.root.finish

end Watering.Document.Toml
