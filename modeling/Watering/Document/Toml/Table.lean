import Watering.Document.Value

namespace Watering.Document.Toml

inductive Origin where
  /-- By a header of its own, or as an item of a list of tables. -/
  | stated
  /-- On the way of a header to a deeper table. -/
  | implied
  /-- On the way of a dotted key. -/
  | dotted
deriving DecidableEq,Repr

inductive Node where
  /-- A value is complete; nothing can be added to it. -/
  | value (v : Value)
  | table (origin : Origin) (fields : List (String×Node))
  /-- A list of tables; only the last can be added to. -/
  | tables (done : List (List (String×Node))) (last : List (String×Node))

abbrev Table := List (String×Node)

namespace Table

def replace (t : Table) (key : String) (n : Node) : Table :=
  t.map fun f => if f.1==key then (key,n) else f

/-- Add a value under a dotted key, given by its steps and its last part. Tables that a header
stated are closed to dotted keys from outside. -/
def put? (key : String) (v : Value) : List String → Table → Option Table
  | [],t => if (t.lookup key).isSome then none else some (t++[(key,.value v)])
  | step::path,t =>
    match t.lookup step with
    | none => (put? key v path []).map fun s => t++[(step,.table .dotted s)]
    | some (.table origin s) =>
      if origin=.stated ∨ (path=[] ∧ origin≠.dotted) then none
      else (put? key v path s).map fun s => t.replace step (.table origin s)
    | some (.tables done last) =>
      if path=[] then none
      else (put? key v path last).map fun s => t.replace step (.tables done s)
    | some (.value _) => none

def modify? (f : Table → Option Table) : List String → Table → Option Table
  | [],t => f t
  | step::path,t =>
    match t.lookup step with
    | none => (modify? f path []).map fun s => t++[(step,.table .implied s)]
    | some (.table origin s) =>
      (modify? f path s).map fun s => t.replace step (.table origin s)
    | some (.tables done last) =>
      (modify? f path last).map fun s => t.replace step (.tables done s)
    | some (.value _) => none

/-- State a table; it may have been implied, but not written otherwise. -/
def state? (key : String) (t : Table) : Option Table :=
  match t.lookup key with
  | none => some (t++[(key,.table .stated [])])
  | some (.table .implied s) => some (t.replace key (.table .stated s))
  | some _ => none

def begin? (key : String) (t : Table) : Option Table :=
  match t.lookup key with
  | none => some (t++[(key,.tables [] [])])
  | some (.tables done last) => some (t.replace key (.tables (done++[last]) []))
  | some _ => none

end Table

mutual

def Node.finish : Node → Value
  | .value v => v
  | .table _ t => .table (finishFields t)
  | .tables done last => .list (finishTables done++[.table (finishFields last)])

def finishFields : List (String×Node) → List (String×Value)
  | [] => []
  | (key,n)::t => (key,n.finish)::finishFields t

def finishTables : List (List (String×Node)) → List Value
  | [] => []
  | t::ts => .table (finishFields t)::finishTables ts

end

def Table.finish (t : Table) : Value := .table (finishFields t)

end Watering.Document.Toml
