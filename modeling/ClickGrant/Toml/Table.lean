import ClickGrant.Datum.Basic

/-!
# TOML: tables under construction

A document is built from its statements in order: headers open tables, assignments put values into
the table opened last. What a later statement may still do to a table depends on how the table
came to be, so the tables keep their `Origin` until the document is complete:

* a header opens a table once, even one that only existed on the way to another header's table;
* a dotted key may add to tables that dotted keys made, and to no others;
* a value is never changed, and an array of tables is extended only by its own header; paths
  through it lead into its last table.
-/
set_option autoImplicit false

namespace ClickGrant.Toml

/-- How a table came to be. -/
inductive Origin where
  /-- By a header of its own. -/
  | header
  /-- On the way to another header's table. -/
  | implied
  /-- By a dotted key. -/
  | dotted
  deriving DecidableEq, Repr

/-- An entry of a table. -/
inductive Node where
  | leaf (d : Datum)
  | table (origin : Origin) (entries : List (String × Node))
  | tables (items : List (List (String × Node)))

/-- The entries of a table. -/
abbrev Entries := List (String × Node)

/-- A statement of a document. -/
inductive Statement where
  | header (path : List String)
  | arrayHeader (path : List String)
  | assign (path : List String) (value : Datum)

/-- The entries with the one under `k` replaced, or added at the end. -/
def Entries.put (k : String) (n : Node) : Entries → Entries
  | [] => [(k, n)]
  | e :: rest => if e.1 = k then (k, n) :: rest else e :: Entries.put k n rest

/-- `change` applied to the table at the end of a path, which is told its origin. Tables missing
on the way are made; `dotted` says that the path is that of a dotted key. -/
def descend (dotted : Bool) (change : Origin → Entries → Option Entries) :
    (path : List String) → Origin → Entries → Option Entries
  | [], origin, es => change origin es
  | k :: path, _, es =>
    match es.lookup k with
    | none =>
      let origin := if dotted then Origin.dotted else .implied
      (descend dotted change path origin []).map fun inner => es.put k (.table origin inner)
    | some (.leaf _) => none
    | some (.table origin inner) =>
      if dotted && origin = .header then none
      else (descend dotted change path origin inner).map fun inner => es.put k (.table origin inner)
    | some (.tables items) =>
      match items.getLast? with
      | none => none
      | some last =>
        (descend dotted change path .header last).map fun last =>
          es.put k (.tables (items.dropLast ++ [last]))

/-- A path split into the way and the last part. -/
def splitPath (path : List String) : Option (List String × String) :=
  path.getLast?.map fun k => (path.dropLast, k)

/-- A value put under a key that is not taken. -/
def Entries.add (k : String) (d : Datum) (es : Entries) : Option Entries :=
  match es.lookup k with
  | none => some (es.put k (.leaf d))
  | some _ => none

/-- An assignment in the table `es`, under a key that may be dotted. -/
def Entries.assign (path : List String) (d : Datum) (es : Entries) : Option Entries := do
  let (way, k) ← splitPath path
  descend true (fun origin inner =>
    if !way.isEmpty && origin ≠ .dotted then none else inner.add k d) way .header es

/-- A header: the table must be new, or known only as a stop on the way to others. -/
def Entries.openTable (path : List String) (es : Entries) : Option Entries := do
  let (way, k) ← splitPath path
  descend false (fun _ inner =>
    match inner.lookup k with
    | none => some (inner.put k (.table .header []))
    | some (.table .implied entries) => some (inner.put k (.table .header entries))
    | some _ => none) way .header es

/-- A header of an array of tables: one more table is added to it. -/
def Entries.openItem (path : List String) (es : Entries) : Option Entries := do
  let (way, k) ← splitPath path
  descend false (fun _ inner =>
    match inner.lookup k with
    | none => some (inner.put k (.tables [[]]))
    | some (.tables items) => some (inner.put k (.tables (items ++ [[]])))
    | some _ => none) way .header es

/-- A document being built: the root table and the path opened last. -/
structure Draft where
  root : Entries
  current : List String

/-- The draft after one more statement. -/
def Draft.step (d : Draft) : Statement → Option Draft
  | .header path => (d.root.openTable path).map fun root => { root, current := path }
  | .arrayHeader path => (d.root.openItem path).map fun root => { root, current := path }
  | .assign path value =>
    (descend false (fun _ es => es.assign path value) d.current .header d.root).map fun root =>
      { d with root }

mutual

/-- The data of a finished entry. -/
def Node.datum : Node → Datum
  | .leaf d => d
  | .table _ entries => .record (entryData entries)
  | .tables items => .list (itemData items)

/-- The data of a table's entries. -/
def entryData : List (String × Node) → List (String × Datum)
  | [] => []
  | (k, n) :: rest => (k, n.datum) :: entryData rest

/-- The data of an array of tables. -/
def itemData : List (List (String × Node)) → List Datum
  | [] => []
  | entries :: rest => .record (entryData entries) :: itemData rest

end

/-- The data of a whole document. -/
def build (statements : List Statement) : Option Datum :=
  (statements.foldlM Draft.step { root := [], current := [] }).map fun d => .record (entryData d.root)

/-- The data of an inline table. -/
def inline (pairs : List (List String × Datum)) : Option Datum :=
  (pairs.foldlM (fun (es : Entries) p => es.assign p.1 p.2) []).map fun es => .record (entryData es)

end ClickGrant.Toml
