/-!
What a TOML text denotes: tables of named values.  A table also remembers how it came about, because
that decides what may still be added to it.

* A *declared* table has a header of its own and is closed to everything but the lines below it.
* An *implied* table is named only in front of a point in some header.  A header of its own may
  still come and then declares it, with what is already in it.
* A *dotted* table is made by the points in a key, and further dotted keys may add to it.
* An *inline* table stands in braces and is complete.

`Table.insert?` adds a value under a key with points, `Table.alter?` goes where a header points.
-/

namespace CandidatePool.Toml

/-- How a table came about. -/
inductive Origin where
  | declared
  | implied
  | dotted
  | inline
deriving DecidableEq

/-- A value, a table, or a list of tables with a header each. -/
inductive Node where
  | string (value : String)
  | integer (value : Int)
  | boolean (value : Bool)
  /-- A floating-point number, by its literal. -/
  | float (literal : String)
  /-- A date, a time, or both, by its literal. -/
  | dateTime (literal : String)
  | array (items : List Node)
  | table (origin : Origin) (entries : List (String × Node))
  /-- The tables under equal headers in double brackets, in order. -/
  | tables (elements : List (List (String × Node)))

/-- The entries of a table, in the order in which they came.  No key comes twice. -/
abbrev Table := List (String × Node)

namespace Table

def find? (t : Table) (key : String) : Option Node :=
  t.lookup key

/-- The table with a key set to a node, in its old place or at the end. -/
def put (t : Table) (key : String) (node : Node) : Table :=
  match t with
  | [] => [(key, node)]
  | (k, old) :: rest => if k = key then (k, node) :: rest else (k, old) :: put rest key node

/-- Adds a value under a key, which may have several parts.  The last part must be new, and what the
    other parts name must be tables made by dotted keys, or new.  Only on the way to such a table may
    the parts also pass through an implied table or the last of a list of tables. -/
def insert? (t : Table) (value : Node) : (path : List String) → Option Table
  | [] => none
  | [key] => if (t.find? key).isSome then none else some (t.put key value)
  | key :: path =>
    match t.find? key with
    | none => (insert? [] value path).map fun inner => t.put key (.table .dotted inner)
    | some (.table .dotted inner) =>
      (insert? inner value path).map fun inner => t.put key (.table .dotted inner)
    | some (.table .implied inner) =>
      if path.length = 1 then none
      else (insert? inner value path).map fun inner => t.put key (.table .implied inner)
    | some (.tables elements) =>
      if path.length = 1 then none
      else do
        let inner ← insert? (← elements.getLast?) value path
        return t.put key (.tables (elements.dropLast ++ [inner]))
    | some _ => none

def insertAll? (t : Table) (pairs : List (List String × Node)) : Option Table :=
  pairs.foldlM (fun t (path, value) => t.insert? value path) t

/-- Changes what a header's path names.  The parts before the last lead through tables of every
    origin but inline, through the last of a list of tables, and through new implied tables. -/
def alter? (t : Table) (change : Option Node → Option Node) : (path : List String) → Option Table
  | [] => none
  | [key] => (change (t.find? key)).map (t.put key)
  | key :: path =>
    match t.find? key with
    | none => (alter? [] change path).map fun inner => t.put key (.table .implied inner)
    | some (.table .inline _) => none
    | some (.table origin inner) =>
      (alter? inner change path).map fun inner => t.put key (.table origin inner)
    | some (.tables elements) => do
      let inner ← alter? (← elements.getLast?) change path
      return t.put key (.tables (elements.dropLast ++ [inner]))
    | some _ => none

end Table

end CandidatePool.Toml
