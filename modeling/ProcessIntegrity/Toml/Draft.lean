import ProcessIntegrity.Toml.Value
/-!
# Building tables

A document names its tables in headers and in dotted keys, in any order. While it is read, every
table remembers how it was named, because that decides what may still be added: a header may
complete a table that longer headers only passed through, and dotted keys may extend only what
dotted keys made. No name is ever given two values.
-/

namespace ProcessIntegrity.Toml

/-- How a table was named first. -/
inductive Origin where
  /-- By a header of its own, or as an element of an array of tables. -/
  | header
  /-- Only inside a longer header. -/
  | passed
  /-- Inside a dotted key. -/
  | dotted
  deriving DecidableEq, Repr

/-- A part of a document under construction. A `leaf` is closed: nothing can be added to it. -/
inductive Draft where
  | leaf (v : Value)
  | table (origin : Origin) (entries : List (String × Draft))
  | tables (elements : List (List (String × Draft)))

/-- The entries of a table under construction, in the order in which their keys appeared. -/
abbrev Entries := List (String × Draft)

namespace Entries

def replace (key : String) (d : Draft) (es : Entries) : Entries :=
  es.map fun e => if e.1 = key then (key, d) else e

def erase (key : String) (es : Entries) : Entries :=
  es.filter fun e => e.1 ≠ key

def push (key : String) (d : Draft) (es : Entries) : Entries :=
  es ++ [(key, d)]

/-- Gives the value to `key` in the table that dotted keys lead to along the path. New tables on the
path are made; tables that a header made are closed to dotted keys. -/
def put (key : String) (v : Value) : (path : List String) → Entries → Option Entries
  | [], es =>
    match es.lookup key with
    | none => some (push key (.leaf v) es)
    | some _ => none
  | step :: path, es =>
    match es.lookup step with
    | none => do
      return push step (.table .dotted (← put key v path [])) es
    | some (.table .dotted inner) => do
      return replace step (.table .dotted (← put key v path inner)) es
    | some (.table .passed inner) =>
      if path = [] then none
      else do return replace step (.table .passed (← put key v path inner)) es
    | some (.tables elements) =>
      if path = [] then none
      else do
        let inner ← put key v path (← elements.getLast?)
        return replace step (.tables (elements.dropLast ++ [inner])) es
    | _ => none

/-- Changes the table that headers lead to along the path: the last element where the path meets an
array of tables. New tables on the path are made. -/
def alter (change : Entries → Option Entries) : (path : List String) → Entries → Option Entries
  | [], es => change es
  | step :: path, es =>
    match es.lookup step with
    | none => do
      return push step (.table .passed (← alter change path [])) es
    | some (.table origin inner) => do
      return replace step (.table origin (← alter change path inner)) es
    | some (.tables elements) => do
      let inner ← alter change path (← elements.getLast?)
      return replace step (.tables (elements.dropLast ++ [inner])) es
    | some (.leaf _) => none

/-- Makes room for the table that a header names. A table that was only passed through gets its
header now, and comes last among the keys. -/
def openTable (key : String) (es : Entries) : Option Entries :=
  match es.lookup key with
  | none => some (push key (.table .header []) es)
  | some (.table .passed inner) => some (push key (.table .header inner) (erase key es))
  | _ => none

def openElement (key : String) (es : Entries) : Option Entries :=
  match es.lookup key with
  | none => some (push key (.tables [[]]) es)
  | some (.tables elements) => some (replace key (.tables (elements ++ [[]])) es)
  | _ => none

/-- Applies `make` to the last step of a path, in the table that the steps before it lead to. -/
def atHeader (make : String → Entries → Option Entries) (path : List String) (es : Entries) :
    Option Entries := do
  let key ← path.getLast?
  alter (make key) path.dropLast es

end Entries

/-! ## Finished tables -/

mutual

def Draft.toValue : Draft → Value
  | .leaf v => v
  | .table _ entries => .table (Entries.toValues entries)
  | .tables elements => .array (Entries.toArray elements)

def Entries.toValues : List (String × Draft) → List (String × Value)
  | [] => []
  | (key, d) :: rest => (key, d.toValue) :: Entries.toValues rest

def Entries.toArray : List (List (String × Draft)) → List Value
  | [] => []
  | es :: rest => .table (Entries.toValues es) :: Entries.toArray rest

end

def Value.ofPairs? (pairs : List ((List String × String) × Value)) : Option Value := do
  let es ← pairs.foldlM (fun es (name, v) => Entries.put name.2 v name.1 es) []
  return .table (Entries.toValues es)

end ProcessIntegrity.Toml
