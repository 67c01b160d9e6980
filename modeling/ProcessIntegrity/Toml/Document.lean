import ProcessIntegrity.Toml.DateTime
import ProcessIntegrity.Toml.Draft
import ProcessIntegrity.Toml.Quoted
/-!
# TOML documents

Reading a text as a TOML document. `value` reads one value; the nesting of arrays and inline tables
is bounded, and so is the length of a dotted key. A document is a list of statements, one a line,
which build its table from top to bottom. A text that breaks the format anywhere is no document.
-/

namespace ProcessIntegrity.Toml

/-! ## Keys -/

def isBareKeyChar (c : Char) : Bool :=
  ('a' ≤ c && c ≤ 'z') || ('A' ≤ c && c ≤ 'Z') || c.isDigit || c == '_' || c == '-'

/-- One step of a key: a string of one line, or a bare key. -/
def keyStep? : Reader String := fun s =>
  match lineString? s with
  | some r => some r
  | none =>
    let bare := s.takeWhile isBareKeyChar
    if bare = [] then none else some (String.ofList bare, s.dropWhile isBareKeyChar)

/-- The steps of a key, with points between them and blanks around each. `fuel` bounds their
number. -/
def keySteps? : (fuel : Nat) → Reader (List String)
  | 0, _ => none
  | fuel + 1, s => do
    let (step, s) ← keyStep? (skipBlanks s)
    match skipBlanks s with
    | '.' :: s => do
      let (steps, s) ← keySteps? fuel s
      return (step :: steps, s)
    | s => return ([step], s)

def maxKeySteps : Nat := 79

def key? : Reader (List String) :=
  keySteps? maxKeySteps

/-- A dotted key as the path to a table and the name in it. -/
def splitKey? (steps : List String) : Option (List String × String) :=
  steps.getLast?.map fun name => (steps.dropLast, name)

/-! ## Values -/

/-- The values within one line that hold no other values. -/
def scalar : Reader Value
  | 't' :: 'r' :: 'u' :: 'e' :: rest => some (.boolean true, rest)
  | 'f' :: 'a' :: 'l' :: 's' :: 'e' :: rest => some (.boolean false, rest)
  | s =>
    match string? s with
    | some (text, rest) => some (.string text, rest)
    | none =>
      match dateTime? s with
      | some r => some r
      | none => number? s

/-- The items of an array, behind its bracket or a comma. A comma may stand behind the last one.
`fuel` bounds their number. -/
def arrayItems? (item : Reader Value) : (fuel : Nat) → Reader (List Value)
  | 0, _ => none
  | fuel + 1, s =>
    match skipSpace false s with
    | ']' :: rest => some ([], rest)
    | s => do
      let (v, s) ← item s
      match skipSpace false s with
      | ',' :: s => do
        let (vs, s) ← arrayItems? item fuel s
        return (v :: vs, s)
      | ']' :: s => return ([v], s)
      | _ => none

def pair? (item : Reader Value) : Reader ((List String × String) × Value) := fun s => do
  let (steps, s) ← key? s
  let name ← splitKey? steps
  let s ← after? '=' s
  let (v, s) ← item (skipBlanks s)
  return ((name, v), s)

/-- The pairs of an inline table, at least one. `fuel` bounds their number. -/
def inlinePairs? (item : Reader Value) :
    (fuel : Nat) → Reader (List ((List String × String) × Value))
  | 0, _ => none
  | fuel + 1, s => do
    let (p, s) ← pair? item s
    match skipBlanks s with
    | ',' :: s => do
      let (ps, s) ← inlinePairs? item fuel s
      return (p :: ps, s)
    | '}' :: s => return ([p], s)
    | _ => none

def inlineTable? (item : Reader Value) : Reader Value := fun s =>
  match skipBlanks s with
  | '}' :: rest => some (.table [], rest)
  | s => do
    let (pairs, rest) ← inlinePairs? item s.length s
    return (← Value.ofPairs? pairs, rest)

/-- A value in which arrays and inline tables are nested at most `depth` deep. -/
def value : (depth : Nat) → Reader Value
  | 0, s => scalar s
  | depth + 1, s =>
    match s with
    | '[' :: rest => (arrayItems? (value depth) s.length rest).map fun (vs, r) => (.array vs, r)
    | '{' :: rest => inlineTable? (value depth) rest
    | s => scalar s

def maxDepth : Nat := 79

/-! ## Statements -/

inductive Statement where
  | pair (path : List String) (key : String) (v : Value)
  | table (path : List String)
  | element (path : List String)
  deriving Repr

/-- A statement at the start of a line, with the rest of the line behind it empty. -/
def statement? : Reader Statement
  | '[' :: '[' :: s => do
    let (path, s) ← key? s
    let s ← after? ']' s
    let s ← after? ']' s
    return (.element path, ← lineEnd? s)
  | '[' :: s => do
    let (path, s) ← key? s
    let s ← after? ']' s
    return (.table path, ← lineEnd? s)
  | s => do
    let (((path, key), v), s) ← pair? (value maxDepth) s
    return (.pair path key v, ← lineEnd? s)

/-- The statements of a text. `fuel` bounds the number of lines. -/
def statements? : (fuel : Nat) → List Char → Option (List Statement)
  | 0, _ => none
  | fuel + 1, s =>
    match skipBlanks s with
    | [] => some []
    | s =>
      match lineEnd? s with
      | some s => statements? fuel s
      | none => do
        let (first, s) ← statement? s
        return first :: (← statements? fuel s)

/-! ## Documents -/

/-- A document under construction, with the path of the table that pairs go to. -/
structure Draft.Root where
  entries : Entries
  path : List String

def Statement.apply (root : Draft.Root) : Statement → Option Draft.Root
  | .pair path key v => do
    return { root with entries := ← root.entries.alter (Entries.put key v path) root.path }
  | .table path => do
    return ⟨← root.entries.atHeader Entries.openTable path, path⟩
  | .element path => do
    return ⟨← root.entries.atHeader Entries.openElement path, path⟩

/-- A text without the mark at its front that tells the order of bytes. -/
def dropByteOrderMark : List Char → List Char
  | '\ufeff' :: rest => rest
  | s => s

def read? (text : List Char) : Option (List (String × Value)) := do
  let statements ← statements? (text.length + 1) (dropByteOrderMark text)
  let root ← statements.foldlM Statement.apply ⟨[], []⟩
  return Entries.toValues root.entries

end ProcessIntegrity.Toml
