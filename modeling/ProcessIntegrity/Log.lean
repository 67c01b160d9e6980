/-!
# Log records

Every part of the program writes records with a level and the name of the part. A limit decides
which records are kept; it changes nothing else. A record becomes a line with a stamp of the time
and the place where it was written.
-/

namespace ProcessIntegrity.Log

inductive Level where
  | error
  | warn
  | info
  | debug
  | trace
  deriving DecidableEq, Repr

namespace Level

/-- Errors rank first. -/
def rank : Level → Nat
  | error => 1
  | warn => 2
  | info => 3
  | debug => 4
  | trace => 5

def name : Level → String
  | error => "ERROR"
  | warn => "WARN"
  | info => "INFO"
  | debug => "DEBUG"
  | trace => "TRACE"

end Level

/-- The least important level that is kept; `none` keeps nothing. -/
abbrev Limit := Option Level

def Limit.keeps (limit : Limit) (level : Level) : Bool :=
  match limit with
  | none => false
  | some least => level.rank ≤ least.rank

inductive Component where
  | config
  | prober
  | timing
  | integrity
  | program
  deriving DecidableEq, Repr

namespace Component

/-- The name of the part within its own lines. -/
def name : Component → String
  | config => "config"
  | prober => "prober"
  | timing => "timing"
  | integrity => "integrity"
  | program => "program"

/-- The name of the part in the lines of the command-line program. -/
def target : Component → String
  | config => "native_guard::config::loader"
  | prober => "native_guard::prober"
  | timing => "native_guard::detectors::timing"
  | integrity => "native_guard::integrity"
  | program => "guard_probe"

end Component

structure Record where
  level : Level
  component : Component
  message : String
  deriving DecidableEq, Repr

structure Stamp where
  time : String
  process : String
  thread : String

namespace Record

def line (stamp : Stamp) (r : Record) : String :=
  s!"[{stamp.time}][{r.level.name}][{r.component.name}]" ++
    s!"[pid={stamp.process}][tid={stamp.thread}] {r.message}"

def paddedLevel (r : Record) : String :=
  r.level.name ++ String.ofList (List.replicate (5 - r.level.name.length) ' ')

/-- The line of a record in the output of the command-line program: what the program itself says
appears as it is, what another part says with that part's own line start. -/
def programLine (stamp : Stamp) (r : Record) : String :=
  let text :=
    match r.component with
    | .program => r.message
    | _ => r.line stamp
  s!"[{stamp.time}][{r.paddedLevel}][{r.component.target}]" ++
    s!"[pid={stamp.process}][tid={stamp.thread}] {text}"

end Record

def kept (limit : Limit) (records : List Record) : List Record :=
  records.filter fun r => limit.keeps r.level

end ProcessIntegrity.Log
