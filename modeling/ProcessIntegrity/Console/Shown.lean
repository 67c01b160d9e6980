import ProcessIntegrity.Console.Folder
import ProcessIntegrity.Console.Run
/-!
# What a run shows

The lines that a run leaves on the standard output, on the standard error and in the folder. Every
log line goes to the standard output and then, at once, to the log file; the verdict follows the
log. Where the path of a log file leads is up to the system around the program, and comes in as a
function.
-/

namespace ProcessIntegrity.Console

inductive Place where
  | inside (name : String)
  | standardOutput
  | standardError
  | outside
  deriving DecidableEq, Repr

structure Shown where
  folder : Folder
  output : List String
  error : List String := []

/-- The log lines of a report on the standard output, where the lines for the log file go to the
given place. -/
def Report.logOutput (r : Report) (stamp : Log.Stamp) (place : Option Place) : List String :=
  (r.logLines stamp).flatMap fun line =>
    if place = some .standardOutput then [line, line] else [line]

/-- What a report shows in a folder; `leadsTo` says where the path of a log file leads. -/
def Report.shownIn (r : Report) (leadsTo : String → Option Place) (folder : Folder)
    (stamp : Log.Stamp) : Shown :=
  let log := r.logLines stamp
  let place := r.logFile.bind leadsTo
  { output := r.logOutput stamp place ++ r.verdictLine?.toList
    folder := match place with
      | some (.inside name) => folder.append name log
      | _ => folder
    error := if place = some .standardError then log else [] }

end ProcessIntegrity.Console
