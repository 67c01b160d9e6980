/-!
# Lines

The lines of a text: it is split at line feeds, one carriage return before a line feed belongs to
the line's end, and an empty piece after the last line feed is no line.
-/

namespace ProcessIntegrity.Text

def dropReturn (line : List Char) : List Char :=
  if line.getLast? = some '\r' then line.dropLast else line

/-- The lines of a text. `line` holds, in reverse, what was read of the current one. -/
def linesFrom (line : List Char) : List Char → List (List Char)
  | [] => if line = [] then [] else [line.reverse]
  | '\n' :: rest => dropReturn line.reverse :: linesFrom [] rest
  | c :: rest => linesFrom (c :: line) rest

def lines (s : List Char) : List (List Char) :=
  linesFrom [] s

end ProcessIntegrity.Text
