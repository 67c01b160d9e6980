/-!
# Blanks, line ends and comments

What TOML allows between the parts of a document. A line ends with a line feed, with or without a
carriage return before it; a comment reaches to the end of its line.
-/

namespace ProcessIntegrity.Toml

def isBlank (c : Char) : Bool :=
  c == ' ' || c == '\t'

def isBeyondAscii (c : Char) : Bool :=
  0x80 ≤ c.toNat

/-- The characters a comment may hold: tabs and everything that is no control character. -/
def isCommentChar (c : Char) : Bool :=
  c == '\t' || (' ' ≤ c && c ≤ '~') || isBeyondAscii c

def skipBlanks (s : List Char) : List Char :=
  s.dropWhile isBlank

def newline? : List Char → Option (List Char)
  | '\n' :: rest => some rest
  | '\r' :: '\n' :: rest => some rest
  | _ => none

def skipComment : List Char → List Char
  | '#' :: rest => rest.dropWhile isCommentChar
  | s => s

/-- The next line, when nothing but blanks and a comment is left of this one. -/
def lineEnd? (s : List Char) : Option (List Char) :=
  match skipComment (skipBlanks s) with
  | [] => some []
  | s => newline? s

/-- Skips blanks, line ends and comments. Where the flag is set, a comment is being skipped. -/
def skipSpace : (inComment : Bool) → List Char → List Char
  | _, '\r' :: '\n' :: rest => skipSpace false rest
  | _, '\n' :: rest => skipSpace false rest
  | true, c :: rest => if isCommentChar c then skipSpace true rest else c :: rest
  | false, '#' :: rest => skipSpace true rest
  | false, c :: rest => if isBlank c then skipSpace false rest else c :: rest
  | _, [] => []

end ProcessIntegrity.Toml
