import ProcessIntegrity.Toml.Blank
import ProcessIntegrity.Toml.Number
/-!
# Strings in TOML

Basic strings stand between quotation marks and know escapes; literal strings stand between
apostrophes and are taken as they are. Either kind within three marks may run over several lines:
a line end right behind the opening marks is dropped, the other line ends count as line feeds, and
one or two marks may touch the closing ones.
-/

namespace ProcessIntegrity.Toml

def isBasicChar (c : Char) : Bool :=
  isCommentChar c && c != '"' && c != '\\'

def isLiteralChar (c : Char) : Bool :=
  isCommentChar c && c != '\x27'

def escaped? : Char → Option Char
  | 'b' => some '\x08'
  | 't' => some '\t'
  | 'n' => some '\n'
  | 'f' => some '\x0c'
  | 'r' => some '\r'
  | '"' => some '"'
  | '\\' => some '\\'
  | _ => none

/-- The character with this number in base sixteen; surrogates are none. -/
def scalar? (digits : List Char) : Option Char :=
  let n := radixValue 16 digits
  if h : digits.all (isDigitOf 16) ∧ n.isValidChar then some (Char.ofNatAux n h.2) else none

def consTo (c : Char) : List Char × List Char → List Char × List Char
  | (read, rest) => (c :: read, rest)

/-- The rest of a basic string of one line, behind its opening mark. -/
def basicChars? : Reader (List Char)
  | '"' :: rest => some ([], rest)
  | '\\' :: 'u' :: a :: b :: c :: d :: rest => do
    return consTo (← scalar? [a, b, c, d]) (← basicChars? rest)
  | '\\' :: 'U' :: a :: b :: c :: d :: e :: f :: g :: h :: rest => do
    return consTo (← scalar? [a, b, c, d, e, f, g, h]) (← basicChars? rest)
  | '\\' :: c :: rest => do
    return consTo (← escaped? c) (← basicChars? rest)
  | c :: rest => if isBasicChar c then consTo c <$> basicChars? rest else none
  | [] => none

def literalChars? : Reader (List Char)
  | '\x27' :: rest => some ([], rest)
  | c :: rest => if isLiteralChar c then consTo c <$> literalChars? rest else none
  | [] => none

/-- Whether nothing but blanks is left of this line: a backslash in front joins the lines. -/
def endsLine (s : List Char) : Bool :=
  (newline? (skipBlanks s)).isSome

/-- The rest of a basic string of several lines, behind its opening marks. Where the flag is set,
the blanks and line ends that follow a joining backslash are being dropped. -/
def basicLines? : (joining : Bool) → Reader (List Char)
  | _, '"' :: '"' :: '"' :: '"' :: '"' :: rest => some (['"', '"'], rest)
  | _, '"' :: '"' :: '"' :: '"' :: rest => some (['"'], rest)
  | _, '"' :: '"' :: '"' :: rest => some ([], rest)
  | _, '"' :: rest => consTo '"' <$> basicLines? false rest
  | _, '\\' :: 'u' :: a :: b :: c :: d :: rest => do
    return consTo (← scalar? [a, b, c, d]) (← basicLines? false rest)
  | _, '\\' :: 'U' :: a :: b :: c :: d :: e :: f :: g :: h :: rest => do
    return consTo (← scalar? [a, b, c, d, e, f, g, h]) (← basicLines? false rest)
  | _, '\\' :: c :: rest =>
    if endsLine (c :: rest) then
      basicLines? true rest
    else do
      return consTo (← escaped? c) (← basicLines? false rest)
  | joining, '\r' :: '\n' :: rest =>
    if joining then basicLines? true rest else consTo '\n' <$> basicLines? false rest
  | joining, '\n' :: rest =>
    if joining then basicLines? true rest else consTo '\n' <$> basicLines? false rest
  | joining, c :: rest =>
    if joining && isBlank c then basicLines? true rest
    else if isBasicChar c then consTo c <$> basicLines? false rest
    else none
  | _, [] => none

def literalLines? : Reader (List Char)
  | '\x27' :: '\x27' :: '\x27' :: '\x27' :: '\x27' :: rest => some (['\x27', '\x27'], rest)
  | '\x27' :: '\x27' :: '\x27' :: '\x27' :: rest => some (['\x27'], rest)
  | '\x27' :: '\x27' :: '\x27' :: rest => some ([], rest)
  | '\x27' :: rest => consTo '\x27' <$> literalLines? rest
  | '\r' :: '\n' :: rest => consTo '\n' <$> literalLines? rest
  | '\n' :: rest => consTo '\n' <$> literalLines? rest
  | c :: rest => if isLiteralChar c then consTo c <$> literalLines? rest else none
  | [] => none

def dropNewline (s : List Char) : List Char :=
  (newline? s).getD s

def lineString? : Reader String
  | '"' :: rest => (basicChars? rest).map fun (cs, rest) => (String.ofList cs, rest)
  | '\x27' :: rest => (literalChars? rest).map fun (cs, rest) => (String.ofList cs, rest)
  | _ => none

def string? : Reader String
  | '"' :: '"' :: '"' :: rest =>
    (basicLines? false (dropNewline rest)).map fun (cs, rest) => (String.ofList cs, rest)
  | '\x27' :: '\x27' :: '\x27' :: rest =>
    (literalLines? (dropNewline rest)).map fun (cs, rest) => (String.ofList cs, rest)
  | s => lineString? s

end ProcessIntegrity.Toml
