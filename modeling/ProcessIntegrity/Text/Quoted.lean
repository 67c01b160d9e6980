import ProcessIntegrity.Text.Visible
/-!
# Quoted text

How messages show a text: between quotation marks, with a backslash before quotation marks and
backslashes, with short escapes for tab, line feed, carriage return and zero, and every other
character without a visible form as its number in braces.
-/

namespace ProcessIntegrity.Text

def numberedChar (c : Char) : List Char :=
  ['\\', 'u', '\x7b'] ++ Nat.toDigits 16 c.toNat ++ ['\x7d']

def quotedChar : Char → List Char
  | '\x00' => ['\\', '0']
  | '\t' => ['\\', 't']
  | '\r' => ['\\', 'r']
  | '\n' => ['\\', 'n']
  | '\\' => ['\\', '\\']
  | '"' => ['\\', '"']
  | c => if isVisible c then [c] else numberedChar c

def quote (s : String) : String :=
  String.ofList ('"' :: s.toList.flatMap quotedChar ++ ['"'])

end ProcessIntegrity.Text
