import Templating.Text.Extending
import Templating.Text.Unprintable

/-!
# Quoted text

Text between double quotes in which every character can be told apart: the quote, the backslash and
the usual controls have short escapes; what cannot be printed on its own is shown by its code point.
-/

namespace Templating.Text

/-- The code point in hexadecimal, between braces. -/
def codeEscape (c : Char) : List Char :=
  '\\' :: 'u' :: '\x7b' :: Nat.toDigits 16 c.toNat ++ ['\x7d']

def quoteChar (c : Char) : List Char :=
  match c with
  | '\x00' => ['\\', '0']
  | '\t' => ['\\', 't']
  | '\r' => ['\\', 'r']
  | '\n' => ['\\', 'n']
  | '\\' => ['\\', '\\']
  | '"' => ['\\', '"']
  | c => if isExtending c || isUnprintable c then codeEscape c else [c]

def quoted (text : String) : String :=
  String.ofList ('"' :: text.toList.flatMap quoteChar ++ ['"'])

end Templating.Text
