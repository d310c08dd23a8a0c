import Testbed.Text.Printable

/-!
Quoted text as it appears in messages: double quotes around the text, short escapes for
NUL, tab, line feed, carriage return, quote and backslash, and a code point in braces for
whatever would not show on its own.
-/
namespace Testbed.Text

def hexDigit (n : Nat) : Char := "0123456789abcdef".toList.getD n '0'

def hexDigits (n : Nat) : List Char :=
  if n < 16 then [hexDigit n] else hexDigits (n / 16) ++ [hexDigit (n % 16)]

def hexPadded (width n : Nat) : List Char :=
  List.replicate (width - (hexDigits n).length) '0' ++ hexDigits n

def codePointEscape (c : Char) : List Char :=
  ['\\', 'u', '\x7b'] ++ hexDigits c.toNat ++ ['\x7d']

def quoteChar (c : Char) : List Char :=
  match c with
  | '\x00' => ['\\', '0']
  | '\t' => ['\\', 't']
  | '\r' => ['\\', 'r']
  | '\n' => ['\\', 'n']
  | '"' => ['\\', '"']
  | '\\' => ['\\', '\\']
  | c =>
    if 0x20 ≤ c.toNat && c.toNat < 0x7f then [c]
    else if isJoined c || isHidden c then codePointEscape c
    else [c]

def quoteChars (s : List Char) : List Char := '"' :: (s.flatMap quoteChar ++ ['"'])

def quoted (s : String) : String := String.ofList (quoteChars s.toList)

def bracketed (items : List String) : String := "[" ++ ", ".intercalate items ++ "]"

end Testbed.Text
