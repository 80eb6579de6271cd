import Almanac.Text.Unprintable

/-!
# Almanac.Text.Quoted

Text between quotation marks, as diagnostics show it:

1. a tab, a carriage return, a newline and NUL are `\t`, `\r`, `\n` and `\0`;
2. a quotation mark and a backslash follow a backslash;
3. an unprintable character is `\u` and its number in braces, in lower-case hexadecimal;
4. every other character stands for itself (an apostrophe too).
-/

namespace Almanac.Text

/-- How one character stands between quotation marks. -/
def escapeChar (c : Char) : List Char :=
  if c = '\t' then ['\\', 't']
  else if c = '\r' then ['\\', 'r']
  else if c = '\n' then ['\\', 'n']
  else if c = '\x00' then ['\\', '0']
  else if c = '"' then ['\\', '"']
  else if c = '\\' then ['\\', '\\']
  else if isUnprintable c then
    ['\\', 'u', '\x7b'] ++ Nat.toDigits 16 c.toNat ++ ['\x7d']
  else [c]

/-- The text between quotation marks. -/
def quoted (s : String) : String :=
  String.ofList ('"' :: s.toList.flatMap escapeChar ++ ['"'])

end Almanac.Text
