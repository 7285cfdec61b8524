import Courier.Text.Printable
/-!
# Quoted - texts between double quotes

A quote, a backslash and the common control characters are escaped by a backslash and one character; any
other character that is not printable is written as its code point in lower-case hexadecimal.
-/
namespace Courier
namespace Text

/-- A character as it stands between quotes. -/
def escapeChar (c : Char) : List Char :=
  if c = '\x00' then ['\\', '0']
  else if c = '\t' then ['\\', 't']
  else if c = '\n' then ['\\', 'n']
  else if c = '\r' then ['\\', 'r']
  else if c = '"' then ['\\', '"']
  else if c = '\\' then ['\\', '\\']
  else if isPrintable c then [c]
  else '\\' :: 'u' :: '\x7b' :: Nat.toDigits 16 c.toNat ++ ['\x7d']

def quoted (s : String) : String :=
  String.ofList ('"' :: s.toList.flatMap escapeChar ++ ['"'])

end Text
end Courier
