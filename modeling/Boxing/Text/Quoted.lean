import Boxing.Text.Printable

/-!
# Quoted text

Text in double quotes on one line: the quote and the backslash are marked by a backslash, tab,
carriage return, line feed and the null character have short names, and every other character that
is not shown (`isShown`) is given by its code point.
-/

set_option autoImplicit false

namespace Boxing.Text

/-- A character as it stands inside quotes. -/
def escapeChar (c : Char) : List Char :=
  if c = '"' ∨ c = '\\' then ['\\', c]
  else if c = '\t' then ['\\', 't']
  else if c = '\r' then ['\\', 'r']
  else if c = '\n' then ['\\', 'n']
  else if c.toNat = 0 then ['\\', '0']
  else if isShown c then [c]
  else "\\u\x7b".toList ++ Nat.toDigits 16 c.toNat ++ "\x7d".toList

/-- The text in quotes. -/
def quoted (s : String) : String :=
  String.ofList ('"' :: s.toList.flatMap escapeChar ++ ['"'])

end Boxing.Text
