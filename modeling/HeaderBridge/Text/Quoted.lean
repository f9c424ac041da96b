import HeaderBridge.Text
import HeaderBridge.Text.Digit
import HeaderBridge.Text.Printable

/-!
# Quoted text

A quoted text stands between single quotes, or between double quotes if it holds a
single quote and no double one. The backslash and the enclosing quote are written with
a backslash before them, line ends and tabs by their letters, and a character that is
not printable by its code point in hexadecimal, two, four or eight digits wide.
-/

namespace HeaderBridge

namespace Text

/-- The quote that encloses the text. -/
def enclosingQuote (t : Text) : Char :=
  if t.contains '\x27' && !t.contains '\x22' then '\x22' else '\x27'

/-- The escape by code point, in the narrowest form that holds it. -/
def codePointEscape (c : Char) : Text :=
  let n := c.toNat
  if n < 0x100 then '\\' :: 'x' :: hexNumeral 2 n
  else if n < 0x10000 then '\\' :: 'u' :: hexNumeral 4 n
  else '\\' :: 'U' :: hexNumeral 8 n

/-- One character between quotes `q`. -/
def quotedChar (q c : Char) : Text :=
  if c = q || c = '\\' then ['\\', c]
  else if c = '\n' then ['\\', 'n']
  else if c = '\r' then ['\\', 'r']
  else if c = '\t' then ['\\', 't']
  else if isPrintable c then [c]
  else codePointEscape c

/-- The text between quotes. -/
def quoted (t : Text) : Text :=
  let q := enclosingQuote t
  q :: t.flatMap (quotedChar q) ++ [q]

end Text

end HeaderBridge
