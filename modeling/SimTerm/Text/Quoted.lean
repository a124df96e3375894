import SimTerm.Text.Printable
/-!
# Quoted Text

A text between quotes, as messages show it. The quote is the apostrophe unless the text holds
an apostrophe and no double quote. The quote in use and the backslash are escaped, tab, line
feed and carriage return have letters, and any other character that is not printable is
written by its code point.

## Main definitions

* `hexText`: A number in hexadecimal with leading zeros.
* `quoteOf`: The quote that a text is written with.
* `quoted`: The text between quotes.
-/

namespace SimTerm

namespace Text

/-- A number in small hexadecimal digits, filled with zeros to a width. -/
def hexText (width n : Nat) : List Char :=
  let digits := Nat.toDigits 16 n
  List.replicate (width - digits.length) '0' ++ digits

/-- A number in decimal digits, filled with zeros to a width. -/
def paddedText (width n : Nat) : String :=
  let digits := Nat.toDigits 10 n
  String.ofList (List.replicate (width - digits.length) '0' ++ digits)

/-- The quote that a text is written with. -/
def quoteOf (cs : List Char) : Char :=
  if cs.contains '\'' && !cs.contains '"' then '"' else '\''

/-- The escape of a character that is not printable, by its code point. -/
def codeEscape (c : Char) : List Char :=
  let n := c.toNat
  if n < 0x100 then '\\' :: 'x' :: hexText 2 n
  else if n < 0x10000 then '\\' :: 'u' :: hexText 4 n
  else '\\' :: 'U' :: hexText 8 n

/-- One character of a quoted text. -/
def quotedChar (quote c : Char) : List Char :=
  if c == quote || c == '\\' then ['\\', c]
  else if c == '\t' then ['\\', 't']
  else if c == '\n' then ['\\', 'n']
  else if c == '\r' then ['\\', 'r']
  else if isPrintable c then [c]
  else codeEscape c

/-- A text between quotes. -/
def quoted (cs : List Char) : List Char :=
  let quote := quoteOf cs
  quote :: cs.flatMap (quotedChar quote) ++ [quote]

end Text

/-- A string between quotes. -/
def quoted (s : String) : String := String.ofList (Text.quoted s.toList)

end SimTerm
