import Permit.Text.Printable

/-!
# Quoted text

Text between quotes: a backslash marks the quote, the backslash itself, the tab and the line ends; a character that
cannot be shown is written as its code point in hexadecimal.
-/

namespace Permit.Text

/-- The code point in lower case hexadecimal, between braces. -/
def escapedCodePoint (c : Char) : List Char :=
  ['\\', 'u', '\x7b'] ++ Nat.toDigits 16 c.toNat ++ ['\x7d']

/-- How one character is written between quotes of the kind `quote`. -/
def escaped (quote c : Char) : List Char :=
  if c = '\x00' then ['\\', '0']
  else if c = '\t' then ['\\', 't']
  else if c = '\n' then ['\\', 'n']
  else if c = '\r' then ['\\', 'r']
  else if c = '\\' || c = quote then ['\\', c]
  else if isAttaching c || !isPrintable c then escapedCodePoint c
  else [c]

def quotedWith (quote : Char) (cs : List Char) : String :=
  String.ofList (quote :: cs.flatMap (escaped quote) ++ [quote])

def quoted (s : String) : String := quotedWith '\x22' s.toList

def quotedChar (c : Char) : String := quotedWith '\x27' [c]

end Permit.Text
