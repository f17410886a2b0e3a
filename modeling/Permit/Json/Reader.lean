import Permit.Json.Basic

/-!
# Reading JSON text

Each reader takes the characters that are left and gives a value with the characters after it, or nothing when the text
is not well formed. Values nest no deeper than the text is long, which bounds the recursion.
-/

namespace Permit.Json.Reader

abbrev Step (α : Type) := List Char → Option (α × List Char)

def isGap (c : Char) : Bool := c = ' ' || c = '\t' || c = '\n' || c = '\r'

def skipGaps (cs : List Char) : List Char := cs.dropWhile isGap

def word : List Char → Step Unit
  | [], cs => some ((), cs)
  | w :: ws, c :: cs => if w = c then word ws cs else none
  | _ :: _, [] => none

def digitValue (c : Char) : Nat := c.toNat - '0'.toNat

def digits (cs : List Char) : Option (List Nat × List Char) :=
  match cs.takeWhile Char.isDigit with
  | [] => none
  | ds => some (ds.map digitValue, cs.dropWhile Char.isDigit)

def ofDigits (ds : List Nat) : Nat := ds.foldl (fun n d => n * 10 + d) 0

def fraction : Step (Option (List Nat))
  | '.' :: cs => (digits cs).map fun (ds, rest) => (some ds, rest)
  | cs => some (none, cs)

def exponent : Step (Option Int)
  | c :: cs =>
      if c = 'e' || c = 'E' then
        match cs with
        | '-' :: cs => (digits cs).map fun (ds, rest) => (some (-(ofDigits ds : Int)), rest)
        | '+' :: cs => (digits cs).map fun (ds, rest) => (some (ofDigits ds : Int), rest)
        | cs => (digits cs).map fun (ds, rest) => (some (ofDigits ds : Int), rest)
      else some (none, c :: cs)
  | [] => some (none, [])

/-- A number begins with a zero only if the zero is all of its whole part. -/
def number (cs : List Char) : Option (Number × List Char) := do
  let (negative, cs) := match cs with
    | '-' :: cs => (true, cs)
    | cs => (false, cs)
  let (whole, cs) ← digits cs
  if whole.head? = some 0 && 1 < whole.length then none
  let (fraction, cs) ← fraction cs
  let (exponent, cs) ← exponent cs
  let n ← Number.Literal.number? ⟨negative, whole, fraction, exponent⟩
  return (n, cs)

def hexValue? (c : Char) : Option Nat :=
  if '0' ≤ c && c ≤ '9' then some (c.toNat - '0'.toNat)
  else if 'a' ≤ c && c ≤ 'f' then some (c.toNat - 'a'.toNat + 10)
  else if 'A' ≤ c && c ≤ 'F' then some (c.toNat - 'A'.toNat + 10)
  else none

def hexUnit : Step Nat
  | a :: b :: c :: d :: rest => do
      let n := (← hexValue? a) * 4096 + (← hexValue? b) * 256 + (← hexValue? c) * 16 + (← hexValue? d)
      return (n, rest)
  | _ => none

/-- The character after a backslash and `u`; a high surrogate needs a low one after it. -/
def unicodeEscape (cs : List Char) : Option (Char × List Char) := do
  let (high, cs) ← hexUnit cs
  if 0xD800 ≤ high && high < 0xDC00 then
    let (_, cs) ← word ['\\', 'u'] cs
    let (low, cs) ← hexUnit cs
    if 0xDC00 ≤ low && low < 0xE000 then
      return (Char.ofNat (0x10000 + (high - 0xD800) * 0x400 + (low - 0xDC00)), cs)
    else none
  else if 0xDC00 ≤ high && high < 0xE000 then none
  else return (Char.ofNat high, cs)

/-- The characters up to the closing quote, last first in `done`. -/
def quotedRest : Nat → List Char → List Char → Option (String × List Char)
  | 0, _, _ => none
  | _ + 1, _, [] => none
  | fuel + 1, done, c :: cs =>
      if c = '\x22' then some (String.ofList done.reverse, cs)
      else if c.toNat < 0x20 then none
      else if c = '\\' then
        match cs with
        | '\x22' :: cs => quotedRest fuel ('\x22' :: done) cs
        | '\\' :: cs => quotedRest fuel ('\\' :: done) cs
        | '/' :: cs => quotedRest fuel ('/' :: done) cs
        | 'b' :: cs => quotedRest fuel ('\x08' :: done) cs
        | 'f' :: cs => quotedRest fuel ('\x0c' :: done) cs
        | 'n' :: cs => quotedRest fuel ('\n' :: done) cs
        | 'r' :: cs => quotedRest fuel ('\r' :: done) cs
        | 't' :: cs => quotedRest fuel ('\t' :: done) cs
        | 'u' :: cs => do
            let (c, cs) ← unicodeEscape cs
            quotedRest fuel (c :: done) cs
        | _ => none
      else quotedRest fuel (c :: done) cs

def string (cs : List Char) : Option (String × List Char) :=
  match cs with
  | '\x22' :: cs => quotedRest (cs.length + 1) [] cs
  | _ => none

mutual
def value : Nat → Step Json
  | 0, _ => none
  | fuel + 1, cs =>
      match skipGaps cs with
      | 'n' :: cs => (word ['u', 'l', 'l'] cs).map fun (_, rest) => (.null, rest)
      | 't' :: cs => (word ['r', 'u', 'e'] cs).map fun (_, rest) => (.bool true, rest)
      | 'f' :: cs => (word ['a', 'l', 's', 'e'] cs).map fun (_, rest) => (.bool false, rest)
      | '\x22' :: cs => (string ('\x22' :: cs)).map fun (s, rest) => (.string s, rest)
      | '[' :: cs =>
          match skipGaps cs with
          | ']' :: rest => some (.array [], rest)
          | cs => (items fuel cs).map fun (js, rest) => (.array js, rest)
      | '\x7b' :: cs =>
          match skipGaps cs with
          | '\x7d' :: rest => some (.object .nil, rest)
          | cs => (members fuel cs).map fun (ms, rest) => (ofMembers ms, rest)
      | cs => (number cs).map fun (n, rest) => (.number n, rest)

def items : Nat → Step (List Json)
  | 0, _ => none
  | fuel + 1, cs => do
      let (j, cs) ← value fuel cs
      match skipGaps cs with
      | ',' :: cs => (items fuel cs).map fun (js, rest) => (j :: js, rest)
      | ']' :: rest => some ([j], rest)
      | _ => none

def members : Nat → Step (List (String × Json))
  | 0, _ => none
  | fuel + 1, cs => do
      let (name, cs) ← string (skipGaps cs)
      let (_, cs) ← word [':'] (skipGaps cs)
      let (j, cs) ← value fuel cs
      match skipGaps cs with
      | ',' :: cs => (members fuel cs).map fun (ms, rest) => ((name, j) :: ms, rest)
      | '\x7d' :: rest => some ([(name, j)], rest)
      | _ => none
end

end Permit.Json.Reader

/-- The value that a whole text stands for, if it is well formed. -/
def Permit.Json.read? (text : String) : Option Permit.Json :=
  match Permit.Json.Reader.value (text.length + 1) text.toList with
  | some (j, rest) => if (Permit.Json.Reader.skipGaps rest).isEmpty then some j else none
  | none => none
