/-!
# Cuts by byte offset

An offset counts the bytes of a text in UTF-8. It falls between two characters, or inside one; only in the first case
can the text be cut there.
-/

namespace Permit.Text

inductive Cut where
  | between (before after : List Char)
  | inside (first : Nat) (char : Char)

/-- Walks along the text; `passed` holds the characters before it, last first, and `first` their length in bytes. -/
def cutFrom (passed : List Char) (first : Nat) (offset : Nat) : List Char → Cut
  | [] => .between passed.reverse []
  | c :: rest =>
      if offset ≤ first then .between passed.reverse (c :: rest)
      else if offset < first + c.utf8Size then .inside first c
      else cutFrom (c :: passed) (first + c.utf8Size) offset rest

def cutAt (offset : Nat) (cs : List Char) : Cut := cutFrom [] 0 offset cs

inductive Edge where
  | start
  | stop
deriving DecidableEq, Repr

/-- A slice of `text` that cannot be taken because one of its ends falls inside a character. -/
structure Severed where
  edge : Edge
  offset : Nat
  first : Nat
  char : Char
  text : List Char
deriving DecidableEq, Repr

/-- The part of a text between two byte offsets; the start is looked at first. -/
def slice (text : List Char) (start stop : Nat) : Except Severed (List Char) :=
  match cutAt start text with
  | .inside first c => .error ⟨.start, start, first, c, text⟩
  | .between before _ =>
      match cutAt stop text with
      | .inside first c => .error ⟨.stop, stop, first, c, text⟩
      | .between whole _ => .ok (whole.drop before.length)

def sliceFrom (text : List Char) (start : Nat) : Except Severed (List Char) :=
  match cutAt start text with
  | .inside first c => .error ⟨.start, start, first, c, text⟩
  | .between _ after => .ok after

end Permit.Text
