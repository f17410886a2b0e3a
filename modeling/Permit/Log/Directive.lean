import Permit.Log.Level
import Permit.Text.Alphanumeric
import Permit.Text.Blank
import Permit.Text.Cut

/-!
# Filter directives

A directive says up to which level events are shown: `target[span\x7bfield\x7d]=level`, each part optional. It is scanned
along the text without the white space at its ends, but the parts are cut out of the whole text at the byte offsets that
the scan found; an offset may then fall inside a character, and the part is severed.
-/

namespace Permit.Log

/-- A directive as it is read. Each field is kept as the text between its braces. The value in `{name=value}` is not read,
so neither an invalid value nor its effect on the loudest level is modelled. -/
structure Directive where
  target : Option String
  span : Option String
  fields : List String
  threshold : Threshold
deriving DecidableEq, Repr

inductive Fault where
  | malformed
  | badLevel
deriving DecidableEq, Repr

def Fault.message : Fault → String
  | .malformed => "invalid filter directive"
  | .badLevel =>
      "error parsing level filter: expected one of \"off\", \"error\", \"warn\", \"info\", \"debug\", \"trace\", " ++
        "or a number 0-5"

inductive Reading (α : Type) where
  | accepted (value : α)
  | rejected (fault : Fault)
  | severed (cut : Text.Severed)

namespace Reading

variable {α β : Type}

def bind : Reading α → (α → Reading β) → Reading β
  | .accepted a, f => f a
  | .rejected fault, _ => .rejected fault
  | .severed cut, _ => .severed cut

instance : Monad Reading where
  pure := .accepted
  bind := Reading.bind

def ofSlice : Except Text.Severed (List Char) → Reading String
  | .ok cs => .accepted (String.ofList cs)
  | .error cut => .severed cut

/-- Reads the items of a list; the first that is not accepted decides. -/
def each (read : β → Reading α) : List β → Reading (List α)
  | [] => .accepted []
  | b :: bs => do
      let a ← read b
      let as ← each read bs
      return a :: as

end Reading

namespace Threshold

/-- A decimal number, with an optional plus in front. -/
def number? (cs : List Char) : Option Nat :=
  let digits := match cs with
    | '+' :: rest => rest
    | cs => cs
  if digits.isEmpty || !digits.all Char.isDigit then none
  else some (digits.foldl (fun n c => n * 10 + (c.toNat - '0'.toNat)) 0)

/-- A threshold is written as its place on the ladder or by its name in any case; no text at all stands for errors. -/
def read? (text : String) : Option Threshold :=
  match (number? text.toList).bind (ladder[·]?) with
  | some t => some t
  | none =>
      if text.isEmpty then some (.upTo .error)
      else ladder.find? fun t => t.name.toList = text.toList.map Char.toLower

end Threshold

/-- Where the scan stands; offsets count bytes from the start of the scanned text. -/
inductive ScanState where
  | start
  | levelOrTarget
  | span (first : Nat)
  | field (first : Nat)
  | fields
  | target
  | level (first : Nat)
deriving DecidableEq, Repr

namespace Directive

/-- A directive before its parts are known: all levels of everything. -/
def whole : Directive := ⟨none, none, [], .upTo .trace⟩

def startsTarget (c : Char) : Bool := c = '-' || c = ':' || c = '_' || Text.isAlphanumeric c

/-- One step of the scan of `text`: the character `c` stands at the byte offset `at_`. -/
def scanChar (text : List Char) (d : Directive) (state : ScanState) (at_ : Nat) (c : Char) :
    Reading (Directive × ScanState) :=
  match state with
  | .start =>
      if c = '[' then .accepted (d, .span (at_ + 1))
      else if startsTarget c then .accepted (d, .levelOrTarget)
      else .rejected .malformed
  | .levelOrTarget =>
      if c = '=' then do
        let target ← Reading.ofSlice (Text.slice text 0 at_)
        return ({ d with target := some target }, .level (at_ + 1))
      else if c = '[' then do
        let target ← Reading.ofSlice (Text.slice text 0 at_)
        return ({ d with target := some target }, .span (at_ + 1))
      else .accepted (d, .levelOrTarget)
  | .span first =>
      if c = ']' then do
        let span ← Reading.ofSlice (Text.slice text first at_)
        return ({ d with span := some span }, .target)
      else if c = '\x7b' then do
        let span ← Reading.ofSlice (Text.slice text first at_)
        return ({ d with span := if span.isEmpty then none else some span }, .field (at_ + 1))
      else .accepted (d, .span first)
  | .field first =>
      if c = '\x7d' then do
        let field ← Reading.ofSlice (Text.slice text first at_)
        if field.isEmpty then .rejected .malformed
        else return ({ d with fields := d.fields ++ [field] }, .fields)
      else .accepted (d, .field first)
  | .fields => if c = ']' then .accepted (d, .target) else .rejected .malformed
  | .target => if c = '=' then .accepted (d, .level (at_ + 1)) else .rejected .malformed
  | .level first => .accepted (d, .level first)

/-- Scans the characters from the byte offset `at_` on. -/
def scan (text : List Char) (d : Directive) (state : ScanState) (at_ : Nat) : List Char → Reading (Directive × ScanState)
  | [] => .accepted (d, state)
  | c :: cs => do
      let (d, state) ← scanChar text d state at_ c
      scan text d state (at_ + c.utf8Size) cs

def finish (text : List Char) (d : Directive) : ScanState → Reading Directive
  | .levelOrTarget =>
      match Threshold.read? (String.ofList text) with
      | some threshold => .accepted { d with threshold }
      | none => .accepted { d with target := some (String.ofList text) }
  | .level first => do
      let level ← Reading.ofSlice (Text.sliceFrom text first)
      if level.isEmpty then return d
      else match Threshold.read? level with
        | some threshold => return { d with threshold }
        | none => .rejected .badLevel
  | .target => .accepted d
  | _ => .rejected .malformed

def read (text : List Char) : Reading Directive := do
  let (d, state) ← scan text whole .start 0 (Text.trim text)
  finish text d state

end Directive

end Permit.Log
