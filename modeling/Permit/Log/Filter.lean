import Permit.Log.Directive

/-!
# Filters

A filter is a list of directives with commas between them. Of the directives that are about an event the most specific
one decides; a directive with a span is about what happens inside that span only, and never about an event outside.
-/

namespace Permit.Log

namespace Directive

def isStatic (d : Directive) : Bool := d.span.isNone

/-- An event is meant when its target begins with the target of the directive and it has all of its fields. -/
def isAbout (d : Directive) (target : String) (fields : List String) : Bool :=
  (match d.target with
    | none => true
    | some t => t.toList.isPrefixOf target.toList) &&
    d.fields.all fields.contains

/-- A longer target is more specific; no target is least. -/
def targetSize (d : Directive) : Nat :=
  match d.target with
  | none => 0
  | some t => t.utf8ByteSize + 1

/-- Whether `d` is at least as specific as `e`: by its target, then by the number of its fields, then by their names. -/
def outranks (d e : Directive) : Bool :=
  if d.targetSize == e.targetSize then
    if d.fields.length == e.fields.length then !d.fields.lex e.fields (fun a b => decide (a < b))
    else e.fields.length < d.fields.length
  else e.targetSize < d.targetSize

/-- Of two directives the more specific; the later of two that are equally specific. -/
def moreSpecific (best : Option Directive) (d : Directive) : Option Directive :=
  match best with
  | none => some d
  | some e => if d.outranks e then some d else some e

end Directive

structure Filter where
  directives : List Directive
deriving DecidableEq, Repr

namespace Filter

/-- The pieces between commas; empty ones do not count. -/
def pieces (text : String) : List (List Char) :=
  (text.toList.splitOnP (· = ',')).filter (!·.isEmpty)

def read (text : String) : Reading Filter := do
  let directives ← Reading.each Directive.read (pieces text)
  return ⟨directives⟩

/-- The most verbose threshold of all directives, even of one that another replaces. -/
def loudest (f : Filter) : Threshold := f.directives.foldl (fun t d => t.loudest d.threshold) .off

/-- The directive that decides about an event outside spans. -/
def deciding? (f : Filter) (target : String) (fields : List String) : Option Directive :=
  (f.directives.filter fun d => d.isStatic && d.isAbout target fields).foldl Directive.moreSpecific none

def enables (f : Filter) (level : Level) (target : String) (fields : List String) : Bool :=
  match f.deciding? target fields with
  | none => false
  | some d => d.threshold.admits level

end Filter

end Permit.Log
