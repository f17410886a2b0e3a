import Permit.Argument
import Permit.Subject

/-!
# Which loose arguments are accepted

The readers of loose arguments, said by the kinds of the values that they are given.
-/

namespace Permit

def Kind.scalars : List Kind := [.boolean, .number, .string]

/-- The kinds that neither name a type nor hold members. -/
def Kind.typeless : List Kind := [.undefined, .null, .boolean, .number]

theorem Kind.of_eq_string {v : Option Json} : Kind.of v = .string ↔ ∃ s, v = some (.string s) := by
  match v with
  | none => simp [Kind.of]
  | some j => cases j <;> simp [Kind.of]

namespace Argument

theorem checkViewer_of_scalar {viewer : Option Json} (h : Kind.of viewer ∈ Kind.scalars) :
    checkViewer viewer = .error (.invalidArgument .viewer (Kind.of viewer)) := by
  match viewer with
  | none => simp [Kind.of, Kind.scalars] at h
  | some j => cases j <;> first | rfl | simp [Kind.of, Kind.scalars] at h

theorem checkViewer_eq_ok {viewer : Option Json} : checkViewer viewer = .ok () ↔ Kind.of viewer ∉ Kind.scalars := by
  match viewer with
  | none => simp [checkViewer, Kind.of, Kind.scalars]
  | some j => cases j <;> simp [checkViewer, Kind.of, Kind.scalars]

theorem checkViewer_cases (viewer : Option Json) :
    checkViewer viewer = .ok () ∨ checkViewer viewer = .error (.invalidArgument .viewer (Kind.of viewer)) := by
  by_cases h : Kind.of viewer ∈ Kind.scalars
  · exact .inr (checkViewer_of_scalar h)
  · exact .inl (checkViewer_eq_ok.mpr h)

theorem text_of_kind {argument : Argument} {v : Option Json} (h : Kind.of v ≠ .string) :
    argument.text v = .error (.invalidArgument argument (Kind.of v)) := by
  match v with
  | none => rfl
  | some j => cases j <;> first | rfl | exact absurd rfl h

end Argument

namespace Subject

/-- A loose subject names a type, and has an entity or none. -/
inductive Names : Option Json → String → Option Json → Prop where
  | bare (type : String) : Names (some (.string type)) type none
  | member (type : String) (entity : Json) : Names (some (.object (.single type entity))) type (some entity)
  | item (entity : Json) : Names (some (.array [entity])) "0" (some entity)

/-- How many members a loose subject has, if it is of a kind that holds members. -/
def members? : Option Json → Option Nat
  | some (.object members) => some members.size
  | some (.array items) => some items.length
  | _ => none

theorem decode_of_names {v : Option Json} {type : String} {entity : Option Json} (h : Names v type entity) :
    decode v = .ok (.of type entity) := by
  cases h <;> rfl

theorem decode_of_typeless {v : Option Json} (h : Kind.of v ∈ Kind.typeless) :
    decode v = .error (.invalidArgument .subject (Kind.of v)) := by
  match v with
  | none => rfl
  | some j => cases j <;> first | rfl | simp [Kind.of, Kind.typeless] at h

theorem decode_of_members {v : Option Json} {n : Nat} (h : members? v = some n) (hn : n ≠ 1) :
    decode v = .error (.invalidShape n) := by
  match v with
  | none => simp [members?] at h
  | some (.object (.single _ _)) | some (.array [_]) => exact absurd (Option.some.inj h).symm hn
  | some (.object .nil) | some (.array []) => obtain rfl := Option.some.inj h; rfl
  | some (.object (.cons _ _ (.cons _ _ _ _) _)) | some (.array (_ :: _ :: _)) => obtain rfl := Option.some.inj h; rfl
  | some .null | some (.bool _) | some (.number _) | some (.string _) => simp [members?] at h

/-- A loose subject has the wrong kind, or the wrong number of members, or names a type. -/
theorem decode_cases (v : Option Json) :
    Kind.of v ∈ Kind.typeless ∨ (∃ n, members? v = some n ∧ n ≠ 1) ∨ ∃ type entity, Names v type entity := by
  match v with
  | none | some .null | some (.bool _) | some (.number _) => simp [Kind.of, Kind.typeless]
  | some (.string type) => exact .inr (.inr ⟨type, none, .bare type⟩)
  | some (.object (.single type value)) => exact .inr (.inr ⟨type, some value, .member type value⟩)
  | some (.array [value]) => exact .inr (.inr ⟨"0", some value, .item value⟩)
  | some (.object .nil) | some (.array []) => exact .inr (.inl ⟨0, rfl, by decide⟩)
  | some (.object (.cons _ _ (.cons _ _ rest _) _)) => exact .inr (.inl ⟨rest.size + 2, rfl, by omega⟩)
  | some (.array (_ :: _ :: rest)) => exact .inr (.inl ⟨rest.length + 2, rfl, by omega⟩)

end Subject

end Permit
