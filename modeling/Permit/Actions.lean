import Permit.Refusal

/-!
# Actions

A rule is defined for one action or for a list of them. A list keeps its order and its repetitions, and a list of one
name is not the same as the name.
-/

namespace Permit

inductive Actions where
  | one (name : String)
  | many (names : List String)
deriving DecidableEq, Repr

namespace Actions

def names : Actions → List String
  | .one name => [name]
  | .many names => names

def size (a : Actions) : Nat := a.names.length

/-- The texts of a list; the first item that is not a text is blamed. -/
def decodeNames : List Json → Except Refusal (List String)
  | [] => .ok []
  | .string name :: rest => (decodeNames rest).map (name :: ·)
  | other :: _ => .error (.invalidArgument .actions (Kind.of (some other)))

def decode : Option Json → Except Refusal Actions
  | some (.string name) => .ok (.one name)
  | some (.array items) => (decodeNames items).map .many
  | other => .error (.invalidArgument .actions (Kind.of other))

def encode : Actions → Json
  | .one name => .string name
  | .many names => .array (names.map .string)

theorem decodeNames_map (names : List String) : decodeNames (names.map .string) = .ok names := by
  induction names with
  | nil => rfl
  | cons n ns ih => simp [decodeNames, ih, Except.map]

@[simp] theorem decode_encode (a : Actions) : decode (some a.encode) = .ok a := by
  cases a with
  | one name => rfl
  | many names => simp [encode, decode, decodeNames_map, Except.map]

end Actions

end Permit
