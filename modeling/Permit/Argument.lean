import Permit.Refusal

/-!
# Loose arguments
-/

namespace Permit.Argument

/-- A viewer is an object, a list or nothing; what it holds is up to the rules. -/
def checkViewer (viewer : Option Json) : Except Refusal Unit :=
  match viewer with
  | none | some .null | some (.object _) | some (.array _) => .ok ()
  | other => .error (.invalidArgument .viewer (Kind.of other))

def text (argument : Argument) : Option Json → Except Refusal String
  | some (.string s) => .ok s
  | other => .error (.invalidArgument argument (Kind.of other))

end Permit.Argument
