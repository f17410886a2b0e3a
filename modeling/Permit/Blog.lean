import Permit.Rule.Condition
import Permit.Table.Build

/-!
# The blog

A small model of permissions: everybody sees posts, whoever has an identity creates them, and the author edits them.
-/

namespace Permit.Blog

def owns : Condition := .equal (.property .viewer "id") (.property .entity "authorId")

def identified : Condition := .truthy (.property .viewer "id")

def editRule : Rule := .predicate (owns.predicate 0)

def createRule : Rule := .predicate (identified.predicate 1)

def table : Table :=
  Table.empty.build
    [.withRule "post" "edit" editRule, .withRule "post" "create" createRule, .withRule "post" "see" .allow]

def person (id : Nat) : Json := .object (.single "id" (.ofNat id))

def author : Json := person 2

def stranger : Json := person 3

def post : Subject := .entity "post" (.object (.single "authorId" (.ofNat 2)))

end Permit.Blog
