import PageHarvest.Yaml.Token

/-!
# The nodes of a YAML document

An alias names a node by a number, for a name may be given to several nodes in turn. `Document.scalar?` looks through
aliases.
-/

namespace PageHarvest.Yaml

/-- A scalar. Its tag is complete: the handle has been replaced. -/
structure Scalar where
  tag : Option Text
  style : Style
  text : Text
  deriving DecidableEq, Repr

/-- The scalar that stands where nothing is written. -/
def Scalar.empty : Scalar := ⟨none, .plain, []⟩

/-- A node. Tags mean nothing on a sequence or a mapping, so they are left out there. -/
inductive Node where
  | alias (number : Nat)
  | scalar (scalar : Scalar)
  | sequence (items : List Node)
  | mapping (entries : List (Node × Node))

/-- The node that stands where nothing is written. -/
def Node.empty : Node := .scalar .empty

/-- A document: its root, and what the numbers of its aliases stand for, `none` being a sequence or a mapping. -/
structure Document where
  root : Node
  targets : List (Nat × Option Scalar)

namespace Document

/-- The scalar that a node is or is an alias of. -/
def scalar? (d : Document) : Node → Option Scalar
  | .alias n => (d.targets.lookup n).join
  | .scalar s => some s
  | .sequence _ => none
  | .mapping _ => none

end Document

end PageHarvest.Yaml
