import Turnstile.Yaml.Token

/-!
# Documents

The structure that a text stands for. Anchors are numbered in the order in which they occur; an alias
names the occurrence it was written after.

* `Node`: a value in a document.
* `Document`: a root with the names of its anchors.
* `Document.anchored`: the nodes that carry an anchor.
-/

namespace Turnstile.Yaml

/-- A tag as written, and the name that its handle makes of it. -/
structure Tag where
  handle : String
  suffix : String
  name : String
  deriving DecidableEq, Repr

/-- What may be written before a node: an anchor and a tag. -/
structure Properties where
  anchor : Option Nat := none
  tag : Option Tag := none
  deriving DecidableEq, Repr

/-- A value in a document. -/
inductive Node where
  /-- A place where a value could stand, and none does. -/
  | absent
  | alias (anchor : Nat)
  | scalar (properties : Properties) (style : Style) (text : String)
  | sequence (properties : Properties) (items : List Node)
  /-- Keys and values in turn. -/
  | mapping (properties : Properties) (members : List Node)
  deriving Inhabited

/-- A document. -/
structure Document where
  root : Node
  /-- The names of the anchors in the order in which they occur. -/
  anchors : List String

mutual

/-- The nodes within a node that carry an anchor, with its number. -/
def Node.anchored : Node → List (Nat × Node)
  | .absent => []
  | .alias _ => []
  | .scalar p style text => p.anchor.toList.map fun n => (n, .scalar p style text)
  | .sequence p items =>
    (p.anchor.toList.map fun n => (n, .sequence p items)) ++ Node.anchoredAll items
  | .mapping p members =>
    (p.anchor.toList.map fun n => (n, .mapping p members)) ++ Node.anchoredAll members

/-- The nodes within several that carry an anchor. -/
def Node.anchoredAll : List Node → List (Nat × Node)
  | [] => []
  | n :: ns => n.anchored ++ Node.anchoredAll ns

end

/-- How many nodes a node holds, itself and the ends of collections included. -/
def Node.events : Node → Nat
  | .absent => 1
  | .alias _ => 1
  | .scalar _ _ _ => 1
  | .sequence _ items => 2 + eventsAll items
  | .mapping _ members => 2 + eventsAll members
where
  eventsAll : List Node → Nat
    | [] => 0
    | n :: ns => n.events + eventsAll ns

/-- The node that carries an anchor. -/
def Document.anchored? (d : Document) (anchor : Nat) : Option Node := d.root.anchored.lookup anchor

end Turnstile.Yaml
