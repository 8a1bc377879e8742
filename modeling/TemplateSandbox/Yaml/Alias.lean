/-
# Aliases in a YAML tree

`Node.followAliases` puts the nodes meant in place of the aliases. An alias may
stand inside the node that it means, so it is followed only as deep as a policy
reaches: an alias for a field, one for an entry of it and one for an element of
that. Past that stands a cut, where no policy looks.

Reading a document may follow a hundred aliases for each of its events; counted
in the order of reading, an alias past these is a cut too (`Node.limit`). Nodes
that are meant more than once are shared, and each mention keeps the number of
aliases in it, so neither step takes longer for a tree that would be huge.
-/

import TemplateSandbox.Yaml.Node

namespace TemplateSandbox
namespace Yaml
namespace Node

mutual

/-- The numbered nodes in a tree, in the order of the text. -/
def numbered : Node → List (Nat × Node)
  | .cut | .aliasTo _ | .mention .. => []
  | .scalar n tag style text => n.toList.map fun n => (n, .scalar (some n) tag style text)
  | .sequence n tag items =>
    (n.toList.map fun n => (n, .sequence (some n) tag items)) ++ numberedItems items
  | .mapping n tag entries =>
    (n.toList.map fun n => (n, .mapping (some n) tag entries)) ++ numberedEntries entries

/-- The numbered nodes in some trees. -/
def numberedItems : List Node → List (Nat × Node)
  | [] => []
  | node :: rest => numbered node ++ numberedItems rest

/-- The numbered nodes in the entries of a mapping. -/
def numberedEntries : List (Node × Node) → List (Nat × Node)
  | [] => []
  | (key, value) :: rest => numbered key ++ numbered value ++ numberedEntries rest

end

mutual

/-- The number of events that a tree stands for: one for a scalar or an alias, two for a
collection, one less where it breaks off. -/
def events : Node → Nat
  | .cut | .mention .. => 0
  | .aliasTo _ | .scalar .. => 1
  | .sequence _ _ items => 1 + eventsOfItems items
  | .mapping _ _ entries => 1 + eventsOfEntries entries

/-- The number of events of the elements of a sequence and of its end. -/
def eventsOfItems : List Node → Nat
  | [] => 1
  | [.cut] => 0
  | node :: rest => events node + eventsOfItems rest

/-- The number of events of the entries of a mapping and of its end. -/
def eventsOfEntries : List (Node × Node) → Nat
  | [] => 1
  | [(.cut, .cut)] => 0
  | (key, value) :: rest => events key + events value + eventsOfEntries rest

end

mutual

/-- The number of aliases that are followed to read all of a tree. -/
def jumps : Node → Nat
  | .mention n _ => n
  | .cut | .aliasTo _ | .scalar .. => 0
  | .sequence _ _ items => jumpsOfItems items
  | .mapping _ _ entries => jumpsOfEntries entries

/-- The number of aliases that are followed to read some trees. -/
def jumpsOfItems : List Node → Nat
  | [] => 0
  | node :: rest => jumps node + jumpsOfItems rest

/-- The number of aliases that are followed to read the entries of a mapping. -/
def jumpsOfEntries : List (Node × Node) → Nat
  | [] => 0
  | (key, value) :: rest => jumps key + jumps value + jumpsOfEntries rest

end

/-- A node as it is reached through an alias. -/
def mentioned (node : Node) : Node := .mention (node.jumps + 1) node

mutual

/-- Puts the nodes meant in place of the aliases of a tree. -/
def follow (meant : Nat → Node) : Node → Node
  | .aliasTo n => mentioned (meant n)
  | .sequence n tag items => .sequence n tag (followItems meant items)
  | .mapping n tag entries => .mapping n tag (followEntries meant entries)
  | node => node

/-- Puts the nodes meant in place of the aliases of some trees. -/
def followItems (meant : Nat → Node) : List Node → List Node
  | [] => []
  | node :: rest => follow meant node :: followItems meant rest

/-- Puts the nodes meant in place of the aliases of the entries of a mapping. -/
def followEntries (meant : Nat → Node) : List (Node × Node) → List (Node × Node)
  | [] => []
  | (key, value) :: rest => (follow meant key, follow meant value) :: followEntries meant rest

end

/-- The node with a number in a table. -/
def lookUp (table : List (Nat × Node)) (n : Nat) : Node := (List.lookup n table).getD .cut

/-- The nodes of a table, with their own aliases followed `depth` deep. -/
def followTable (table : List (Nat × Node)) : (depth : Nat) → List (Nat × Node)
  | 0 => []
  | depth + 1 =>
    let deeper := followTable table depth
    table.map fun entry => (entry.1, follow (lookUp deeper) entry.2)

mutual

/-- A tree in which at most `stock` aliases are followed, and what is left of the stock. -/
def limit (stock : Nat) : Node → Node × Nat
  | .mention n node =>
    if n ≤ stock then (.mention n node, stock - n)
    else if stock = 0 then (.cut, 0)
    else (.mention n (limit (stock - 1) node).1, 0)
  | .sequence n tag items =>
    let r := limitItems stock items
    (.sequence n tag r.1, r.2)
  | .mapping n tag entries =>
    let r := limitEntries stock entries
    (.mapping n tag r.1, r.2)
  | node => (node, stock)

/-- Limits the aliases followed in some trees. -/
def limitItems (stock : Nat) : List Node → List Node × Nat
  | [] => ([], stock)
  | node :: rest =>
    let first := limit stock node
    let others := limitItems first.2 rest
    (first.1 :: others.1, others.2)

/-- Limits the aliases followed in the entries of a mapping. -/
def limitEntries (stock : Nat) : List (Node × Node) → List (Node × Node) × Nat
  | [] => ([], stock)
  | (key, value) :: rest =>
    let k := limit stock key
    let v := limit k.2 value
    let others := limitEntries v.2 rest
    ((k.1, v.1) :: others.1, others.2)

end

/-- How many aliases lie on the way to the innermost text of a policy. -/
def policyDepth : Nat := 3

/-- A tree with its aliases followed; of two nodes with one number the later one is meant. -/
def followAliases (root : Node) : Node :=
  let table := followTable root.numbered.reverse policyDepth
  (limit (100 * root.events) (follow (lookUp table) root)).1

end Node
end Yaml
end TemplateSandbox
