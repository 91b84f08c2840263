import PointOfFocus.Data.Yaml.Node
import PointOfFocus.Data.Yaml.Scalar

/-!
# Reading YAML

The value of a YAML text. Values are made level by level from the root of the document, so of several faults the one
that is nearest to the root counts, and of those the first. Under the key `<<` a mapping takes over entries of other
mappings; its own entries count more than those.
-/

namespace PointOfFocus.Data.Yaml

/-- A value, or a fault with the level at which it was found. -/
abbrev Built (α : Type) := Except (Nat × ReadError) α

/-- The results of some parts, or the fault among theirs that counts. -/
def gather {α : Type} : List (Built α) → Built (List α)
  | [] => .ok []
  | .ok a :: rest => (gather rest).map (a :: ·)
  | .error e :: rest =>
    match gather rest with
    | .error e' => if e'.1 < e.1 then .error e' else .error e
    | .ok _ => .error e

/-! ### Entries that are taken over -/

/-- The tag of a node. -/
def Node.tag : Node → Tag
  | .scalar tag _ => tag
  | .sequence tag _ => tag
  | .mapping tag _ => tag

/-- The key of an entry as it is used: the sign for a value is a text there. -/
def Node.asKey : Node → Node
  | .scalar .value text => .scalar .str text
  | n => n

mutual

/-- The entries of a mapping: those that it takes over, then its own. -/
def flatten : Nat → List (Node × Node) → Except ReadError (List (Node × Node))
  | 0, _ => .error .malformed
  | bound + 1, entries => do
    let sources ← (entries.filter (·.1.tag = .merge)).mapM fun entry => taken bound entry.2
    let own := (entries.filter (·.1.tag ≠ .merge)).map fun entry => (entry.1.asKey, entry.2)
    return sources.flatten ++ own

/-- The entries that are taken over from a mapping or from several of them, of which an earlier one counts more. -/
def taken : Nat → Node → Except ReadError (List (Node × Node))
  | 0, _ => .error .malformed
  | bound + 1, .mapping _ entries => flatten bound entries
  | bound + 1, .sequence _ items => do
    let sources ← items.mapM fun
      | .mapping _ entries => flatten bound entries
      | _ => .error .malformed
    return sources.reverse.flatten
  | _ + 1, .scalar .. => .error .malformed

end

/-! ### Values -/

/-- The scalar that a node stands for where a scalar is needed: a mapping may have one under the sign for a value. -/
def scalarText? : Nat → Node → Option String
  | 0, _ => none
  | _ + 1, .scalar _ text => some text
  | bound + 1, .mapping _ entries => (entries.find? (·.1.tag = .value)).bind fun entry => scalarText? bound entry.2
  | _ + 1, .sequence .. => none

/-- Whether nodes of the tag stand for scalars. -/
def Tag.isScalar : Tag → Bool
  | .null | .bool | .int | .float | .binary | .timestamp | .str => true
  | _ => false

/-- A key, which is no collection. -/
def keyValue (level : Nat) (n : Node) : Built Value :=
  match n with
  | .scalar tag text => (scalarValue tag text).mapError (level, ·)
  | _ => .error (level, .malformed)

/-- Splits a list into pairs of neighbours. -/
def pairUp {α : Type} : List α → List (α × α)
  | a :: b :: rest => (a, b) :: pairUp rest
  | _ => []

/-- The value of a node at a level of the document. -/
def build : Nat → (level : Nat) → Node → Built Value
  | 0, level, _ => .error (level, .malformed)
  | bound + 1, level, n =>
    let fault : Built Value := .error (level, .malformed)
    let faultBelow : Built Value := .error (level + 1, .malformed)
    let parts := fun (entries : List (Node × Node)) =>
      gather (entries.flatMap fun entry => [keyValue (level + 1) entry.1, build bound (level + 1) entry.2])
    if n.tag.isScalar then
      match scalarText? (bound + 1) n with
      | some text => (scalarValue n.tag text).mapError (level, ·)
      | none => fault
    else
      match n.tag, n with
      | .seq, .sequence _ items => (gather (items.map (build bound (level + 1)))).map .list
      | .omap, .sequence _ items | .pairs, .sequence _ items => do
        let pairs ← items.mapM fun
          | .mapping _ [entry] => .ok entry
          | _ => .error (level + 1, .malformed)
        let values ← gather (pairs.flatMap fun entry =>
          [build bound (level + 1) entry.1, build bound (level + 1) entry.2])
        return .list ((pairUp values).map fun pair => .tuple [pair.1, pair.2])
      | .map, .mapping _ entries => do
        let entries ← (flatten bound entries).mapError (level + 1, ·)
        return .ofPairs (pairUp (← parts entries))
      | .set, .mapping _ entries => do
        let entries ← (flatten bound entries).mapError (level + 1, ·)
        let pairs := (pairUp (← parts entries)).foldl (fun known pair => Value.setPair known pair.1 pair.2) []
        return .set (pairs.map (·.1))
      | .other, _ | .merge, _ | .value, _ => fault
      | _, _ => faultBelow

/-- Reads the value of a text; a text without a document has none. -/
def read (cs : List Char) : Except ReadError Value := do
  match ← (Node.read cs).mapError .ofScan with
  | none => return .null
  | some root => (build (3 * cs.length + 6) 0 root).mapError (·.2)

end PointOfFocus.Data.Yaml
