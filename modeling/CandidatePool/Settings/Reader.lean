import CandidatePool.Address.Reader
import CandidatePool.Settings.Basic
import CandidatePool.Toml.Document
/-!
Settings from their TOML text.  The text has one table that matters, `allocator`; keys that no rule
below names are passed over.  Nothing is converted: a number is never read from a string or the
other way round, a number that does not fit is refused, and one bad entry refuses the whole text.

A record (the settings, a relay) may be written in two ways, as a table of its fields by name or as
an array of its fields in their order, where those at the end may be missing and more may follow.  A
date also passes for a record, one that has none of the fields.
-/

namespace CandidatePool

open Toml

/-! ### Records -/

namespace Toml.Node

/-- The items of an array, however it was written. -/
def items? : Node → Option (List Node)
  | .array items => some items
  | .tables elements => some (elements.map (.table .declared))
  | _ => none

/-- How the fields of a record are found: by a place or a name. -/
def record? : Node → Option (Nat → String → Option Node)
  | .table _ entries => some fun _ name => Table.find? entries name
  | .dateTime _ => some fun _ _ => none
  | node => node.items?.map fun items place _ => items[place]?

end Toml.Node

/-- The field of a record, which may be missing. -/
def optionalField {α : Type} (read? : Node → Option α) (missing : α) : Option Node → Option α
  | none => some missing
  | some node => read? node

/-! ### Simple fields -/

def readText? : Node → Option String
  | .string s => some s
  | _ => none

def readFlag? : Node → Option Bool
  | .boolean b => some b
  | _ => none

def readPort? : Node → Option UInt16
  | .integer n => if 0 ≤ n ∧ n ≤ 65535 then some (.ofNat n.toNat) else none
  | _ => none

def readSize? : Node → Option Int32
  | .integer n => if -2147483648 ≤ n ∧ n ≤ 2147483647 then some (.ofInt n) else none
  | _ => none

def readAddress? : Node → Option SocketAddress
  | .string s => SocketAddress.ofText? s
  | _ => none

/-- Whether a node holds nothing: an empty table or an empty array. -/
def holdsNothing : Node → Bool
  | .table _ entries => entries.isEmpty
  | .array items => items.isEmpty
  | .tables elements => elements.isEmpty
  | _ => false

/-- A transport, from its word or from a table whose one key is the word and holds nothing. -/
def readTransport? : Node → Option Transport
  | .string s => Transport.ofWord? s
  | .table _ [(word, node)] => if holdsNothing node then Transport.ofWord? word else none
  | _ => none

def readList? {α : Type} (read? : Node → Option α) (node : Node) : Option (List α) := do
  (← node.items?).mapM read?

/-! ### Relays and settings -/

/-- A relay.  Address and port must be there. -/
def Relay.ofNode? (node : Node) : Option Relay := do
  let field ← node.record?
  return {
    address := ← readText? (← field 0 "address")
    port := ← readPort? (← field 1 "port")
    username := ← optionalField readText? "" (field 2 "username")
    password := ← optionalField readText? "" (field 3 "password")
    transport := ← optionalField readTransport? .udp (field 4 "protocol")
    secure := ← optionalField readFlag? false (field 5 "secure") }

namespace Settings

def ofNode? (node : Node) : Option Settings := do
  let field ← node.record?
  return {
    poolSize := ← optionalField readSize? 0 (field 0 "candidate_pool_size")
    stun := ← optionalField (readList? readAddress?) [] (field 1 "stun_servers")
    relays := ← optionalField (readList? Relay.ofNode?) [] (field 2 "turn_servers") }

def ofTable? (t : Table) : Option Settings :=
  optionalField ofNode? {} (t.find? "allocator")

def parse? (text : String) : Option Settings := do
  ofTable? (← Table.ofText? text)

end Settings

end CandidatePool
