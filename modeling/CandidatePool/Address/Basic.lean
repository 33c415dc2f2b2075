/-!
Network addresses with a port, of both families.  A host of the older family is four octets, one of
the newer family eight groups of sixteen bits; an address of the newer family may also name the
scope in which it holds.  Two addresses are equal when all their parts are, so a host of the older
family differs from the same host mapped into the newer one.

Of the two numbers that an address of the newer family has beside its host and port, only the scope
stands here.  The other, the flow information, has no place in a text, so it is zero in every address
that is read, and no two of them differ in it.

The text of an address is canonical: lower case, no needless zeros, and the longest run of zero
groups written as two colons.
-/

namespace CandidatePool

/-! ### Hosts of four octets -/

/-- A host of the older family. -/
structure IPv4 where
  a : UInt8
  b : UInt8
  c : UInt8
  d : UInt8
deriving DecidableEq

namespace IPv4

def octets (h : IPv4) : List UInt8 := [h.a, h.b, h.c, h.d]

/-- The octets in decimal, joined by points. -/
def text (h : IPv4) : String :=
  ".".intercalate (h.octets.map fun o => toString o.toNat)

/-- The two groups that the octets fill when they end a host of the newer family. -/
def groups (h : IPv4) : List UInt16 :=
  [h.a.toUInt16 <<< 8 ||| h.b.toUInt16, h.c.toUInt16 <<< 8 ||| h.d.toUInt16]

/-- The host whose octets fill two groups. -/
def ofGroups (g₁ g₂ : UInt16) : IPv4 :=
  ⟨(g₁ >>> 8).toUInt8, g₁.toUInt8, (g₂ >>> 8).toUInt8, g₂.toUInt8⟩

end IPv4

/-! ### Hosts of eight groups -/

structure IPv6 where
  groups : List UInt16
  eight : groups.length = 8
deriving DecidableEq

namespace IPv6

/-- The host of a list of groups, if there are eight. -/
def ofGroups? (groups : List UInt16) : Option IPv6 :=
  if h : groups.length = 8 then some ⟨groups, h⟩ else none

/-- The host of the older family that is mapped to this one, if one is. -/
def mapped? (h : IPv6) : Option IPv4 :=
  match h.groups with
  | [0, 0, 0, 0, 0, 0xffff, g₁, g₂] => some (.ofGroups g₁ g₂)
  | _ => none

/-- A group in hexadecimal, without leading zeros. -/
def groupText (g : UInt16) : String :=
  String.ofList (Nat.toDigits 16 g.toNat)

def groupsText (gs : List UInt16) : String :=
  ":".intercalate (gs.map groupText)

/-- How many zero groups stand in a row from a place on. -/
def zerosFrom (gs : List UInt16) (start : Nat) : Nat :=
  ((gs.drop start).takeWhile (· = 0)).length

/-- Where the longest run of zero groups starts; of equally long ones, the first. -/
def longestZeros (gs : List UInt16) : Nat :=
  (List.range gs.length).foldl
    (fun best i => if zerosFrom gs best < zerosFrom gs i then i else best) 0

/-- The text of a host: a mapped one ends in decimal octets, any other has its longest run of at
    least two zero groups written as two colons. -/
def text (h : IPv6) : String :=
  match h.mapped? with
  | some host => "::ffff:" ++ host.text
  | none =>
    let start := longestZeros h.groups
    let count := zerosFrom h.groups start
    if 1 < count then
      groupsText (h.groups.take start) ++ "::" ++ groupsText (h.groups.drop (start + count))
    else groupsText h.groups

end IPv6

/-! ### Addresses with a port -/

/-- A host and a port; on the newer family also a scope, zero when none is named. -/
inductive SocketAddress where
  | v4 (host : IPv4) (port : UInt16)
  | v6 (host : IPv6) (scope : UInt32) (port : UInt16)
deriving DecidableEq

/-- The text of an address.  A host of the newer family stands in brackets. -/
def SocketAddress.text : SocketAddress → String
  | .v4 host port => host.text ++ ":" ++ toString port.toNat
  | .v6 host scope port =>
    let zone := if scope = 0 then "" else "%" ++ toString scope.toNat
    "[" ++ host.text ++ zone ++ "]:" ++ toString port.toNat

end CandidatePool
