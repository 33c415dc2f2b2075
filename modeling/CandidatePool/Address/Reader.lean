import CandidatePool.Address.Basic
import CandidatePool.Numeral
import CandidatePool.Text.Front
/-!
Reading addresses from their texts.  Each reader takes characters from the front of a text and
returns what it read with the rest, or nothing if the text does not start with such a thing; only
`SocketAddress.ofText?` asks that nothing be left.

More than the canonical text is read: zeros in front of a group, a port or a scope, capital digits,
two colons for any number of zero groups, and octets for the last two groups.  Octets themselves
have no leading zeros.
-/

namespace CandidatePool

open Numeral

/-! ### Hosts of four octets -/

namespace IPv4

/-- An octet: one to three digits, no zero in front of another digit, at most 255. -/
def readOctet? : Text.Reader UInt8 := fun text =>
  let digits := leading 10 text
  let n := ofDigits 10 digits
  if digits = [] ∨ 3 < digits.length ∨ (digits.head? = some '0' ∧ 1 < digits.length) ∨ 255 < n then
    none
  else some (.ofNat n, afterLeading 10 text)

def read? : Text.Reader IPv4 := fun text => do
  let (a, text) ← readOctet? text
  let text ← Text.after? '.' text
  let (b, text) ← readOctet? text
  let text ← Text.after? '.' text
  let (c, text) ← readOctet? text
  let text ← Text.after? '.' text
  let (d, text) ← readOctet? text
  return (⟨a, b, c, d⟩, text)

end IPv4

/-! ### Hosts of eight groups -/

namespace IPv6

/-- A group: one to four hexadecimal digits. -/
def readGroup? : Text.Reader UInt16 := fun text =>
  let digits := leading 16 text
  if digits = [] ∨ 4 < digits.length then none
  else some (.ofNat (ofDigits 16 digits), afterLeading 16 text)

/-- A row of groups at the front of a text. -/
structure Row where
  groups : List UInt16
  /-- Whether the last two groups were written as octets, which ends the row. -/
  dotted : Bool
  rest : List Char

/-- As many groups as there are, at most `room`, with colons between them.  Where two or more still
    fit, octets are tried before a group. -/
def readRow : (room : Nat) → (first : Bool) → List Char → Row
  | 0, _, text => ⟨[], false, text⟩
  | room + 1, first, text =>
    match if first then some text else Text.after? ':' text with
    | none => ⟨[], false, text⟩
    | some body =>
      match if room = 0 then none else IPv4.read? body with
      | some (host, rest) => ⟨host.groups, true, rest⟩
      | none =>
        match readGroup? body with
        | none => ⟨[], false, text⟩
        | some (group, rest) =>
          let row := readRow room false rest
          { row with groups := group :: row.groups }

/-- Eight groups, or fewer with two colons among them, which stand for at least one zero group.
    Octets may end the groups after the colons, or all eight, but not those before the colons. -/
def read? : Text.Reader IPv6 := fun text => do
  let head := readRow 8 true text
  if head.groups.length = 8 then
    return (← ofGroups? head.groups, head.rest)
  if head.dotted then
    none
  let rest ← Text.after? ':' head.rest
  let rest ← Text.after? ':' rest
  let tail := readRow (7 - head.groups.length) true rest
  let zeros := List.replicate (8 - head.groups.length - tail.groups.length) 0
  return (← ofGroups? (head.groups ++ zeros ++ tail.groups), tail.rest)

end IPv6

/-! ### Addresses with a port -/

namespace SocketAddress

/-- A port is all that is left of a text: digits, any number of zeros in front, at most 65535. -/
def port? (text : List Char) : Option UInt16 := do
  let n ← value? 10 text
  if n ≤ 65535 then some (.ofNat n) else none

/-- The scope of a host, where the text goes on with one; otherwise scope 0. -/
def readScope? : Text.Reader UInt32
  | '%' :: text => do
    let n ← value? 10 (leading 10 text)
    if n ≤ 4294967295 then some (.ofNat n, afterLeading 10 text) else none
  | text => some (0, text)

def ofText4? (text : List Char) : Option SocketAddress := do
  let (host, text) ← IPv4.read? text
  let text ← Text.after? ':' text
  return .v4 host (← port? text)

def ofText6? (text : List Char) : Option SocketAddress := do
  let text ← Text.after? '[' text
  let (host, text) ← IPv6.read? text
  let (scope, text) ← readScope? text
  let text ← Text.after? ']' text
  let text ← Text.after? ':' text
  return .v6 host scope (← port? text)

/-- The address that a whole text stands for. -/
def ofText? (text : String) : Option SocketAddress :=
  ofText4? text.toList <|> ofText6? text.toList

end SocketAddress

end CandidatePool
