/-!
A relay is a server that carries traffic for peers that cannot reach each other.  It is described by
six fields and has a text form, which leaves the credentials out.  Not every description makes sense:
`Relay.fault?` names the first thing wrong with one, in the order address, port, security.
-/

namespace CandidatePool

inductive Transport where
  | udp
  | tcp
  | ssltcp
  | tls
deriving DecidableEq

namespace Transport

def word : Transport → String
  | .udp => "udp"
  | .tcp => "tcp"
  | .ssltcp => "ssltcp"
  | .tls => "tls"

/-- The transports, in the order in which they are usually listed. -/
def all : List Transport := [.udp, .tcp, .ssltcp, .tls]

/-- The transport that a word names.  Case counts. -/
def ofWord? (w : String) : Option Transport :=
  all.find? (·.word = w)

/-- Whether the transport carries a stream of bytes, as all but datagrams do. -/
def isStream : Transport → Bool
  | .udp => false
  | .tcp | .ssltcp | .tls => true

theorem ofWord?_word (t : Transport) : ofWord? t.word = some t := by
  cases t <;> decide

end Transport

structure Relay where
  address : String
  port : UInt16
  username : String := ""
  password : String := ""
  transport : Transport := .udp
  secure : Bool := false
deriving DecidableEq

inductive RelayFault where
  | emptyAddress
  | zeroPort (address : String)
  /-- Security is asked for over datagrams, which have none. -/
  | insecureTransport (address : String) (port : UInt16) (transport : Transport)
deriving DecidableEq

def RelayFault.message : RelayFault → String
  | .emptyAddress => "relay server address cannot be empty"
  | .zeroPort address => "relay server " ++ address ++ " has port 0"
  | .insecureTransport address port transport =>
    "relay server " ++ address ++ ":" ++ toString port.toNat ++ " is secure but uses "
      ++ transport.word

namespace Relay

/-- The scheme of a relay's text: one for plain and one for secured traffic. -/
def scheme (r : Relay) : String :=
  if r.secure then "turns" else "turn"

/-- The text of a relay.  The address stands in it as it is; name and password do not. -/
def text (r : Relay) : String :=
  r.scheme ++ ":" ++ r.address ++ ":" ++ toString r.port.toNat ++ "?transport=" ++ r.transport.word

/-- The first thing wrong with a relay, if anything is. -/
def fault? (r : Relay) : Option RelayFault :=
  if r.address = "" then some .emptyAddress
  else if r.port = 0 then some (.zeroPort r.address)
  else if r.secure ∧ ¬r.transport.isStream then
    some (.insecureTransport r.address r.port r.transport)
  else none

end Relay

end CandidatePool
