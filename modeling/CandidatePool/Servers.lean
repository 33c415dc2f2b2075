import CandidatePool.Address.Set
import CandidatePool.Relay
/-!
The servers that sessions gather candidates from: a set of STUN addresses and a list of relays.  The
order of the addresses and their repetitions do not count, the order of the relays does.  Sessions
are bound to the servers they were made for, and the pool asks only one thing about two of these
values, whether they are equal.
-/

namespace CandidatePool

structure Servers where
  stun : AddressSet
  relays : List Relay
deriving DecidableEq

namespace Servers

def empty : Servers := ⟨.empty, []⟩

def ofLists (stun : List SocketAddress) (relays : List Relay) : Servers :=
  ⟨.ofList stun, relays⟩

def isEmpty (s : Servers) : Bool :=
  s.stun.members.isEmpty && s.relays.isEmpty

def relayTexts (s : Servers) : List String := s.relays.map (·.text)

end Servers

end CandidatePool
