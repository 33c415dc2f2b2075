import CandidatePool.Servers
/-!
The settings of a pool, as someone writes them down: the size it should have, STUN addresses and
relays.  The addresses are kept as a list, in the order in which they were written and with their
repetitions; only `Settings.servers` makes a set of them.
-/

namespace CandidatePool

/-- What a settings text says.  A text may leave out any part. -/
structure Settings where
  poolSize : Int32 := 0
  stun : List SocketAddress := []
  relays : List Relay := []
deriving DecidableEq

namespace Settings

def servers (s : Settings) : Servers := .ofLists s.stun s.relays

/-- The first thing wrong with the settings: the fault of the first relay that has one. -/
def fault? (s : Settings) : Option RelayFault := s.relays.findSome? Relay.fault?

end Settings

end CandidatePool
