/-!
The program as it names itself: its name and its version, as the command line prints them and as a
caller of the library may ask for them.
-/

namespace CandidatePool.Product

def name : String := "icepool"

def version : String := "0.1.0"

/-- What the program is for, as its help says it. -/
def purpose : String := "Pre-warmed ICE candidate gathering session pool"

end CandidatePool.Product
