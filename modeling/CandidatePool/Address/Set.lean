import CandidatePool.Address.Basic
/-!
Sets of addresses.  A set is kept as the list of its members in the order of their texts, without
repetitions, so that two sets are equal exactly when they have the same members, whatever the order
in which those came, and a set is listed the same way every time.
-/

namespace CandidatePool

/-- Puts an address in its place among ordered ones, unless it stands there already. -/
def SocketAddress.insertOrdered (a : SocketAddress) : List SocketAddress → List SocketAddress
  | [] => [a]
  | b :: rest =>
    if a.text < b.text then a :: b :: rest
    else if b.text < a.text then b :: a.insertOrdered rest
    else b :: rest

/-- The order of addresses by their texts. -/
def SocketAddress.Before (a b : SocketAddress) : Prop :=
  a.text < b.text

theorem SocketAddress.mem_of_mem_insertOrdered {a x : SocketAddress} {l : List SocketAddress}
    (h : x ∈ a.insertOrdered l) : x = a ∨ x ∈ l := by
  induction l with
  | nil => simpa [insertOrdered] using h
  | cons b rest ih =>
    unfold insertOrdered at h
    split at h
    · simpa using h
    · split at h
      · rcases List.mem_cons.1 h with h | h
        · exact .inr (h ▸ List.mem_cons_self)
        · exact (ih h).imp_right (List.mem_cons_of_mem b)
      · exact .inr h

theorem SocketAddress.pairwise_insertOrdered {a : SocketAddress} {l : List SocketAddress}
    (h : l.Pairwise Before) : (a.insertOrdered l).Pairwise Before := by
  induction l with
  | nil => simp [insertOrdered]
  | cons b rest ih =>
    have hb := List.pairwise_cons.1 h
    unfold insertOrdered
    split
    · rename_i hab
      refine List.pairwise_cons.2 ⟨fun x hx => ?_, h⟩
      rcases List.mem_cons.1 hx with rfl | hx
      · exact hab
      · exact String.lt_trans hab (hb.1 x hx)
    · split
      · rename_i hba
        refine List.pairwise_cons.2 ⟨fun x hx => ?_, ih hb.2⟩
        rcases mem_of_mem_insertOrdered hx with rfl | hx
        · exact hba
        · exact hb.1 x hx
      · exact h

structure AddressSet where
  members : List SocketAddress
  ordered : members.Pairwise SocketAddress.Before
deriving DecidableEq

namespace AddressSet

def empty : AddressSet := ⟨[], .nil⟩

/-- The set with one more member, unless it is one already. -/
def insert (s : AddressSet) (a : SocketAddress) : AddressSet :=
  ⟨a.insertOrdered s.members, SocketAddress.pairwise_insertOrdered s.ordered⟩

def ofList (addresses : List SocketAddress) : AddressSet :=
  addresses.foldl insert empty

def size (s : AddressSet) : Nat := s.members.length

def texts (s : AddressSet) : List String := s.members.map (·.text)

end AddressSet

end CandidatePool
