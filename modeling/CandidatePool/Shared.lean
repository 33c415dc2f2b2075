import CandidatePool.Allocator.Request
/-!
An allocator shared by several handles.  Whatever is asked through a handle, the one allocator
serves, and one request is served after the other.  Handles can be cloned and closed at any time;
when the last one closes, the allocator is given up.

Tasks that claim at the same moment get their turn in some order.  Each claims once, so a race is a
list of claims, and only which task gets which session hangs on the order.
-/

namespace CandidatePool

/-- The allocator, its factory as it is now, the sessions that the allocator has stopped, and for
    each handle whether it is open, in the order in which the handles were made. -/
structure Shared (σ : Type := FactoryCounters) where
  allocator : Allocator := {}
  factory : σ
  /-- The sessions stopped, in order, as they were then. -/
  stopped : List PooledSession := []
  handles : List Bool := [true]

/-- A plan stands for its factory. -/
instance : Coe FactoryPlan (Factory FactoryCounters) := ⟨FactoryPlan.factory⟩

/-- A new allocator over the factory of a plan, behind one handle. -/
instance : EmptyCollection Shared := ⟨{ factory := {} }⟩

namespace Shared

variable {σ : Type}

inductive Command where
  | serve (request : Request)
  | servers
  /-- Let tasks with these identities claim once each, in this order. -/
  | race (identities : List Identity)
  | clone
  /-- Close the handle, unless it is the only one open. -/
  | close

inductive Reply where
  | answer (answer : Answer)
  | servers (servers : Servers)
  /-- What each task got, in the order of their turns. -/
  | raced (sessions : List (Option ClaimedSession))
  | cloned (handle : Nat)
  | closed (left : Nat)
  /-- The handle is closed or was never made. -/
  | noSuchHandle

structure Effect (σ : Type) where
  shared : Shared σ
  reply : Reply
  events : List Event := []

def isOpen (s : Shared σ) (handle : Nat) : Bool := s.handles.getD handle false

def openCount (s : Shared σ) : Nat := s.handles.count true

/-- What the factory of a plan has counted, with the stops that its sessions have reported. -/
def counters (s : Shared) : FactoryCounters := s.factory.noteStopped s.stopped

def ask (F : Factory σ) (s : Shared σ) (request : Request) : Shared σ × Answer × List Event :=
  let outcome := s.allocator.serve F s.factory request
  ({ s with
      allocator := outcome.allocator
      factory := outcome.factory
      stopped := s.stopped ++ outcome.stopped },
    outcome.answer, outcome.events)

def race (F : Factory σ) (s : Shared σ) :
    List Identity → Shared σ × List (Option ClaimedSession) × List Event
  | [] => (s, [], [])
  | identity :: later =>
    let (s, answer, events) := s.ask F (.claim identity)
    let session := match answer with
      | .claimed session => session
      | _ => none
    let (s, sessions, laterEvents) := race F s later
    (s, session :: sessions, events ++ laterEvents)

def racers (count : Nat) : List Identity :=
  (List.range count).map fun i => ⟨"task", .ofNat i, "u", "p"⟩

/-- Closes a handle.  The last one takes the allocator with it. -/
def closeHandle (s : Shared σ) (handle : Nat) : Shared σ :=
  let s := { s with handles := s.handles.set handle false }
  if s.openCount = 0 then
    let (allocator, stopped) := s.allocator.close
    { s with allocator, stopped := s.stopped ++ stopped }
  else s

def closeAll (s : Shared σ) : Shared σ :=
  (List.range s.handles.length).foldl
    (fun s handle => if s.isOpen handle then s.closeHandle handle else s) s

def perform (F : Factory σ) (s : Shared σ) (handle : Nat) : Command → Effect σ
  | .serve request =>
    let (after, answer, events) := s.ask F request
    ⟨after, .answer answer, events⟩
  | .servers => ⟨s, .servers s.allocator.servers, []⟩
  | .race identities =>
    let (after, sessions, events) := s.race F identities
    ⟨after, .raced sessions, events⟩
  | .clone => ⟨{ s with handles := s.handles ++ [true] }, .cloned s.handles.length, []⟩
  | .close =>
    let after := if s.openCount = 1 then s else s.closeHandle handle
    ⟨after, .closed after.openCount, []⟩

/-- Carries out a command through a handle, if it is open. -/
def step (F : Factory σ) (s : Shared σ) (handle : Nat) (command : Command) : Effect σ :=
  if s.isOpen handle then s.perform F handle command else ⟨s, .noSuchHandle, []⟩

end Shared

end CandidatePool
