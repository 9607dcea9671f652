/-!
# Watched values

A value that observers follow. Writing replaces it, so an observer that is late sees only the latest
value; it can tell whether it has missed a write by counting writes.
-/

set_option autoImplicit false

namespace ClusterCoordination

structure Watched (α : Type) where
  value : α
  writes : Nat
deriving DecidableEq

namespace Watched

variable {α : Type}

def new (value : α) : Watched α := ⟨value, 0⟩

def write (watched : Watched α) (value : α) : Watched α := ⟨value, watched.writes + 1⟩

def isUnseen (watched : Watched α) (seen : Nat) : Bool := watched.writes ≠ seen

end Watched

structure Observer where
  seen : Option Nat
deriving DecidableEq

/--
The items the observer gets now: the value at hand the first time, later one for unseen writes.
-/
def Observer.next {α : Type} (observer : Observer) (watched : Watched α) : Observer × List α :=
  if observer.seen = some watched.writes then (observer, [])
  else (⟨some watched.writes⟩, [watched.value])

end ClusterCoordination
