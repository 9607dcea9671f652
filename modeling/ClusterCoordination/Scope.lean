/-!
# Scopes

Logical message channels. Scopes are positive; the values from 1000 upwards are reserved for
built-in channels, and the others are left to applications.
-/

set_option autoImplicit false

namespace ClusterCoordination

structure Scope where
  value : Int16
  positive : 0 < value
deriving DecidableEq

inductive InvalidScope where
  | notPositive (value : Int16)
  | reserved (value : Int16)
deriving DecidableEq

def InvalidScope.message : InvalidScope → String
  | .notPositive value => s!"Scope {value.toInt} is not a positive integer."
  | .reserved value => s!"Scope {value.toInt} is part of the reserved built-in band (>= 1000)."

namespace Scope

def reservedStart : Int16 := 1000

def cacheInvalidation : Scope := ⟨1000, by decide⟩
def cacheRebuild : Scope := ⟨1001, by decide⟩
def indexing : Scope := ⟨1002, by decide⟩
def mailDispatch : Scope := ⟨1003, by decide⟩

def isReserved (scope : Scope) : Bool := decide (reservedStart ≤ scope.value)

def ofValue (value : Int16) : Except InvalidScope Scope :=
  if positive : 0 < value then .ok ⟨value, positive⟩ else .error (.notPositive value)

def application (value : Int16) : Except InvalidScope Scope :=
  match ofValue value with
  | .error fault => .error fault
  | .ok scope => if scope.isReserved then .error (.reserved value) else .ok scope

def text (scope : Scope) : String := toString scope.value.toInt

end Scope

end ClusterCoordination
