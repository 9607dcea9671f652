/-!
# Time

Instants and durations are whole milliseconds. A node measures its own waiting on a monotonic clock,
and tells others about deadlines in wall clock time, as an unsigned number of 64 bits.
-/

set_option autoImplicit false

namespace ClusterCoordination

/-- Milliseconds on the monotonic clock. -/
abbrev Instant := Nat

abbrev Duration := Nat

/-- Clocks count seconds in signed words of 64 bits. -/
def Instant.last : Instant := UInt64.size / 2 * 1000 - 1

/-- Durations count seconds in words of 64 bits. -/
def Duration.longest : Duration := UInt64.size * 1000 - 1

structure Clock where
  now : Instant
  -- Milliseconds of wall clock time.
  wall : Nat
deriving DecidableEq

namespace Clock

def wireDeadline (clock : Clock) (timeout : Duration) : UInt64 :=
  UInt64.ofNat (clock.wall + timeout)

/-- The instant at which a timeout ends, if it can be represented. -/
def deadline? (clock : Clock) (timeout : Duration) : Option Instant :=
  if clock.now + timeout ≤ Instant.last then some (clock.now + timeout) else none

/--
The deadline that others are told. The sum has to be representable; its conversion is not checked.
-/
def wireDeadline? (clock : Clock) (timeout : Duration) : Option UInt64 :=
  if clock.wall + timeout ≤ Duration.longest then some (clock.wireDeadline timeout) else none

def localDeadline? (clock : Clock) (deadline : UInt64) : Option Instant :=
  let wall := (UInt64.ofNat clock.wall).toNat
  if wall < deadline.toNat then some (clock.now + (deadline.toNat - wall)) else none

end Clock

/-- Someone who waits either has an answer by now or goes on waiting. -/
inductive Progress (State Answer : Type) where
  | done (answer : Answer)
  | waiting (state : State)

end ClusterCoordination
