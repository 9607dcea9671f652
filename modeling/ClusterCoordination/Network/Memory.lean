import ClusterCoordination.Bytes
import ClusterCoordination.Network.Fault
/-!
# The in-memory network

Sockets with an inbox each. At most one socket is bound to an address at a time, and only that very
socket releases the address. Addresses can be cut off, after which nothing is sent from or to them.
-/

set_option autoImplicit false

namespace ClusterCoordination

/--
Sockets are numbered in the order in which they are opened, and no number runs out below 2 ^ 64.
-/
abbrev SocketId := Nat

structure Socket where
  id : SocketId
  address : SocketAddress
  -- The datagrams that have arrived and have not been received, oldest first.
  inbox : List Bytes
  -- The socket was thrown away without having been closed.
  dropped : Bool
deriving DecidableEq

structure Network where
  nextId : SocketId
  sockets : List Socket
  bindings : List (SocketAddress × SocketId)
  isolated : List SocketAddress
deriving DecidableEq

namespace Network

def empty : Network := ⟨0, [], [], []⟩

def socket? (network : Network) (id : SocketId) : Option Socket :=
  network.sockets.find? fun socket => socket.id = id

def bound? (network : Network) (address : SocketAddress) : Option SocketId :=
  (network.bindings.find? fun binding => binding.1 = address).map (·.2)

def isBound (network : Network) (address : SocketAddress) : Bool := (network.bound? address).isSome

def modify (network : Network) (id : SocketId) (change : Socket → Socket) : Network :=
  { network with
    sockets := network.sockets.map fun socket => if socket.id = id then change socket else socket }

def bind (network : Network) (address : SocketAddress) : Network × Except NetworkFault SocketId :=
  let id := network.nextId
  let counted := { network with nextId := id + 1 }
  if network.isBound address then (counted, .error (.addressInUse address))
  else
    ({ counted with
        sockets := ⟨id, address, [], false⟩ :: network.sockets
        bindings := (address, id) :: network.bindings }, .ok id)

def send (network : Network) (source target : SocketAddress) (data : Bytes) :
    Network × Except NetworkFault Unit :=
  if network.isolated.contains source || network.isolated.contains target then
    (network, .error (.unreachable source target))
  else
    match network.bound? target with
    | none => (network, .error (.notBound target))
    | some id =>
      if (network.socket? id).all Socket.dropped then (network, .error (.reset target))
      else
        (network.modify id fun socket => { socket with inbox := socket.inbox ++ [data] }, .ok ())

def isOpen (network : Network) (socket : Socket) : Bool :=
  network.bound? socket.address = some socket.id

/-- Takes the oldest datagram from an inbox; none if one may still arrive. -/
def receive (network : Network) (id : SocketId) : Network × Except NetworkFault (Option Bytes) :=
  match network.socket? id with
  | none => (network, .error .socketClosed)
  | some socket =>
    match socket.inbox with
    | data :: rest =>
      (network.modify id fun socket => { socket with inbox := rest }, .ok (some data))
    | [] => (network, if network.isOpen socket then .ok none else .error .socketClosed)

def close (network : Network) (id : SocketId) : Network :=
  { network with bindings := network.bindings.filter fun binding => binding.2 ≠ id }

/-- Throws a socket away. Its address stays bound unless it was closed before. -/
def drop (network : Network) (id : SocketId) : Network :=
  network.modify id fun socket => { socket with inbox := [], dropped := true }

def isolate (network : Network) (address : SocketAddress) : Network :=
  { network with isolated := address :: network.isolated }

def heal (network : Network) (address : SocketAddress) : Network :=
  { network with isolated := network.isolated.filter fun other => other ≠ address }

end Network

end ClusterCoordination
