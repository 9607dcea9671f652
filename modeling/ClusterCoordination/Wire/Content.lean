import ClusterCoordination.Payload
import ClusterCoordination.Scope
import ClusterCoordination.Wire.Datagram
/-!
# What datagrams carry

The scope of a datagram tells whether it carries an internal frame or a message.
-/

set_option autoImplicit false

namespace ClusterCoordination

inductive Content where
  | control (frame : ControlFrame)
  | request (request : Request)
  | response (response : Response)
  | message (scope : Scope) (payload : Bytes)
  -- Nobody takes such a datagram: its scope is unknown, or its frame cannot be read.
  | unreadable

def Content.ofArchive (type : PayloadType) (payload : Bytes) (frame : type.Carrier → Content) :
    Content :=
  match type.decode payload with
  | .ok value => frame value
  | .error _ => .unreadable

def Datagram.content (datagram : Datagram) : Content :=
  if datagram.scope = RawScope.control then
    .ofArchive .control datagram.payload .control
  else if datagram.scope = RawScope.request then
    .ofArchive .request datagram.payload .request
  else if datagram.scope = RawScope.response then
    .ofArchive .response datagram.payload .response
  else
    match Scope.ofValue datagram.scope with
    | .ok scope => .message scope datagram.payload
    | .error _ => .unreadable

end ClusterCoordination
