import ClusterCoordination.Clock
import ClusterCoordination.Payload
/-!
# Arguments

The arguments of a call. Each is archived on its own and tagged with the name of its type, which is
checked before it is read.
-/

set_option autoImplicit false

namespace ClusterCoordination

/-- The names of the types of the arguments and their archives, in order. -/
structure Arguments where
  tags : List String
  payloads : List Bytes
  aligned : tags.length = payloads.length
deriving DecidableEq

namespace Arguments

def empty : Arguments := ⟨[], [], rfl⟩

def length (arguments : Arguments) : Nat := arguments.tags.length

def isEmpty (arguments : Arguments) : Bool := arguments.tags.isEmpty

def extend (arguments : Arguments) (tag : String) (payload : Bytes) : Arguments where
  tags := arguments.tags ++ [tag]
  payloads := arguments.payloads ++ [payload]
  aligned := by simp [arguments.aligned]

def push (arguments : Arguments) (payload : Payload) : Except Status Arguments :=
  match payload.encode with
  | .error status => .error status
  | .ok bytes => .ok (arguments.extend payload.type.tag bytes)

def pushAll (arguments : Arguments) : List Payload → Except Status Arguments
  | [] => .ok arguments
  | payload :: rest =>
    match arguments.push payload with
    | .error status => .error status
    | .ok arguments => arguments.pushAll rest

def get (arguments : Arguments) (type : PayloadType) (index : Nat) : Except Status type.Carrier :=
  match arguments.tags[index]?, arguments.payloads[index]? with
  | some tag, some payload =>
    if tag = type.tag then type.decode payload
    else .error (.invalidWith s!"Argument {index} is a {tag}, expected {type.tag}")
  | _, _ =>
    .error (.invalidWith s!"Missing argument {index} of {arguments.length} provided arguments")

def expectArity (arguments : Arguments) (count : Nat) : Except Status Unit :=
  if arguments.length = count then .ok ()
  else .error (.invalidWith s!"Expected {count} arguments but {arguments.length} were provided")

def ofParts (tags : List String) (payloads : List Bytes) : Except Status Arguments :=
  if aligned : tags.length = payloads.length then .ok ⟨tags, payloads, aligned⟩
  else
    .error (.invalidWith s!"Got {tags.length} argument types for {payloads.length} arguments")

end Arguments

end ClusterCoordination
