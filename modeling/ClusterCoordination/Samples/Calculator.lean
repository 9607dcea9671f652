import ClusterCoordination.Calls.Dispatch
/-!
# A calculator

A dispatcher with a label, whose methods answer, wait, fail and break off in various ways.
-/

set_option autoImplicit false

namespace ClusterCoordination.Samples

def statusNamed (name message : String) : Status :=
  if name = "unavailable" then .unavailable message
  else if name = "internal" then .internal message
  else if name = "invalid" then .invalid
  else if name = "invalid_with" then .invalidWith message
  else if name = "connection" then .connection message
  else if name = "timeout" then .timedOut
  else .internal ("unknown status " ++ name)

namespace Calculator

def reply (type : PayloadType) (value : type.Carrier) : Except Status Bytes := type.encode value

def add (arguments : Arguments) : Except Status Bytes := do
  arguments.expectArity 2
  let first ← arguments.get .i64 0
  let second ← arguments.get .i64 1
  let sum : Int64 := (show Int64 from first) + (show Int64 from second)
  reply .i64 sum

def echo (arguments : Arguments) : Except Status Bytes := do
  let text ← arguments.get .text 0
  reply .text text

def optional (arguments : Arguments) : Except Status Bytes := do
  let value ← arguments.get .optionalU32 0
  reply .u32 ((show Option UInt32 from value).getD 0)

def fail (arguments : Arguments) : Except Status Bytes := do
  let message ← arguments.get .text 1
  let name ← arguments.get .text 0
  .error (statusNamed name message)

def sleep (arguments : Arguments) : Invocation :=
  match arguments.get .u64 0 with
  | .error status => .immediate (.error status)
  | .ok duration => ⟨(show UInt64 from duration).toNat, .returned (reply .u64 duration)⟩

def dispatcher (label : String) : Dispatcher := fun caller method arguments =>
  match method with
  | "add" => .immediate (add arguments)
  | "whoami" => .immediate (reply .text caller.text)
  | "label" => .immediate (reply .text label)
  | "echo" => .immediate (echo arguments)
  | "types" => .immediate (reply .textList arguments.tags)
  | "opt" => .immediate (optional arguments)
  | "empty" => .immediate (.ok [])
  | "garbage" => .immediate (.ok [1, 2, 3])
  | "sleep" => sleep arguments
  | "status" => .immediate (fail arguments)
  | "panic" => ⟨0, .crashed⟩
  | _ => .immediate (.error (.unavailable ("Unknown method " ++ method)))

end Calculator

end ClusterCoordination.Samples
