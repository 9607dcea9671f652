import ClusterCoordination.Text.Quoted
/-!
# Statuses

What a failed invocation tells its caller: a code and a description.
-/

set_option autoImplicit false

namespace ClusterCoordination

inductive ErrorCode where
  | serviceUnavailable
  | internalError
  | invalidPayload
  | connectionError
  | timeout
deriving DecidableEq

def ErrorCode.name : ErrorCode → String
  | .serviceUnavailable => "ServiceUnavailable"
  | .internalError => "InternalError"
  | .invalidPayload => "InvalidPayload"
  | .connectionError => "ConnectionError"
  | .timeout => "Timeout"

structure Status where
  code : ErrorCode
  message : String
deriving DecidableEq

namespace Status

def unavailable (message : String) : Status := ⟨.serviceUnavailable, message⟩

def internal (message : String) : Status := ⟨.internalError, message⟩

def invalid : Status :=
  ⟨.invalidPayload, "Invalid message payload was provided to be deserialized."⟩

def invalidWith (message : String) : Status := ⟨.invalidPayload, message⟩

def connection (message : String) : Status := ⟨.connectionError, message⟩

def timedOut : Status := ⟨.timeout, "The operation took to long to be completed."⟩

def text (status : Status) : String := status.code.name ++ ": " ++ status.message

def fieldText (status : Status) : String :=
  "Status \x7b code: " ++ status.code.name ++ ", message: " ++ Text.quoted status.message ++ " \x7d"

end Status

end ClusterCoordination
