import ClusterCoordination.Calls.Dispatch
/-!
# Two services

A search service, whose bonus is added to the length of a query, and a plain one.
-/

set_option autoImplicit false

namespace ClusterCoordination.Samples

namespace Search

def measure (bonus : UInt32) : Method where
  name := PayloadType.text.tag
  message := .text
  reply := .u32
  call := fun _ query =>
    if (show String from query).isEmpty then .error (.internal "Query must not be empty")
    else .ok (UInt32.ofNat (textBytes query).length + bonus)

def double : Method where
  name := "double"
  message := .u64
  reply := .u64
  call := fun _ value => .ok ((show UInt64 from value) + (show UInt64 from value))

def join : Method where
  name := PayloadType.textList.tag
  message := .textList
  reply := .text
  call := fun caller items => .ok (caller.text ++ ":" ++ String.intercalate "," items)

def service (bonus : UInt32) : Service := ⟨"search", [measure bonus, double, join]⟩

def filter : Method where
  name := PayloadType.flag.tag
  message := .flag
  reply := .flag
  call := fun _ flag => .ok flag

end Search

namespace Plain

def greet : Method where
  name := PayloadType.text.tag
  message := .text
  reply := .text
  call := fun caller message => .ok ((show String from message) ++ "@" ++ caller.text)

def service : Service := ⟨"cohort_oracle::fixtures::Plain", [greet]⟩

end Plain

end ClusterCoordination.Samples
