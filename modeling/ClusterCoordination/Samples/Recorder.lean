import ClusterCoordination.Messages.Handler
/-!
# A recorder

A handler that notes every message in the log, and then succeeds, fails or breaks off.
-/

set_option autoImplicit false

namespace ClusterCoordination.Samples

inductive RecorderBehavior where
  | succeed
  | fail
  | crash
  | slow
deriving DecidableEq

namespace Recorder

def slowDelay : Duration := 120

def delay : RecorderBehavior → Duration
  | .slow => slowDelay
  | .succeed | .fail | .crash => 0

def ending : RecorderBehavior → HandlingEnd
  | .succeed | .slow => .done
  | .fail => .failed
  | .crash => .crashed

def handler (label : String) (type : PayloadType) (behavior : RecorderBehavior) : Handler where
  message := type
  handle :=
    fun sender message => ⟨delay behavior, ⟨label, sender, ⟨type, message⟩⟩, ending behavior⟩

end Recorder

end ClusterCoordination.Samples
