/-!
# Errors of a transport
-/

namespace TypedSeries

/-- A request that could not be made, or whose answer could not be read: what was being done, why
it failed, and whether time ran out. -/
structure RequestFault where
  doing : String
  cause : String
  timedOut : Bool
deriving DecidableEq

namespace RequestFault

def message (f : RequestFault) : String := f.doing ++ ": " ++ f.cause

end RequestFault

/-- Why an answer could not be decoded. -/
inductive DecodeFault where
  | notAsExpected
  | rowBeforeHeader
deriving DecidableEq

namespace DecodeFault

def message : DecodeFault → String
  | notAsExpected => "Answer is not the expected JSON"
  | rowBeforeHeader => "Data row before header"

end DecodeFault

/-- What can go wrong between a program and its store. -/
inductive TransportError where
  | unavailable (reason : String)
  | timeout
  | unauthorized (reason : String)
  | api (status : Nat) (reason : String)
  | request (fault : RequestFault)
  | decode (fault : DecodeFault)
deriving DecidableEq

namespace TransportError

def message : TransportError → String
  | unavailable reason => "Store unavailable: " ++ reason
  | timeout => "Request timeout"
  | unauthorized reason => "Unauthorized: " ++ reason
  | api status reason => "API error " ++ status.repr ++ ": " ++ reason
  | request fault => "Request failed: " ++ fault.message
  | decode fault => "Decode error: " ++ fault.message

/-- Whether the store could not be reached or refused the caller. -/
def isConnection : TransportError → Bool
  | unavailable _ | timeout | unauthorized _ => true
  | request fault => fault.timedOut
  | api .. | decode _ => false

/-- The error and its causes, outermost first. -/
def chain (e : TransportError) : List String :=
  match e with
  | request fault => [e.message, fault.message, fault.cause]
  | _ => [e.message]

end TransportError

end TypedSeries
