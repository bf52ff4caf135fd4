import TypedSeries.Text.Quoted

/-!
# Engines

An engine names the store to talk to and who is talking. It is fixed when a store is opened.
-/

namespace TypedSeries

/-- A host, a token, an organization and how long to wait for an answer. -/
structure Engine where
  host : String
  token : String
  organization : String
  timeoutMs : Nat
deriving DecidableEq

namespace Engine

/-- The engine of a host, a token and an organization, waiting five seconds. -/
def bind (host token organization : String) : Engine := ⟨host, token, organization, 5000⟩

/-- What may be shown of an engine: all but its token. -/
def describe (e : Engine) : String :=
  "Engine \x7b host: " ++ quote e.host ++ ", token: \"<redacted>\", org_id: " ++
    quote e.organization ++ ", request_timeout_ms: " ++ e.timeoutMs.repr ++ " \x7d"

end Engine

end TypedSeries
