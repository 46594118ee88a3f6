import GraphServe.Transport

/-!
# Scripted transports

A transport that only panics, to see how a server takes it.
-/

namespace GraphServe.Script

/-- A transport that supports the requests with a header and panics with its value. -/
def panicking (header : String) : Transport :=
  .custom (·.headers.contains header) fun r =>
    throw (.text ((r.headers.get? header).getD ""))

end GraphServe.Script
