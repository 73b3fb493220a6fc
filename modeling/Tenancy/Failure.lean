namespace Tenancy

/-- What can go wrong, as far as a caller has to tell cases apart. Every error is of one of these
kinds, and only the kind says whether trying again makes sense. -/
inductive FailureKind where
  /-- Pool bounds that no pool can have. -/
  | specification
  /-- The pool was drained and stays so. -/
  | drained
  /-- Every slot of the pool is taken. -/
  | atCapacity
  /-- The pool had room and got no connection for it. -/
  | unavailable
  /-- The identity service could not be reached. -/
  | connection
  /-- Refused credentials, a catalog that makes no sense, an unsupported version. -/
  | protocol
  /-- Nothing here serves the request. -/
  | noRoute
  deriving DecidableEq, Repr

namespace FailureKind

/-- The same call may succeed later although nobody changes any setting. -/
def retryable : FailureKind → Bool
  | atCapacity | unavailable | connection => true
  | specification | drained | protocol | noRoute => false

def name : FailureKind → String
  | specification => "specification"
  | drained => "drained"
  | atCapacity => "at_capacity"
  | unavailable => "unavailable"
  | connection => "connection"
  | protocol => "protocol"
  | noRoute => "no_route"

end FailureKind
end Tenancy
