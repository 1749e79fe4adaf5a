import Mockly.Go.Maps
import Mockly.Go.Time

/-!
# The configuration of HTTP mocks

Durations are nanoseconds. A `float64` is kept as its 64 bits. `HTTPResponseOf` and `HTTPMockOf` are
generic in what stands for the response's header map: a map for the servers, a reference for the
management API.
-/

namespace Mockly

abbrev Float64 := BitVec 64

/-! ## Bodies and streams -/

/-- `HTTPBody`: a literal, a file or — before expansion — a directory. -/
structure HTTPBody where
  literal : GoString := []
  file : GoString := []
  dir : GoString := []
  resolvedFile : GoString := []
  deriving DecidableEq

def newHTTPBodyLiteral (s : GoString) : HTTPBody := { literal := s }

def HTTPBody.isEmpty (b : HTTPBody) : Bool := b.literal == [] && b.file == [] && b.dir == []

structure HTTPStreamEvent where
  data : GoString
  event : GoString := []
  id : GoString := []
  delay : ℤ := 0
  deriving DecidableEq

structure HTTPStream where
  events : List HTTPStreamEvent
  keepOpen : Bool := false
  deriving DecidableEq

/-! ## Mocks -/

structure HTTPResponseOf (H : Type) where
  status : ℤ := 0
  headers : H
  body : HTTPBody := {}
  delay : ℤ := 0
  stream : Option HTTPStream := none
  deriving DecidableEq

abbrev HTTPResponse := HTTPResponseOf (GoMap GoString)

structure HTTPAuth where
  type : GoString
  token : GoString := []
  username : GoString := []
  password : GoString := []
  header : GoString := []
  query : GoString := []
  value : GoString := []
  deriving DecidableEq

/-- `HTTPRequest`: the pattern a request has to match. -/
structure HTTPRequest where
  method : GoString := []
  path : GoString := []
  headers : GoMap GoString := ∅
  body : GoString := []
  pathRegex : GoString := []
  query : GoMap GoString := ∅
  bodyJSON : GoMap GoString := ∅
  bodyForm : GoMap GoString := ∅
  bodyMultipart : GoMap GoString := ∅
  bodyXML : GoMap GoString := ∅
  auth : Option HTTPAuth := none
  deriving DecidableEq

structure StateCondition where
  key : GoString
  value : GoString
  deriving DecidableEq

structure DelayRange where
  min : ℤ
  max : ℤ
  deriving DecidableEq

structure RateLimitFault where
  requestsPerSecond : ℤ
  overLimitStatus : ℤ := 0
  body : GoString := []
  deriving DecidableEq

/-- `MockFault`: the fault of a single mock. -/
structure MockFault where
  delay : ℤ := 0
  delayRange : Option DelayRange := none
  statusOverride : ℤ := 0
  body : GoString := []
  headers : GoMap GoString := ∅
  errorRate : Float64 := 0
  rateLimit : Option RateLimitFault := none
  deriving DecidableEq

structure Webhook where
  url : GoString
  method : GoString := []
  headers : GoMap GoString := ∅
  body : GoString := []
  delay : ℤ := 0
  retries : ℤ := 0
  retryDelay : ℤ := 0
  deriving DecidableEq

structure HTTPMockOf (H : Type) where
  id : GoString
  request : HTTPRequest := {}
  response : HTTPResponseOf H
  state : Option StateCondition := none
  sequence : List HTTPResponse := []
  sequenceExhausted : GoString := []
  fault : Option MockFault := none
  webhooks : List Webhook := []
  listener : GoString := []
  deriving DecidableEq

abbrev HTTPMock := HTTPMockOf (GoMap GoString)

/-! ## Scenarios -/

/-- `MockPatch`: what an active scenario changes about a mock.  Only what is set is applied. -/
structure MockPatch where
  mockID : GoString
  status : ℤ := 0
  headers : GoMap GoString := ∅
  body : GoString := []
  delay : Option ℤ := none
  disabled : Bool := false

/-- `HTTPFault`: the fault of the whole protocol. -/
structure HTTPFault where
  delay : ℤ := 0
  delayRange : Option DelayRange := none
  status : ℤ := 0
  body : GoString := []
  headers : GoMap GoString := ∅
  errorRate : Float64 := 0
  abort : Bool := false
  truncateBody : ℤ := 0
  rateLimit : Option RateLimitFault := none

end Mockly
