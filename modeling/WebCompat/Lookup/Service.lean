import WebCompat.Net.Url

/-!
Feature services: what answers requests. A service may answer by everything that it was
asked before; it may also not answer at all. A reply may send a request on to another
address, so that there may be several replies to one request, each from another address.
-/

namespace WebCompat

/-- A request for the features that a token names. -/
structure Request where
  token : String
  url : Net.Url
  /-- The name under which the request is made, if it is made under one. -/
  userAgent : Option String
deriving DecidableEq, Repr

/-- What a server sends when it is asked at one address. -/
structure Reply where
  status : Nat
  contentType : String
  body : List UInt8
  /-- Whether the body breaks off before its announced end. -/
  isTruncated : Bool
  /-- The address that the reply names as the place of what was asked for, if it names one that
  can be read. -/
  location : Option Net.Url := none
deriving DecidableEq, Repr

namespace Reply

/-- Whether there were too many requests. -/
def isTooMany (reply : Reply) : Bool :=
  reply.status == 429

def isSuccess (reply : Reply) : Bool :=
  200 ≤ reply.status && reply.status ≤ 299

/-- The address that a reply sends its request on to. One that cannot be sent counts as none. -/
def redirect? (reply : Reply) : Option Net.Url :=
  if [301, 302, 303, 307, 308].contains reply.status then
    reply.location.filter Net.Url.isSendable
  else none

end Reply

/-- What is sent in answer to a request: the first reply comes from the address that was asked,
each other one from the address that the reply before it names. -/
structure Replies where
  after : (redirects : Nat) → Option Reply

namespace Replies

/-- Every address replies the same, or nothing. -/
def ofReply (reply : Option Reply) : Replies :=
  ⟨fun _ => reply⟩

instance : Coe (Option Reply) Replies :=
  ⟨ofReply⟩

/-- The reply of the address that was asked. -/
def first (replies : Replies) : Option Reply :=
  replies.after 0

/-- The replies to a request that was sent on. -/
def next (replies : Replies) : Replies :=
  ⟨fun redirects => replies.after (redirects + 1)⟩

end Replies

/-- What answers the requests of a client, given its requests before. A request that follows a
redirect is none of these: what is replied to it belongs to the request that was redirected. -/
abbrev Service :=
  (before : List Request) → Request → Replies

namespace Service

def silent : Service :=
  fun _ _ => .ofReply none

def requestsFor (token : String) (requests : List Request) : Nat :=
  requests.countP fun request => request.token == token

/-- The service that answers by the token and by how often it was asked for the token
before. -/
def byToken (replies : (token : String) → (earlier : Nat) → Replies) : Service :=
  fun before request => replies request.token (requestsFor request.token before)

end Service

end WebCompat
