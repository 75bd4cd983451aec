import WebCompat.Feature.Response
import WebCompat.Lookup.Batch
import WebCompat.Lookup.Service
import WebCompat.Lookup.Settings
import WebCompat.Net.Charset

/-!
Lookups: asking a service for the features that tokens name. Redirects are followed up to a
limit, and what they end in counts as the answer. A lookup makes requests until it has an answer
other than that there were too many, or no retry is left; the requests made are part of its
outcome.
-/

namespace WebCompat

/-- Why nothing was handed over in answer to a request. -/
inductive NoReply where
  /-- Nothing was sent in answer to a request for the address. -/
  | silence (url : Net.Url)
  /-- There was one more redirect than are followed, from the address. -/
  | tooManyRedirects (url : Net.Url)

/-- Why a lookup failed. -/
inductive LookupCause where
  /-- The endpoint is no address that can be asked, or the request was sent on to no address of
  the web. -/
  | unaskable (url : Option Net.Url)
  /-- The request was not answered. -/
  | unanswered (reason : NoReply)
  /-- The answer broke off. -/
  | truncated
  /-- The answer has a status that is no success. -/
  | status (code : Nat)
  /-- There were too many requests to the end. -/
  | rateLimited
  /-- The answer arrived but could not be understood. -/
  | unreadable (error : Json.Error)

/-- A failed lookup of a token. -/
structure LookupError where
  token : String
  cause : LookupCause

namespace LookupError

/-- Whether an answer arrived but could not be understood. -/
def isParseFailure (error : LookupError) : Bool :=
  match error.cause with
  | .unreadable _ => true
  | _ => false

def message (error : LookupError) : String :=
  let token := "\x60" ++ error.token ++ "\x60"
  let request := "request for " ++ token ++ " failed: "
  match error.cause with
  | .unaskable none => request ++ "builder error"
  | .unaskable (some url) => request ++ "builder error for url (" ++ url.text ++ ")"
  | .unanswered (.silence url) =>
      request ++ "error sending request for url (" ++ url.text ++ ")"
  | .unanswered (.tooManyRedirects url) =>
      request ++ "error following redirect for url (" ++ url.text ++ ")"
  | .truncated => request ++ "error decoding response body"
  | .status code => "feature service returned HTTP " ++ toString code ++ " for " ++ token
  | .rateLimited => "feature service rate limited the request for " ++ token
  | .unreadable error =>
      "could not parse feature response for " ++ token ++ ": " ++ error.message

end LookupError

/-! ## Redirects -/

/-- What a request comes to: the addresses that it is sent on to, one after another, and the
reply that is handed over at the end. -/
structure Exchange where
  followed : List Net.Url
  outcome : Except LookupCause Reply

namespace Exchange

def mostRedirects : Nat := 10

/-- Follows up to the given number of redirects from an address that a request was sent on to. A
request that is not replied to is named by the address that was asked at first. -/
def follow (asked : Net.Url) : (left : Nat) → (place : Net.Url) → Replies → Exchange :=
  fun left place replies =>
    match replies.first with
    | none => ⟨[], .error (.unanswered (.silence asked))⟩
    | some reply =>
        match reply.redirect? with
        | none => ⟨[], .ok reply⟩
        | some target =>
            match left with
            | 0 => ⟨[], .error (.unanswered (.tooManyRedirects place))⟩
            | left + 1 =>
                if target.isWeb then
                  let rest := follow asked left target replies.next
                  ⟨target :: rest.followed, rest.outcome⟩
                else ⟨[], .error (.unaskable (some target))⟩

/-- What a request for an address comes to. -/
def ofReplies (url : Net.Url) (replies : Replies) : Exchange :=
  follow url mostRedirects url replies

end Exchange

/-- What a request to a service comes to. -/
def Service.exchange (service : Service) (before : List Request) (request : Request) : Exchange :=
  .ofReplies request.url (service before request)

/-- What makes lookups: settings, the name under which requests are made, and how the body of a
reply is read as text. -/
structure Client where
  settings : Settings
  userAgent : Option String
  readBody : (contentType : String) → (body : List UInt8) → String := Net.Charset.read

namespace Client

/-- The client of settings, if the name in them can be sent. -/
def ofSettings (settings : Settings) : Except SetupError Client :=
  if Settings.isSendable settings.userAgent then
    .ok { settings := settings, userAgent := some settings.userAgent }
  else .error .unusableUserAgent

/-- The client of settings that makes its requests under no name. -/
def anonymous (settings : Settings) : Client :=
  { settings := settings, userAgent := none }

/-- The request for a token: the endpoint with the token in a field of its query, and without
credentials that can be sent apart. The endpoint has to be an address with a host that can be
asked over the web. -/
def request (client : Client) (token : String) : Except LookupCause Request :=
  match Net.Url.ofText? client.settings.endpoint with
  | none => .error (.unaskable none)
  | some url =>
      if url.host?.isNone then .error (.unaskable (some url))
      else
        let asked := url.withoutCredentials.withField "q" token
        if asked.isAskable then .ok ⟨token, asked, client.userAgent⟩
        else .error (.unaskable (some asked))

/-- Makes a request, and makes it again up to the given number of times while there are too
many. Yields the reply, if it was granted and arrived as a whole, and all requests so far. -/
def fetch (service : Service) (request : Request) :
    (retries : Nat) → (before : List Request) → Except LookupCause Reply × List Request :=
  fun retries before =>
    let requests := before ++ [request]
    match (service.exchange before request).outcome with
    | .error cause => (.error cause, requests)
    | .ok reply =>
        if reply.isTooMany then
          match retries with
          | 0 => (.error .rateLimited, requests)
          | left + 1 => fetch service request left requests
        else if !reply.isSuccess then (.error (.status reply.status), requests)
        else if reply.isTruncated then (.error .truncated, requests)
        else (.ok reply, requests)

def recordsIn (client : Client) (reply : Reply) : Except LookupCause (List Record) :=
  (Response.records (client.readBody reply.contentType reply.body)).mapError .unreadable

/-- All records that a service has for a token. -/
def query (service : Service) (client : Client) (token : String) (before : List Request) :
    Except LookupError (List Record) × List Request :=
  match client.request token with
  | .error cause => (.error ⟨token, cause⟩, before)
  | .ok request =>
      let answer := fetch service request client.settings.maxRetries before
      ((answer.1.bind client.recordsIn).mapError (LookupError.mk token), answer.2)

/-- The record that fits a token best, if a service has any. -/
def resolveOne (service : Service) (client : Client) (token : String) (before : List Request) :
    Except LookupError (Option Record) × List Request :=
  let answer := query service client token before
  (answer.1.map (selectBestMatch token), answer.2)

/-- Looks up each of several tokens that is not in a batch, in order, and adds the outcomes to
the batch. -/
def resolveInto (service : Service) (client : Client) :
    List String → Batch → List Request → Batch × List Request
  | [], batch, before => (batch, before)
  | token :: tokens, batch, before =>
      if fresh : token ∉ batch.tokens then
        let answer := resolveOne service client token before
        resolveInto service client tokens (batch.add token answer.1.toOption fresh) answer.2
      else resolveInto service client tokens batch before

/-- Looks up several tokens, each once. Failures are counted and leave a token without a
record. -/
def resolveMany (service : Service) (client : Client) (tokens : List String)
    (before : List Request) : Batch × List Request :=
  resolveInto service client tokens .empty before

end Client

end WebCompat
