import WebCompat.Lookup.Client
import WebCompat.Proofs.Net.Url

/-!
Single lookups. A lookup that can ask at all repeats one request, once at least and once more
than there are retries at most; all that it adds to the log are these repetitions.

Owns: what redirects end in; the steps of a fetch; the number of requests that it makes; the
requests that a lookup adds to a log; and the locality of lookups under services that answer by the
token, whose outcome and requests are the same after every log with as many requests for the token.
-/

namespace WebCompat

/-! ## Requests for one token -/

namespace Service

/-- The requests for a token, in their order. -/
def requestsOf (token : String) (requests : List Request) : List Request :=
  requests.filter fun request => request.token == token

theorem requestsOf_append (token : String) (before after : List Request) :
    requestsOf token (before ++ after) = requestsOf token before ++ requestsOf token after :=
  List.filter_append before after

theorem requestsFor_eq_length (token : String) (requests : List Request) :
    requestsFor token requests = (requestsOf token requests).length :=
  List.countP_eq_length_filter

theorem requestsFor_append (token : String) (before after : List Request) :
    requestsFor token (before ++ after) = requestsFor token before + requestsFor token after :=
  List.countP_append

theorem requestsFor_congr {token : String} {before other : List Request}
    (same : requestsOf token other = requestsOf token before) :
    requestsFor token other = requestsFor token before := by
  rw [requestsFor_eq_length, requestsFor_eq_length, same]

theorem requestsFor_pos_of_mem {request : Request} {requests : List Request}
    (member : request ∈ requests) : 0 < requestsFor request.token requests :=
  List.countP_pos_iff.mpr ⟨request, member, beq_self_eq_true request.token⟩

end Service

/-! ## Replies -/

/-- Whether the status of a reply is a success. -/
def Reply.IsGranted (reply : Reply) : Prop :=
  200 ≤ reply.status ∧ reply.status ≤ 299

theorem Reply.isSuccess_iff {reply : Reply} : reply.isSuccess = true ↔ reply.IsGranted := by
  simp [isSuccess, IsGranted]

instance (reply : Reply) : Decidable reply.IsGranted :=
  decidable_of_iff _ Reply.isSuccess_iff

/-- Whether a reply sends its request on to an address: it has one of five statuses, and names an
address that can be in a request. -/
def Reply.SendsOnTo (reply : Reply) (target : Net.Url) : Prop :=
  reply.status ∈ [301, 302, 303, 307, 308] ∧ reply.location = some target ∧
    target.HasSendableHost ∧ target.chars.length ≤ 65534

theorem Reply.redirect?_eq_some_iff {reply : Reply} {target : Net.Url} :
    reply.redirect? = some target ↔ reply.SendsOnTo target := by
  unfold redirect? SendsOnTo
  split
  · rename_i sendsOn
    rw [Option.filter_eq_some_iff, Net.Url.isSendable_iff]
    exact ⟨fun found => ⟨List.contains_iff_mem.mp sendsOn, found⟩, And.right⟩
  · rename_i staysHere
    constructor
    · intro found
      cases found
    · intro found
      exact absurd (List.contains_iff_mem.mpr found.1) staysHere

theorem Reply.redirect?_eq_none_iff {reply : Reply} :
    reply.redirect? = none ↔ ∀ target, ¬ reply.SendsOnTo target := by
  simp only [Option.eq_none_iff_forall_ne_some, ne_eq, redirect?_eq_some_iff]

/-- Whether the address that was asked does not send its request on. -/
def Replies.IsDirect (replies : Replies) : Prop :=
  ∀ reply, replies.first = some reply → ∀ target, ¬ reply.SendsOnTo target

/-! ## Redirects -/

/-- Whether a failure is one of the way between a client and a service. -/
def LookupCause.IsTransport : LookupCause → Prop
  | .unaskable _ | .unanswered _ | .truncated => True
  | .status _ | .rateLimited | .unreadable _ => False

theorem LookupCause.IsTransport.isParseFailure {cause : LookupCause} (transport : cause.IsTransport)
    (token : String) : LookupError.isParseFailure ⟨token, cause⟩ = false := by
  cases cause with
  | unreadable => exact transport.elim
  | unaskable | unanswered | truncated | status | rateLimited => rfl

namespace Exchange

section Follow

variable (asked : Net.Url) (left : Nat) (place : Net.Url) (replies : Replies)

/-- No more redirects are followed than are left. -/
theorem length_followed_follow_le : (follow asked left place replies).followed.length ≤ left := by
  fun_induction follow asked left place replies with
  | case1 left place replies silent => exact Nat.zero_le left
  | case2 left place replies reply sent direct => exact Nat.zero_le left
  | case3 place replies reply sent target redirected => exact Nat.le_refl 0
  | case4 place replies reply sent target redirected left web rest inductionHypothesis =>
      exact Nat.succ_le_succ inductionHypothesis
  | case5 place replies reply sent target redirected left foreign => exact Nat.zero_le _

private theorem outcome_follow_eq_ok {last : Reply} :
    (follow asked left place replies).outcome = .ok last ↔
      ∃ redirects ≤ left, replies.after redirects = some last ∧ last.redirect? = none ∧
        ∀ earlier < redirects, ∃ reply target, replies.after earlier = some reply ∧
          reply.redirect? = some target ∧ target.isWeb = true := by
  fun_induction follow asked left place replies with
  | case1 left place replies silent =>
      refine iff_of_false nofun ?_
      rintro ⟨redirects, _, isLast, _, sentOn⟩
      cases redirects with
      | zero => exact nomatch silent.symm.trans isLast
      | succ redirects =>
          obtain ⟨reply, _, isFirst, _⟩ := sentOn 0 (Nat.succ_pos redirects)
          exact nomatch silent.symm.trans isFirst
  | case2 left place replies reply sent direct =>
      constructor
      · intro isLast
        cases isLast
        exact ⟨0, Nat.zero_le left, sent, direct, fun _ below => absurd below (Nat.not_lt_zero _)⟩
      · rintro ⟨redirects, _, isLast, _, sentOn⟩
        cases redirects with
        | zero =>
            cases sent.symm.trans isLast
            rfl
        | succ redirects =>
            obtain ⟨first, target, isFirst, redirected, _⟩ := sentOn 0 (Nat.succ_pos redirects)
            cases sent.symm.trans isFirst
            exact nomatch direct.symm.trans redirected
  | case3 place replies reply sent target redirected =>
      refine iff_of_false nofun ?_
      rintro ⟨redirects, within, isLast, direct, _⟩
      cases Nat.le_zero.mp within
      cases sent.symm.trans isLast
      exact nomatch redirected.symm.trans direct
  | case4 place replies reply sent target redirected left web rest inductionHypothesis =>
      refine inductionHypothesis.trans ⟨?_, ?_⟩
      · rintro ⟨redirects, within, isLast, direct, sentOn⟩
        refine ⟨redirects + 1, Nat.succ_le_succ within, isLast, direct, ?_⟩
        intro earlier below
        cases earlier with
        | zero => exact ⟨reply, target, sent, redirected, web⟩
        | succ earlier => exact sentOn earlier (Nat.lt_of_succ_lt_succ below)
      · rintro ⟨redirects, within, isLast, direct, sentOn⟩
        cases redirects with
        | zero =>
            cases sent.symm.trans isLast
            exact nomatch redirected.symm.trans direct
        | succ redirects =>
            exact ⟨redirects, Nat.le_of_succ_le_succ within, isLast, direct, fun earlier below =>
              sentOn (earlier + 1) (Nat.succ_lt_succ below)⟩
  | case5 place replies reply sent target redirected left foreign =>
      refine iff_of_false nofun ?_
      rintro ⟨redirects, _, isLast, direct, sentOn⟩
      cases redirects with
      | zero =>
          cases sent.symm.trans isLast
          exact nomatch redirected.symm.trans direct
      | succ redirects =>
          obtain ⟨first, other, isFirst, isTarget, web⟩ := sentOn 0 (Nat.succ_pos redirects)
          cases sent.symm.trans isFirst
          cases redirected.symm.trans isTarget
          exact foreign web

/-- The reply that is handed over is the first one that sends its request on no more, if it is
reached within the limit over addresses of the web. -/
theorem outcome_follow_eq_ok_iff {last : Reply} :
    (follow asked left place replies).outcome = .ok last ↔
      ∃ redirects ≤ left, replies.after redirects = some last ∧
        (∀ target, ¬ last.SendsOnTo target) ∧
        ∀ earlier < redirects, ∃ reply target, replies.after earlier = some reply ∧
          reply.SendsOnTo target ∧ target.isWeb = true := by
  rw [outcome_follow_eq_ok]
  simp only [Reply.redirect?_eq_none_iff, Reply.redirect?_eq_some_iff]

/-- Following redirects fails on the way to the service only. -/
theorem isTransport_of_follow {cause : LookupCause}
    (failed : (follow asked left place replies).outcome = .error cause) : cause.IsTransport := by
  fun_induction follow asked left place replies with
  | case1 left place replies silent =>
      cases failed
      trivial
  | case2 left place replies reply sent direct => cases failed
  | case3 place replies reply sent target redirected =>
      cases failed
      trivial
  | case4 place replies reply sent target redirected left web rest inductionHypothesis =>
      exact inductionHypothesis failed
  | case5 place replies reply sent target redirected left foreign =>
      cases failed
      trivial

end Follow

variable {url : Net.Url} {replies : Replies}

private theorem ofReplies_of_silent (silent : replies.first = none) :
    ofReplies url replies = ⟨[], .error (.unanswered (.silence url))⟩ := by
  unfold ofReplies follow
  rw [silent]

private theorem ofReplies_of_direct {reply : Reply} (sent : replies.first = some reply)
    (direct : reply.redirect? = none) : ofReplies url replies = ⟨[], .ok reply⟩ := by
  unfold ofReplies follow
  simp only [sent, direct]

/-- A reply that is no redirect leads nowhere. -/
theorem followed_of_isDirect (direct : replies.IsDirect) :
    (ofReplies url replies).followed = [] := by
  cases sent : replies.first with
  | none => rw [ofReplies_of_silent sent]
  | some reply =>
      rw [ofReplies_of_direct sent (Reply.redirect?_eq_none_iff.mpr (direct reply sent))]

end Exchange

namespace Client

/-! ## Steps of a fetch -/

/-- Whether a reply was handed over that says that there were too many requests. -/
def isRefused : (outcome : Except LookupCause Reply) → Bool
  | .ok reply => reply.isTooMany
  | .error _ => false

/-- What a request decides by what it came to, unless there were too many requests. -/
def settled : (outcome : Except LookupCause Reply) → Except LookupCause Reply
  | .error cause => .error cause
  | .ok reply =>
      if !reply.isSuccess then .error (.status reply.status)
      else if reply.isTruncated then .error .truncated
      else .ok reply

/-- Whether what a request came to is a reply that there were too many requests. A failure on the
way is none. -/
def IsRefusal (outcome : Except LookupCause Reply) : Prop :=
  ∃ reply, outcome = .ok reply ∧ reply.status = 429

theorem isRefused_iff {outcome : Except LookupCause Reply} :
    isRefused outcome = true ↔ IsRefusal outcome := by
  cases outcome with
  | error cause => simp [isRefused, IsRefusal]
  | ok reply => simp [isRefused, IsRefusal, Reply.isTooMany]

theorem isRefused_eq_false_iff {outcome : Except LookupCause Reply} :
    isRefused outcome = false ↔ ¬ IsRefusal outcome := by
  rw [← isRefused_iff, Bool.not_eq_true]

section Fetch

variable {service : Service} {request : Request} {before : List Request}

/-- An outcome that is no refusal ends a fetch. -/
theorem fetch_of_not_refused (retries : Nat)
    (notRefused : isRefused (service.exchange before request).outcome = false) :
    fetch service request retries before =
      (settled (service.exchange before request).outcome, before ++ [request]) := by
  unfold fetch
  cases answered : (service.exchange before request).outcome with
  | error cause => rfl
  | ok reply =>
      rw [answered, isRefused] at notRefused
      simp only [notRefused, settled, Bool.false_eq_true, if_false]
      split
      · rfl
      · split <;> rfl

/-- A refusal ends a fetch without retries. -/
theorem fetch_zero_of_refused
    (refused : isRefused (service.exchange before request).outcome = true) :
    fetch service request 0 before = (.error .rateLimited, before ++ [request]) := by
  unfold fetch
  cases answered : (service.exchange before request).outcome with
  | error cause => simp [isRefused, answered] at refused
  | ok reply =>
      rw [answered, isRefused] at refused
      simp only [refused, if_true]

/-- A refusal uses up one retry. -/
theorem fetch_succ_of_refused (left : Nat)
    (refused : isRefused (service.exchange before request).outcome = true) :
    fetch service request (left + 1) before = fetch service request left (before ++ [request]) := by
  rw [fetch]
  cases answered : (service.exchange before request).outcome with
  | error cause => simp [isRefused, answered] at refused
  | ok reply =>
      rw [answered, isRefused] at refused
      simp only [refused, if_true]

end Fetch

/-! ## The number of requests -/

/-- How many requests a fetch makes. -/
def attempts (service : Service) (request : Request) :
    (retries : Nat) → (before : List Request) → Nat
  | 0, _ => 1
  | left + 1, before =>
      if isRefused (service.exchange before request).outcome then
        attempts service request left (before ++ [request]) + 1
      else 1

theorem attempts_pos (service : Service) (request : Request) (retries : Nat)
    (before : List Request) : 0 < attempts service request retries before := by
  cases retries with
  | zero => exact Nat.one_pos
  | succ left =>
      unfold attempts
      split <;> omega

/-- A fetch makes one request more than it has retries, at most. -/
theorem attempts_le (service : Service) (request : Request) (retries : Nat)
    (before : List Request) : attempts service request retries before ≤ retries + 1 := by
  induction retries generalizing before with
  | zero => exact Nat.le_refl 1
  | succ left inductionHypothesis =>
      unfold attempts
      have later := inductionHypothesis (before ++ [request])
      split <;> omega

/-- A fetch adds repetitions of its request to the log, and nothing else. -/
theorem fetch_requests (service : Service) (request : Request) (retries : Nat)
    (before : List Request) :
    (fetch service request retries before).2 =
      before ++ List.replicate (attempts service request retries before) request := by
  induction retries generalizing before with
  | zero =>
      by_cases refused : isRefused (service.exchange before request).outcome
      · rw [fetch_zero_of_refused refused]
        rfl
      · rw [fetch_of_not_refused 0 (Bool.eq_false_iff.mpr refused)]
        rfl
  | succ left inductionHypothesis =>
      rw [attempts]
      by_cases refused : isRefused (service.exchange before request).outcome
      · rw [fetch_succ_of_refused left refused, inductionHypothesis, if_pos refused,
          List.append_assoc, List.replicate_succ, List.singleton_append]
      · rw [fetch_of_not_refused (left + 1) (Bool.eq_false_iff.mpr refused), if_neg refused]
        rfl

/-! ## Forming a request -/

theorem request_token {client : Client} {token : String} {request : Request}
    (asked : client.request token = .ok request) : request.token = token := by
  unfold Client.request at asked
  split at asked
  · cases asked
  · split at asked
    · cases asked
    · simp only at asked
      split at asked
      · cases asked
        rfl
      · cases asked

/-- At an endpoint of the web there is a request for a token if and only if the host of the
endpoint can be sent and the address with the token is not too long. -/
theorem exists_request_iff {client : Client} {url : Net.Url}
    (read : Net.Url.ofText? client.settings.endpoint = some url) (web : url.isWeb = true)
    (token : String) :
    (∃ request, client.request token = .ok request) ↔
      url.HasSendableHost ∧
        (url.withoutCredentials.withField "q" token).chars.length ≤ 65534 := by
  have hasHost := Net.Url.isSome_host?_of_isWeb read web
  have askable := Net.Url.isAskable_withField_iff url "q" token
  unfold Client.request
  rw [read]
  simp only [Option.isNone_eq_false_iff.mpr hasHost, Bool.false_eq_true, if_false]
  split
  · rename_i isAskable
    exact ⟨fun _ => (askable.mp isAskable).2, fun _ => ⟨_, rfl⟩⟩
  · rename_i notAskable
    refine ⟨?_, fun conditions => absurd (askable.mpr ⟨web, conditions⟩) notAskable⟩
    rintro ⟨request, asked⟩
    cases asked

/-- What keeps a request from being formed is that its address cannot be asked. -/
theorem exists_unaskable_of_request_error {client : Client} {token : String} {cause : LookupCause}
    (refused : client.request token = .error cause) : ∃ shown, cause = .unaskable shown := by
  unfold Client.request at refused
  split at refused
  · cases refused
    exact ⟨_, rfl⟩
  · split at refused
    · cases refused
      exact ⟨_, rfl⟩
    · simp only at refused
      split at refused
      · cases refused
      · cases refused
        exact ⟨_, rfl⟩

theorem exists_request_error {client : Client} {token : String}
    (none : ¬ ∃ request, client.request token = .ok request) :
    ∃ cause, client.request token = .error cause := by
  cases asked : client.request token with
  | error cause => exact ⟨cause, rfl⟩
  | ok request => exact absurd ⟨request, asked⟩ none

/-! ## The requests of a lookup -/

/-- The requests that a lookup of a token makes after a log. -/
def sent (service : Service) (client : Client) (token : String) (before : List Request) :
    List Request :=
  (query service client token before).2.drop before.length

section Sent

variable (service : Service) (client : Client) (token : String) (before : List Request)

theorem query_of_request_error {cause : LookupCause}
    (refused : client.request token = .error cause) :
    query service client token before = (.error ⟨token, cause⟩, before) := by
  rw [query, refused]

theorem resolveOne_of_request_error {cause : LookupCause}
    (refused : client.request token = .error cause) :
    resolveOne service client token before = (.error ⟨token, cause⟩, before) := by
  rw [resolveOne, query_of_request_error service client token before refused]
  rfl

theorem sent_of_error {cause : LookupCause} (refused : client.request token = .error cause) :
    sent service client token before = [] := by
  rw [sent, query_of_request_error service client token before refused]
  exact List.drop_length

theorem sent_of_ok {request : Request} (asked : client.request token = .ok request) :
    sent service client token before =
      List.replicate (attempts service request client.settings.maxRetries before) request := by
  unfold sent query
  rw [asked]
  simp only [fetch_requests, List.drop_left]

theorem query_requests :
    (query service client token before).2 = before ++ sent service client token before := by
  cases asked : client.request token with
  | error cause =>
      rw [sent_of_error service client token before asked, List.append_nil,
        query_of_request_error service client token before asked]
  | ok request =>
      rw [sent_of_ok service client token before asked, query, asked]
      exact fetch_requests service request client.settings.maxRetries before

theorem resolveOne_requests :
    (resolveOne service client token before).2 = before ++ sent service client token before :=
  query_requests service client token before

/-- Every request of a lookup is the one that the client forms for the token. -/
theorem request_of_mem_sent {request : Request}
    (member : request ∈ sent service client token before) : client.request token = .ok request := by
  cases asked : client.request token with
  | error cause =>
      rw [sent_of_error service client token before asked] at member
      exact absurd member List.not_mem_nil
  | ok own =>
      rw [sent_of_ok service client token before asked] at member
      rw [List.eq_of_mem_replicate member]

theorem token_of_mem_sent {request : Request}
    (member : request ∈ sent service client token before) : request.token = token :=
  request_token (request_of_mem_sent service client token before member)

theorem requestsOf_sent :
    Service.requestsOf token (sent service client token before) =
      sent service client token before := by
  rw [Service.requestsOf, List.filter_eq_self]
  intro request member
  rw [token_of_mem_sent service client token before member]
  exact beq_self_eq_true token

theorem requestsOf_sent_of_ne {other : String} (different : other ≠ token) :
    Service.requestsOf token (sent service client other before) = [] := by
  rw [Service.requestsOf, List.filter_eq_nil_iff]
  intro request member isToken
  rw [token_of_mem_sent service client other before member] at isToken
  exact different (beq_iff_eq.mp isToken)

/-- A lookup makes one request more than there are retries, at most. -/
theorem length_sent_le :
    (sent service client token before).length ≤ client.settings.maxRetries + 1 := by
  cases asked : client.request token with
  | error cause =>
      rw [sent_of_error service client token before asked]
      exact Nat.zero_le _
  | ok request =>
      rw [sent_of_ok service client token before asked, List.length_replicate]
      exact attempts_le service request client.settings.maxRetries before

theorem request_mem_sent {request : Request} (asked : client.request token = .ok request) :
    request ∈ sent service client token before := by
  rw [sent_of_ok service client token before asked, List.mem_replicate]
  have positive := attempts_pos service request client.settings.maxRetries before
  exact ⟨by omega, rfl⟩

end Sent

/-! ## Locality under services that answer by the token -/

section Locality

variable {replies changed : (token : String) → (earlier : Nat) → Replies}
variable {before other : List Request}

/-- A service that answers by the token does not tell logs apart that have as many requests for the
token. -/
theorem exchange_byToken_congr {request : Request}
    (sameReplies : changed request.token = replies request.token)
    (sameCount : Service.requestsFor request.token other =
      Service.requestsFor request.token before) :
    (Service.byToken changed).exchange other request =
      (Service.byToken replies).exchange before request := by
  simp only [Service.exchange, Service.byToken, sameReplies, sameCount]

/-- A fetch is the same after two logs with as many requests for its token. The induction is on
the retries left: a refused request is added to both logs. -/
theorem fetch_byToken_congr {request : Request} (retries : Nat)
    (sameReplies : changed request.token = replies request.token)
    (sameCount : Service.requestsFor request.token other =
      Service.requestsFor request.token before) :
    (fetch (.byToken changed) request retries other).1 =
        (fetch (.byToken replies) request retries before).1 ∧
      attempts (.byToken changed) request retries other =
        attempts (.byToken replies) request retries before := by
  have sameAnswer := exchange_byToken_congr sameReplies sameCount
  induction retries generalizing before other with
  | zero =>
      refine ⟨?_, rfl⟩
      by_cases refused : isRefused ((Service.byToken replies).exchange before request).outcome
      · rw [fetch_zero_of_refused refused, fetch_zero_of_refused (sameAnswer ▸ refused)]
      · rw [Bool.not_eq_true] at refused
        rw [fetch_of_not_refused 0 refused, fetch_of_not_refused 0 (sameAnswer ▸ refused),
          sameAnswer]
  | succ left inductionHypothesis =>
      have sameNext : Service.requestsFor request.token (other ++ [request]) =
          Service.requestsFor request.token (before ++ [request]) := by
        rw [Service.requestsFor_append, Service.requestsFor_append, sameCount]
      have later := inductionHypothesis sameNext (exchange_byToken_congr sameReplies sameNext)
      rw [attempts, attempts, sameAnswer]
      by_cases refused : isRefused ((Service.byToken replies).exchange before request).outcome
      · rw [fetch_succ_of_refused left refused,
          fetch_succ_of_refused left (sameAnswer ▸ refused), if_pos refused, if_pos refused]
        exact ⟨later.1, congrArg (· + 1) later.2⟩
      · rw [if_neg refused, if_neg refused]
        rw [Bool.not_eq_true] at refused
        rw [fetch_of_not_refused (left + 1) refused,
          fetch_of_not_refused (left + 1) (sameAnswer ▸ refused), sameAnswer]
        exact ⟨rfl, rfl⟩

variable (client : Client) {token : String}

/-- The outcome and the requests of a lookup depend on the replies to its token and on the number
of requests for it before, and on nothing else. -/
theorem query_byToken_congr (sameReplies : changed token = replies token)
    (sameCount : Service.requestsFor token other = Service.requestsFor token before) :
    (query (.byToken changed) client token other).1 =
        (query (.byToken replies) client token before).1 ∧
      sent (.byToken changed) client token other =
        sent (.byToken replies) client token before := by
  cases asked : client.request token with
  | error cause =>
      rw [sent_of_error _ client token other asked, sent_of_error _ client token before asked,
        query_of_request_error _ client token other asked,
        query_of_request_error _ client token before asked]
      exact ⟨rfl, rfl⟩
  | ok request =>
      have isToken := request_token asked
      subst isToken
      have same := fetch_byToken_congr client.settings.maxRetries sameReplies sameCount
      rw [sent_of_ok _ client _ other asked, sent_of_ok _ client _ before asked, same.2,
        query, query, asked]
      simp only [same.1, and_self]

/-- What comes of a lookup depends on the replies for its token alone. -/
theorem resolveOne_byToken_congr (sameReplies : changed token = replies token)
    (sameCount : Service.requestsFor token other = Service.requestsFor token before) :
    (resolveOne (.byToken changed) client token other).1 =
      (resolveOne (.byToken replies) client token before).1 := by
  rw [resolveOne, resolveOne, (query_byToken_congr client sameReplies sameCount).1]

end Locality

end Client

end WebCompat
