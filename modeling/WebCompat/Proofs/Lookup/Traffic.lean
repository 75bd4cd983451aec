import WebCompat.Proofs.Lookup.Single

/-!
What goes over the wire: the requests of a client, and behind each of them the requests that follow
its redirects. These are made for the same token and under the same name, at addresses that the
service chooses.

Owns: the traffic of a log of requests; its bounds by the number of requests of the client; and its
locality under services that answer by the token.
-/

namespace WebCompat

/-- Whether a service never sends a request on to another address. -/
def Service.NeverRedirects (service : Service) : Prop :=
  ∀ before request, (service before request).IsDirect

/-- A request with the requests that follow its redirects. -/
def Exchange.requests (exchange : Exchange) (request : Request) : List Request :=
  request :: exchange.followed.map fun url => { request with url := url }

/-- Whether a request is made on behalf of another one: for the same token, and under the same
name. -/
def Request.IsOnBehalfOf (request own : Request) : Prop :=
  request.token = own.token ∧ request.userAgent = own.userAgent

namespace Service

/-- The requests that go over the wire for requests of a client, made one after another behind a
log. -/
def traffic (service : Service) : (before requests : List Request) → List Request
  | _, [] => []
  | before, request :: requests =>
      (service.exchange before request).requests request ++
        service.traffic (before ++ [request]) requests

section Traffic

variable (service : Service) (before : List Request)

@[simp] theorem traffic_nil : service.traffic before [] = [] := rfl

theorem traffic_cons (request : Request) (requests : List Request) :
    service.traffic before (request :: requests) =
      (service.exchange before request).requests request ++
        service.traffic (before ++ [request]) requests :=
  rfl

theorem traffic_append (front back : List Request) :
    service.traffic before (front ++ back) =
      service.traffic before front ++ service.traffic (before ++ front) back := by
  induction front generalizing before with
  | nil => rw [List.nil_append, traffic_nil, List.nil_append, List.append_nil]
  | cons request front inductionHypothesis =>
      rw [List.cons_append, traffic_cons, inductionHypothesis, traffic_cons, List.append_assoc,
        List.append_assoc, List.singleton_append]

/-- One request is sent on a limited number of times. -/
theorem length_requests_exchange_le (request : Request) :
    ((service.exchange before request).requests request).length ≤ Exchange.mostRedirects + 1 := by
  have followed := Exchange.length_followed_follow_le request.url Exchange.mostRedirects request.url
    (service before request)
  rw [Exchange.requests, List.length_cons, List.length_map]
  exact Nat.succ_le_succ followed

/-- Each request of a client draws as many requests at most as there are redirects that are
followed. -/
theorem length_traffic_le (requests : List Request) :
    (service.traffic before requests).length ≤
      (Exchange.mostRedirects + 1) * requests.length := by
  induction requests generalizing before with
  | nil => exact Nat.zero_le _
  | cons request requests inductionHypothesis =>
      have first := service.length_requests_exchange_le before request
      have later := inductionHypothesis (before ++ [request])
      rw [traffic_cons, List.length_append, List.length_cons, Nat.mul_succ]
      omega

/-- All that goes over the wire is made on behalf of a request of the client. -/
theorem exists_onBehalfOf_of_mem_traffic {requests : List Request} {request : Request}
    (member : request ∈ service.traffic before requests) :
    ∃ own ∈ requests, request.IsOnBehalfOf own := by
  induction requests generalizing before with
  | nil => exact absurd member List.not_mem_nil
  | cons own requests inductionHypothesis =>
      rw [traffic_cons, List.mem_append] at member
      rcases member with here | later
      · refine ⟨own, List.mem_cons_self, ?_⟩
        rcases List.mem_cons.mp here with isOwn | follows
        · exact isOwn ▸ ⟨rfl, rfl⟩
        · obtain ⟨_, _, rfl⟩ := List.mem_map.mp follows
          exact ⟨rfl, rfl⟩
      · obtain ⟨other, isLater, onBehalf⟩ := inductionHypothesis (before ++ [own]) later
        exact ⟨other, List.mem_cons_of_mem own isLater, onBehalf⟩

variable {service}

/-- Without redirects the requests of a client are all that goes over the wire. -/
theorem NeverRedirects.traffic_eq (direct : service.NeverRedirects) (requests : List Request) :
    service.traffic before requests = requests := by
  induction requests generalizing before with
  | nil => rfl
  | cons request requests inductionHypothesis =>
      rw [traffic_cons, inductionHypothesis, Exchange.requests, exchange,
        Exchange.followed_of_isDirect (direct before request), List.map_nil,
        List.singleton_append]

end Traffic

/-! ## Locality under services that answer by the token -/

section Locality

variable {replies changed : (token : String) → (earlier : Nat) → Replies}
variable {before other : List Request} {token : String}

/-- Traffic is the same after two logs with as many requests for the tokens in question. -/
theorem traffic_byToken_congr {requests : List Request}
    (sameReplies : ∀ request ∈ requests, changed request.token = replies request.token)
    (sameCounts : ∀ request ∈ requests,
      requestsFor request.token other = requestsFor request.token before) :
    (byToken changed).traffic other requests = (byToken replies).traffic before requests := by
  induction requests generalizing before other with
  | nil => rfl
  | cons request requests inductionHypothesis =>
      have sameFirst := Client.exchange_byToken_congr (sameReplies request List.mem_cons_self)
        (sameCounts request List.mem_cons_self)
      rw [traffic_cons, traffic_cons, sameFirst]
      congr 1
      apply inductionHypothesis
      · intro later member
        exact sameReplies later (List.mem_cons_of_mem request member)
      · intro later member
        rw [requestsFor_append, requestsFor_append,
          sameCounts later (List.mem_cons_of_mem request member)]

/-- A request that follows a redirect is for the token of the request that was redirected. -/
theorem requestsOf_requests_exchange (exchange : Exchange) (request : Request) :
    requestsOf token (exchange.requests request) =
      if request.token = token then exchange.requests request else [] := by
  split
  · rename_i isToken
    simp [requestsOf, Exchange.requests, isToken]
  · rename_i different
    simp [requestsOf, Exchange.requests, different]

/-- Of the traffic, what goes over the wire for a token is the traffic of the requests for it. The
induction is on the requests: one for another token counts for nothing on either side. -/
theorem requestsOf_traffic_byToken (requests : List Request)
    (sameCount : requestsFor token other = requestsFor token before) :
    requestsOf token ((byToken replies).traffic before requests) =
      (byToken replies).traffic other (requestsOf token requests) := by
  induction requests generalizing before other with
  | nil => rfl
  | cons request requests inductionHypothesis =>
      rw [traffic_cons, requestsOf_append, requestsOf_requests_exchange]
      by_cases isToken : request.token = token
      · subst isToken
        have kept : requestsOf request.token (request :: requests) =
            request :: requestsOf request.token requests :=
          List.filter_cons_of_pos (beq_self_eq_true request.token)
        have sameFirst : (byToken replies).exchange other request =
            (byToken replies).exchange before request :=
          Client.exchange_byToken_congr rfl sameCount
        have sameNext : requestsFor request.token (other ++ [request]) =
            requestsFor request.token (before ++ [request]) := by
          rw [requestsFor_append, requestsFor_append, sameCount]
        rw [if_pos rfl, kept, traffic_cons, sameFirst, inductionHypothesis sameNext]
      · have dropped : requestsOf token (request :: requests) = requestsOf token requests :=
          List.filter_cons_of_neg (by simpa using isToken)
        have sameNext : requestsFor token other = requestsFor token (before ++ [request]) := by
          have none : requestsFor token [request] = 0 := by simp [requestsFor, isToken]
          rw [requestsFor_append, none, sameCount]
          rfl
        rw [if_neg isToken, dropped, List.nil_append, inductionHypothesis sameNext]

/-- What goes over the wire for a token is told by the replies to it and by the requests for it. -/
theorem requestsOf_traffic_congr {requests others : List Request}
    (sameReplies : changed token = replies token)
    (sameCount : requestsFor token other = requestsFor token before)
    (sameRequests : requestsOf token others = requestsOf token requests) :
    requestsOf token ((byToken changed).traffic other others) =
      requestsOf token ((byToken replies).traffic before requests) := by
  rw [requestsOf_traffic_byToken others rfl, requestsOf_traffic_byToken requests rfl, sameRequests]
  have isToken : ∀ request ∈ requestsOf token requests, request.token = token := by
    intro request member
    exact beq_iff_eq.mp (List.mem_filter.mp member).2
  apply traffic_byToken_congr
  · intro request member
    rw [isToken request member, sameReplies]
  · intro request member
    rw [isToken request member, sameCount]

end Locality

end Service

end WebCompat
