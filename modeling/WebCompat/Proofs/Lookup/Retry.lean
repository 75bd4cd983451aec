import Mathlib.Order.Nat
import WebCompat.Proofs.Lookup.Session

/-!
The budget of retries. A lookup repeats its request as long as the service says that there were
too many, and at most as often as its budget allows; what it reports is decided by the first outcome
of a request that is anything else, or by none. The outcome of a request is what its redirects end
in.

Owns: the outcomes that a fetch would meet if it went on for ever; the run of a fetch by the first
of them that is no refusal; the same loop with its counter kept in a word of 32 bits; and what
each outcome decides.
-/

namespace WebCompat

open Session (ownMachine ownAddress ofText?_ownMachine longToken length_longToken quotedMachine
  quotedAddress)

namespace Client

/-! ## Runs of a fetch -/

/-- What a request comes to that was made a number of times behind a log. -/
def outcomeAfter (service : Service) (request : Request) (before : List Request) (made : Nat) :
    Except LookupCause Reply :=
  (service.exchange (before ++ List.replicate made request) request).outcome

/-- The place of the first outcome that is not a reply that there were too many requests. A request
that is not answered at all has such an outcome. -/
def FirstSettling (outcomes : Nat → Except LookupCause Reply) (place : Nat) : Prop :=
  (∀ earlier < place, IsRefusal (outcomes earlier)) ∧ ¬ IsRefusal (outcomes place)

/-- Within a budget either some outcome is the first that is no refusal, or all outcomes are
refusals. -/
theorem refused_of_not_firstSettling {outcomes : Nat → Except LookupCause Reply} {budget : Nat}
    (none : ¬ ∃ place ≤ budget, FirstSettling outcomes place) :
    ∀ place ≤ budget, IsRefusal (outcomes place) := by
  classical
  intro place within
  apply Classical.byContradiction
  intro notRefused
  have settles : ∃ other, ¬ IsRefusal (outcomes other) := ⟨place, notRefused⟩
  refine none ⟨Nat.find settles, ?_, ?_, Nat.find_spec settles⟩
  · exact Nat.le_trans (Nat.find_min' settles notRefused) within
  · intro earlier below
    exact Classical.not_not.mp (Nat.find_min settles below)

section Runs

variable {service : Service} {request : Request}

theorem outcomeAfter_snoc (before : List Request) (made : Nat) :
    outcomeAfter service request (before ++ [request]) made =
      outcomeAfter service request before (made + 1) := by
  rw [outcomeAfter, outcomeAfter, List.append_assoc, List.singleton_append, ← List.replicate_succ]

theorem outcomeAfter_zero (before : List Request) :
    outcomeAfter service request before 0 = (service.exchange before request).outcome := by
  rw [outcomeAfter, List.replicate_zero, List.append_nil]

private theorem snoc_append_replicate (before : List Request) (made : Nat) :
    before ++ [request] ++ List.replicate made request =
      before ++ List.replicate (made + 1) request := by
  rw [List.append_assoc, List.singleton_append, ← List.replicate_succ]

/-- The first outcome that is no refusal ends a fetch and decides it. The induction is on the place
of that outcome: a refusal in front of it uses up one retry. -/
theorem fetch_of_firstSettling {before : List Request} {retries place : Nat}
    (within : place ≤ retries)
    (settling : FirstSettling (outcomeAfter service request before) place) :
    fetch service request retries before =
      (settled (outcomeAfter service request before place),
        before ++ List.replicate (place + 1) request) := by
  induction place generalizing before retries with
  | zero =>
      have notRefused := settling.2
      rw [outcomeAfter_zero] at notRefused ⊢
      exact fetch_of_not_refused retries (isRefused_eq_false_iff.mpr notRefused)
  | succ place inductionHypothesis =>
      obtain ⟨left, rfl⟩ : ∃ left, retries = left + 1 := ⟨retries - 1, by omega⟩
      have refused := settling.1 0 (Nat.succ_pos place)
      rw [outcomeAfter_zero] at refused
      have later : FirstSettling (outcomeAfter service request (before ++ [request])) place := by
        constructor
        · intro earlier below
          rw [outcomeAfter_snoc]
          exact settling.1 (earlier + 1) (by omega)
        · rw [outcomeAfter_snoc]
          exact settling.2
      rw [fetch_succ_of_refused left (isRefused_iff.mpr refused),
        inductionHypothesis (by omega) later, outcomeAfter_snoc, snoc_append_replicate]

/-- A fetch that is refused to the end makes one request more than it has retries. -/
theorem fetch_of_refused {before : List Request} {retries : Nat}
    (refused : ∀ place ≤ retries, IsRefusal (outcomeAfter service request before place)) :
    fetch service request retries before =
      (.error .rateLimited, before ++ List.replicate (retries + 1) request) := by
  have first := refused 0 (Nat.zero_le retries)
  rw [outcomeAfter_zero] at first
  induction retries generalizing before with
  | zero => exact fetch_zero_of_refused (isRefused_iff.mpr first)
  | succ left inductionHypothesis =>
      have later : ∀ place ≤ left,
          IsRefusal (outcomeAfter service request (before ++ [request]) place) := by
        intro place within
        rw [outcomeAfter_snoc]
        exact refused (place + 1) (Nat.succ_le_succ within)
      have next := later 0 (Nat.zero_le left)
      rw [outcomeAfter_zero] at next
      rw [fetch_succ_of_refused left (isRefused_iff.mpr first), inductionHypothesis later next,
        snoc_append_replicate]

end Runs

/-! ## The counter of attempts -/

/-- A fetch that counts its retries upwards in a word of 32 bits, where the largest word is
followed by zero. -/
def fetchCounting (service : Service) (request : Request) (budget attempt : UInt32)
    (before : List Request) : Except LookupCause Reply × List Request :=
  if isRefused (service.exchange before request).outcome then
    if attempt < budget then
      fetchCounting service request budget (attempt + 1) (before ++ [request])
    else (.error .rateLimited, before ++ [request])
  else (settled (service.exchange before request).outcome, before ++ [request])
termination_by budget.toNat - attempt.toNat
decreasing_by
  rename_i below
  have bounded := budget.toNat_lt
  rw [UInt32.lt_iff_toNat_lt] at below
  rw [UInt32.toNat_add, UInt32.toNat_one, Nat.mod_eq_of_lt (by omega)]
  omega

/-- The counter never runs over: a word counts as well as a number without a limit. -/
theorem fetchCounting_eq_fetch (service : Service) (request : Request) (budget attempt : UInt32)
    (before : List Request) (within : attempt ≤ budget) :
    fetchCounting service request budget attempt before =
      fetch service request (budget.toNat - attempt.toNat) before := by
  induction attempt, before using fetchCounting.induct service request budget with
  | case1 attempt before refused below inductionHypothesis =>
      have bounded := budget.toNat_lt
      rw [UInt32.lt_iff_toNat_lt] at below
      have next : (attempt + 1).toNat = attempt.toNat + 1 := by
        rw [UInt32.toNat_add, UInt32.toNat_one, Nat.mod_eq_of_lt (by omega)]
      have left : budget.toNat - attempt.toNat = budget.toNat - (attempt + 1).toNat + 1 := by
        omega
      have nextWithin : attempt + 1 ≤ budget := by
        rw [UInt32.le_iff_toNat_le, next]
        exact below
      rw [fetchCounting, if_pos refused, if_pos (UInt32.lt_iff_toNat_lt.mpr below), left,
        fetch_succ_of_refused _ refused]
      exact inductionHypothesis nextWithin
  | case2 attempt before refused notBelow =>
      have spent : budget.toNat - attempt.toNat = 0 := by
        rw [UInt32.lt_iff_toNat_lt] at notBelow
        omega
      rw [fetchCounting, if_pos refused, if_neg notBelow, spent, fetch_zero_of_refused refused]
  | case3 attempt before notRefused =>
      rw [fetchCounting, if_neg notRefused,
        fetch_of_not_refused _ (Bool.eq_false_iff.mpr notRefused)]

/-! ## What an outcome decides -/

/-- What is reported of a lookup that an outcome ends. Of a reply, the status is looked at first,
then whether the body is complete, and then what it says. -/
def verdict (client : Client) (token : String) :
    (outcome : Except LookupCause Reply) → Except LookupError (List Record)
  | .error cause => .error ⟨token, cause⟩
  | .ok reply =>
      if reply.IsGranted then
        if reply.isTruncated then .error ⟨token, .truncated⟩
        else
          match Response.records (client.readBody reply.contentType reply.body) with
          | .ok records => .ok records
          | .error fault => .error ⟨token, .unreadable fault⟩
      else .error ⟨token, .status reply.status⟩

theorem bind_settled_eq_verdict (client : Client) (token : String)
    (outcome : Except LookupCause Reply) :
    ((settled outcome).bind client.recordsIn).mapError (LookupError.mk token) =
      verdict client token outcome := by
  cases outcome with
  | error cause => rfl
  | ok reply =>
      rw [settled, verdict]
      by_cases granted : reply.IsGranted
      · rw [if_neg (by simp [Reply.isSuccess_iff.mpr granted]), if_pos granted]
        by_cases cut : reply.isTruncated = true
        · rw [if_pos cut, if_pos cut]
          rfl
        · rw [if_neg cut, if_neg cut]
          show (client.recordsIn reply).mapError (LookupError.mk token) = _
          rw [recordsIn]
          cases Response.records (client.readBody reply.contentType reply.body) <;> rfl
      · have isNoSuccess : ¬ reply.isSuccess = true := mt Reply.isSuccess_iff.mp granted
        rw [if_pos (by simp [isNoSuccess]), if_neg granted]
        rfl

/-- A granted reply that arrived as a whole is judged by what it says. -/
theorem verdict_of_fault {client : Client} {token : String} {last : Reply} {fault : Json.Error}
    (granted : last.IsGranted) (whole : last.isTruncated = false)
    (isFault : Response.records (client.readBody last.contentType last.body) = .error fault) :
    verdict client token (.ok last) = .error ⟨token, .unreadable fault⟩ := by
  rw [verdict, if_pos granted, if_neg (Bool.eq_false_iff.mp whole), isFault]

/-- Every failure that an outcome can decide. -/
theorem verdict_error_cases {client : Client} {token : String}
    {outcome : Except LookupCause Reply} {error : LookupError}
    (failed : verdict client token outcome = .error error) :
    (∃ cause, outcome = .error cause ∧ error = ⟨token, cause⟩) ∨
      ∃ last, outcome = .ok last ∧
        ((¬ last.IsGranted ∧ error = ⟨token, .status last.status⟩) ∨
          (last.IsGranted ∧ last.isTruncated = true ∧ error = ⟨token, .truncated⟩) ∨
          (last.IsGranted ∧ last.isTruncated = false ∧
            ∃ fault, Response.records (client.readBody last.contentType last.body) = .error fault ∧
              error = ⟨token, .unreadable fault⟩)) := by
  unfold verdict at failed
  split at failed
  · rename_i cause
    cases failed
    exact .inl ⟨cause, rfl, rfl⟩
  · rename_i last
    refine .inr ⟨last, rfl, ?_⟩
    split at failed
    · rename_i granted
      split at failed
      · rename_i cut
        cases failed
        exact .inr (.inl ⟨granted, cut, rfl⟩)
      · rename_i whole
        split at failed
        · cases failed
        · rename_i fault isFault
          cases failed
          exact .inr (.inr ⟨granted, Bool.eq_false_iff.mpr whole, fault, isFault, rfl⟩)
    · rename_i notGranted
      cases failed
      exact .inl ⟨notGranted, rfl⟩

/-! ## Lookups within their budget -/

section Budget

variable {replies : (token : String) → (earlier : Nat) → Replies} {client : Client}
  {token : String} {before : List Request}

/-- What the requests for an address come to, one after another, under a service that answers by
the token. -/
def outcomesFrom (replies : (token : String) → (earlier : Nat) → Replies) (token : String)
    (url : Net.Url) (before : List Request) (made : Nat) : Except LookupCause Reply :=
  (Exchange.ofReplies url (replies token (Service.requestsFor token before + made))).outcome

/-- Under a service that answers by the token, the outcomes of a repeated request are told by the
replies to the token from the number of its earlier requests on. -/
theorem outcomeAfter_byToken (request : Request) :
    outcomeAfter (.byToken replies) request before =
      outcomesFrom replies request.token request.url before := by
  funext made
  have repeated : Service.requestsFor request.token (List.replicate made request) = made := by
    rw [Service.requestsFor, List.countP_replicate, if_pos (beq_self_eq_true request.token)]
  rw [outcomeAfter, Service.exchange, Service.byToken, Service.requestsFor_append, repeated]
  rfl

theorem query_of_request {service : Service} {request : Request}
    (asked : client.request token = .ok request) :
    query service client token before =
      (((fetch service request client.settings.maxRetries before).1.bind
            client.recordsIn).mapError (LookupError.mk token),
        (fetch service request client.settings.maxRetries before).2) := by
  rw [query, asked]

/-- No request can be formed for a token as long as the longest address. -/
theorem not_exists_request_of_longest_le {url : Net.Url}
    (read : Net.Url.ofText? client.settings.endpoint = some url) (web : url.isWeb = true)
    (long : 65534 ≤ token.length) : ¬ ∃ request, client.request token = .ok request := by
  rw [exists_request_iff read web]
  rintro ⟨_, fits⟩
  have longer := Net.Url.length_lt_length_chars_withField url.withoutCredentials "q" token
  omega

/-- The lookup of a request by the first outcome that is no refusal. -/
theorem query_of_firstSettling {request : Request} (asked : client.request token = .ok request)
    {place : Nat} (within : place ≤ client.settings.maxRetries)
    (settling : FirstSettling (outcomesFrom replies token request.url before) place) :
    query (.byToken replies) client token before =
      (verdict client token (outcomesFrom replies token request.url before place),
        before ++ List.replicate (place + 1) request) := by
  have isToken := request_token asked
  subst isToken
  rw [← outcomeAfter_byToken request] at settling ⊢
  rw [query_of_request asked, fetch_of_firstSettling within settling]
  simp only [bind_settled_eq_verdict]

/-- The lookup of a request that is refused to the end. -/
theorem query_of_refused {request : Request} (asked : client.request token = .ok request)
    (refused : ∀ place ≤ client.settings.maxRetries,
      IsRefusal (outcomesFrom replies token request.url before place)) :
    query (.byToken replies) client token before =
      (.error ⟨token, .rateLimited⟩,
        before ++ List.replicate (client.settings.maxRetries + 1) request) := by
  have isToken := request_token asked
  subst isToken
  rw [← outcomeAfter_byToken request] at refused
  rw [query_of_request asked, fetch_of_refused refused]
  rfl

/-- Every way in which a lookup can fail. -/
theorem query_error_cases {error : LookupError}
    (failed : (query (.byToken replies) client token before).1 = .error error) :
    (∃ shown, error = ⟨token, .unaskable shown⟩) ∨ error = ⟨token, .rateLimited⟩ ∨
      ∃ request, client.request token = .ok request ∧ ∃ place ≤ client.settings.maxRetries,
        FirstSettling (outcomesFrom replies token request.url before) place ∧
          verdict client token (outcomesFrom replies token request.url before place) =
            .error error := by
  cases asked : client.request token with
  | error cause =>
      obtain ⟨shown, rfl⟩ := exists_unaskable_of_request_error asked
      rw [query_of_request_error _ _ _ _ asked] at failed
      cases failed
      exact .inl ⟨shown, rfl⟩
  | ok request =>
      right
      by_cases settles : ∃ place ≤ client.settings.maxRetries,
          FirstSettling (outcomesFrom replies token request.url before) place
      · obtain ⟨place, within, settling⟩ := settles
        rw [query_of_firstSettling asked within settling] at failed
        exact .inr ⟨request, rfl, place, within, settling, failed⟩
      · rw [query_of_refused asked (refused_of_not_firstSettling settles)] at failed
        cases failed
        exact .inl rfl

/-- What goes over the wire for a request that is repeated, if no reply sends it on. -/
theorem traffic_replicate_of_isDirect {request : Request} (isToken : request.token = token)
    {times : Nat}
    (direct : ∀ made < times, (replies token (Service.requestsFor token before + made)).IsDirect) :
    (Service.byToken replies).traffic before (List.replicate times request) =
      List.replicate times request := by
  subst isToken
  induction times generalizing before with
  | zero => rfl
  | succ times inductionHypothesis =>
      have once : Service.requestsFor request.token (before ++ [request]) =
          Service.requestsFor request.token before + 1 := by
        simp [Service.requestsFor]
      have later : ∀ made < times, (replies request.token
          (Service.requestsFor request.token (before ++ [request]) + made)).IsDirect := by
        intro made below
        rw [once, Nat.add_assoc, Nat.add_comm 1 made]
        exact direct (made + 1) (Nat.succ_lt_succ below)
      have first : (Service.byToken replies before request).IsDirect :=
        direct 0 (Nat.succ_pos times)
      rw [List.replicate_succ, Service.traffic_cons, inductionHypothesis later, Exchange.requests,
        Service.exchange, Exchange.followed_of_isDirect first, List.map_nil, List.singleton_append]

end Budget

/-- What redirects end in: the first reply that sends its request on no more, if it is reached over
ten addresses of the web at most; else a failure on the way to the service. -/
structure EndsIn (replies : Replies) (outcome : Except LookupCause Reply) : Prop where
  reply : ∀ last, outcome = .ok last ↔
    ∃ redirects ≤ 10, replies.after redirects = some last ∧
      (∀ target, ¬ last.SendsOnTo target) ∧
      ∀ earlier < redirects, ∃ reply target, replies.after earlier = some reply ∧
        reply.SendsOnTo target ∧ target.isWeb = true
  failure : ∀ cause, outcome = .error cause → cause.IsTransport

/-- The outcome of a request is what its redirects end in. -/
theorem endsIn_ofReplies (url : Net.Url) (replies : Replies) :
    EndsIn replies (Exchange.ofReplies url replies).outcome where
  reply _ := Exchange.outcome_follow_eq_ok_iff url Exchange.mostRedirects url replies
  failure _ := Exchange.isTransport_of_follow url Exchange.mostRedirects url replies

section Errors

variable {replies : (token : String) → (earlier : Nat) → Replies} {client : Client}
  {token : String} {before : List Request} {error : LookupError}

/-- The outcomes of the requests of a lookup that are failures are failures of transport. -/
theorem isTransport_of_outcomesFrom {url : Net.Url} {place : Nat} {cause : LookupCause}
    (failed : outcomesFrom replies token url before place = .error cause) : cause.IsTransport :=
  (endsIn_ofReplies url _).failure cause failed

/-- Every error of a lookup names the token. -/
theorem token_of_query_error
    (failed : (query (.byToken replies) client token before).1 = .error error) :
    error.token = token := by
  rcases query_error_cases failed with ⟨_, rfl⟩ | rfl | ⟨_, _, _, _, _, isLast⟩
  · rfl
  · rfl
  · rcases verdict_error_cases isLast with ⟨_, _, rfl⟩ | ⟨_, _, ⟨_, rfl⟩ | ⟨_, _, rfl⟩ |
      ⟨_, _, _, _, rfl⟩⟩
    · rfl
    · rfl
    · rfl
    · rfl

/-- The status of a refusal is not reported: such a reply would have been refused. -/
theorem cause_ne_of_query_error
    (failed : (query (.byToken replies) client token before).1 = .error error) :
    error.cause ≠ .status 429 := by
  intro isStatus
  rcases query_error_cases failed with ⟨_, rfl⟩ | rfl | ⟨_, _, _, _, settling, isLast⟩
  · cases isStatus
  · cases isStatus
  · rcases verdict_error_cases isLast with ⟨cause, isFailure, rfl⟩ | ⟨last, isReply,
      ⟨_, rfl⟩ | ⟨_, _, rfl⟩ | ⟨_, _, _, _, rfl⟩⟩
    · have transport := isTransport_of_outcomesFrom isFailure
      rw [show cause = .status 429 from isStatus] at transport
      exact transport.elim
    · have notRefused := settling.2
      injection isStatus with isCode
      exact notRefused ⟨last, isReply, isCode⟩
    · cases isStatus
    · cases isStatus

/-- Only a granted reply that arrived as a whole is said not to be understood. -/
theorem exists_fault_of_query_error
    (failed : (query (.byToken replies) client token before).1 = .error error)
    (unread : error.isParseFailure = true) :
    ∃ request, client.request token = .ok request ∧ ∃ place ≤ client.settings.maxRetries,
      FirstSettling (outcomesFrom replies token request.url before) place ∧
        ∃ last, outcomesFrom replies token request.url before place = .ok last ∧
          last.IsGranted ∧ last.isTruncated = false ∧
          ∃ fault, Response.records (client.readBody last.contentType last.body) =
            .error fault := by
  rcases query_error_cases failed with ⟨_, rfl⟩ | rfl | ⟨request, asked, place, within, settling,
    isLast⟩
  · cases unread
  · cases unread
  · refine ⟨request, asked, place, within, settling, ?_⟩
    rcases verdict_error_cases isLast with ⟨cause, isFailure, rfl⟩ | ⟨last, isReply,
      ⟨_, rfl⟩ | ⟨_, _, rfl⟩ | ⟨granted, whole, fault, isFault, rfl⟩⟩
    · rw [(isTransport_of_outcomesFrom isFailure).isParseFailure token] at unread
      cases unread
    · cases unread
    · cases unread
    · exact ⟨last, isReply, granted, whole, fault, isFault⟩

end Errors

/-- A client of the service on the own machine that tries twice more. -/
def patientMachine : Client :=
  { ownMachine with settings := { ownMachine.settings with maxRetries := 2 } }

def refusal : Reply :=
  { status := 429, contentType := "text/plain", body := [], isTruncated := false }

/-- A page that is granted and is no answer. -/
def foreignPage : Reply :=
  { status := 200, contentType := "text/html", body := Text.stringBytes "<html>",
    isTruncated := false }

/-- Two refusals, and then a redirect to that page. -/
def refusedTwice : (token : String) → (earlier : Nat) → Replies :=
  fun _ earlier =>
    if earlier < 2 then .ofReply (some refusal)
    else ⟨fun redirects => if redirects = 0 then some movedPage else some foreignPage⟩

end Client

end WebCompat
