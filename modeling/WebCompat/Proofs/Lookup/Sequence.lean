import WebCompat.Proofs.Distinct
import WebCompat.Proofs.Lookup.Traffic

/-!
Lookups made one after another. A batch is a view of such a sequence: its entries are the
outcomes of the lookups of the distinct tokens, in the order of first occurrence, and what it adds
to the log is what these lookups add, one behind the other.

Under a service that answers by the token the sequence falls apart into lookups that do not know
of each other: each is the lookup that would have been made alone, at the beginning.
-/

namespace WebCompat

/-- One lookup of a run: its token, what came of it, and the requests that it made. -/
structure Lookup where
  token : String
  outcome : Except LookupError (Option Record)
  requests : List Request

namespace Lookup

/-- The record that a lookup found, if it did not fail and found one. -/
def record (lookup : Lookup) : Option Record :=
  lookup.outcome.toOption.join

/-- Whether a lookup failed, which is not the same as that it found no record. -/
def isFailed (lookup : Lookup) : Bool :=
  !lookup.outcome.isOk

/-- What a batch keeps of a lookup. -/
def entry (lookup : Lookup) : String × Option Record :=
  (lookup.token, lookup.record)

end Lookup

namespace Client

/-- The lookup of a token after a log. -/
def lookup (service : Service) (client : Client) (token : String) (before : List Request) :
    Lookup where
  token := token
  outcome := (resolveOne service client token before).1
  requests := sent service client token before

/-- The lookups of several tokens, each after the requests of those before it. -/
def lookups (service : Service) (client : Client) : List String → List Request → List Lookup
  | [], _ => []
  | token :: tokens, before =>
      let first := lookup service client token before
      first :: lookups service client tokens (before ++ first.requests)

section Sequence

variable (service : Service) (client : Client)

theorem map_token_lookups (tokens : List String) (before : List Request) :
    (lookups service client tokens before).map Lookup.token = tokens := by
  induction tokens generalizing before with
  | nil => rfl
  | cons token tokens inductionHypothesis =>
      rw [lookups, List.map_cons, inductionHypothesis]
      rfl

/-- Every lookup of a sequence is a lookup after some log. -/
theorem eq_lookup_of_mem_lookups {tokens : List String} {before : List Request} {made : Lookup}
    (member : made ∈ lookups service client tokens before) :
    ∃ earlier, made = lookup service client made.token earlier := by
  induction tokens generalizing before with
  | nil => exact absurd member List.not_mem_nil
  | cons token tokens inductionHypothesis =>
      rw [lookups] at member
      rcases List.mem_cons.mp member with isFirst | later
      · exact ⟨before, by rw [isFirst]; rfl⟩
      · exact inductionHypothesis later

/-- Each lookup of a sequence repeats the one request for its token. -/
theorem requests_of_mem_lookups {tokens : List String} {before : List Request} {made : Lookup}
    (member : made ∈ lookups service client tokens before) :
    (∀ request ∈ made.requests, client.request made.token = .ok request) ∧
      made.requests.length ≤ client.settings.maxRetries + 1 := by
  obtain ⟨earlier, isLookup⟩ := eq_lookup_of_mem_lookups service client member
  have requests : made.requests = sent service client made.token earlier :=
    congrArg Lookup.requests isLookup
  rw [requests]
  refine ⟨?_, length_sent_le service client made.token earlier⟩
  intro request isSent
  exact request_of_mem_sent service client made.token earlier isSent

/-! ## Batches as views of sequences -/

@[simp] theorem tokens_add (batch : Batch) (token : String) (outcome : Option (Option Record))
    (fresh : token ∉ batch.tokens) :
    (batch.add token outcome fresh).tokens = batch.tokens ++ [token] := by
  simp [Batch.tokens, Batch.add]

/-- Adding a lookup counts it if it failed. -/
theorem failed_add (batch : Batch) (made : Lookup) (fresh : made.token ∉ batch.tokens) :
    (batch.add made.token made.outcome.toOption fresh).failed =
      batch.failed + (if made.isFailed then 1 else 0) := by
  unfold Batch.add Lookup.isFailed
  cases made.outcome <;> rfl

/-- The distinct tokens of a list that a batch has not looked up. -/
def pending (batch : Batch) (tokens : List String) : List String :=
  (tokens.filter fun token => decide (token ∉ batch.tokens)).eraseDups

theorem pending_cons_of_mem {batch : Batch} {token : String} (tokens : List String)
    (known : token ∈ batch.tokens) : pending batch (token :: tokens) = pending batch tokens := by
  rw [pending, List.filter_cons_of_neg (by simpa using known), pending]

theorem pending_cons_of_not_mem {batch : Batch} {token : String} (tokens : List String)
    (outcome : Option (Option Record)) (fresh : token ∉ batch.tokens) :
    pending batch (token :: tokens) = token :: pending (batch.add token outcome fresh) tokens := by
  rw [pending, List.filter_cons_of_pos (by simpa using fresh), List.eraseDups_cons, pending,
    List.filter_filter]
  congr 2
  apply List.filter_congr
  intro other _
  rw [tokens_add]
  by_cases same : other = token
  · simp [same]
  · simp [same]

theorem pending_empty (tokens : List String) : pending .empty tokens = tokens.eraseDups := by
  rw [pending, List.filter_eq_self.mpr]
  intro token _
  simp [Batch.empty, Batch.tokens]

/-- What looking up several tokens adds to a batch and to the log. The induction is on the tokens;
a token that is known to the batch is not looked up, and a new one becomes known. -/
theorem resolveInto_lookups (tokens : List String) (batch : Batch) (before : List Request) :
    let made := lookups service client (pending batch tokens) before
    let answer := resolveInto service client tokens batch before
    answer.1.entries = batch.entries ++ made.map Lookup.entry ∧
      answer.1.failed = batch.failed + made.countP Lookup.isFailed ∧
      answer.2 = before ++ made.flatMap Lookup.requests := by
  induction tokens generalizing batch before with
  | nil => simp [resolveInto, pending, lookups]
  | cons token tokens inductionHypothesis =>
      intro made answer
      by_cases known : token ∈ batch.tokens
      · have skipped : answer = resolveInto service client tokens batch before := by
          simp only [answer, resolveInto, known, not_true_eq_false, dif_neg, not_false_eq_true]
        have same : made = lookups service client (pending batch tokens) before := by
          simp only [made, pending_cons_of_mem tokens known]
        rw [skipped, same]
        exact inductionHypothesis batch before
      · let first := lookup service client token before
        let next := batch.add token first.outcome.toOption known
        have added : answer =
            resolveInto service client tokens next (before ++ first.requests) := by
          simp only [answer, resolveInto, known, not_false_eq_true, dif_pos,
            resolveOne_requests, next, first, lookup]
        have sequence : made =
            first :: lookups service client (pending next tokens) (before ++ first.requests) := by
          simp only [made, pending_cons_of_not_mem tokens first.outcome.toOption known, lookups,
            first, next]
        obtain ⟨entries, failed, log⟩ := inductionHypothesis next (before ++ first.requests)
        rw [added, sequence]
        refine ⟨?_, ?_, ?_⟩
        · rw [entries]
          simp [next, Batch.add, Lookup.entry, Lookup.record, first, lookup]
        · have counted : next.failed = batch.failed + (if first.isFailed then 1 else 0) :=
            failed_add batch first known
          rw [failed, List.countP_cons, counted]
          omega
        · rw [log, List.flatMap_cons, List.append_assoc]

/-- A batch is made of the lookups of the distinct tokens, in the order of first occurrence. -/
theorem resolveMany_lookups (tokens : List String) (before : List Request) :
    let made := lookups service client tokens.eraseDups before
    let answer := resolveMany service client tokens before
    answer.1.entries = made.map Lookup.entry ∧
      answer.1.failed = made.countP Lookup.isFailed ∧
      answer.2 = before ++ made.flatMap Lookup.requests := by
  have added := resolveInto_lookups service client tokens .empty before
  rw [pending_empty] at added
  simpa [resolveMany, Batch.empty] using added

/-- A run looks up the distinct tokens in the order in which they occur first. -/
theorem tokens_resolveMany (tokens : List String) (before : List Request) :
    (resolveMany service client tokens before).1.tokens = tokens.eraseDups := by
  rw [Batch.tokens, (resolveMany_lookups service client tokens before).1, List.map_map]
  exact map_token_lookups service client tokens.eraseDups before

theorem contains_resolveMany (tokens : List String) (before : List Request) (token : String) :
    (resolveMany service client tokens before).1.contains token = true ↔ token ∈ tokens := by
  rw [Batch.contains, tokens_resolveMany, List.contains_iff_mem, List.mem_eraseDups]

/-- A batch has, for the token of each lookup that it is made of, the record found there. -/
theorem get?_resolveMany {tokens : List String} {before : List Request} {made : Lookup}
    (member : made ∈ lookups service client tokens.eraseDups before) :
    (resolveMany service client tokens before).1.get? made.token = made.record := by
  have isEntry : made.entry ∈ (resolveMany service client tokens before).1.entries := by
    rw [(resolveMany_lookups service client tokens before).1]
    exact List.mem_map_of_mem member
  have found := lookup_of_mem (resolveMany service client tokens before).1.distinct isEntry
  rw [Lookup.entry] at found
  rw [Batch.get?, found, Option.join_some]

theorem request_mem_requests_lookups {token : String} {request : Request}
    (asked : client.request token = .ok request) {tokens : List String} (member : token ∈ tokens)
    (before : List Request) :
    request ∈ (lookups service client tokens before).flatMap Lookup.requests := by
  induction tokens generalizing before with
  | nil => exact absurd member List.not_mem_nil
  | cons first tokens inductionHypothesis =>
      rw [lookups, List.flatMap_cons, List.mem_append]
      rcases List.mem_cons.mp member with isFirst | later
      · subst isFirst
        exact .inl (request_mem_sent service client token before asked)
      · exact .inr (inductionHypothesis later _)

/-- No lookup makes more requests than its budget, so that a run does not either. -/
theorem length_requests_lookups_le (tokens : List String) (before : List Request) :
    ((lookups service client tokens before).flatMap Lookup.requests).length ≤
      tokens.length * (client.settings.maxRetries + 1) := by
  induction tokens generalizing before with
  | nil => simp [lookups]
  | cons token tokens inductionHypothesis =>
      have first := length_sent_le service client token before
      have later := inductionHypothesis (before ++ (lookup service client token before).requests)
      rw [lookups, List.flatMap_cons, List.length_append, List.length_cons, Nat.succ_mul]
      simp only [lookup] at later ⊢
      omega

end Sequence

/-! ## Independence under services that answer by the token -/

section Independence

variable (replies : (token : String) → (earlier : Nat) → Replies) (client : Client)

/-- A lookup makes no requests for another token. -/
theorem requestsFor_append_sent {token other : String} (different : token ≠ other)
    {before later : List Request}
    (sameCount : Service.requestsFor other later = Service.requestsFor other before) :
    Service.requestsFor other (later ++ sent (.byToken replies) client token before) =
      Service.requestsFor other before := by
  rw [Service.requestsFor_append, sameCount,
    Service.requestsFor_eq_length other (sent _ client token before),
    requestsOf_sent_of_ne _ client other before different]
  rfl

/-- The lookups of distinct tokens are the lookups that are made alone after any log with as many
requests for each of them. What one lookup adds to the log are no requests for the others. -/
theorem lookups_byToken {tokens : List String} (distinct : tokens.Nodup)
    {before later : List Request}
    (sameCounts : ∀ token ∈ tokens,
      Service.requestsFor token later = Service.requestsFor token before) :
    lookups (.byToken replies) client tokens later =
      tokens.map fun token => lookup (.byToken replies) client token before := by
  induction tokens generalizing later with
  | nil => rfl
  | cons token tokens inductionHypothesis =>
      rw [List.nodup_cons] at distinct
      have firstCount := sameCounts token List.mem_cons_self
      have sameFirst : lookup (.byToken replies) client token later =
          lookup (.byToken replies) client token before := by
        rw [lookup, lookup, resolveOne_byToken_congr client rfl firstCount,
          (query_byToken_congr client rfl firstCount).2]
      have nextCounts : ∀ other ∈ tokens,
          Service.requestsFor other
              (later ++ (lookup (.byToken replies) client token before).requests) =
            Service.requestsFor other before := by
        intro other member
        have different : token ≠ other := fun same => distinct.1 (same ▸ member)
        exact requestsFor_append_sent replies client different
          (sameCounts other (List.mem_cons_of_mem token member))
      rw [lookups, List.map_cons, sameFirst]
      simp only [inductionHypothesis distinct.2 nextCounts]

/-- Under a service that answers by the token, a lookup in a run is the same as on its own. -/
theorem lookups_eraseDups_byToken (tokens : List String) (before : List Request) :
    lookups (.byToken replies) client tokens.eraseDups before =
      tokens.eraseDups.map fun token => lookup (.byToken replies) client token before :=
  lookups_byToken replies client (nodup_eraseDups tokens) fun _ _ => rfl

/-- A batch is made of lookups that are made alone. -/
theorem resolveMany_byToken_lookups (tokens : List String) (before : List Request) :
    let made := tokens.eraseDups.map fun token => lookup (.byToken replies) client token before
    let answer := resolveMany (.byToken replies) client tokens before
    answer.1.entries = made.map Lookup.entry ∧
      answer.1.failed = made.countP Lookup.isFailed ∧
      answer.2 = before ++ made.flatMap Lookup.requests := by
  intro made answer
  have sequence := resolveMany_lookups (.byToken replies) client tokens before
  rwa [lookups_eraseDups_byToken] at sequence

theorem lookup_entries_resolveMany_byToken (tokens : List String) (before : List Request)
    (token : String) :
    (resolveMany (.byToken replies) client tokens before).1.entries.lookup token =
      if token ∈ tokens then
        some (resolveOne (.byToken replies) client token before).1.toOption.join
      else none := by
  rw [(resolveMany_byToken_lookups replies client tokens before).1, List.map_map]
  have keyed := lookup_map_key
    (fun token => (lookup (.byToken replies) client token before).record) tokens.eraseDups token
  simp only [List.mem_eraseDups] at keyed
  exact keyed

/-- A token that cannot be asked for is counted once in a batch and has no record there; what is
sent is the same as without the token. -/
theorem resolveMany_of_request_error {token : String} {cause : LookupCause}
    (refused : client.request token = .error cause) {tokens : List String}
    (mentioned : token ∈ tokens) (before : List Request) :
    let service := Service.byToken replies
    let answer := resolveMany service client tokens before
    let without := resolveMany service client (tokens.filter (· != token)) before
    answer.1.entries.lookup token = some none ∧ answer.1.failed = without.1.failed + 1 ∧
      answer.2 = without.2 := by
  intro service answer without
  let isFailed := fun name => (lookup service client name before).isFailed
  have failing : isFailed token = true := by
    simp only [isFailed, lookup, Lookup.isFailed,
      resolveOne_of_request_error service client token before refused]
    rfl
  let requests := fun name => (lookup service client name before).requests
  have sendsNothing : requests token = [] := sent_of_error service client token before refused
  obtain ⟨_, failed, log⟩ := resolveMany_byToken_lookups replies client tokens before
  obtain ⟨_, failedWithout, logWithout⟩ :=
    resolveMany_byToken_lookups replies client (tokens.filter (· != token)) before
  rw [← filter_eraseDups] at failedWithout logWithout
  refine ⟨?_, ?_, ?_⟩
  · rw [lookup_entries_resolveMany_byToken, if_pos mentioned,
      resolveOne_of_request_error _ client token before refused]
    rfl
  · have split := List.countP_eq_countP_filter_add tokens.eraseDups isFailed (· == token)
    rw [filter_beq_eraseDups, if_pos mentioned, List.countP_singleton, failing, if_pos rfl,
      Nat.add_comm] at split
    rw [failed, failedWithout, List.countP_map, List.countP_map]
    exact split
  · rw [log, logWithout, List.flatMap_map, List.flatMap_map]
    exact congrArg (before ++ ·) (flatMap_filter_of_nil sendsNothing tokens.eraseDups).symm

/-- What goes over the wire for lookups of distinct tokens is what goes over it for each of them
alone, one behind the other. -/
theorem traffic_flatMap_sent {tokens : List String} (distinct : tokens.Nodup)
    {before later : List Request}
    (sameCounts : ∀ token ∈ tokens,
      Service.requestsFor token later = Service.requestsFor token before) :
    (Service.byToken replies).traffic later
        (tokens.flatMap fun token => sent (.byToken replies) client token before) =
      tokens.flatMap fun token =>
        (Service.byToken replies).traffic before (sent (.byToken replies) client token before) := by
  induction tokens generalizing later with
  | nil => rfl
  | cons token tokens inductionHypothesis =>
      rw [List.nodup_cons] at distinct
      have isToken : ∀ request ∈ sent (.byToken replies) client token before,
          request.token = token :=
        fun _ member => token_of_mem_sent (.byToken replies) client token before member
      have sameFirst : (Service.byToken replies).traffic later
          (sent (.byToken replies) client token before) =
            (Service.byToken replies).traffic before
              (sent (.byToken replies) client token before) := by
        apply Service.traffic_byToken_congr (fun _ _ => rfl)
        intro request member
        rw [isToken request member]
        exact sameCounts token List.mem_cons_self
      have nextCounts : ∀ other ∈ tokens,
          Service.requestsFor other (later ++ sent (.byToken replies) client token before) =
            Service.requestsFor other before := by
        intro other member
        have different : token ≠ other := fun same => distinct.1 (same ▸ member)
        exact requestsFor_append_sent replies client different
          (sameCounts other (List.mem_cons_of_mem token member))
      rw [List.flatMap_cons, List.flatMap_cons, Service.traffic_append, sameFirst,
        inductionHypothesis distinct.2 nextCounts]

/-- **A batch refines lookups made alone.** Under a service that answers by the token, every entry
of a batch is what the lookup of its token finds alone after the log at the beginning; the
failures are those of these lookups, and what is sent is what they send, one behind the other, as
well without as with the requests that follow redirects. One of the client's requests draws no more
of these than redirects are followed, and none if the service never redirects. The order and the
repetitions of the tokens decide about nothing but the order of the entries. -/
theorem resolveMany_refines_resolveOne (tokens : List String) (before : List Request) :
    let service := Service.byToken replies
    let alone := fun token => resolveOne service client token before
    let requests := fun token => (alone token).2.drop before.length
    let traffic := fun token => service.traffic before (requests token)
    let answer := resolveMany service client tokens before
    let wire := service.traffic before (answer.2.drop before.length)
    let bound := tokens.eraseDups.length * (client.settings.maxRetries + 1)
    (∀ token, (alone token).2 = before ++ requests token) ∧
      answer.1.entries =
        tokens.eraseDups.map (fun token => (token, (alone token).1.toOption.join)) ∧
      answer.1.failed = tokens.eraseDups.countP (fun token => !(alone token).1.isOk) ∧
      answer.2 = before ++ tokens.eraseDups.flatMap requests ∧
      wire = tokens.eraseDups.flatMap traffic ∧
      (tokens.eraseDups.flatMap requests).length ≤ bound ∧
      wire.length ≤ 11 * bound ∧
      (service.NeverRedirects → wire = tokens.eraseDups.flatMap requests ∧ wire.length ≤ bound) ∧
      ∀ others : List String, (∀ token, token ∈ others ↔ token ∈ tokens) →
        let again := resolveMany service client others before
        again.1.entries.Perm answer.1.entries ∧
          (∀ token, again.1.get? token = answer.1.get? token) ∧
          again.1.failed = answer.1.failed := by
  intro service alone requests traffic answer wire bound
  have sentAlone : requests = fun token => sent service client token before := by
    funext token
    simp only [requests, alone, resolveOne_requests, List.drop_left]
  obtain ⟨entries, failed, log⟩ := resolveMany_byToken_lookups replies client tokens before
  have added : answer.2 = before ++ tokens.eraseDups.flatMap requests := by
    rw [log, List.flatMap_map, sentAlone]
    rfl
  have isWire : wire = service.traffic before (tokens.eraseDups.flatMap requests) := by
    simp only [wire, added, List.drop_left]
  have bounded : (tokens.eraseDups.flatMap requests).length ≤ bound := by
    have ofLookups := length_requests_lookups_le service client tokens.eraseDups before
    rw [lookups_eraseDups_byToken, List.flatMap_map] at ofLookups
    rw [sentAlone]
    exact ofLookups
  refine ⟨?_, ?_, ?_, added, ?_, bounded, ?_, ?_, ?_⟩
  · intro token
    rw [sentAlone]
    exact resolveOne_requests service client token before
  · rw [entries, List.map_map]
    rfl
  · rw [failed, List.countP_map]
    rfl
  · rw [isWire]
    simp only [traffic, sentAlone]
    exact traffic_flatMap_sent replies client (nodup_eraseDups tokens) fun _ _ => rfl
  · rw [isWire]
    exact Nat.le_trans (service.length_traffic_le before _) (Nat.mul_le_mul_left _ bounded)
  · intro direct
    rw [isWire, direct.traffic_eq before]
    exact ⟨rfl, bounded⟩
  · intro others sameMembers again
    have permuted := eraseDups_perm_of_mem_iff sameMembers
    obtain ⟨entriesAgain, failedAgain, _⟩ :=
      resolveMany_byToken_lookups replies client others before
    refine ⟨?_, ?_, ?_⟩
    · rw [entriesAgain, entries]
      exact (permuted.map _).map _
    · intro token
      rw [Batch.get?, Batch.get?, lookup_entries_resolveMany_byToken,
        lookup_entries_resolveMany_byToken]
      simp only [sameMembers]
    · rw [failedAgain, failed]
      exact (permuted.map _).countP_eq _

end Independence

/-- A page that says where its content has moved. -/
def movedPage : Reply :=
  { status := 302, contentType := "text/html", body := [], isTruncated := false
    location := Net.Url.ofText? "https://webstatus.dev/features" }

/-- A service that has moved: each request is sent on once, to where no feature is known. -/
def movedOnce : (token : String) → (earlier : Nat) → Replies :=
  fun _ _ => ⟨fun redirects =>
    if redirects = 0 then some movedPage
    else
      some
        { status := 200, contentType := "application/json"
          body := Text.stringBytes "\x7b\"data\":[]\x7d", isTruncated := false }⟩

/-- Without retries a single token draws two requests, if its request is sent on. -/
theorem redirect_draws_second_request :
    let client := Client.anonymous .default
    let answer := client.resolveMany (.byToken movedOnce) ["a"] []
    let wire := (Service.byToken movedOnce).traffic [] answer.2
    wire.length = 2 ∧ (wire.map Request.token).eraseDups = ["a"] ∧
      ¬ wire.length ≤ ["a"].eraseDups.length * (client.settings.maxRetries + 1) := by
  intro client answer wire
  have two : wire.length = 2 := by decide +kernel
  refine ⟨two, by decide +kernel, ?_⟩
  rw [two]
  decide

end Client

end WebCompat
