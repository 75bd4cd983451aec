import WebCompat.Proofs.Lookup.Sequence

/-!
Sessions: a client asked for one thing after another. Nothing is kept from one step to the next
but the log of the requests, so that what is reported about a token and what is asked for it are
the same as if no other token had ever been mentioned.

Owns: steps, their reports and runs; what a report says about one token; the restriction of steps
to one token; and the simulation between a run and its restriction, whose invariant is that both
logs have the same requests for the token.
-/

namespace WebCompat.Session

open Client (sent lookup)
open Service (requestsOf requestsOf_append requestsFor)

/-- What a client is asked for. -/
inductive Step where
  | query (token : String)
  | resolveOne (token : String)
  | resolveMany (tokens : List String)

/-- What a step reports. -/
inductive Report where
  | records (token : String) (result : Except LookupError (List Record))
  | best (token : String) (result : Except LookupError (Option Record))
  | batch (batch : Batch)

/-- What a report says about one token. -/
inductive Finding where
  | records (result : Except LookupError (List Record))
  | best (result : Except LookupError (Option Record))
  | entry (record : Option Record)

/-- What a report says about a token, if it says anything. -/
def Report.about (token : String) : Report → Option Finding
  | .records other result => if other = token then some (.records result) else none
  | .best other result => if other = token then some (.best result) else none
  | .batch answer => (answer.entries.lookup token).map .entry

namespace Step

/-- Whether a step mentions a token. -/
def Concerns (token : String) : Step → Prop
  | .query other | .resolveOne other => other = token
  | .resolveMany tokens => token ∈ tokens

/-- What is left of a step if all other tokens are deleted. -/
def restrict (token : String) : Step → Option Step
  | .query other => if other = token then some (.query other) else none
  | .resolveOne other => if other = token then some (.resolveOne other) else none
  | .resolveMany tokens => some (.resolveMany (tokens.filter (· == token)))

/-- Does what a step asks for, after a log. -/
def perform (service : Service) (client : Client) : Step → List Request → Report × List Request
  | .query token, before =>
      let answer := client.query service token before
      (.records token answer.1, answer.2)
  | .resolveOne token, before =>
      let answer := client.resolveOne service token before
      (.best token answer.1, answer.2)
  | .resolveMany tokens, before =>
      let answer := client.resolveMany service tokens before
      (.batch answer.1, answer.2)

end Step

/-- Performs steps one after another. -/
def run (service : Service) (client : Client) :
    List Step → List Request → List Report × List Request
  | [], before => ([], before)
  | step :: steps, before =>
      let first := step.perform service client before
      let rest := run service client steps first.2
      (first.1 :: rest.1, rest.2)

/-! ## Steps and their restrictions -/

section Restriction

variable {replies changed : (token : String) → (earlier : Nat) → Replies} (client : Client)
variable {token : String} {before other : List Request}

/-- Of what several lookups send, the requests for a token are what its own lookups send. -/
theorem requestsOf_flatMap_sent (service : Service) (tokens : List String) :
    requestsOf token (tokens.flatMap fun name => sent service client name before) =
      (tokens.filter (· == token)).flatMap fun name => sent service client name before := by
  induction tokens with
  | nil => rfl
  | cons name tokens inductionHypothesis =>
      rw [List.flatMap_cons, requestsOf_append, inductionHypothesis]
      by_cases same : name = token
      · rw [List.filter_cons_of_pos (by simpa using same), List.flatMap_cons, same,
          Client.requestsOf_sent]
      · rw [List.filter_cons_of_neg (by simpa using same),
          Client.requestsOf_sent_of_ne service client token before same, List.nil_append]

/-- What a batch asks for a token: nothing, or what the lookup of the token alone asks. -/
theorem requestsOf_resolveMany_byToken (tokens : List String) :
    requestsOf token (client.resolveMany (.byToken replies) tokens before).2 =
      requestsOf token before ++
        (if token ∈ tokens then sent (.byToken replies) client token before else []) := by
  rw [(Client.resolveMany_lookups (.byToken replies) client tokens before).2.2,
    Client.lookups_eraseDups_byToken, List.flatMap_map, requestsOf_append]
  simp only [lookup]
  rw [requestsOf_flatMap_sent, filter_beq_eraseDups]
  congr 1
  split
  · simp
  · rfl

/-- A step about other tokens says nothing about a token and asks nothing for it. -/
theorem perform_of_restrict_none (service : Service) (before : List Request) {step : Step}
    (deleted : step.restrict token = none) :
    (step.perform service client before).1.about token = none ∧
      requestsOf token (step.perform service client before).2 = requestsOf token before := by
  cases step with
  | query name =>
      have different : name ≠ token := by simpa [Step.restrict] using deleted
      refine ⟨if_neg different, ?_⟩
      rw [Step.perform, Client.query_requests, requestsOf_append,
        Client.requestsOf_sent_of_ne service client token before different, List.append_nil]
  | resolveOne name =>
      have different : name ≠ token := by simpa [Step.restrict] using deleted
      refine ⟨if_neg different, ?_⟩
      rw [Step.perform, Client.resolveOne_requests, requestsOf_append,
        Client.requestsOf_sent_of_ne service client token before different, List.append_nil]
  | resolveMany tokens => simp [Step.restrict] at deleted

/-- What is left of a step says the same about a token and asks the same for it, after every log
with the same requests for the token and whatever the replies to others. -/
theorem perform_of_restrict_some (sameReplies : changed token = replies token)
    (sameRequests : requestsOf token other = requestsOf token before)
    {step kept : Step} (left : step.restrict token = some kept) :
    (kept.perform (.byToken changed) client other).1.about token =
        (step.perform (.byToken replies) client before).1.about token ∧
      requestsOf token (kept.perform (.byToken changed) client other).2 =
        requestsOf token (step.perform (.byToken replies) client before).2 := by
  have sameCount := Service.requestsFor_congr sameRequests
  obtain ⟨sameResult, sameSent⟩ := Client.query_byToken_congr client sameReplies sameCount
  have sameBest := Client.resolveOne_byToken_congr client sameReplies sameCount
  cases step with
  | query name =>
      by_cases isToken : name = token
      · subst isToken
        simp only [Step.restrict, if_true, Option.some.injEq] at left
        subst left
        refine ⟨?_, ?_⟩
        · simp only [Step.perform, Report.about, if_true, sameResult]
        · rw [Step.perform, Step.perform, Client.query_requests, Client.query_requests,
            requestsOf_append, requestsOf_append, sameRequests, sameSent]
      · simp [Step.restrict, isToken] at left
  | resolveOne name =>
      by_cases isToken : name = token
      · subst isToken
        simp only [Step.restrict, if_true, Option.some.injEq] at left
        subst left
        refine ⟨?_, ?_⟩
        · simp only [Step.perform, Report.about, if_true, sameBest]
        · rw [Step.perform, Step.perform, Client.resolveOne_requests,
            Client.resolveOne_requests, requestsOf_append, requestsOf_append, sameRequests,
            sameSent]
      · simp [Step.restrict, isToken] at left
  | resolveMany tokens =>
      simp only [Step.restrict, Option.some.injEq] at left
      subst left
      have sameMembership : token ∈ tokens.filter (· == token) ↔ token ∈ tokens := by simp
      refine ⟨?_, ?_⟩
      · simp only [Step.perform, Report.about, Client.lookup_entries_resolveMany_byToken,
          sameMembership, sameBest]
      · simp only [Step.perform, requestsOf_resolveMany_byToken, sameMembership, sameRequests,
          sameSent]

/-- What the reports of a run say about a token. -/
def findings (token : String) (reports : List Report) : List Finding :=
  reports.filterMap (Report.about token)

/-- **Simulation.** A run and its restriction to a token report the same about the token and ask
the same for it, from logs with the same requests for the token. The induction is on the steps; a
deleted step leaves the invariant as it is, and a kept one adds the same requests on both
sides. -/
theorem run_restrict (sameReplies : changed token = replies token) (steps : List Step)
    (sameRequests : requestsOf token other = requestsOf token before) :
    let alone := run (.byToken changed) client (steps.filterMap (Step.restrict token)) other
    let whole := run (.byToken replies) client steps before
    findings token alone.1 = findings token whole.1 ∧
      requestsOf token alone.2 = requestsOf token whole.2 := by
  induction steps generalizing before other with
  | nil => exact ⟨rfl, sameRequests⟩
  | cons step steps inductionHypothesis =>
      cases left : step.restrict token with
      | none =>
          obtain ⟨silent, unchanged⟩ :=
            perform_of_restrict_none client (.byToken replies) before left
          have later := inductionHypothesis (sameRequests.trans unchanged.symm)
          rw [List.filterMap_cons_none left]
          simp only [run, findings, List.filterMap_cons_none silent]
          exact later
      | some kept =>
          obtain ⟨sameFinding, sameAfter⟩ :=
            perform_of_restrict_some client sameReplies sameRequests left
          have later := inductionHypothesis sameAfter
          rw [List.filterMap_cons_some left]
          simp only [run, findings, List.filterMap_cons, sameFinding]
          refine ⟨?_, later.2⟩
          split
          · exact later.1
          · exact congrArg _ later.1

end Restriction

/-! ## What a step asks -/

/-- A step about a token makes a request for it, if there is one. -/
theorem requestsFor_lt_perform (service : Service) {client : Client} {token : String}
    {request : Request} (asked : client.request token = .ok request) {step : Step}
    (concerned : step.Concerns token) (before : List Request) :
    requestsFor token before < requestsFor token (step.perform service client before).2 := by
  have grows : ∀ added : List Request, request ∈ added →
      requestsFor token before < requestsFor token (before ++ added) := by
    intro added member
    have positive := Service.requestsFor_pos_of_mem member
    rw [Client.request_token asked] at positive
    rw [Service.requestsFor_append]
    omega
  cases step with
  | query name =>
      cases concerned
      rw [Step.perform, Client.query_requests]
      exact grows _ (Client.request_mem_sent service client token before asked)
  | resolveOne name =>
      cases concerned
      rw [Step.perform, Client.resolveOne_requests]
      exact grows _ (Client.request_mem_sent service client token before asked)
  | resolveMany tokens =>
      have mentioned : token ∈ tokens.eraseDups := List.mem_eraseDups.mpr concerned
      rw [Step.perform, (Client.resolveMany_lookups service client tokens before).2.2]
      exact grows _ (Client.request_mem_requests_lookups service client asked mentioned before)

/-! ## No interference between tokens -/

/-- **What a run reports about a token and asks for it is its own affair.** It is the same as in
the run from which all other tokens are deleted, and the same whatever the replies to others; and
so is what goes over the wire for the token, the requests that follow redirects included. At an
endpoint of the web whose host can be sent, and with which the token makes no address that is too
long, every step about the token makes a new request for it. At any other one no step does: a single
lookup fails on the way to the service, and a batch counts one failure more than without the token,
and asks the same. -/
theorem run_isolates_token (replies : (token : String) → (earlier : Nat) → Replies)
    (client : Client) (token : String) (steps : List Step) (before : List Request) :
    let service := Service.byToken replies
    let whole := run service client steps before
    let alone := run service client (steps.filterMap (Step.restrict token)) before
    (findings token whole.1 = findings token alone.1 ∧
        requestsOf token whole.2 = requestsOf token alone.2 ∧
        requestsOf token (service.traffic [] whole.2) =
          requestsOf token (service.traffic [] alone.2)) ∧
      (∀ changed : (token : String) → (earlier : Nat) → Replies,
        changed token = replies token →
          let again := run (.byToken changed) client steps before
          findings token again.1 = findings token whole.1 ∧
            requestsOf token again.2 = requestsOf token whole.2 ∧
            requestsOf token ((Service.byToken changed).traffic [] again.2) =
              requestsOf token (service.traffic [] whole.2)) ∧
      ∀ url, Net.Url.ofText? client.settings.endpoint = some url → url.isWeb = true →
        let canBeAsked := url.HasSendableHost ∧
          (url.withoutCredentials.withField "q" token).chars.length ≤ 65534
        (canBeAsked → ∀ step : Step, step.Concerns token → ∀ earlier,
          requestsFor token earlier < requestsFor token (step.perform service client earlier).2) ∧
        (¬ canBeAsked → ∃ cause : LookupCause, cause.IsTransport ∧ ∀ earlier,
          let failed : LookupError := ⟨token, cause⟩
          (Step.query token).perform service client earlier =
              (.records token (.error failed), earlier) ∧
            (Step.resolveOne token).perform service client earlier =
              (.best token (.error failed), earlier) ∧
            ∀ tokens, token ∈ tokens →
              let batch := client.resolveMany service tokens earlier
              let without := client.resolveMany service (tokens.filter (· != token)) earlier
              (Step.resolveMany tokens).perform service client earlier = (.batch batch.1, batch.2) ∧
                batch.1.entries.lookup token = some none ∧
                batch.1.failed = without.1.failed + 1 ∧ batch.2 = without.2) := by
  intro service whole alone
  have unchanged : requestsOf token before = requestsOf token before := rfl
  refine ⟨?_, ?_, ?_⟩
  · obtain ⟨sameFindings, sameRequests⟩ :=
      run_restrict client (rfl : replies token = replies token) steps unchanged
    exact ⟨sameFindings.symm, sameRequests.symm,
      Service.requestsOf_traffic_congr rfl rfl sameRequests.symm⟩
  · intro changed sameReplies again
    -- Both runs have the restricted run under the changed replies in common.
    obtain ⟨changedFindings, changedRequests⟩ :=
      run_restrict client (rfl : changed token = changed token) steps unchanged
    obtain ⟨ownFindings, ownRequests⟩ := run_restrict client sameReplies steps unchanged
    have sameRequests : requestsOf token again.2 = requestsOf token whole.2 :=
      changedRequests.symm.trans ownRequests
    exact ⟨changedFindings.symm.trans ownFindings, sameRequests,
      Service.requestsOf_traffic_congr sameReplies rfl sameRequests⟩
  · intro url read web canBeAsked
    have formed := Client.exists_request_iff read web token
    refine ⟨?_, ?_⟩
    · intro conditions step concerned earlier
      obtain ⟨request, asked⟩ := formed.mpr conditions
      exact requestsFor_lt_perform service asked concerned earlier
    · intro unconditioned
      obtain ⟨cause, refused⟩ := Client.exists_request_error fun isFormed =>
        unconditioned (formed.mp isFormed)
      obtain ⟨shown, isUnaskable⟩ := Client.exists_unaskable_of_request_error refused
      refine ⟨cause, isUnaskable ▸ trivial, ?_⟩
      intro earlier failed
      refine ⟨?_, ?_, ?_⟩
      · rw [Step.perform, Client.query_of_request_error service client token earlier refused]
      · rw [Step.perform, Client.resolveOne_of_request_error service client token earlier refused]
      · intro tokens mentioned batch without
        exact ⟨rfl, Client.resolveMany_of_request_error replies client refused mentioned earlier⟩

/-! ### At single addresses -/

/-- A client of a service on the own machine. -/
def ownMachine : Client :=
  .anonymous { Settings.default with endpoint := "http://127.0.0.1:9/v1/features" }

/-- The address of that service. -/
def ownAddress : Net.Url :=
  ⟨"http".toList, some ⟨.none, some (.short 0x7F000001), some 9⟩, "/v1/features".toList, none, none⟩

theorem ofText?_ownMachine :
    Net.Url.ofText? ownMachine.settings.endpoint = some ownAddress := by
  decide +kernel

/-- Three steps, two of them about `div`: what is said of it and asked for it does not hang on what
`nav` is answered, and another batch with it asks once more. -/
theorem run_isolates_div :
    let steps : List Step := [.query "nav", .resolveMany ["nav", "div", "nav"], .resolveOne "div"]
    let silent : (token : String) → (earlier : Nat) → Replies := fun _ _ => .ofReply none
    let changed : (token : String) → (earlier : Nat) → Replies := fun token earlier =>
      if token = "nav" then
        .ofReply
          (some { status := 429 + earlier, contentType := "text/plain", body := [],
                  isTruncated := false })
      else .ofReply none
    changed "div" = silent "div" ∧
      findings "div" (run (.byToken changed) ownMachine steps []).1 =
        findings "div" (run (.byToken silent) ownMachine steps []).1 ∧
      Net.Url.ofText? ownMachine.settings.endpoint = some ownAddress ∧
      ownAddress.isWeb = true ∧ ownAddress.HasSendableHost ∧
      (ownAddress.withoutCredentials.withField "q" "div").chars.length ≤ 65534 ∧
      Step.Concerns "div" (.resolveMany ["nav", "div"]) ∧
      requestsFor "div" [] <
        requestsFor "div" ((Step.resolveMany ["nav", "div"]).perform (.byToken silent)
          ownMachine []).2 := by
  intro steps silent changed
  have sameReplies : changed "div" = silent "div" := by
    funext earlier
    rfl
  have web : ownAddress.isWeb = true := by decide
  have sendable : ownAddress.HasSendableHost := by decide +kernel
  have fits : (ownAddress.withoutCredentials.withField "q" "div").chars.length ≤ 65534 := by
    decide +kernel
  have mentioned : Step.Concerns "div" (.resolveMany ["nav", "div"]) :=
    List.mem_cons_of_mem "nav" List.mem_cons_self
  obtain ⟨_, others, atAddress⟩ := run_isolates_token silent ownMachine "div" steps []
  have asks := (atAddress ownAddress ofText?_ownMachine web).1 ⟨sendable, fits⟩
  exact ⟨sameReplies, (others changed sameReplies).1, ofText?_ownMachine, web, sendable, fits,
    mentioned, asks _ mentioned []⟩

/-- A token with which every address is too long. -/
def longToken : String :=
  String.ofList (List.replicate Net.Url.longest 'a')

theorem length_longToken : longToken.length = 65534 := by
  have length : longToken.length = Net.Url.longest := by simp [longToken]
  exact length

/-- An address of the web whose host cannot be sent. -/
def quotedAddress : Net.Url :=
  ⟨"http".toList, some ⟨.none, some (.name "a\x22b".toList), none⟩, "/v1/features".toList, none,
    none⟩

/-- A client of a service at that address. -/
def quotedMachine : Client :=
  .anonymous { Settings.default with endpoint := "http://a\x22b/v1/features" }

private theorem requestsFor_perform_resolveOne_of_not_exists (service : Service) {client : Client}
    {token : String} (none : ¬ ∃ request, client.request token = .ok request)
    (before : List Request) :
    ((Step.resolveOne token).perform service client before).2 = before := by
  rw [Step.perform, Client.resolveOne_requests]
  cases asked : client.request token with
  | error cause => rw [Client.sent_of_error service client token before asked, List.append_nil]
  | ok request => exact absurd ⟨request, asked⟩ none

/-- Steps at addresses of the web that ask nothing: the token is too long, or the host of the
endpoint cannot be sent. -/
theorem steps_without_request :
    let silent : (token : String) → (earlier : Nat) → Replies := fun _ _ => .ofReply none
    (Net.Url.ofText? ownMachine.settings.endpoint = some ownAddress ∧ ownAddress.isWeb = true ∧
        Step.Concerns longToken (.resolveOne longToken) ∧
        ¬ requestsFor longToken [] < requestsFor longToken
          ((Step.resolveOne longToken).perform (.byToken silent) ownMachine []).2) ∧
      (Net.Url.ofText? quotedMachine.settings.endpoint = some quotedAddress ∧
        quotedAddress.isWeb = true ∧ Step.Concerns "div" (.resolveOne "div") ∧
        ¬ requestsFor "div" [] < requestsFor "div"
          ((Step.resolveOne "div").perform (.byToken silent) quotedMachine []).2) := by
  intro silent
  have ownWeb : ownAddress.isWeb = true := by decide
  have quotedWeb : quotedAddress.isWeb = true := by decide
  have quotedRead : Net.Url.ofText? quotedMachine.settings.endpoint = some quotedAddress := by
    decide +kernel
  refine ⟨⟨ofText?_ownMachine, ownWeb, rfl, ?_⟩, ⟨quotedRead, quotedWeb, rfl, ?_⟩⟩
  · have tooLong : ¬ ∃ request, ownMachine.request longToken = .ok request := by
      rw [Client.exists_request_iff ofText?_ownMachine ownWeb]
      rintro ⟨_, fits⟩
      have longer := Net.Url.length_lt_length_chars_withField ownAddress.withoutCredentials "q"
        longToken
      rw [length_longToken] at longer
      omega
    rw [requestsFor_perform_resolveOne_of_not_exists _ tooLong]
    exact Nat.lt_irrefl _
  · have unsendable : ¬ ∃ request, quotedMachine.request "div" = .ok request := by
      rw [Client.exists_request_iff quotedRead quotedWeb]
      rintro ⟨sendable, _⟩
      have notSendable : ¬ quotedAddress.HasSendableHost := by decide
      exact notSendable sendable
    rw [requestsFor_perform_resolveOne_of_not_exists _ unsendable]
    exact Nat.lt_irrefl _

end WebCompat.Session
