import WebCompat.Proofs.Lookup.Session
import WebCompat.Proofs.Net.Form

/-!
What a service is asked. A request is for the address of the endpoint, to which one field with the
token is added; the field is read back as the token, so that the service learns all of the token
and requests for different tokens differ.

Owns: the line of a request, and what it says of a token and of the endpoint.
-/

namespace WebCompat

namespace Net.Url

/-- The line that a request for an address begins with. -/
def requestLine (url : Url) : String :=
  "GET " ++ String.ofList url.target

/-- The fields in the query of an address. -/
def fields (url : Url) : List (String × String) :=
  url.query.elim [] Form.fields

theorem query_withField (url : Url) (name value : String) :
    (url.withField name value).query =
      some (Form.opening url.query ++ (Form.encode name.toList ++ '=' :: Form.encode value.toList)) :=
  congrArg some (Form.append_eq url.query name.toList value.toList)

/-- A field is added behind those that a query has, which stay as they are. -/
theorem fields_withField (url : Url) (name value : String) :
    (url.withField name value).fields = url.fields ++ [(name, value)] := by
  have added := Form.fields_append url.query name.toList value.toList
  rw [String.ofList_toList, String.ofList_toList] at added
  exact added

/-- What is sent for an address with a field, letter by letter. -/
theorem requestLine_withField (url : Url) (name value : String) :
    (url.withField name value).requestLine =
      "GET " ++ String.ofList (url.path ++ '?' :: (Form.opening url.query ++
        (Form.encode name.toList ++ '=' :: Form.encode value.toList))) := by
  rw [requestLine, target, query_withField]
  rfl

/-- What stands in front of a value in the line of a request does not hang on the value. -/
theorem requestLine_withField_inj {url : Url} {name value other : String} :
    (url.withField name value).requestLine = (url.withField name other).requestLine ↔
      value = other := by
  constructor
  · intro sameLine
    rw [requestLine_withField, requestLine_withField, String.append_right_inj,
      String.ofList_inj, List.append_right_inj] at sameLine
    simp only [List.cons.injEq, true_and, List.append_right_inj] at sameLine
    have sameText := congrArg Form.decode sameLine
    simpa only [Form.decode_encode, String.ofList_toList] using sameText
  · rintro rfl
    rfl

end Net.Url

namespace Client

/-- The address at which a service is asked for a token, by the address of the endpoint. -/
def addressFor (url : Net.Url) (token : String) : Net.Url :=
  url.withoutCredentials.withField "q" token

/-- A request is made exactly if the address for its token can be asked, and it is for that
address. -/
theorem request_eq_ok_iff {client : Client} {url : Net.Url}
    (read : Net.Url.ofText? client.settings.endpoint = some url) {token : String}
    {request : Request} :
    client.request token = .ok request ↔
      (url.host?.isSome = true ∧ (addressFor url token).isAskable = true) ∧
        request = ⟨token, addressFor url token, client.userAgent⟩ := by
  unfold Client.request
  rw [read]
  dsimp only
  rw [← addressFor]
  cases url.host? with
  | none => simp
  | some host =>
      cases (addressFor url token).isAskable with
      | false => simp
      | true => simp [eq_comm]

/-- **A service is asked for exactly the token.** The token is written as one field behind the query
of the endpoint, in few characters, and is read back from it; so two tokens are never asked for by
the same line. -/
theorem asked_for_exactly_token (client : Client) {url : Net.Url}
    (read : Net.Url.ofText? client.settings.endpoint = some url) :
    (∀ token,
        let value := Net.Form.encode token.toList
        Net.Form.Written value ∧ Net.Form.decode value = token ∧
          (addressFor url token).query =
            some (Net.Form.opening url.query ++ ("q=".toList ++ value)) ∧
          (addressFor url token).fields = url.fields ++ [("q", token)] ∧
          (addressFor url token).requestLine = "GET " ++ String.ofList
            (url.path ++ '?' :: (Net.Form.opening url.query ++ ("q=".toList ++ value))) ∧
          (∀ request, client.request token = .ok request ↔
            (url.host?.isSome = true ∧ (addressFor url token).isAskable = true) ∧
              request = ⟨token, addressFor url token, client.userAgent⟩) ∧
          ∀ service before, ∀ request ∈ sent service client token before,
            request.url = addressFor url token) ∧
      ∀ token other,
        (addressFor url token).requestLine = (addressFor url other).requestLine ↔
          token = other := by
  constructor
  · intro token value
    refine ⟨Net.Form.written_encode _, ?_, Net.Url.query_withField _ "q" token,
      Net.Url.fields_withField _ "q" token, Net.Url.requestLine_withField _ "q" token,
      fun request => request_eq_ok_iff read, ?_⟩
    · rw [Net.Form.decode_encode, String.ofList_toList]
    · intro service before request isSent
      have asked := request_of_mem_sent service client token before isSent
      rw [((request_eq_ok_iff read).mp asked).2]
  · intro token other
    exact Net.Url.requestLine_withField_inj

/-- A client of the service on the own machine, by an address with a query. -/
def queryingMachine : Client :=
  .anonymous { Settings.default with endpoint := "http://127.0.0.1:9/v1/features?kind=a b&" }

/-- The address of that service. -/
def queriedAddress : Net.Url :=
  { Session.ownAddress with query := some "kind=a%20b&".toList }

/-- A token of characters that queries are cut at, and of others that are escaped. -/
theorem asked_for_marks :
    let value := "a%26%3D%23+%2B%25%C3%A9".toList
    Net.Url.ofText? queryingMachine.settings.endpoint = some queriedAddress ∧
      Net.Form.encode "a&=# +%é".toList = value ∧
      Net.Form.Written value ∧ Net.Form.decode value = "a&=# +%é" ∧
      (addressFor queriedAddress "a&=# +%é").fields =
        queriedAddress.fields ++ [("q", "a&=# +%é")] ∧
      (addressFor queriedAddress "a&=# +%é").requestLine =
        "GET /v1/features?kind=a%20b&&q=a%26%3D%23+%2B%25%C3%A9" ∧
      queryingMachine.request "a&=# +%é" =
        .ok ⟨"a&=# +%é", addressFor queriedAddress "a&=# +%é", queryingMachine.userAgent⟩ := by
  intro value
  have read : Net.Url.ofText? queryingMachine.settings.endpoint = some queriedAddress := by
    decide +kernel
  have isValue : Net.Form.encode "a&=# +%é".toList = value := by decide +kernel
  obtain ⟨each, _⟩ := asked_for_exactly_token queryingMachine read
  obtain ⟨written, decodes, _, fields, line, asked, _⟩ := each "a&=# +%é"
  rw [isValue] at written decodes line
  refine ⟨read, isValue, written, decodes, fields, line.trans rfl, (asked _).mpr ⟨?_, rfl⟩⟩
  exact ⟨by decide +kernel, by decide +kernel⟩

end Client

end WebCompat
