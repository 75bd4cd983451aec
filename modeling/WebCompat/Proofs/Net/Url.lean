import WebCompat.Net.Url

/-!
Addresses of the web. Reading one either fails or finds a host, so that an address that can be
read and is of the web lacks nothing that a request needs but a host and a length that can be
sent.

Owns: the host of an address of the web; when an address with a field added can be asked; and that
a field lengthens an address by as many characters as it has, at least.
-/

namespace WebCompat.Net

/-! ## Lengths of form fields -/

namespace Form

private theorem encodeChar_ne_nil (c : Char) : encodeChar c ≠ [] := by
  unfold encodeChar
  split
  · exact List.cons_ne_nil _ _
  · split
    · exact List.cons_ne_nil _ _
    · have bytes : 0 < (String.utf8EncodeChar c).length := by
        rw [String.length_utf8EncodeChar]
        exact c.utf8Size_pos
      intro empty
      rw [percentChar, List.flatMap_eq_nil_iff] at empty
      obtain ⟨byte, member⟩ := List.exists_mem_of_length_pos bytes
      exact List.cons_ne_nil _ _ (empty byte member)

private theorem length_le_length_encode (text : List Char) :
    text.length ≤ (encode text).length := by
  induction text with
  | nil => exact Nat.le_refl 0
  | cons c text inductionHypothesis =>
      have first := List.length_pos_iff.mpr (encodeChar_ne_nil c)
      rw [encode, List.flatMap_cons, List.length_append, List.length_cons]
      rw [encode] at inductionHypothesis
      omega

private theorem length_encode_le_length_append (query : Option (List Char))
    (name value : List Char) :
    (encode value).length ≤ (append query name value).length := by
  unfold append
  split <;> simp only [List.length_append, List.length_cons] <;> omega

end Form

/-! ## Hosts -/

theorem Authority.isSome_host_of_web
    {scheme text rest : List Char}
    {isAtEnd : Bool}
    {authority : Authority}
    (read : Authority.ofText? .web scheme isAtEnd text = some (authority, rest)) :
    authority.host.isSome = true := by
  unfold Authority.ofText? at read
  simp only [Option.bind_eq_bind] at read
  split at read
  · cases read
  · simp only [Option.bind_eq_some_iff] at read
    obtain ⟨host, hostRead, port, _, made⟩ := read
    obtain ⟨own, _, isHost⟩ := Option.map_eq_some_iff.mp hostRead
    cases made
    rw [← isHost]
    rfl

namespace Url

private theorem ofScheme_of_isWeb {url : Url} (web : url.isWeb = true) :
    SchemeClass.ofScheme url.scheme = .web := by
  have isWebScheme : url.scheme = "http".toList ∨ url.scheme = "https".toList := by
    simpa [isWeb] using web
  rcases isWebScheme with http | https
  · rw [http]
    rfl
  · rw [https]
    rfl

/-- An address of the web has a host. -/
theorem isSome_host?_of_isWeb {text : String} {url : Url} (read : ofText? text = some url)
    (web : url.isWeb = true) : url.host?.isSome = true := by
  unfold ofText? at read
  simp only [Option.bind_eq_bind, Option.bind_eq_some_iff] at read
  obtain ⟨⟨scheme, rest⟩, _, ⟨authority, path⟩, hierarchy, made⟩ := read
  have isScheme : url.scheme = scheme := by
    cases made
    rfl
  have isAuthority : url.authority = authority := by
    cases made
    rfl
  have isWebClass := ofScheme_of_isWeb web
  rw [isScheme] at isWebClass
  simp only [isWebClass, ofHierarchy?, withAuthority?, Option.map_eq_some_iff, Prod.mk.injEq]
    at hierarchy
  obtain ⟨⟨found, back⟩, foundRead, isFound, _⟩ := hierarchy
  rw [host?, isAuthority, ← isFound]
  exact Authority.isSome_host_of_web foundRead

/-- The host of an address can be sent: there is no quote in it, no back quote and no brace. -/
def HasSendableHost (url : Url) : Prop :=
  ∀ host ∈ url.host?, ∀ c ∈ host.chars, c ∉ ['"', '\x60', '\x7b', '\x7d']

private theorem isUnsendable_iff {c : Char} :
    isUnsendable c = true ↔ c ∈ ['"', '\x60', '\x7b', '\x7d'] := by
  simp [isUnsendable, or_assoc]

private theorem any_host?_eq_false_iff (url : Url) :
    (url.host?.any fun host => host.chars.any isUnsendable) = false ↔ url.HasSendableHost := by
  simp only [HasSendableHost, Option.any_eq_false, List.any_eq_false, Option.mem_def,
    isUnsendable_iff]

instance (url : Url) : Decidable url.HasSendableHost :=
  decidable_of_iff _ (any_host?_eq_false_iff url)

/-- What keeps an address from being in a request is its host or its length. -/
theorem isSendable_iff {url : Url} :
    url.isSendable = true ↔ url.HasSendableHost ∧ url.chars.length ≤ 65534 := by
  rw [isSendable, Bool.and_eq_true, Bool.not_eq_true', any_host?_eq_false_iff, decide_eq_true_eq]
  exact Iff.rfl

/-- The credentials and the fields of an address decide about nothing but its length whether it
can be asked. -/
theorem isAskable_withField_iff (url : Url) (name value : String) :
    (url.withoutCredentials.withField name value).isAskable = true ↔
      url.isWeb = true ∧ url.HasSendableHost ∧
        (url.withoutCredentials.withField name value).chars.length ≤ 65534 := by
  have sameHost : (url.withoutCredentials.withField name value).host? = url.host? := by
    unfold withField withoutCredentials host?
    cases url.authority with
    | none => rfl
    | some authority =>
        simp only [Option.map_some, Option.bind_some]
        split <;> rfl
  rw [isAskable, Bool.and_eq_true, isSendable_iff, HasSendableHost, sameHost]
  exact Iff.rfl

theorem length_lt_length_chars_withField (url : Url) (name value : String) :
    value.length < (url.withField name value).chars.length := by
  have encoded := Form.length_le_length_encode value.toList
  have appended := Form.length_encode_le_length_append url.query name.toList value.toList
  have inTarget : (Form.append url.query name.toList value.toList).length ≤
      (url.withField name value).target.length := by
    simp [target, withField]
    omega
  have inChars : (url.withField name value).target.length <
      (url.withField name value).chars.length := by
    simp [chars]
    omega
  rw [String.length_toList] at encoded
  omega

end Url

end WebCompat.Net
