import WebCompat.Net.Host
import WebCompat.Net.Scheme

/-!
The part of an address that names a host: who asks, the host, and a port.
-/

namespace WebCompat.Net

open WebCompat.Text (numberInBase?)

/-! ## Credentials -/

/-- A name and a password, percent-encoded. -/
structure Credentials where
  username : List Char
  password : List Char
deriving DecidableEq, Repr

namespace Credentials

def none : Credentials := ⟨[], []⟩

def isNone (credentials : Credentials) : Bool :=
  credentials.username.isEmpty && credentials.password.isEmpty

/-- Reads what is before the host: the password follows the first colon. -/
def ofText (text : List Char) : Credentials where
  username := percentEncode isReservedInCredentials (text.takeWhile (· != ':'))
  password := percentEncode isReservedInCredentials ((text.dropWhile (· != ':')).drop 1)

/-- Whether a percent-encoded text is text when it is decoded. -/
def isReadable (encoded : List Char) : Bool :=
  (Text.ofBytes? (percentDecode (Text.bytes encoded))).isSome

/-- Whether the credentials can be sent apart from the address. -/
def areSeparable (credentials : Credentials) : Bool :=
  isReadable credentials.username
    && (!credentials.username.isEmpty
      || (!credentials.password.isEmpty && isReadable credentials.password))

/-- The characters of credentials in front of a host. -/
def chars (credentials : Credentials) : List Char :=
  if credentials.isNone then []
  else
    credentials.username
      ++ (if credentials.password.isEmpty then [] else ':' :: credentials.password) ++ ['@']

end Credentials

/-! ## Authorities -/

/-- Credentials, a host, and a port that is not the usual one of the scheme. An address may begin
like one with a host and still have none. -/
structure Authority where
  credentials : Credentials
  host : Option Host
  port : Option Nat
deriving DecidableEq, Repr

namespace Authority

/-- The authority without a host. -/
def none : Authority := ⟨.none, .none, .none⟩

/-- Splits a text behind the last of its at signs, if there are any. -/
def splitCredentials (text : List Char) : Option (List Char) × List Char :=
  let host := (text.reverse.takeWhile (· != '@')).reverse
  if text.contains '@' then (some (text.take (text.length - host.length - 1)), host)
  else (Option.none, text)

/-- Splits a text before the first colon outside of brackets. -/
def splitPort (inBrackets : Bool) : List Char → List Char × Option (List Char)
  | [] => ([], Option.none)
  | c :: rest =>
      if c = ':' ∧ !inBrackets then ([], some rest)
      else
        let split :=
          splitPort (if c = '[' then true else if c = ']' then false else inBrackets) rest
        (c :: split.1, split.2)

/-- A port in digits; no digits leave the usual port. -/
def port? (scheme digits : List Char) : Option (Option Nat) :=
  if digits.isEmpty then some Option.none
  else
    match numberInBase? 10 0 digits with
    | Option.none => Option.none
    | some port =>
        if 65536 ≤ port then Option.none
        else if usualPort? scheme = some port then some Option.none
        else some (some port)

/-- The host in an authority. Where none is needed, none is there if there is neither a port nor
anyone who asks. -/
def host? (kind : SchemeClass) (isAlone : Bool) (text : List Char) : Option (Option Host) :=
  if kind.isSpecial then (Host.ofText? text).map some
  else if text.isEmpty then
    if isAlone then some Option.none else Option.none
  else (Host.ofOpaqueText? text).map some

/-- Reads an authority, and yields what is left of it: a port ends at a backslash too. An at sign
with nothing on either side is a fault unless the address ends there. -/
def ofText? (kind : SchemeClass) (scheme : List Char) (isAtEnd : Bool) (text : List Char) :
    Option (Authority × List Char) := do
  let (userinfo, target) := splitCredentials text
  if userinfo = some [] ∧ target.isEmpty ∧ !isAtEnd then Option.none
  let credentials := (userinfo.map Credentials.ofText).getD .none
  let (hostText, portText) := splitPort false target
  let host ← host? kind (credentials.isNone && portText.isNone) hostText
  let port ← port? scheme ((portText.getD []).takeWhile (· != '\\'))
  return (⟨credentials, host, port⟩, (portText.getD []).dropWhile (· != '\\'))

/-- The characters of an authority. -/
def chars (authority : Authority) : List Char :=
  authority.credentials.chars ++ (authority.host.map Host.chars).getD []
    ++ ((authority.port.map fun port => ':' :: Nat.toDigits 10 port).getD [])

end Authority

end WebCompat.Net
