import WebCompat.Feature.Record

/-!
The browsers that every report shows, and where a record keeps what it knows about them.
-/

namespace WebCompat

/-- A browser that every report shows. -/
inductive Browser where
  | chrome
  | firefox
  | safari
  | edge
deriving DecidableEq, Repr

namespace Browser

/-- Every browser, in display order. -/
def all : List Browser :=
  [.chrome, .firefox, .safari, .edge]

/-- The identifier of a browser in a record. -/
def key : Browser → String
  | .chrome => "chrome"
  | .firefox => "firefox"
  | .safari => "safari"
  | .edge => "edge"

def displayName : Browser → String
  | .chrome => "Chrome"
  | .firefox => "Firefox"
  | .safari => "Safari"
  | .edge => "Edge"

/-- The identifiers under which a record may keep a browser: the browser itself, then its
variants for mobile systems. -/
def lookupKeys (browser : Browser) : List String :=
  [browser.key, browser.key ++ "_android", browser.key ++ "_ios"]

/-- The implementation that stands for a browser in a record: that of the first identifier
in use, together with the identifier. -/
def findIn (browser : Browser) (record : Record) : Option (String × Implementation) :=
  browser.lookupKeys.findSome? fun key => (record.browsers.get? key).map (key, ·)

end Browser

end WebCompat
