/-!
How far a feature is available: in a single browser, and across the major browsers.
-/

namespace WebCompat

/-- Whether a single browser ships a feature. -/
inductive Availability where
  | available
  | unavailable
  | unknown
deriving DecidableEq, Repr

namespace Availability

def name : Availability → String
  | .available => "available"
  | .unavailable => "unavailable"
  | .unknown => "unknown"

def all : List Availability :=
  [.available, .unavailable, .unknown]

/-- All availabilities under their names. -/
def named : List (String × Availability) :=
  all.map fun availability => (availability.name, availability)

def ofName? (name : String) : Option Availability :=
  named.lookup name

end Availability

/-- How broadly a feature is supported across the major browsers. -/
inductive Tier where
  | widely
  | newly
  | limited
  | unavailable
  | unknown
deriving DecidableEq, Repr

namespace Tier

def name : Tier → String
  | .widely => "widely"
  | .newly => "newly"
  | .limited => "limited"
  | .unavailable => "unavailable"
  | .unknown => "unknown"

/-- All tiers, the broadest support first. -/
def all : List Tier :=
  [.widely, .newly, .limited, .unavailable, .unknown]

/-- All tiers under their names. -/
def named : List (String × Tier) :=
  all.map fun tier => (tier.name, tier)

def ofName? (name : String) : Option Tier :=
  named.lookup name

end Tier

end WebCompat
