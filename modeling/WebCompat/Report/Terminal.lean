import WebCompat.Report.Analysis

/-!
Analyses as text for a terminal, with every token in the colour of its tier: green for
widely, blue for newly, yellow for limited, red for not available, and dimmed where nothing
is known.
-/

namespace WebCompat.Terminal

inductive Style where
  | bold
  | dimmed
  | red
  | green
  | yellow
  | blue
deriving DecidableEq, Repr

/-- The codes that turn a style on and off. -/
def Style.codes : Style → String × String
  | .bold => ("1", "0")
  | .dimmed => ("2", "0")
  | .red => ("31", "39")
  | .green => ("32", "39")
  | .yellow => ("33", "39")
  | .blue => ("34", "39")

def styled (style : Style) (text : String) : String :=
  "\x1b[" ++ style.codes.1 ++ "m" ++ text ++ "\x1b[" ++ style.codes.2 ++ "m"

def tierStyle : Tier → Style
  | .widely => .green
  | .newly => .blue
  | .limited => .yellow
  | .unavailable => .red
  | .unknown => .dimmed

/-- The badge of a tier. -/
def badge (tier : Tier) : String :=
  styled (tierStyle tier) ("[" ++ tier.name ++ "]")

def stateMark : SupportState → String
  | .supported => styled .green "✓"
  | .notSupported => styled .red "✗"
  | .unknown => styled .dimmed "?"

/-- A browser, its mark and the version if there is one. -/
def cell (cell : BrowserCell) : String :=
  cell.browser.displayName ++ " " ++ stateMark cell.state
    ++ (match cell.version with
      | some version => " " ++ version
      | none => "")

/-- The lines on a token with a summary. -/
def summaryLines (label : String) (summary : Summary) : List String :=
  [ "  - " ++ styled .bold label ++ " " ++ badge summary.tier ++ " "
      ++ styled .dimmed summary.featureName,
    "      " ++ "  ".intercalate (summary.browsers.map cell) ]
    ++ (summary.availableSince.toList.map fun since =>
      "      " ++ styled .dimmed "since" ++ " " ++ since)

/-- The lines on a token, which may not have been looked up. -/
def tokenLines (token : String) : Option Fragment → List String
  | some fragment =>
      match fragment.support with
      | some summary => summaryLines fragment.label summary
      | none => ["  - " ++ fragment.label ++ " " ++ styled .dimmed "no data"]
  | none => ["  - " ++ styled .dimmed token]

/-- The lines of a category: its heading with the number of tokens, then the tokens. -/
def categoryLines (heading : String) (category : Category) : List String :=
  (styled .bold heading ++ " "
      ++ styled .dimmed ("(" ++ toString category.tokens.size ++ ")"))
    :: if category.tokens.isEmpty then ["  " ++ styled .dimmed "none found"]
      else category.tokens.items.flatMap fun token =>
        tokenLines token (category.fragment? token)

/-- The line on failed lookups, if there were any. -/
def failureLines (failed : Nat) : List String :=
  if failed = 0 then []
  else
    [styled .yellow (toString failed ++ " lookup(s) failed and are shown without data")]

/-- The lines of an analysis: the categories with an empty line after each, then the number
of failed lookups. -/
def lines (analysis : Analysis) : List String :=
  (analysis.categories.flatMap fun category => categoryLines category.1 category.2 ++ [""])
    ++ failureLines analysis.failedLookups

/-- The text of an analysis, every line of it ended. -/
def text (analysis : Analysis) : String :=
  String.join ((lines analysis).map fun line => line ++ "\n")

end WebCompat.Terminal
