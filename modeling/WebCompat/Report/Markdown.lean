import WebCompat.Report.Browser

/-!
Compatibility records as Markdown, for the text that pops up over a word.
-/

namespace WebCompat.Markdown

/-- The icon before the line of an implementation, by browser identifier. -/
def browserIcon (key : String) : String :=
  match key with
  | "chrome" => "🔵"
  | "chrome_android" => "📱"
  | "firefox" | "firefox_android" => "🦊"
  | "safari" | "safari_ios" => "🧭"
  | "edge" => "🔷"
  | _ => "⚫"

/-- The name of a browser by its identifier; an unknown identifier stands for itself. -/
def browserName (key : String) : String :=
  match key with
  | "chrome" => "Chrome"
  | "chrome_android" => "Chrome Android"
  | "firefox" => "Firefox"
  | "firefox_android" => "Firefox Android"
  | "safari" => "Safari"
  | "safari_ios" => "Safari iOS"
  | "edge" => "Edge"
  | other => other

def tierIcon : Tier → String
  | .widely => "🟢"
  | .newly => "🔵"
  | .limited => "🟡"
  | .unavailable | .unknown => "🔴"

/-- The mark of an implementation: only an available one is support. -/
def supportMark : Availability → String
  | .available => "✅"
  | .unavailable | .unknown => "❌"

/-- The paragraph of one implementation. -/
def implementationLine (key : String) (implementation : Implementation) : String :=
  browserIcon key ++ " **" ++ browserName key ++ "**: " ++ supportMark implementation.status
    ++ (match implementation.version with
      | some version => " (v" ++ version ++ ")"
      | none => "")
    ++ "\n\n"

/-- The paragraphs on the baseline: none if the tier is unknown, and the date only if there
is one. -/
def baselineLines (record : Record) : List String :=
  if record.tier = .unknown then []
  else
    (tierIcon record.tier ++ " **Baseline Status:** " ++ record.tier.name ++ "\n\n")
      :: (record.baselineSince.toList.map fun since =>
        "📅 **Available Since:** " ++ since.text ++ "\n\n")

/-- The block on browser support: every implementation of a record in the order of the
identifiers, then the baseline. -/
def support : Option Record → String
  | none => "\n\n**Browser Support:** No data available"
  | some record =>
      "\n\n**Browser Support:**\n\n"
        ++ String.join
          ((record.browsers.entries.map fun entry => implementationLine entry.1 entry.2)
            ++ baselineLines record)

end WebCompat.Markdown
