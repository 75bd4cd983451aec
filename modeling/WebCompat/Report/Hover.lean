import WebCompat.Report.Fragment
import WebCompat.Report.Markdown

/-!
Hover reports: everything shown for the word under a cursor.
-/

namespace WebCompat

open Json (Value)

/-- What is known about the support of a hovered word. -/
inductive HoverSupport where
  /-- The word is not worth a lookup in its document. -/
  | notQueried
  /-- The lookup was answered, perhaps without a record. -/
  | resolved (record : Option Record) (fragment : Fragment)
  /-- The lookup failed. -/
  | failed (error : String)

/-- Everything shown for a hovered word. Lines and columns count from one; the text of the
line is trimmed. -/
structure HoverReport where
  word : String
  line : Nat
  column : Nat
  lineText : String
  occurrences : Nat
  support : HoverSupport

/-- The block on browser support in the text for a hovered word. -/
def Markdown.hoverSupport : HoverSupport → String
  | .notQueried => ""
  | .resolved record _ => support record
  | .failed _ => "\n\n❌ **Error loading browser support data**"

/-- The whole text for a hovered word. -/
def Markdown.hover (report : HoverReport) : String :=
  "**Word:** \x60" ++ report.word ++ "\x60\n\n**Line " ++ toString report.line ++ ":** "
    ++ report.lineText ++ "\n\n**Position:** Line " ++ toString report.line ++ ", Column "
    ++ toString report.column ++ "\n\n**Occurrences in file:** "
    ++ toString report.occurrences ++ Markdown.hoverSupport report.support

def HoverSupport.toValue : HoverSupport → Value
  | .notQueried => .object [("state", .text "not_queried")]
  | .resolved record fragment =>
      .object
        [("state", .text "resolved"),
          ("record", Value.ofOption Record.toValue record),
          ("fragment", fragment.toValue)]
  | .failed error => .object [("state", .text "failed"), ("error", .text error)]

def HoverReport.toValue (report : HoverReport) : Value :=
  .object
    [("word", .text report.word),
      ("line", Value.ofNat report.line),
      ("column", Value.ofNat report.column),
      ("line_text", .text report.lineText),
      ("occurrences", Value.ofNat report.occurrences),
      ("support", report.support.toValue)]

end WebCompat
