import MipsGloss.Report.Page
import MipsGloss.Report.Structured

namespace MipsGloss

/-! Reports are written as a page of text or as structured data. -/

inductive Rendering where
  | text
  | json
  deriving DecidableEq, Repr

namespace Rendering

def name : Rendering → String
  | .text => "text"
  | .json => "json"

def ofName? (text : String) : Option Rendering :=
  [Rendering.text, Rendering.json].find? (·.name == text)

/-- The message about a name that is no rendering. -/
def invalidName (text : String) : String := "invalid format: " ++ text

/-- Writes reports. Structured data tells an empty list from no list at all;
a page does not. -/
def render (style : PageStyle) (reports : Option (List Report)) :
    Rendering → String
  | .text => style.page (reports.getD [])
  | .json =>
    match reports with
    | some reports => (Report.listJson reports).line
    | none => Json.Value.null.line

end Rendering

end MipsGloss
