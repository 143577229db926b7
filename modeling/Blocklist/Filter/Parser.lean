/-
This file reads the lines of a filter list.
-/

import Blocklist.Filter.Cosmetic
import Blocklist.Filter.LineKind
import Blocklist.Filter.Url

namespace Blocklist

namespace FilterRule

/-- A reader of rules is given a line that is no comment, without blanks around it. -/
abbrev Parser := Text → Except FilterError FilterRule

def parse : Parser := fun line =>
  let text := Text.trim line
  if text.isEmpty then .error .unreadable
  else
    match LineKind.ofLine text with
    | .network => (UrlRule.parse text).map .url
    | .cosmetic => (CosmeticRule.parse text).map .cosmetic
    | .script => .ok (.script ⟨text⟩)
    | .unsupported kind => .error (.unsupported kind)
    | .noRule => .error .unreadable

end FilterRule

end Blocklist
