/-
This file finds the resource types of a content rule for the types that a URL rule names.
-/

import Blocklist.Content.Error
import Blocklist.Content.Rule
import Blocklist.Filter.TypeMask

namespace Blocklist.ResourceType

def selected (condition : Bool) (type : ResourceType) : List ResourceType :=
  if condition then [type] else []

/-- A frame is a document when nothing else is asked for. -/
def counterparts (types : TypeMask) : List ResourceType :=
  selected (types.contains .image) .image ++
  selected (types.contains .styleSheet) .styleSheet ++
  selected (types.contains .script) .script ++
  selected (types.contains .media) .media ++
  selected (types.contains .popup) .popup ++
  selected (types.meets (.xmlHttpRequest ∪ .other ∪ .webSocket)) .raw ++
  selected (types.contains .font) .font ++
  selected (types == .subdocument) .document

/-- The usual types are left out, which matches everything. -/
def ofMask (types : TypeMask) : Except ConversionError (Option (List ResourceType)) :=
  if types = .all then .ok none
  else if types = .object then .error (.foreignType .object)
  else if types = .objectSubrequest then .error (.foreignType .objectSubrequest)
  else if types = .jsInject ∪ .all then .error (.foreignType .jsInject)
  else
    match counterparts types with
    | [] => .ok none
    | found => .ok (some found)

end Blocklist.ResourceType
