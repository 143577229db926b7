/-
This file restricts content rules to domains.
-/

import Blocklist.Content.Error
import Blocklist.Content.Rule
import Blocklist.Hostname

namespace Blocklist

/-- The domains that a rule applies to and those that it spares, in normal form. -/
structure DomainScope where
  included : List Text
  excluded : List Text
deriving DecidableEq, Repr

namespace DomainScope

/-- A trigger expresses one of the two lists, never both. -/
def ofNames (included excluded : List Text) : Except ConversionError DomainScope := do
  let included ← (Hostname.normalizeAll included).mapError .invalidDomain
  let excluded ← (Hostname.normalizeAll excluded).mapError .invalidDomain
  if included.isEmpty || excluded.isEmpty then return ⟨included, excluded⟩
  else throw .conflictingDomains

/-- An empty list leaves the trigger as it is. -/
def narrow (scope : DomainScope) (trigger : Trigger) : Trigger :=
  { trigger with
    ifDomain :=
      if scope.included.isEmpty then trigger.ifDomain else some scope.included
    unlessDomain :=
      if scope.excluded.isEmpty then trigger.unlessDomain else some scope.excluded }

end DomainScope

end Blocklist
