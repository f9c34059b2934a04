import Reminders.Script

/-!
Changing a policy.
-/

namespace Reminders

/-- Changes the policy of a user, which starts as the default one, and gives the policy that is
stored. A lead time that is not allowed is refused first. -/
def Script.updatePolicy (user : Int) (update : PolicyUpdate) : Script Policy := do
  let days ← ofExcept (fun e => .validation (.leadTime e)) update.leadTime
  let stored : Option Policy ← call (.findPolicy user)
  let policy := update.apply days (stored.getD (.default user))
  call (.upsertPolicy policy)
  return policy

end Reminders
