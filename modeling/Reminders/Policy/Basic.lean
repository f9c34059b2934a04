import Reminders.Subscription.Basic
import Reminders.Text.Numeral

/-!
Reminder policies.

A user has a policy: how many days before a charge to remind, and whether to remind on the day
itself. A subscription may override the lead time and turn its reminders off.
`EffectivePolicy.resolve` combines the two, and `EffectivePolicy.IsDue` says on which days a
reminder is due.
-/

namespace Reminders

/-- A user's wishes for reminders. -/
structure Policy where
  userId : Int
  daysBefore : UInt32
  onDueDay : Bool
deriving DecidableEq

namespace Policy

/-- The longest lead time in days. -/
def maxDaysBefore : UInt32 := 10

/-- The policy of a user who has not set one. -/
def default (userId : Int) : Policy := ⟨userId, 3, true⟩

end Policy

/-- The policy that counts for one subscription. -/
structure EffectivePolicy where
  daysBefore : UInt32
  onDueDay : Bool
  enabled : Bool
deriving DecidableEq

namespace EffectivePolicy

/-- A reminder is due when reminders are wanted and the charge is exactly the lead time away, or is
today and the day itself counts. A lead time of zero does not count by itself. -/
def IsDue (p : EffectivePolicy) (daysUntil : Int) : Prop :=
  p.enabled = true ∧
    ((0 < p.daysBefore.toNat ∧ daysUntil = p.daysBefore.toNat) ∨ (daysUntil = 0 ∧ p.onDueDay = true))

instance (p : EffectivePolicy) (daysUntil : Int) : Decidable (p.IsDue daysUntil) :=
  inferInstanceAs (Decidable (_ ∧ _))

/-- The subscription's lead time, else the user's, else the default, and never more than the longest
one; the day itself as the user wants it; and reminders unless the subscription turns them off. -/
def resolve (s : Subscription) (policy : Option Policy) : EffectivePolicy :=
  let base := policy.getD (.default s.userId)
  { daysBefore := min (s.notifyDaysBefore.getD base.daysBefore) Policy.maxDaysBefore
    onDueDay := base.onDueDay
    enabled := s.notifyEnabled.getD true }

end EffectivePolicy

/-- A change of a policy: what is absent stays. -/
structure PolicyUpdate where
  daysBefore : Option Int
  onDueDay : Option Bool
deriving DecidableEq

/-- The lead time asked for is not allowed. -/
structure LeadTimeError where
  daysBefore : Int
deriving DecidableEq

/-- The wording of the error. -/
def LeadTimeError.message (e : LeadTimeError) : String :=
  "days_before must be between 0 and " ++ Numeral.ofNat Policy.maxDaysBefore.toNat ++ ", got " ++
    Numeral.ofInt e.daysBefore

namespace PolicyUpdate

/-- The lead time that an update sets, if it is allowed. -/
def leadTime (u : PolicyUpdate) : Except LeadTimeError (Option UInt32) :=
  match u.daysBefore with
  | none => .ok none
  | some days =>
    if 0 ≤ days ∧ days ≤ Policy.maxDaysBefore.toNat then .ok (some (UInt32.ofNat days.toNat))
    else .error ⟨days⟩

/-- The policy after an update whose lead time was found allowed. -/
def apply (u : PolicyUpdate) (days : Option UInt32) (p : Policy) : Policy :=
  { p with daysBefore := days.getD p.daysBefore, onDueDay := u.onDueDay.getD p.onDueDay }

end PolicyUpdate

end Reminders
