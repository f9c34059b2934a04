import Reminders.Calendar.DateText
import Reminders.Decimal.Layout
import Reminders.Reminder.Template
import Reminders.Subscription.Basic

/-!
The values that a reminder puts into its template.
-/

namespace Reminders

/-- How many places an amount has in a message. -/
def amountPlaces : Nat := 2

/-- The value of each field in the reminder of one charge. An absent field is empty. -/
def Subscription.reminderField (s : Subscription) (billingDate : Date) (daysUntil : Int)
    (email : String) : TemplateField → String
  | .name => s.name
  | .amount => Decimal.fixedText amountPlaces s.amount
  | .currency => s.currency
  | .daysUntil => Numeral.ofInt daysUntil
  | .category => s.category.getD ""
  | .paymentMethod => s.paymentMethod.getD ""
  | .url => s.url.getD ""
  | .remark => s.remark.getD ""
  | .billingDate => billingDate.toText
  | .userEmail => email

end Reminders
