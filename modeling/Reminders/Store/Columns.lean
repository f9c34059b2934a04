import Reminders.Store.Table

/-!
The columns of the five tables.

The id of a row is not among them. A policy has the id of its user.
-/

namespace Reminders

/-- A user. -/
inductive UserColumn where
  | email
deriving DecidableEq

instance : Columns UserColumn where
  table := "users"
  all := [.email]
  name | .email => "email"
  affinity _ := .text
  required _ := true

/-- A subscription. -/
inductive SubscriptionColumn where
  | userId | name | billingType | recurrenceType | intervalCount | intervalUnit | monthlyDay
  | yearlyMonth | yearlyDay | nextOccurrence | amount | currency | enabled | notifyEnabled
  | notifyDaysBefore | category | paymentMethod | url | remark
deriving DecidableEq

instance : Columns SubscriptionColumn where
  table := "subscriptions"
  all :=
    [.userId, .name, .billingType, .recurrenceType, .intervalCount, .intervalUnit, .monthlyDay,
      .yearlyMonth, .yearlyDay, .nextOccurrence, .amount, .currency, .enabled, .notifyEnabled,
      .notifyDaysBefore, .category, .paymentMethod, .url, .remark]
  name
    | .userId => "user_id"
    | .name => "name"
    | .billingType => "billing_type"
    | .recurrenceType => "recurrence_type"
    | .intervalCount => "interval_count"
    | .intervalUnit => "interval_unit"
    | .monthlyDay => "monthly_day"
    | .yearlyMonth => "yearly_month"
    | .yearlyDay => "yearly_day"
    | .nextOccurrence => "next_occurrence"
    | .amount => "amount"
    | .currency => "currency"
    | .enabled => "enabled"
    | .notifyEnabled => "notify_enabled"
    | .notifyDaysBefore => "notify_days_before"
    | .category => "category"
    | .paymentMethod => "payment_method"
    | .url => "url"
    | .remark => "remark"
  affinity
    | .userId | .intervalCount | .monthlyDay | .yearlyMonth | .yearlyDay | .enabled
    | .notifyEnabled | .notifyDaysBefore => .integer
    | .amount => .real
    | _ => .text
  required
    | .userId | .name | .billingType | .amount | .currency | .enabled => true
    | _ => false

/-- A policy. -/
inductive PolicyColumn where
  | daysBefore | onDueDay
deriving DecidableEq

instance : Columns PolicyColumn where
  table := "notification_policies"
  all := [.daysBefore, .onDueDay]
  name
    | .daysBefore => "days_before"
    | .onDueDay => "notify_on_due_day"
  affinity _ := .integer
  required _ := true

/-- A channel. -/
inductive ChannelColumn where
  | userId | channelType | enabled | config | template
deriving DecidableEq

instance : Columns ChannelColumn where
  table := "notification_channels"
  all := [.userId, .channelType, .enabled, .config, .template]
  name
    | .userId => "user_id"
    | .channelType => "channel_type"
    | .enabled => "enabled"
    | .config => "config"
    | .template => "template"
  affinity
    | .userId | .enabled => .integer
    | _ => .text
  required
    | .template => false
    | _ => true

/-- An entry of the delivery log. -/
inductive LogColumn where
  | subscriptionId | userId | channelType | notifyDate | status | error | sentAt
deriving DecidableEq

instance : Columns LogColumn where
  table := "notification_logs"
  all := [.subscriptionId, .userId, .channelType, .notifyDate, .status, .error, .sentAt]
  name
    | .subscriptionId => "subscription_id"
    | .userId => "user_id"
    | .channelType => "channel_type"
    | .notifyDate => "notify_date"
    | .status => "status"
    | .error => "error"
    | .sentAt => "sent_at"
  affinity
    | .subscriptionId | .userId => .integer
    | _ => .text
  required
    | .error => false
    | _ => true

end Reminders
