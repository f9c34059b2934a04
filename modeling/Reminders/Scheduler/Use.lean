import Reminders.Scheduler.System
import Reminders.Scheduler.Work
import Reminders.Store.Statement

/-!
Everything that happens to a store.

A store is written into by single statements, it is put to use by operations of several calls, closed
and opened again, and the scheduler works on it. `Scheduler.Use` is whatever happens next. Statements
and operations also come between two turns of a piece of work, and nobody is kept from writing into
the delivery log or from removing a user meanwhile.
-/

namespace Reminders.Scheduler

/-- A store without rows, before anything has happened. -/
def initial : Scheduler := ⟨⟨.empty, []⟩, none⟩

/-- What happens next, some of whose calls may be refused. -/
inductive Use : Scheduler → Scheduler → Prop
  | write (statement : Statement) (refusal : Option String) (world : World) (work : Option Work) :
      Use ⟨world, work⟩ ⟨{ world with store := (world.store.execute refusal statement).2 }, work⟩
  | operate (operation : Operation) (desk : Desk) (world : World) (work : Option Work) :
      Use ⟨world, work⟩ ⟨{ world with store := operation.perform desk world.store }, work⟩
  | proceed {now next : Scheduler} (step : Step now next) : Use now next

end Reminders.Scheduler
