import Mathlib.Data.List.Forall2
import Mathlib.Order.Defs.Unbundled
import Reminders.Proofs.Script.Run
import Reminders.Scheduler.UserRun

/-!
Scripts among others.

Between two calls of a script others may use the store. `Script.Ensures R post` says of a script that
its calls keep to the relation `R`, and that its result satisfies `post`, as long as what others do
in between keeps to `R` as well.

* `Script.Ensures.stable`: what others do does not undo it.
* `Script.Ensures.reached`: what the script has made of the store is within `R` too.
* `Script.Ensures.bind`, `Script.Ensures.call`, `Script.Ensures.each`: the pieces of a script.
* `Script.Ensures.of_onlyCalls`: a script of which only the calls matter.
-/

namespace Reminders.Script

/-- Whatever others do within `R`, before each call and after the last, every call keeps to `R` and a
result satisfies `post`. -/
def Ensures (R : Store → Store → Prop) (post : α → Store → Prop) : Script α → Store → Prop
  | .done a, s => ∀ s', R s s' → post a s'
  | .fail _, _ => True
  | .ask call next, s =>
    ∀ s', R s s' → ∀ reply s'', s'.answer call = .ok (reply, s'') →
      R s' s'' ∧ (next reply).Ensures R post s''

namespace Ensures

variable {R : Store → Store → Prop} {s s' : Store}

theorem mono {post post' : α → Store → Prop} {x : Script α} (ensured : x.Ensures R post s)
    (weaker : ∀ a s, post a s → post' a s) : x.Ensures R post' s := by
  induction x generalizing s with
  | done a => exact fun later others => weaker a later (ensured later others)
  | fail failure => trivial
  | ask call next ih =>
    intro later others reply after answered
    obtain ⟨kept, rest⟩ := ensured later others reply after answered
    exact ⟨kept, ih reply rest⟩

theorem pure {post : α → Store → Prop} {a : α} (holds : ∀ s', R s s' → post a s') :
    (Pure.pure a : Script α).Ensures R post s :=
  holds

/-- A call that keeps to `R`, and what follows from its reply. -/
theorem call {c : StoreCall} {post : c.Reply → Store → Prop}
    (keeps : ∀ {s₁ reply s₂}, s₁.answer c = .ok (reply, s₂) → R s₁ s₂)
    (holds : ∀ s₁, R s s₁ → ∀ reply s₂, s₁.answer c = .ok (reply, s₂) → ∀ s₃, R s₂ s₃ →
      post reply s₃) : (call c).Ensures R post s :=
  fun s₁ others reply s₂ answered => ⟨keeps answered, holds s₁ others reply s₂ answered⟩

/-- A script keeps to what each of its calls keeps to. -/
theorem of_onlyCalls {P : StoreCall → Prop}
    (keeps : ∀ {call reply s s'}, P call → s.answer call = .ok (reply, s') → R s s')
    {x : Script α} (only : x.OnlyCalls P) : x.Ensures R (fun _ _ => True) s := by
  induction x generalizing s with
  | done a => exact fun _ _ => trivial
  | fail failure => trivial
  | ask call next ih =>
    exact fun later _ reply after answered =>
      ⟨keeps only.1 answered, ih reply (only.2 reply)⟩

variable [IsPreorder Store R]

/-- What others do does not undo what is ensured. -/
theorem stable {post : α → Store → Prop} {x : Script α} (ensured : x.Ensures R post s)
    (others : R s s') : x.Ensures R post s' := by
  cases x with
  | done a => exact fun later more => ensured later (trans_of R others more)
  | fail failure => trivial
  | ask call next => exact fun later more => ensured later (trans_of R others more)

/-- What the script, and others meanwhile, have made of the store is within `R`. -/
theorem reached {post : α → Store → Prop} {x : Script α} (ensured : x.Ensures R post s) :
    x.Ensures R (fun a s' => R s s' ∧ post a s') s := by
  induction x generalizing s with
  | done a => exact fun later others => ⟨others, ensured later others⟩
  | fail failure => trivial
  | ask call next ih =>
    intro later others reply after answered
    obtain ⟨kept, rest⟩ := ensured later others reply after answered
    refine ⟨kept, (ih reply rest).mono fun a s' ⟨more, holds⟩ => ⟨?_, holds⟩⟩
    exact trans_of R others (trans_of R kept more)

theorem bind {post : β → Store → Prop} {x : Script α} {f : α → Script β}
    (first : x.Ensures R (fun a s => (f a).Ensures R post s) s) : (x >>= f).Ensures R post s := by
  change (x.bind f).Ensures R post s
  induction x generalizing s with
  | done a => exact first s (refl_of R s)
  | fail failure => trivial
  | ask call next ih =>
    intro later others reply after answered
    obtain ⟨kept, rest⟩ := first later others reply after answered
    exact ⟨kept, ih reply rest⟩

/-- A call of which only the reply matters. -/
theorem query {c : StoreCall} {post : c.Reply → Store → Prop}
    (keeps : ∀ {s₁ reply s₂}, s₁.answer c = .ok (reply, s₂) → R s₁ s₂)
    (holds : ∀ reply s', R s s' → post reply s') : (Script.call c).Ensures R post s :=
  .call keeps fun _ others reply _ answered s' later =>
    holds reply s' (trans_of R others (trans_of R (keeps answered) later))

/-- What is ensured of each item is ensured of all. -/
theorem each {f : α → Script β} {post : α → β → Store → Prop}
    (lasting : ∀ a b s s', post a b s → R s s' → post a b s') {l : List α}
    (one : ∀ a ∈ l, ∀ s', R s s' → (f a).Ensures R (post a) s') :
    (Script.each f l).Ensures R (fun bs s => List.Forall₂ (fun a b => post a b s) l bs) s := by
  induction l generalizing s with
  | nil => exact .pure fun _ _ => .nil
  | cons a rest ih =>
    refine .bind ((one a List.mem_cons_self s (refl_of R s)).reached.mono ?_)
    rintro b s₁ ⟨before, first⟩
    have later := ih fun a' mem s' others =>
      one a' (List.mem_cons_of_mem _ mem) s' (trans_of R before others)
    refine .bind (later.reached.mono ?_)
    rintro bs s₂ ⟨meanwhile, all⟩
    refine .pure fun s₃ others => .cons ?_ ?_
    · exact lasting _ _ _ _ first (trans_of R meanwhile others)
    · exact all.imp fun _ _ holds => lasting _ _ _ _ holds others

end Ensures

end Reminders.Script
