import Reminders.Proofs.Scheduler.Failure
import Reminders.Proofs.Scheduler.UpToDate

/-!
Taking up an interrupted rollover.

The moves of a rollover are not made together: each is an update of its own, and the first that is
refused ends the rollover with an error. The rows come in the order of their ids, so what an
interrupted rollover leaves is known from the row at which it was interrupted. The rows before that
one are where they belong, the others are where they were, and a later rollover makes the moves that
are left.

* `Store.rows_carriedOut_before`: what the moves before one of the plan leave.
* `Script.passes_or_refused`: where a plan is interrupted.
* `Script.run_advanceUser_cases`: how a rollover ends.
* `Script.interrupted_rollover_resumes`
-/

namespace Reminders

open Store

namespace Store

variable {s : Store} {user id : Int} {d today : Date} {made rest : List (Int × Date)}

/-- **What the moves before one of the plan leave of the rows**: those of smaller ids are up to
date. -/
theorem rows_carriedOut_before (split : s.plan user today = made ++ (id, d) :: rest) :
    (s.carriedOut made).subscriptions.rows = s.subscriptions.rows.map fun r =>
      if r.id < id then r.broughtUpTo user today else r := by
  have ascending := s.ascending_plan user today
  rw [split, List.map_append, List.map_cons, List.pairwise_append, List.pairwise_cons] at ascending
  obtain ⟨-, ⟨after, -⟩, before⟩ := ascending
  rw [rows_carriedOut fun m mem => split ▸ List.mem_append_left _ mem]
  refine List.map_congr_left fun r mem => ?_
  by_cases moved : r.id ∈ made.map Prod.fst
  · rw [if_pos moved, if_pos (before _ moved _ List.mem_cons_self)]
  · rw [if_neg moved]
    split
    · rename_i less
      -- A row of a smaller id that was not moved is none that the plan moves.
      refine (broughtUpTo_eq_self mem fun planned => ?_).symm
      rw [split, List.map_append, List.map_cons, List.mem_append, List.mem_cons] at planned
      rcases planned with known | same | later
      · exact moved known
      · exact Int.ne_of_lt less same
      · exact Int.lt_asymm less (after _ later)
    · rfl

end Store

namespace Script

variable {desk : Desk} {s t : Store} {user : Int} {today : Date}

/-- Either all moves are let through, or there is a first one that is refused. -/
theorem passes_or_refused (desk : Desk) (plan : List (Int × Date)) :
    (∀ m ∈ plan, desk (.updateNextOccurrence m.1 m.2) = none) ∨
      ∃ made id d rest reason, plan = made ++ (id, d) :: rest ∧
        (∀ m ∈ made, desk (.updateNextOccurrence m.1 m.2) = none) ∧
        desk (.updateNextOccurrence id d) = some reason := by
  induction plan with
  | nil => exact .inl fun _ mem => absurd mem List.not_mem_nil
  | cons m plan ih =>
    cases first : desk (.updateNextOccurrence m.1 m.2) with
    | some reason =>
      exact .inr ⟨[], m.1, m.2, plan, reason, rfl, fun _ mem => absurd mem List.not_mem_nil, first⟩
    | none =>
      rcases ih with passes | ⟨made, id, d, rest, reason, rfl, passes, refused⟩
      · exact .inl (List.forall_mem_cons.mpr ⟨first, passes⟩)
      · exact .inr ⟨m :: made, id, d, rest, reason, rfl,
          List.forall_mem_cons.mpr ⟨first, passes⟩, refused⟩

/-- A plan is carried out up to the first move that is refused. -/
theorem run_carryOut_refused {made rest : List (Int × Date)} {id : Int} {d : Date}
    {reason : String} (passes : ∀ m ∈ made, desk (.updateNextOccurrence m.1 m.2) = none)
    (refused : desk (.updateNextOccurrence id d) = some reason) (s : Store) :
    (carryOut (made ++ (id, d) :: rest)).run desk s =
      (.error (.database (.refused reason)), s.carriedOut made) := by
  rw [run_carryOut_append passes, run_carryOut_cons, refused]
  rfl

/-- What is left of a store by a rollover that a refused call interrupts: the call is the query for
the overdue subscriptions, and nothing has changed; or it is a move of the plan, and the rows before
the one that it moves are where the whole rollover brings them, while the others and all other
tables are as they were. -/
inductive Interrupted (desk : Desk) (user : Int) (today : Date) (s : Store) (reason : String) :
    Store → Prop
  | query (refused : desk (.findOverdue user today) = some reason) :
    Interrupted desk user today s reason s
  | move {t : Store} (id : Int) (d : Date) (planned : (id, d) ∈ s.plan user today)
    (refused : desk (.updateNextOccurrence id d) = some reason) (tables : s.SameButDates t)
    (lastId : t.subscriptions.lastId = s.subscriptions.lastId)
    (rows : t.subscriptions.rows = s.subscriptions.rows.map fun r =>
      if r.id < id then r.broughtUpTo user today else r) : Interrupted desk user today s reason t

/-- **How a rollover ends**, once its query can be answered: its calls are all let through, and the
plan is carried out, or it is interrupted after some moves of the plan. -/
theorem run_advanceUser_cases (desk : Desk)
    (readable : ∃ subs, s.findOverdue user today = .ok subs) :
    (desk (.findOverdue user today) = none ∧
        (∀ m ∈ s.plan user today, desk (.updateNextOccurrence m.1 m.2) = none) ∧
        (advanceUser user today).run desk s =
          (.ok (s.plan user today).length, s.carriedOut (s.plan user today))) ∨
      ∃ made rest reason, s.plan user today = made ++ rest ∧
        (advanceUser user today).run desk s =
          (.error (.database (.refused reason)), s.carriedOut made) ∧
        Interrupted desk user today s reason (s.carriedOut made) ∧
        ¬(desk (.findOverdue user today) = none ∧
          ∀ m ∈ s.plan user today, desk (.updateNextOccurrence m.1 m.2) = none) := by
  obtain ⟨subs, found⟩ := readable
  cases asked : desk (.findOverdue user today) with
  | some reason =>
    refine .inr ⟨[], s.plan user today, reason, rfl, ?_, .query asked, nofun⟩
    rw [run_advanceUser_eq, serve, asked]
    rfl
  | none =>
    have ran : (advanceUser user today).run desk s = (carryOut (s.plan user today)).run desk s := by
      rw [run_advanceUser_eq, serve, asked]
      simp only [answer, found, Except.map]
    rw [ran]
    rcases passes_or_refused desk (s.plan user today) with
      passes | ⟨made, id, d, rest, reason, split, passes, refused⟩
    · exact .inl ⟨rfl, passes, run_carryOut_of_passes passes s⟩
    · have planned : (id, d) ∈ s.plan user today := by
        rw [split]
        exact List.mem_append_right _ List.mem_cons_self
      refine .inr ⟨made, (id, d) :: rest, reason, split, ?_, ?_, fun all => ?_⟩
      · rw [split]
        exact run_carryOut_refused passes refused s
      · exact .move id d planned refused (s.sameButDates_carriedOut made)
          (s.lastId_carriedOut made) (rows_carriedOut_before split)
      · cases refused.symm.trans (all.2 (id, d) planned)

/-- **An interrupted rollover can be taken up.** A rollover of a store that its own statements wrote
ends well exactly when the query for the overdue subscriptions and the moves of the plan are all let
through. Otherwise the error of the refused call is given back. Of the rows that change in a whole
rollover, those before the refused move have changed by then and are as they come out in the end,
and no others have. A rollover on the same day that is not interrupted leads to the same store as if
the first one had not been, and gives back the number of rows that were left to do. -/
theorem interrupted_rollover_resumes (built : s.Built) (user : Int) (today : Date) :
    ∃ last, (advanceUser user today).run .open s = (.ok (s.changedDates last).ncard, last) ∧
      last.subscriptions.rows = s.subscriptions.rows.map (Row.broughtUpTo user today) ∧
      ∀ desk : Desk,
        (∀ failure t, (advanceUser user today).run desk s = (.error failure, t) →
          (∃ reason, failure = .database (.refused reason) ∧
            Interrupted desk user today s reason t) ∧
          (s.changedDates last).ncard = (s.changedDates t).ncard + (t.changedDates last).ncard ∧
          (advanceUser user today).run .open t = (.ok (t.changedDates last).ncard, last)) ∧
        ((∃ n, ((advanceUser user today).run desk s).1 = .ok n) ↔
          desk (.findOverdue user today) = none ∧
            ∀ m ∈ s.plan user today, desk (.updateNextOccurrence m.1 m.2) = none) := by
  have readable := built.recorded.exists_findOverdue user today
  have whole {s : Store} (readable : ∃ subs, s.findOverdue user today = .ok subs) :
      (advanceUser user today).run .open s = (.ok
        (s.changedDates (s.carriedOut (s.plan user today))).ncard,
          s.carriedOut (s.plan user today)) := by
    rw [ncard_changedDates_carriedOut (List.Sublist.refl _)]
    exact run_advanceUser_carriedOut readable.choose_spec
  refine ⟨_, whole readable, s.rows_carriedOut_plan user today, fun desk => ?_⟩
  rcases run_advanceUser_cases desk readable with
    ⟨asked, passes, ran⟩ | ⟨made, rest, reason, split, ran, interrupted, refused⟩
  · rw [ran]
    refine ⟨fun failure t failed => ?_, fun _ => ⟨asked, passes⟩, fun _ => ⟨_, rfl⟩⟩
    cases (Prod.mk.inj failed).1
  · rw [ran]
    refine ⟨fun failure t failed => ?_, fun ended => ?_, fun all => absurd all refused⟩
    · cases failed
      obtain ⟨left, readable'⟩ := plan_carriedOut readable split
      have last : s.carriedOut (s.plan user today) =
          (s.carriedOut made).carriedOut ((s.carriedOut made).plan user today) := by
        rw [left, split, carriedOut_append]
      refine ⟨⟨reason, rfl, interrupted⟩, ?_, last ▸ whole readable'⟩
      rw [ncard_changedDates_carriedOut (List.Sublist.refl _), ncard_changedDates_carriedOut
        (split ▸ List.sublist_append_left made rest), last,
        ncard_changedDates_carriedOut (List.Sublist.refl _), left, split, List.length_append]
    · obtain ⟨n, ended⟩ := ended
      cases ended

end Script

namespace Sample

/-- A desk that does not let the third subscription be moved. -/
def lockedRow : Desk
  | .updateNextOccurrence id _ => if id = 3 then some "database is locked" else none
  | _ => none

end Sample

namespace Script

/-- The first of two moves is made, the second one is refused, and the later rollover makes it. -/
theorem interrupted_rollover_resumes_sample :
    ∃ t last, (advanceUser 1 (Sample.day 2026 3 10)).run Sample.lockedRow Sample.household =
        (.error (.database (.refused "database is locked")), t) ∧
      Interrupted Sample.lockedRow 1 (Sample.day 2026 3 10) Sample.household "database is locked"
        t ∧
      (∃ r ∈ t.subscriptions.rows, (r.cell .nextOccurrence).IsText "2026-03-15") ∧
      (advanceUser 1 (Sample.day 2026 3 10)).run .open Sample.household = (.ok 2, last) ∧
      (advanceUser 1 (Sample.day 2026 3 10)).run .open t = (.ok 1, last) := by
  obtain ⟨last, ran, -, all⟩ :=
    interrupted_rollover_resumes Sample.built_household 1 (Sample.day 2026 3 10)
  obtain ⟨resumes, -⟩ := all Sample.lockedRow
  have failed : ((advanceUser 1 (Sample.day 2026 3 10)).run Sample.lockedRow Sample.household).1 =
      .error (.database (.refused "database is locked")) := by decide +kernel
  have moved : ∃ r ∈ ((advanceUser 1 (Sample.day 2026 3 10)).run Sample.lockedRow
      Sample.household).2.subscriptions.rows, (r.cell .nextOccurrence).IsText "2026-03-15" := by
    decide +kernel
  have two : ((advanceUser 1 (Sample.day 2026 3 10)).run .open Sample.household).1.toOption =
      some 2 := by decide +kernel
  have one : ((advanceUser 1 (Sample.day 2026 3 10)).run .open ((advanceUser 1
      (Sample.day 2026 3 10)).run Sample.lockedRow Sample.household).2).1.toOption = some 1 := by
    decide +kernel
  cases interrupts : (advanceUser 1 (Sample.day 2026 3 10)).run Sample.lockedRow
      Sample.household with
  | mk result t =>
    rw [interrupts] at failed moved one
    obtain rfl : result = _ := failed
    obtain ⟨⟨reason, same, interrupted⟩, -, later⟩ := resumes _ _ interrupts
    cases same
    rw [ran] at two
    rw [later] at one
    rw [Option.some.inj two] at ran
    rw [Option.some.inj one] at later
    exact ⟨t, last, rfl, interrupted, moved, ran, later⟩

end Script

end Reminders
