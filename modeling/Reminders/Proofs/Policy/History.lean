import Reminders.Policy.Update
import Reminders.Proofs.Script.Run
import Reminders.Proofs.Store.Legible
import Reminders.Proofs.Store.Writes

/-!
What updates of policies leave.

Requests to change policies come one after another, for any users. A request is accepted when the
lead time that it asks for is allowed and its user is known, and one that is not accepted leaves the
store as it is. So each field of a user's policy has the value of the last accepted request that
sets it, and there is no policy before the first one.

* `Policy.LeftBy`: what updates leave.
* `PolicyRequest.Outcome`: all that a request can come to.
* `Store.Recalls`: the policies of a store are what accepted requests left.
* `PolicyRequest.last_writer_wins`
-/

namespace Reminders

/-! ### Updates -/

namespace PolicyUpdate

/-- The lead time that the update asks for is allowed, if it asks for one. -/
def IsAllowed (u : PolicyUpdate) : Prop := ∀ days ∈ u.daysBefore, 0 ≤ days ∧ days ≤ 10

instance (u : PolicyUpdate) : Decidable u.IsAllowed :=
  inferInstanceAs (Decidable (∀ days ∈ u.daysBefore, _))

/-- A lead time is set as it is asked for, or refused. -/
theorem leadTime_cases (u : PolicyUpdate) :
    (∃ days, u.daysBefore = some days ∧ ¬(0 ≤ days ∧ days ≤ 10) ∧ u.leadTime = .error ⟨days⟩) ∨
      (u.IsAllowed ∧ ∃ days : Option UInt32,
        days.map (fun word => (word.toNat : Int)) = u.daysBefore ∧ u.leadTime = .ok days) := by
  have longest : (Policy.maxDaysBefore.toNat : Int) = 10 := rfl
  unfold leadTime IsAllowed
  rw [longest]
  cases u.daysBefore with
  | none => exact .inr ⟨nofun, none, rfl, rfl⟩
  | some days =>
    by_cases inRange : 0 ≤ days ∧ days ≤ 10
    · right
      constructor
      · rintro _ ⟨⟩
        exact inRange
      · refine ⟨some (UInt32.ofNat days.toNat), ?_, if_pos inRange⟩
        have kept : ((UInt32.ofNat days.toNat).toNat : Int) = days := by
          rw [UInt32.toNat_ofNat_of_lt' (by simp [UInt32.size]; omega)]
          omega
        rw [Option.map_some, kept]
    · exact .inl ⟨days, rfl, inRange, if_neg inRange⟩

end PolicyUpdate

namespace Policy

/-- What updates leave: each field has the value of the last one that sets it, or else the one it
starts with. -/
structure LeftBy (updates : List PolicyUpdate) (user : Int) (p : Policy) : Prop where
  userId : p.userId = user
  daysBefore : (p.daysBefore.toNat : Int) = (updates.filterMap (·.daysBefore)).getLast?.getD 3
  onDueDay : p.onDueDay = (updates.filterMap (·.onDueDay)).getLast?.getD true

variable {updates : List PolicyUpdate} {user : Int} {p : Policy}

/-- Before any update a policy is the default one. -/
theorem leftBy_default (user : Int) : (default user).LeftBy [] user := ⟨rfl, rfl, rfl⟩

/-- One more update sets its fields and leaves the others. -/
theorem LeftBy.concat (left : p.LeftBy updates user) {u : PolicyUpdate} {days : Option UInt32}
    (asked : days.map (fun word => (word.toNat : Int)) = u.daysBefore) :
    (u.apply days p).LeftBy (updates ++ [u]) user where
  userId := left.userId
  daysBefore := by
    rw [List.filterMap_append, List.filterMap_cons, ← asked]
    cases days with
    | none => simpa [PolicyUpdate.apply] using left.daysBefore
    | some word => simp [PolicyUpdate.apply]
  onDueDay := by
    rw [List.filterMap_append, List.filterMap_cons]
    cases set : u.onDueDay with
    | none => simpa [PolicyUpdate.apply, set] using left.onDueDay
    | some dueDay => simp [PolicyUpdate.apply, set]

end Policy

/-! ### Requests -/

/-- A request to change the policy of a user. -/
structure PolicyRequest where
  user : Int
  update : PolicyUpdate

namespace PolicyRequest

/-- What the request is answered with, and the store after it. -/
def run (q : PolicyRequest) (s : Store) : Except Failure Policy × Store :=
  (Script.updatePolicy q.user q.update).run .open s

/-- The store after requests that come one after another. -/
def runAll (requests : List PolicyRequest) (s : Store) : Store :=
  requests.foldl (fun s q => (q.run s).2) s

/-- The lead time is allowed and the user is known. -/
def IsAccepted (s : Store) (q : PolicyRequest) : Prop := q.update.IsAllowed ∧ s.HasUser q.user

instance (s : Store) (q : PolicyRequest) : Decidable (q.IsAccepted s) :=
  inferInstanceAs (Decidable (_ ∧ _))

/-- The updates of a user that are accepted, in the order in which they are requested. -/
def accepted (s : Store) (user : Int) (requests : List PolicyRequest) : List PolicyUpdate :=
  (requests.filter fun q => q.user = user ∧ q.IsAccepted s).map (·.update)

/-- All that a request can come to: a refusal for its lead time, a refusal for its user, or a policy
that is answered and stored for its user. -/
inductive Outcome (q : PolicyRequest) (s : Store) : Except Failure Policy × Store → Prop
  | leadTime {days : Int} (asked : q.update.daysBefore = some days)
      (outOfRange : ¬(0 ≤ days ∧ days ≤ 10)) :
      Outcome q s (.error (.validation (.leadTime ⟨days⟩)), s)
  | unknownUser (allowed : q.update.IsAllowed) (unknown : ¬s.HasUser q.user) :
      Outcome q s (.error (.database (.fault "Upsert policy" .foreignKey)), s)
  | stored {stored : Option Policy} {days : Option UInt32} {p : Policy}
      {policies : Table PolicyColumn} (accepted : q.IsAccepted s)
      (found : s.findPolicy q.user = .ok stored)
      (asked : days.map (fun word => (word.toNat : Int)) = q.update.daysBefore)
      (applied : p = q.update.apply days (stored.getD (.default q.user)))
      (owner : p.userId = q.user)
      (written : ∀ user, policies.find? user =
        if user = q.user then some ⟨user, p.toCells⟩ else s.policies.find? user) :
      Outcome q s (.ok p, { s with policies })

variable {s t : Store} {user : Int} {requests : List PolicyRequest} {q : PolicyRequest}

theorem accepted_concat (s : Store) (user : Int) (requests : List PolicyRequest)
    (q : PolicyRequest) : accepted s user (requests ++ [q]) =
      if q.user = user ∧ q.IsAccepted s then accepted s user requests ++ [q.update]
      else accepted s user requests := by
  unfold accepted
  split
  · rename_i yes
    simp [List.filter_append, yes]
  · rename_i no
    simp [List.filter_append, no]

/-- Only updates of known users are accepted. -/
theorem hasUser_of_accepted (nonempty : accepted s user requests ≠ []) : s.HasUser user := by
  obtain ⟨u, mem⟩ := List.exists_mem_of_ne_nil _ nonempty
  obtain ⟨q, mem, -⟩ := List.mem_map.mp mem
  obtain ⟨-, here⟩ := List.mem_filter.mp mem
  obtain ⟨rfl, -, known⟩ := of_decide_eq_true here
  exact known

/-- A lead time that is allowed leads to a write. -/
theorem run_eq {stored : Option Policy} {days : Option UInt32}
    (found : s.findPolicy q.user = .ok stored) (set : q.update.leadTime = .ok days) :
    q.run s = match s.upsertPolicy (q.update.apply days (stored.getD (.default q.user))) with
      | .ok t => (.ok (q.update.apply days (stored.getD (.default q.user))), t)
      | .error e => (.error (.database e), s) := by
  unfold run Script.updatePolicy
  rw [set]
  change Script.run .open s (.ask (.findPolicy q.user) fun stored =>
    .ask (.upsertPolicy (q.update.apply days (stored.getD (.default q.user)))) fun _ => .done _) = _
  simp only [Script.run, Store.serve_open, Store.answer, found, Except.map]
  cases s.upsertPolicy (q.update.apply days (stored.getD (.default q.user))) <;> rfl

end PolicyRequest

/-! ### Stores -/

open PolicyRequest

/-- The policy of a user is found as it is stored. -/
theorem Store.findPolicy_eq_ok {t : Store} {user : Int} {stored : Option Policy}
    (row : t.policies.find? user = stored.map (fun p => ⟨user, p.toCells⟩))
    (owner : (stored.getD (.default user)).userId = user) : t.findPolicy user = .ok stored := by
  unfold findPolicy
  rw [doing_eq_ok_iff, row]
  cases stored with
  | none => rfl
  | some p =>
    change p.userId = user at owner
    rw [← owner, Option.map_some, Option.mapM_some, Policy.ofRow_toCells]
    rfl

/-- The store is what requests leave of another one: it differs in its policies only, and each of them
is what the accepted updates of its user left. -/
structure Store.Recalls (s : Store) (requests : List PolicyRequest) (t : Store) : Prop where
  others : t = { s with policies := t.policies }
  policies : ∀ user, ∃ stored : Option Policy,
    t.policies.find? user = stored.map (fun p => ⟨user, p.toCells⟩) ∧
      (stored = none ↔ accepted s user requests = []) ∧
        (stored.getD (.default user)).LeftBy (accepted s user requests) user

namespace Store.Recalls

variable {s t : Store} {user : Int} {requests : List PolicyRequest} {q : PolicyRequest}

theorem hasUser_iff (recalls : s.Recalls requests t) : t.HasUser user ↔ s.HasUser user := by
  unfold HasUser
  rw [recalls.others]

theorem isAccepted_iff (recalls : s.Recalls requests t) : q.IsAccepted t ↔ q.IsAccepted s := by
  unfold IsAccepted
  rw [recalls.hasUser_iff]

/-- **What a request comes to** when the policies are what earlier ones left. -/
theorem outcome (recalls : s.Recalls requests t) (q : PolicyRequest) : q.Outcome t (q.run t) := by
  rcases q.update.leadTime_cases with ⟨days, asked, out, refused⟩ | ⟨allowed, days, asked, set⟩
  · have ran : q.run t = (.error (.validation (.leadTime ⟨days⟩)), t) := by
      unfold PolicyRequest.run Script.updatePolicy
      rw [refused]
      rfl
    rw [ran]
    exact .leadTime asked out
  · obtain ⟨stored, row, none_iff, left⟩ := recalls.policies q.user
    have found := findPolicy_eq_ok row left.userId
    rw [run_eq found set]
    have owner : (q.update.apply days (stored.getD (.default q.user))).userId = q.user :=
      left.userId
    by_cases known : t.HasUser q.user
    · rw [← owner] at known
      obtain ⟨after, written⟩ := exists_upsertPolicy known
      obtain ⟨others, rows⟩ := find?_upsertPolicy written
      rw [owner] at known rows
      rw [written, others]
      refine .stored ⟨allowed, known⟩ found asked rfl owner ?_
      intro user
      rw [rows]
      split
      · rename_i here
        rw [here]
      · rfl
    · have untouched : accepted s q.user requests = [] := by
        by_contra nonempty
        exact known (recalls.hasUser_iff.mpr (hasUser_of_accepted nonempty))
      have absent : t.policies.find? q.user = none := by
        rw [row, none_iff.mpr untouched, Option.map_none]
      rw [← owner] at known absent
      rw [upsertPolicy_of_not_hasUser absent known]
      rw [owner] at known
      exact .unknownUser allowed known

/-- A request that is not accepted changes nothing. -/
theorem of_not_isAccepted (recalls : s.Recalls requests t) (refused : ¬q.IsAccepted s) :
    s.Recalls (requests ++ [q]) t := by
  have same (user : Int) : accepted s user (requests ++ [q]) = accepted s user requests := by
    rw [accepted_concat, if_neg (fun h => refused h.2)]
  refine ⟨recalls.others, ?_⟩
  simpa only [same] using recalls.policies

/-- One more request. -/
theorem step (recalls : s.Recalls requests t) (q : PolicyRequest) :
    s.Recalls (requests ++ [q]) (q.run t).2 := by
  have outcome := recalls.outcome q
  generalize q.run t = reply at outcome ⊢
  cases outcome with
  | leadTime asked out =>
    apply recalls.of_not_isAccepted
    rintro ⟨allowed, -⟩
    exact out (allowed _ asked)
  | unknownUser allowed unknown =>
    apply recalls.of_not_isAccepted
    rintro ⟨-, known⟩
    exact unknown (recalls.hasUser_iff.mpr known)
  | @stored before days p policies yes found asked applied owner written =>
    refine ⟨by rw [recalls.others], ?_⟩
    intro user
    rw [accepted_concat, written]
    obtain ⟨stored, row, none_iff, left⟩ := recalls.policies user
    by_cases here : user = q.user
    · rw [if_pos here, if_pos ⟨here.symm, recalls.isAccepted_iff.mp yes⟩]
      refine ⟨some p, rfl, by simp, ?_⟩
      have same : before = stored := by
        rw [← here, findPolicy_eq_ok row left.userId] at found
        exact (Except.ok.inj found).symm
      rw [Option.getD_some, applied, same, ← here]
      exact left.concat asked
    · rw [if_neg here, if_neg (fun h => here h.1.symm)]
      exact ⟨stored, row, none_iff, left⟩

/-- A store without policies recalls that nothing has been requested. -/
theorem start (fresh : s.policies.rows = []) : s.Recalls [] s := by
  refine ⟨rfl, ?_⟩
  intro user
  have absent : s.policies.find? user = none := by simp [Table.find?, fresh]
  exact ⟨none, absent, by simp [accepted], Policy.leftBy_default user⟩

/-- Any number of requests more. -/
theorem runAll (recalls : s.Recalls requests t) (later : List PolicyRequest) :
    s.Recalls (requests ++ later) (PolicyRequest.runAll later t) := by
  induction later generalizing requests t with
  | nil => rwa [List.append_nil]
  | cons q later ih =>
    have next := ih (recalls.step q)
    rwa [List.append_assoc] at next

end Store.Recalls

/-! ### The last writer -/

namespace PolicyRequest

/-- **The last writer of each field wins.** Requests come one after another to a store without
policies. Each user's policy has in each field what the last accepted request of that user set, and
there is none before the first one. A further request is accepted when its lead time is allowed and
its user is known; it is answered with the policy that is then stored, and nothing else changes. One
that is refused, for its lead time first, changes nothing at all. -/
theorem last_writer_wins (s : Store) (fresh : s.policies.rows = [])
    (requests : List PolicyRequest) :
    (∃ policies, runAll requests s = { s with policies }) ∧
    (∀ user, ∃ stored, (runAll requests s).findPolicy user = .ok stored ∧
      (stored = none ↔ accepted s user requests = []) ∧
        ∀ p ∈ stored, p.LeftBy (accepted s user requests) user) ∧
    ∀ q : PolicyRequest,
      ((∃ p after, q.run (runAll requests s) = (.ok p, after)) ↔ q.IsAccepted s) ∧
      (∀ p after, q.run (runAll requests s) = (.ok p, after) →
        after.findPolicy q.user = .ok (some p) ∧
          ∃ policies, after = { runAll requests s with policies } ∧ ∀ other ≠ q.user,
            policies.find? other = (runAll requests s).policies.find? other) ∧
      ∀ e after, q.run (runAll requests s) = (.error e, after) → after = runAll requests s ∧
        ((∃ days, q.update.daysBefore = some days ∧ ¬(0 ≤ days ∧ days ≤ 10) ∧
            e = .validation (.leadTime ⟨days⟩)) ∨
          (q.update.IsAllowed ∧ ¬s.HasUser q.user ∧
            e = .database (.fault "Upsert policy" .foreignKey))) := by
  have recalls : s.Recalls requests (runAll requests s) :=
    (Store.Recalls.start fresh).runAll requests
  refine ⟨⟨_, recalls.others⟩, ?_, ?_⟩
  · intro user
    obtain ⟨stored, row, none_iff, left⟩ := recalls.policies user
    refine ⟨stored, Store.findPolicy_eq_ok row left.userId, none_iff, ?_⟩
    rintro p ⟨⟩
    exact left
  · intro q
    have outcome := recalls.outcome q
    generalize q.run (runAll requests s) = reply at outcome ⊢
    cases outcome with
    | leadTime asked out =>
      have refused : ¬q.IsAccepted s := fun accepted => out (accepted.1 _ asked)
      refine ⟨by simp [refused], by simp, ?_⟩
      rintro e after ⟨⟩
      exact ⟨rfl, .inl ⟨_, asked, out, rfl⟩⟩
    | unknownUser allowed unknown =>
      rw [recalls.hasUser_iff] at unknown
      have refused : ¬q.IsAccepted s := fun accepted => unknown accepted.2
      refine ⟨by simp [refused], by simp, ?_⟩
      rintro e after ⟨⟩
      exact ⟨rfl, .inr ⟨allowed, unknown, rfl⟩⟩
    | @stored _ _ p policies accepted _ _ _ owner written =>
      refine ⟨by simp [recalls.isAccepted_iff.mp accepted], ?_, by simp⟩
      rintro _ after ⟨⟩
      refine ⟨?_, _, rfl, ?_⟩
      · have row : policies.find? q.user = (some p).map fun p => ⟨q.user, p.toCells⟩ := by
          rw [written, if_pos rfl, Option.map_some]
        exact Store.findPolicy_eq_ok row owner
      · intro other apart
        rw [written, if_neg apart]

namespace Sample

/-- A store of two users. -/
def twoUsers : Store where
  users := (Table.empty.insert fun | .email => .text "ada@example.org").insert
    fun | .email => .text "bob@example.org"
  subscriptions := .empty
  policies := .empty
  channels := .empty
  logs := .empty

/-- Requests of both users and of an unknown one. The second asks for too long a lead time. -/
def requests : List PolicyRequest :=
  [⟨1, some 5, none⟩, ⟨1, some 11, some true⟩, ⟨2, some 0, some true⟩, ⟨3, some 7, none⟩,
    ⟨1, none, some false⟩]

end Sample

/-- A policy whose fields were set by two requests, and the policy of an unknown user. -/
theorem last_writer_wins_sample : Sample.twoUsers.policies.rows = [] ∧
    (runAll Sample.requests Sample.twoUsers).findPolicy 1 = .ok (some ⟨1, 5, false⟩) ∧
      (runAll Sample.requests Sample.twoUsers).findPolicy 3 = .ok none := by
  have fresh : Sample.twoUsers.policies.rows = [] := rfl
  obtain ⟨-, each, -⟩ := last_writer_wins Sample.twoUsers fresh Sample.requests
  refine ⟨fresh, ?_, ?_⟩
  · obtain ⟨stored, found, none_iff, left⟩ := each 1
    have taken : accepted Sample.twoUsers 1 Sample.requests =
        [⟨some 5, none⟩, ⟨none, some false⟩] := by decide
    rw [taken] at none_iff left
    cases stored with
    | none => cases none_iff.mp rfl
    | some p =>
      obtain ⟨owner, days, dueDay⟩ := left p rfl
      have days : p.daysBefore = 5 := UInt32.toNat_inj.mp (Int.ofNat.inj days)
      have dueDay : p.onDueDay = false := dueDay
      rw [found, ← owner, ← days, ← dueDay]
  · obtain ⟨stored, found, none_iff, -⟩ := each 3
    have taken : accepted Sample.twoUsers 3 Sample.requests = [] := by decide
    rw [found, none_iff.mpr taken]

end PolicyRequest

end Reminders
