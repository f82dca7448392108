import CallProximity.Proofs.Timers
import Mathlib.Data.List.Basic

/-! What becomes of every timer in a history of schedulings, cancellations and waits. A timer is awaited until it is
cancelled or a wait ends past the time at which it is due, and only what is awaited runs. -/

namespace CallProximity

section Sorting

variable {α : Type} {le : α → α → Bool}
  (trans : ∀ first second third, le first second = true → le second third = true → le first third = true)
  (total : ∀ first second, (le first second || le second first) = true)

include trans total

theorem mergeSort_cons_eq (item : α) (items : List α) : (item :: items).mergeSort le =
    (items.mergeSort le).filter (fun other => !le item other) ++ item :: (items.mergeSort le).filter (le item) := by
  obtain ⟨lower, upper, whole, rest, below⟩ := List.mergeSort_cons trans total item items
  have ordered := List.pairwise_mergeSort trans total (item :: items)
  rw [whole, List.pairwise_append, List.pairwise_cons] at ordered
  have above : ∀ other ∈ upper, le item other = true := ordered.2.1.1
  rw [whole, rest, List.filter_append, List.filter_append, List.filter_eq_self.mpr below, List.filter_eq_self.mpr above,
    List.filter_eq_nil_iff.mpr, List.filter_eq_nil_iff.mpr, List.append_nil, List.nil_append]
  · simpa using below
  · simpa using above

theorem filter_mergeSort (keeps : α → Bool) (items : List α) :
    (items.mergeSort le).filter keeps = (items.filter keeps).mergeSort le := by
  induction items with
  | nil => simp
  | cons item items ih =>
    cases kept : keeps item with
    | true =>
      rw [List.filter_cons_of_pos kept, mergeSort_cons_eq trans total, mergeSort_cons_eq trans total, ← ih,
        List.filter_append, List.filter_cons_of_pos kept, List.filter_comm, List.filter_comm keeps (le item)]
    | false =>
      obtain ⟨lower, upper, whole, rest, -⟩ := List.mergeSort_cons trans total item items
      have dropped : ¬keeps item = true := by simp [kept]
      rw [rest, List.filter_append] at ih
      rw [whole, List.filter_append, List.filter_cons_of_neg dropped, List.filter_cons_of_neg dropped, ih]

end Sorting

/-- The timers of a history are known by their place in the order of scheduling, from zero on. -/
inductive TimerOperation where
  | schedule (delay : Nat)
  | cancel (index : Nat)
  | wait (time : Nat)
deriving DecidableEq

namespace TimerOperation

def time : TimerOperation → Nat
  | .wait time => time
  | _ => 0

def elapsed : List TimerOperation → Nat
  | [] => 0
  | operation :: later => operation.time + elapsed later

/-- When the timers of a history that begins now are due, in the order of scheduling. -/
def dues (now : Nat) : List TimerOperation → List Nat
  | [] => []
  | .schedule delay :: later => (now + delay) :: dues now later
  | operation :: later => dues (now + operation.time) later

/-- In a history that begins now, every wait for some time ends by `due`. -/
def Unreached (due now : Nat) (history : List TimerOperation) : Prop :=
  ∀ started time later, history = started ++ .wait time :: later → 0 < time → now + elapsed started + time ≤ due

/-- In a history that begins now, a wait for this time after it is the first to end past `due`. -/
structure FirstPast (due now : Nat) (history : List TimerOperation) (time : Nat) : Prop where
  passes : 0 < time
  ends : due < now + elapsed history + time
  unreached : Unreached due now history

variable {due now : Nat} {history : List TimerOperation}

theorem unreached_nil : Unreached due now [] := by
  intro started time later split
  cases started <;> cases split

theorem unreached_cons (operation : TimerOperation) : Unreached due now (operation :: history) ↔
    (0 < operation.time → now + operation.time ≤ due) ∧ Unreached due (now + operation.time) history := by
  constructor
  · intro unreached
    refine ⟨?_, ?_⟩
    · intro passes
      cases operation with
      | wait time => exact unreached [] time history rfl passes
      | _ => cases passes
    · intro started time later split passes
      have ends := unreached (operation :: started) time later (congrArg _ split) passes
      rw [elapsed] at ends
      omega
  · rintro ⟨first, others⟩ started time later split passes
    cases started with
    | nil =>
      cases split
      exact first passes
    | cons front started =>
      obtain ⟨rfl, rest⟩ := List.cons.inj split
      have ends := others started time later rest passes
      rw [elapsed]
      omega

end TimerOperation

open TimerOperation (elapsed dues Unreached FirstPast)

namespace TimerTable

def perform (table : TimerTable) : TimerOperation → List Nat × TimerTable
  | .schedule delay => ([], table.schedule delay)
  | .cancel index => ([], table.cancel index)
  | .wait time => table.wait time

def along (table : TimerTable) (history : List TimerOperation) : TimerTable :=
  history.foldl (fun table operation => (table.perform operation).2) table

def after (history : List TimerOperation) : TimerTable :=
  along {} history

def ran (table : TimerTable) : List TimerOperation → List Nat
  | [] => []
  | operation :: later => (table.perform operation).1 ++ ran (table.perform operation).2 later

def isCancelled (table : TimerTable) (index : Nat) : Bool :=
  table.cancelled[index]?.getD false

variable {table : TimerTable} {timer : Timer} {index : Nat} {history : List TimerOperation}

theorem along_cons (operation : TimerOperation) :
    table.along (operation :: history) = (table.perform operation).2.along history := rfl

theorem along_append (earlier later : List TimerOperation) :
    table.along (earlier ++ later) = (table.along earlier).along later := by
  simp [along]

theorem ran_append (earlier later : List TimerOperation) :
    table.ran (earlier ++ later) = table.ran earlier ++ (table.along earlier).ran later := by
  induction earlier generalizing table with
  | nil => rfl
  | cons operation earlier ih => rw [List.cons_append, ran, ran, ih, List.append_assoc]; rfl

theorem now_perform (operation : TimerOperation) : (table.perform operation).2.now = table.now + operation.time := by
  cases operation with
  | wait time => exact now_wait time
  | _ => rfl

theorem now_along : (table.along history).now = table.now + elapsed history := by
  induction history generalizing table with
  | nil => rfl
  | cons operation later ih =>
    rw [along_cons, ih, now_perform, elapsed, Nat.add_assoc]

theorem due_settle (finish : Nat) : (settle finish timer).due = timer.due := by
  rw [settle]
  split <;> rfl

theorem cancelled_settle (finish : Nat) : (settle finish timer).cancelled = timer.cancelled := by
  rw [settle]
  split <;> rfl

theorem due_perform (table : TimerTable) (operation : TimerOperation) :
    (table.perform operation).2.timers.map Timer.due =
      table.timers.map Timer.due ++ dues table.now [operation] := by
  cases operation with
  | schedule delay => simp [perform, schedule, dues]
  | cancel index =>
    apply List.ext_getElem?
    intro place
    simp only [perform, cancel, dues, List.append_nil, List.getElem?_map, List.getElem?_modify]
    cases table.timers[place]? with
    | none => rfl
    | some timer => by_cases same : index = place <;> simp [same]
  | wait time =>
    cases time with
    | zero => simp [perform, wait, dues]
    | succ time => simp [perform, wait, dues, due_settle]

theorem due_along (table : TimerTable) (history : List TimerOperation) :
    (table.along history).timers.map Timer.due = table.timers.map Timer.due ++ dues table.now history := by
  induction history generalizing table with
  | nil => simp [along, dues]
  | cons operation later ih =>
    rw [along_cons, ih, due_perform, now_perform, List.append_assoc]
    cases operation <;> simp [dues, TimerOperation.time]

theorem length_along (table : TimerTable) (history : List TimerOperation) :
    (table.along history).timers.length = table.timers.length + (dues table.now history).length := by
  simpa using congrArg List.length (due_along table history)

theorem length_le_perform (operation : TimerOperation) :
    table.timers.length ≤ (table.perform operation).2.timers.length := by
  have grown := congrArg List.length (due_perform table operation)
  rw [List.length_append, List.length_map, List.length_map] at grown
  omega

theorem mem_awaiting : (timer, index) ∈ table.awaiting ↔
    table.timers[index]? = some timer ∧ timer.finished = false ∧ timer.cancelled = false := by
  simp [awaiting, List.mem_zipIdx_iff_getElem?]

theorem mem_awaiting_perform (known : index < table.timers.length) (operation : TimerOperation) :
    (timer, index) ∈ (table.perform operation).2.awaiting ↔
      (timer, index) ∈ table.awaiting ∧ operation ≠ .cancel index ∧
        (0 < operation.time → table.now + operation.time ≤ timer.due) := by
  cases operation with
  | schedule delay =>
    have other : index ≠ table.timers.length := Nat.ne_of_lt known
    simp [perform, awaiting_schedule, other, TimerOperation.time]
  | cancel place =>
    have same : index ≠ place ↔ TimerOperation.cancel place ≠ .cancel index := by simp [eq_comm]
    simp [perform, awaiting_cancel, TimerOperation.time, same]
  | wait time =>
    cases time with
    | zero => simp [perform, wait, TimerOperation.time]
    | succ time => simp [perform, awaiting_wait, TimerOperation.time]

/-- A timer is awaited until it is cancelled, or a wait ends past the time at which it is due. -/
theorem mem_awaiting_along (known : index < table.timers.length) : (timer, index) ∈ (table.along history).awaiting ↔
    (timer, index) ∈ table.awaiting ∧ .cancel index ∉ history ∧ Unreached timer.due table.now history := by
  induction history generalizing table with
  | nil => simp [along, TimerOperation.unreached_nil]
  | cons operation later ih =>
    have known' : index < (table.perform operation).2.timers.length :=
      Nat.lt_of_lt_of_le known (length_le_perform operation)
    rw [along_cons, ih known', mem_awaiting_perform known, now_perform, TimerOperation.unreached_cons, List.mem_cons]
    grind

theorem mem_wait (time : Nat) : index ∈ (table.wait time).1 ↔
    0 < time ∧ ∃ timer, (timer, index) ∈ table.awaiting ∧ timer.due < table.now + time := by
  cases time with
  | zero => simp [wait]
  | succ time => simp [wait, runnable_eq]

/-- A timer runs in the first wait that ends past the time at which it is due, unless it was cancelled before. -/
theorem mem_wait_scheduled (table : TimerTable) (delay : Nat) (between : List TimerOperation) (time : Nat) :
    table.timers.length ∈ (((table.schedule delay).along between).wait time).1 ↔
      FirstPast (table.now + delay) table.now between time ∧ .cancel table.timers.length ∉ between := by
  have known : table.timers.length < (table.schedule delay).timers.length := by simp [schedule]
  have fresh (timer : Timer) : (timer, table.timers.length) ∈ (table.schedule delay).awaiting ↔
      timer = { due := table.now + delay } := by
    rw [mem_awaiting]
    constructor
    · rintro ⟨placed, -, -⟩
      simpa [schedule] using placed.symm
    · rintro rfl
      simp [schedule]
  have now : ((table.schedule delay).along between).now = table.now + elapsed between := now_along
  rw [mem_wait, now]
  constructor
  · rintro ⟨passes, timer, awaits, ends⟩
    obtain ⟨awaited, spared, unreached⟩ := (mem_awaiting_along known).mp awaits
    obtain rfl := (fresh timer).mp awaited
    exact ⟨⟨passes, ends, unreached⟩, spared⟩
  · rintro ⟨⟨passes, ends, unreached⟩, spared⟩
    exact ⟨passes, _, (mem_awaiting_along known).mpr ⟨(fresh _).mpr rfl, spared, unreached⟩, ends⟩

theorem mem_ran : index ∈ table.ran history ↔
    ∃ before time later, history = before ++ .wait time :: later ∧ index ∈ ((table.along before).wait time).1 := by
  constructor
  · intro runs
    induction history generalizing table with
    | nil => cases runs
    | cons operation later ih =>
      rcases List.mem_append.mp runs with first | others
      · cases operation with
        | wait time => exact ⟨[], time, later, rfl, first⟩
        | _ => cases first
      · obtain ⟨before, time, rest, rfl, inside⟩ := ih others
        exact ⟨operation :: before, time, rest, rfl, inside⟩
  · rintro ⟨before, time, later, rfl, runs⟩
    rw [ran_append]
    exact List.mem_append_right _ (List.mem_append_left _ runs)

theorem notMem_ran (known : index < table.timers.length) (idle : ∀ timer, (timer, index) ∉ table.awaiting) :
    index ∉ table.ran history := by
  intro runs
  obtain ⟨before, time, later, -, inside⟩ := mem_ran.mp runs
  obtain ⟨-, timer, awaits, -⟩ := (mem_wait time).mp inside
  exact idle timer ((mem_awaiting_along known).mp awaits).1

theorem lt_of_mem_wait {time : Nat} (runs : index ∈ (table.wait time).1) : index < table.timers.length := by
  obtain ⟨-, timer, awaits, -⟩ := (mem_wait time).mp runs
  exact (List.getElem?_eq_some_iff.mp (mem_awaiting.mp awaits).1).1

theorem lt_of_mem_ran (runs : index ∈ table.ran history) : index < (table.along history).timers.length := by
  obtain ⟨before, time, later, rfl, inside⟩ := mem_ran.mp runs
  have known := lt_of_mem_wait inside
  rw [along_append, length_along]
  omega

theorem nodup_wait (time : Nat) : (table.wait time).1.Nodup := by
  cases time with
  | zero => exact List.nodup_nil
  | succ time =>
    have places : (table.timers.zipIdx.map Prod.snd).Nodup := by
      rw [List.zipIdx_map_snd]
      exact List.nodup_range' ..
    simp only [wait, Nat.add_one_ne_zero, ↓reduceIte, runnable_eq]
    refine ((List.mergeSort_perm _ _).map Prod.snd).nodup_iff.mpr (places.sublist (List.Sublist.map _ ?_))
    exact List.filter_sublist.trans List.filter_sublist

theorem notMem_awaiting_wait {time : Nat} (runs : index ∈ (table.wait time).1) (timer : Timer) :
    (timer, index) ∉ (table.wait time).2.awaiting := by
  intro awaits
  obtain ⟨passes, ripe, awaited, due⟩ := (mem_wait time).mp runs
  have spared : (timer, index) ∈ table.awaiting ∧ _ ∧ _ :=
    (mem_awaiting_perform (lt_of_mem_wait runs) (.wait time)).mp awaits
  have same : some ripe = some timer := (mem_awaiting.mp awaited).1.symm.trans (mem_awaiting.mp spared.1).1
  have late := spared.2.2 passes
  cases same
  exact absurd due (Nat.not_lt.mpr late)

theorem nodup_ran : (table.ran history).Nodup := by
  induction history generalizing table with
  | nil => exact List.nodup_nil
  | cons operation later ih =>
    refine List.nodup_append.mpr ⟨?_, ih, ?_⟩
    · cases operation with
      | wait time => exact nodup_wait time
      | _ => exact List.nodup_nil
    · rintro index first _ others rfl
      cases operation with
      | wait time =>
        refine notMem_ran ?_ (notMem_awaiting_wait first) others
        exact Nat.lt_of_lt_of_le (lt_of_mem_wait first) (length_le_perform (.wait time))
      | _ => cases first

theorem pairwise_wait (time : Nat) : (table.wait time).1.Pairwise fun first second =>
    ∃ sooner ∈ (table.timers.map Timer.due)[first]?,
      ∃ later ∈ (table.timers.map Timer.due)[second]?, sooner ≤ later := by
  cases time with
  | zero => exact .nil
  | succ time =>
    simp only [wait, Nat.add_one_ne_zero, ↓reduceIte, runnable_eq, List.pairwise_map]
    refine (List.pairwise_mergeSort (by grind) (by grind) _).imp_of_mem fun {first second} inside others ordered => ?_
    have held {entry : Timer × Nat} (inside : entry ∈ table.awaiting) :
        (table.timers.map Timer.due)[entry.2]? = some entry.1.due := by
      rw [List.getElem?_map, (mem_awaiting.mp inside).1, Option.map_some]
    rw [List.mem_mergeSort] at inside others
    exact ⟨_, held (List.mem_filter.mp inside).1, _, held (List.mem_filter.mp others).1, of_decide_eq_true ordered⟩

theorem isCancelled_perform (operation : TimerOperation) : (table.perform operation).2.isCancelled index =
    (table.isCancelled index || decide (operation = .cancel index ∧ index < table.timers.length)) := by
  cases operation with
  | schedule delay =>
    simp only [perform, isCancelled, cancelled, schedule, List.map_append, List.getElem?_append, List.length_map]
    split
    · simp
    · next beyond =>
      have unknown : table.timers.length ≤ index := Nat.not_lt.mp beyond
      cases place : index - table.timers.length <;> simp [unknown]
  | cancel place =>
    simp only [perform, isCancelled, cancelled, cancel, List.getElem?_map, List.getElem?_modify]
    by_cases same : place = index
    · subst same
      by_cases known : place < table.timers.length <;> simp [known]
    · cases table.timers[index]? <;> simp [same]
  | wait time =>
    cases time with
    | zero => simp [perform, wait]
    | succ time => simp [perform, wait, isCancelled, cancelled, cancelled_settle, Function.comp_def]

theorem isCancelled_along (known : index < table.timers.length) : (table.along history).isCancelled index =
    (table.isCancelled index || decide (.cancel index ∈ history)) := by
  induction history generalizing table with
  | nil => simp [along]
  | cons operation later ih =>
    have known' : index < (table.perform operation).2.timers.length :=
      Nat.lt_of_lt_of_le known (length_le_perform operation)
    rw [along_cons, ih known', isCancelled_perform]
    grind

/-- Tables that agree in all but one timer. -/
structure Spares (index : Nat) (first second : TimerTable) : Prop where
  now : first.now = second.now
  length : first.timers.length = second.timers.length
  awaiting : first.awaiting.filter (fun (_, place) => place ≠ index) =
    second.awaiting.filter fun (_, place) => place ≠ index
  isCancelled : ∀ other, other ≠ index → first.isCancelled other = second.isCancelled other

theorem spares_cancel : Spares index (table.cancel index) table where
  now := rfl
  length := List.length_modify ..
  awaiting := by simp [awaiting_cancel]
  isCancelled := by
    intro other apart
    have same : (table.cancel index).isCancelled other = _ := isCancelled_perform (.cancel index)
    simpa [apart.symm] using same

namespace Spares

variable {first second : TimerTable}

theorem perform (spares : Spares index first second) (operation : TimerOperation) :
    Spares index (first.perform operation).2 (second.perform operation).2 where
  now := by rw [now_perform, now_perform, spares.now]
  length := by
    have grown (table : TimerTable) : (table.perform operation).2.timers.length = _ := length_along table [operation]
    rw [grown, grown, spares.length, spares.now]
  awaiting := by
    cases operation with
    | schedule delay =>
      simp only [TimerTable.perform, awaiting_schedule, List.filter_append, spares.awaiting, spares.now, spares.length]
    | cancel place =>
      simp only [TimerTable.perform, awaiting_cancel]
      rw [List.filter_comm, spares.awaiting, List.filter_comm]
    | wait time =>
      cases time with
      | zero => exact spares.awaiting
      | succ time =>
        simp only [TimerTable.perform, awaiting_wait (Nat.succ_pos time), spares.now]
        rw [List.filter_comm, spares.awaiting, List.filter_comm]
  isCancelled := by
    intro other apart
    rw [isCancelled_perform, isCancelled_perform, spares.isCancelled other apart, spares.length]

theorem along (spares : Spares index first second) (history : List TimerOperation) :
    Spares index (first.along history) (second.along history) := by
  induction history generalizing first second with
  | nil => exact spares
  | cons operation later ih => exact ih (spares.perform operation)

theorem wait (spares : Spares index first second) (time : Nat) :
    (first.wait time).1.filter (· ≠ index) = (second.wait time).1.filter (· ≠ index) := by
  cases time with
  | zero => rfl
  | succ time =>
    simp only [TimerTable.wait, Nat.add_one_ne_zero, ↓reduceIte, runnable_eq, List.filter_map, Function.comp_def,
      spares.now]
    rw [filter_mergeSort, filter_mergeSort, List.filter_comm, spares.awaiting, List.filter_comm]
    all_goals grind

theorem ran (spares : Spares index first second) :
    (first.ran history).filter (· ≠ index) = (second.ran history).filter (· ≠ index) := by
  induction history generalizing first second with
  | nil => rfl
  | cons operation later ih =>
    rw [TimerTable.ran, TimerTable.ran, List.filter_append, List.filter_append, ih (spares.perform operation)]
    cases operation with
    | wait time => exact congrArg (· ++ _) (spares.wait time)
    | _ => rfl

end Spares

theorem now_after : (after history).now = elapsed history := by
  rw [after, now_along, Nat.zero_add]

theorem due_after : (after history).timers.map Timer.due = dues 0 history := due_along {} history

theorem length_after : (after history).timers.length = (dues 0 history).length := by
  rw [← due_after, List.length_map]

theorem after_append (earlier later : List TimerOperation) :
    after (earlier ++ later) = (after earlier).along later := along_append ..

end TimerTable

/-- Every timer runs at most once: in the first wait that ends past the time at which it is due, unless it was
cancelled before that wait. One wait runs its timers in the order in which they are due. A timer counts as cancelled
just when it was, whether it had run or not, and its cancellation changes nothing for the others. -/
theorem timers_run_once_when_due (earlier : List TimerOperation) :
    (TimerTable.ran {} earlier).Nodup ∧
      (∀ time, ((TimerTable.after earlier).wait time).1.Pairwise fun first second =>
        ∃ sooner ∈ (dues 0 earlier)[first]?, ∃ later ∈ (dues 0 earlier)[second]?, sooner ≤ later) ∧
      (∀ (delay : Nat) (later : List TimerOperation),
        let history := earlier ++ .schedule delay :: later
        let index := (dues 0 earlier).length
        let start := elapsed earlier
        (∀ time, index ∈ ((TimerTable.after history).wait time).1 ↔
          FirstPast (start + delay) start later time ∧ .cancel index ∉ later) ∧
        (index ∈ TimerTable.ran {} history ↔ ∃ between time rest, later = between ++ .wait time :: rest ∧
          FirstPast (start + delay) start between time ∧ .cancel index ∉ between) ∧
        (TimerTable.after history).isCancelled index = decide (.cancel index ∈ later)) ∧
      ∀ (index : Nat) (later : List TimerOperation),
        let history := earlier ++ .cancel index :: later
        let spared := earlier ++ later
        (∀ time, ((TimerTable.after history).wait time).1.filter (· ≠ index) =
          ((TimerTable.after spared).wait time).1.filter (· ≠ index)) ∧
        (TimerTable.ran {} history).filter (· ≠ index) = (TimerTable.ran {} spared).filter (· ≠ index) ∧
        ∀ other, other ≠ index →
          (TimerTable.after history).isCancelled other = (TimerTable.after spared).isCancelled other := by
  refine ⟨TimerTable.nodup_ran, ?ordered, ?scheduled, ?apart⟩
  case ordered =>
    intro time
    rw [← TimerTable.due_after]
    exact TimerTable.pairwise_wait time
  case scheduled =>
    intro delay later history index start
    have split : TimerTable.after history = ((TimerTable.after earlier).schedule delay).along later :=
      TimerTable.after_append ..
    have known : index < ((TimerTable.after earlier).schedule delay).timers.length := by
      simp [TimerTable.schedule, TimerTable.length_after, index]
    have runs (between : List TimerOperation) (time : Nat) :
        index ∈ ((((TimerTable.after earlier).schedule delay).along between).wait time).1 ↔
          FirstPast (start + delay) start between time ∧ .cancel index ∉ between := by
      have placed := TimerTable.mem_wait_scheduled (.after earlier) delay between time
      rwa [TimerTable.length_after, TimerTable.now_after] at placed
    refine ⟨?_, ?_, ?_⟩
    · intro time
      rw [split]
      exact runs later time
    · have unscheduled : index ∉ TimerTable.ran {} earlier := by
        intro early
        have inside := TimerTable.lt_of_mem_ran early
        rw [← TimerTable.after, TimerTable.length_after] at inside
        exact Nat.lt_irrefl _ inside
      have afterwards : index ∈ TimerTable.ran {} history ↔
          index ∈ ((TimerTable.after earlier).schedule delay).ran later := by
        rw [TimerTable.ran_append, List.mem_append, or_iff_right unscheduled]
        rfl
      rw [afterwards, TimerTable.mem_ran]
      simp only [runs]
    · have unset : ((TimerTable.after earlier).schedule delay).isCancelled index = false := by
        simp [TimerTable.isCancelled, TimerTable.cancelled, TimerTable.schedule, index, ← TimerTable.length_after]
      rw [split, TimerTable.isCancelled_along known, unset, Bool.false_or]
  case apart =>
    intro index later history spared
    have cancels : TimerTable.Spares index ((TimerTable.after earlier).cancel index) (TimerTable.after earlier) :=
      TimerTable.spares_cancel
    have split : TimerTable.after history = ((TimerTable.after earlier).cancel index).along later :=
      TimerTable.after_append ..
    have spares := cancels.along later
    rw [← split, ← TimerTable.after_append] at spares
    refine ⟨spares.wait, ?_, spares.isCancelled⟩
    rw [TimerTable.ran_append, TimerTable.ran_append, List.filter_append, List.filter_append]
    exact congrArg _ cancels.ran

/-- Both timers are due at the very end of a wait. The one that is cancelled then never runs, the other runs next. -/
theorem timers_run_once_when_due_boundary :
    let earlier : List TimerOperation := [.schedule 100, .schedule 100, .wait 100]
    let cancelled : List TimerOperation := [.schedule 100, .wait 100, .cancel 0]
    1 ≠ 0 ∧ ((TimerTable.after (.schedule 100 :: cancelled)).wait 1).1 = [1] ∧
      0 ∉ ((TimerTable.after (.schedule 100 :: cancelled)).wait 1).1 ∧
      (TimerTable.after (earlier ++ [.cancel 0])).isCancelled 1 = (TimerTable.after earlier).isCancelled 1 := by
  intro earlier cancelled
  refine ⟨by decide, by decide +kernel, ?_, ?_⟩
  · rintro runs
    obtain ⟨-, spared⟩ := (((timers_run_once_when_due []).2.2.1 100 cancelled).1 1).mp runs
    exact spared (by decide)
  · exact ((timers_run_once_when_due earlier).2.2.2 0 []).2.2 1 (by decide)

end CallProximity
