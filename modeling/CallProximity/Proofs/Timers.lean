import CallProximity.Timer

/-! The timers that a table still waits for: what scheduling, cancelling and waiting make of them. Two waits
in a row leave a table as one wait for both times does. -/

namespace CallProximity

theorem filter_map_of_fixed {α : Type} {change : α → α} {keeps spares : α → Bool}
    (kept : ∀ item, keeps (change item) = spares item) (fixed : ∀ item, spares item = true → change item = item)
    (items : List α) : (items.map change).filter keeps = items.filter spares := by
  induction items with
  | nil => rfl
  | cons item rest ih =>
    rw [List.map_cons, List.filter_cons, List.filter_cons, kept, ih]
    split
    · next spared => rw [fixed item spared]
    · rfl

namespace TimerTable

/-- The timers that neither ran nor were cancelled, each with its place. -/
def awaiting (table : TimerTable) : List (Timer × Nat) :=
  table.timers.zipIdx.filter fun (timer, _) => !timer.finished && !timer.cancelled

variable {table : TimerTable}

theorem awaiting_schedule (delay : Nat) : (table.schedule delay).awaiting =
    table.awaiting ++ [({ due := table.now + delay }, table.timers.length)] := by
  simp [awaiting, schedule, List.zipIdx_append]

theorem zipIdx_cancel (index : Nat) : (table.cancel index).timers.zipIdx =
    table.timers.zipIdx.map fun (timer, place) =>
      (if place = index then { timer with cancelled := true } else timer, place) := by
  apply List.ext_getElem?
  intro place
  simp only [cancel, List.getElem?_zipIdx, List.getElem?_modify, List.getElem?_map]
  cases table.timers[place]? with
  | none => simp
  | some timer => grind

theorem awaiting_cancel (index : Nat) :
    (table.cancel index).awaiting = table.awaiting.filter fun (_, place) => place ≠ index := by
  rw [awaiting, zipIdx_cancel, awaiting, List.filter_filter]
  apply filter_map_of_fixed
  · rintro ⟨timer, place⟩
    by_cases same : place = index <;> simp [same]
  · rintro ⟨timer, place⟩ spared
    have other : place ≠ index := by simp_all
    dsimp only
    rw [if_neg other]

theorem runnable_eq (finish : Nat) : table.runnable finish =
    ((table.awaiting.filter fun (timer, _) => timer.due < finish).mergeSort
      fun first second => first.1.due ≤ second.1.due).map Prod.snd := by
  simp only [runnable, awaiting, List.filter_filter, isRunnable]
  congr 3
  funext ⟨timer, place⟩
  grind

theorem settle_settle {first last : Nat} (ordered : first ≤ last) (timer : Timer) :
    settle last (settle first timer) = settle last timer := by
  simp only [settle, isRunnable]
  grind

/-- Only the end of a wait counts. -/
theorem wait_add (first second : Nat) :
    ((table.wait first).2.wait second).2 = (table.wait (first + second)).2 := by
  cases first with
  | zero => simp [wait]
  | succ first =>
    cases second with
    | zero => simp [wait]
    | succ second =>
      have later (timer : Timer) : settle (table.now + (first + 1) + (second + 1))
          (settle (table.now + (first + 1)) timer) = settle (table.now + (first + 1) + (second + 1)) timer :=
        settle_settle (by omega) timer
      have finish : table.now + (first + 1 + (second + 1)) = table.now + (first + 1) + (second + 1) := by omega
      simp [wait, finish, later]

theorem now_wait (time : Nat) : (table.wait time).2.now = table.now + time := by
  cases time <;> rfl

theorem length_wait (time : Nat) : (table.wait time).2.timers.length = table.timers.length := by
  cases time <;> simp [wait]

theorem awaiting_wait {time : Nat} (passes : 0 < time) : (table.wait time).2.awaiting =
    table.awaiting.filter fun (timer, _) => table.now + time ≤ timer.due := by
  have positive : time ≠ 0 := by omega
  simp only [wait, positive, ↓reduceIte]
  rw [awaiting, List.zipIdx_map, awaiting, List.filter_filter]
  apply filter_map_of_fixed
  · rintro ⟨timer, place⟩
    simp only [Prod.map, settle, isRunnable]
    grind
  · rintro ⟨timer, place⟩ spared
    simp only [Prod.map, settle, isRunnable]
    grind

end TimerTable

end CallProximity
