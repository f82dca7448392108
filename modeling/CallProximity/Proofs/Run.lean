import CallProximity.Session.Step
import Mathlib.Data.List.DropRight

/-! Runs of a session. Between two events the devices may change in any way at all:
preferences are edited, the screen goes off, another program takes the wake lock. Events
may come in any order, and timers may fire at any moment. -/

namespace CallProximity

variable {World : Type}

theorem exists_split_concat {α : Type} {items : List α} {last : α} {breaks : List α → α → List α → Prop} :
    (∃ earlier item later, items ++ [last] = earlier ++ item :: later ∧ breaks earlier item later) ↔
      breaks items last [] ∨ ∃ earlier item later, items = earlier ++ item :: later ∧
        breaks earlier item (later ++ [last]) := by
  constructor
  · rintro ⟨earlier, item, later, split, holds⟩
    rcases List.eq_nil_or_concat later with rfl | ⟨later, final, rfl⟩
    · obtain ⟨rfl, same⟩ := List.append_inj' split rfl
      cases same
      exact .inl holds
    · rw [List.concat_eq_append] at split holds
      have regrouped : items ++ [last] = (earlier ++ item :: later) ++ [final] := by simpa using split
      obtain ⟨rfl, same⟩ := List.append_inj' regrouped rfl
      cases same
      exact .inr ⟨earlier, item, later, rfl, holds⟩
  · rintro (holds | ⟨earlier, item, later, rfl, holds⟩)
    · exact ⟨items, last, [], rfl, holds⟩
    · exact ⟨earlier, item, later ++ [last], by simp, holds⟩

/-- What the items of a history show since it last broke off. -/
def shownSince {α β : Type} (breaks : α → Bool) (view : α → Option β) (history : List α) : List β :=
  (history.rtakeWhile (!breaks ·)).filterMap view

section ShownSince

variable {α β : Type} {breaks : α → Bool} {last : α}

theorem shownSince_concat_of_breaks (broken : breaks last = true) (view : α → Option β) (history : List α) :
    shownSince breaks view (history ++ [last]) = [] := by
  rw [shownSince, List.rtakeWhile_concat_neg _ _ _ (by simp [broken])]
  rfl

theorem shownSince_concat (goesOn : breaks last = false) (view : α → Option β) (history : List α) :
    shownSince breaks view (history ++ [last]) = shownSince breaks view history ++ (view last).toList := by
  rw [shownSince, List.rtakeWhile_concat_pos _ _ _ (by simp [goesOn]), List.filterMap_append]
  cases shown : view last <;> simp [shownSince, shown]

end ShownSince

/-- An event, and what happened to the devices since the one before. -/
structure Occurrence (World : Type) where
  meanwhile : World → World
  event : Event

structure Moment (World : Type) where
  engine : Engine World
  event : Event

namespace Moment

def after (platform : Platform World) (moment : Moment World) : Engine World :=
  moment.engine.step platform moment.event

def requests (platform : Platform World) (moment : Moment World) : List Request :=
  (moment.after platform).requests.drop moment.engine.requests.length

/-- The preferences that the event loads. Timers and the tear-down load none. -/
def loaded? (platform : Platform World) (moment : Moment World) : Option Preferences :=
  match moment.event with
  | .timer _ | .tearDown => none
  | _ =>
      if moment.engine.session.tornDown then none
      else some (Preferences.load (platform.preferences moment.engine.world))

end Moment

namespace Engine

def disturb (engine : Engine World) (change : World → World) : Engine World :=
  { engine with world := change engine.world }

def meet (engine : Engine World) (occurrence : Occurrence World) : Moment World :=
  ⟨engine.disturb occurrence.meanwhile, occurrence.event⟩

variable (platform : Platform World)

def after (engine : Engine World) (occurrences : List (Occurrence World)) : Engine World :=
  occurrences.foldl (fun engine occurrence => (engine.meet occurrence).after platform) engine

def moments (engine : Engine World) : List (Occurrence World) → List (Moment World)
  | [] => []
  | occurrence :: rest =>
      engine.meet occurrence :: ((engine.meet occurrence).after platform).moments rest

def latest? {α : Type} (view : Moment World → Option α) (engine : Engine World) (occurrences : List (Occurrence World)) :
    Option α :=
  ((engine.moments platform occurrences).filterMap view).getLast?

variable {platform} {engine : Engine World}

@[simp] theorem after_nil : engine.after platform [] = engine := rfl

theorem after_cons (occurrence : Occurrence World) (rest : List (Occurrence World)) :
    engine.after platform (occurrence :: rest) =
      ((engine.meet occurrence).after platform).after platform rest := rfl

theorem after_append (first rest : List (Occurrence World)) :
    engine.after platform (first ++ rest) = (engine.after platform first).after platform rest :=
  List.foldl_append

@[simp] theorem after_concat (first : List (Occurrence World)) (last : Occurrence World) :
    engine.after platform (first ++ [last]) = ((engine.after platform first).meet last).after platform :=
  after_append first [last]

theorem moments_append (first rest : List (Occurrence World)) :
    engine.moments platform (first ++ rest) =
      engine.moments platform first ++ (engine.after platform first).moments platform rest := by
  induction first generalizing engine with
  | nil => rfl
  | cons occurrence first ih => exact congrArg (_ :: ·) ih

theorem latest?_concat {α : Type} (view : Moment World → Option α) (first : List (Occurrence World))
    (last : Occurrence World) : engine.latest? platform view (first ++ [last]) =
      (view ((engine.after platform first).meet last)).or (engine.latest? platform view first) := by
  rw [latest?, moments_append, List.filterMap_append, List.getLast?_append]
  simp only [moments, List.filterMap_cons, List.filterMap_nil]
  cases view ((engine.after platform first).meet last) <;> rfl

/-- What the devices do between events may rely on which run it is, and what an event does
on all that is known of its moment. -/
theorem invariant_along (invariant : Engine World → Prop) (occurrences : List (Occurrence World))
    (initial : invariant engine)
    (disturbed : ∀ occurrence ∈ occurrences, ∀ engine, invariant engine →
      invariant (engine.disturb occurrence.meanwhile))
    (stepped : ∀ moment ∈ engine.moments platform occurrences, invariant moment.engine →
      invariant (moment.after platform)) :
    invariant (engine.after platform occurrences) ∧
      ∀ moment ∈ engine.moments platform occurrences, invariant moment.engine := by
  induction occurrences generalizing engine with
  | nil => exact ⟨initial, fun _ absent => by cases absent⟩
  | cons occurrence rest ih =>
    have met : invariant (engine.meet occurrence).engine :=
      disturbed occurrence (List.mem_cons_self ..) engine initial
    obtain ⟨last, along⟩ := ih (stepped _ (List.mem_cons_self ..) met)
      (fun other member => disturbed other (List.mem_cons_of_mem _ member))
      (fun moment member => stepped moment (List.mem_cons_of_mem _ member))
    refine ⟨last, ?_⟩
    intro moment member
    rcases List.mem_cons.mp member with rfl | later
    · exact met
    · exact along moment later

end Engine

end CallProximity
