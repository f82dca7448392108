import CallProximity.Proofs.Coherence

/-! What a classifier takes the device to be goes back to the distances since it last found it far, and to nothing
before that. -/

namespace CallProximity

inductive ClassifierOperation where
  | feed (distance : Float32)
  | reset

namespace ClassifierOperation

def distance? : ClassifierOperation → Option Float32
  | .feed distance => some distance
  | .reset => none

def isReset : ClassifierOperation → Bool
  | .feed _ => false
  | .reset => true

/-- A reset clears near, and so does a distance at the maximum range. -/
def clears (maxRange : Float32) : ClassifierOperation → Bool
  | .feed distance => distance == maxRange
  | .reset => true

end ClassifierOperation

namespace ProximityReading

variable {previous : ProximityReading} {distance maxRange threshold : Float32}

theorem unpack_of_isNaN {value : Float32} (nan : value.isNaN = true) : value.toModel.unpack = .notANumber := by
  have unpacked : value.toModel.unpack.isNaN = true := nan
  generalize value.toModel.unpack = number at unpacked ⊢
  cases number with
  | notANumber => rfl
  | _ => cases unpacked

theorem compare_of_isNaN {value : Float32} (nan : value.isNaN = true) (other : Float32) :
    (value == other) = false ∧ ¬value ≤ other := by
  constructor
  · change value.toModel.unpack.beq other.toModel.unpack = false
    rw [unpack_of_isNaN nan]
    rfl
  · intro within
    have compared : value.toModel.unpack.le other.toModel.unpack = true := of_decide_eq_true within
    rw [unpack_of_isNaN nan] at compared
    cases compared

theorem near_next_of_eq (full : (distance == maxRange) = true) :
    (previous.next distance maxRange threshold).near = false := by
  simp only [next, full, ↓reduceIte]

theorem near_next_of_ne (short : (distance == maxRange) = false) :
    (previous.next distance maxRange threshold).near = (previous.near || decide (distance ≤ threshold)) := by
  simp only [next, short, Bool.false_eq_true, ↓reduceIte]

theorem far_next : (previous.next distance maxRange threshold).far = (distance == maxRange) := by
  simp only [next]
  split
  · next full => exact full.symm
  · next short => simpa using short

theorem near_next_of_isNaN (nan : distance.isNaN = true) :
    (previous.next distance maxRange threshold).near = previous.near := by
  rw [near_next_of_ne (compare_of_isNaN nan maxRange).1, decide_eq_false (compare_of_isNaN nan threshold).2,
    Bool.or_false]

end ProximityReading

namespace ProximityClassifier

variable {classifier : ProximityClassifier} {maxRange : Float32} {config : ClassifierConfig}

def apply (classifier : ProximityClassifier) : ClassifierOperation → ProximityClassifier
  | .feed distance => classifier.feed distance
  | .reset => classifier.reset

def after (classifier : ProximityClassifier) (operations : List ClassifierOperation) : ProximityClassifier :=
  operations.foldl apply classifier

theorem after_concat (first : List ClassifierOperation) (last : ClassifierOperation) :
    classifier.after (first ++ [last]) = (classifier.after first).apply last :=
  List.foldl_append

theorem scale_after (operations : List ClassifierOperation) :
    (classifier.after operations).scale = classifier.scale := by
  induction operations using List.reverseRecOn with
  | nil => rfl
  | append_singleton first last ih =>
    rw [after_concat, ← ih]
    cases last with
    | feed distance => exact scale_feed _ distance
    | reset => rfl

theorem exclusive_after (exclusive : classifier.reading.Exclusive) (operations : List ClassifierOperation) :
    (classifier.after operations).reading.Exclusive := by
  induction operations using List.reverseRecOn with
  | nil => exact exclusive
  | append_singleton first last ih =>
    rw [after_concat]
    cases last with
    | feed distance => exact exclusive_feed ih distance
    | reset => exact exclusive_reset _

theorem reading_feed (judges : classifier.scale = (some maxRange, config)) (distance : Float32) :
    (classifier.feed distance).reading = classifier.reading.next distance maxRange config.threshold := by
  obtain ⟨available, rfl⟩ := Prod.mk.inj judges
  simp only [feed, available]

section Available

variable (judges : classifier.scale = (some maxRange, config)) (fresh : classifier.reading = .initial)
  (operations : List ClassifierOperation)

include judges fresh

theorem near_after : (classifier.after operations).reading.near =
    (shownSince (ClassifierOperation.clears maxRange) ClassifierOperation.distance? operations).any
      (· ≤ config.threshold) := by
  induction operations using List.reverseRecOn with
  | nil => exact congrArg ProximityReading.near fresh
  | append_singleton first last ih =>
    rw [after_concat]
    cases last with
    | reset =>
      rw [shownSince_concat_of_breaks rfl]
      rfl
    | feed distance =>
      rw [apply, reading_feed ((scale_after first).trans judges)]
      by_cases full : (ClassifierOperation.feed distance).clears maxRange = true
      · rw [shownSince_concat_of_breaks full, ProximityReading.near_next_of_eq full]
        rfl
      · rw [Bool.not_eq_true] at full
        rw [shownSince_concat full, List.any_append, ← ih, ProximityReading.near_next_of_ne full]
        simp [ClassifierOperation.distance?]

theorem far_after : (classifier.after operations).reading.far =
    (shownSince ClassifierOperation.isReset ClassifierOperation.distance? operations).getLast?.all (· == maxRange) := by
  -- Only the last operation counts, so there is nothing to induct on.
  rcases List.eq_nil_or_concat operations with rfl | ⟨first, last, rfl⟩
  · exact congrArg ProximityReading.far fresh
  · rw [List.concat_eq_append, after_concat]
    cases last with
    | reset =>
      rw [shownSince_concat_of_breaks rfl]
      rfl
    | feed distance =>
      rw [apply, reading_feed ((scale_after first).trans judges), shownSince_concat rfl, ClassifierOperation.distance?,
        Option.toList_some, List.getLast?_concat, Option.all_some, ProximityReading.far_next]

end Available

theorem after_of_unavailable (unavailable : classifier.maxRange = none) (fresh : classifier.reading = .initial)
    (operations : List ClassifierOperation) : classifier.after operations = classifier := by
  induction operations using List.reverseRecOn with
  | nil => rfl
  | append_singleton first last ih =>
    rw [after_concat, ih]
    cases last with
    | feed distance => simp only [apply, feed, unavailable]
    | reset => simp only [apply, reset, ← fresh]

end ProximityClassifier

/-- A classifier finds the device near by a distance within the threshold since it was new, reset or told of the
maximum range, and far by the last distance since it was new or reset, or for want of one. Without a sensor it
finds nothing. -/
theorem reading_of_history (maxRange : Float32) (config : ClassifierConfig) (operations : List ClassifierOperation) :
    let classifier := ({ maxRange := some maxRange, config } : ProximityClassifier).after operations
    let sinceFar := shownSince (ClassifierOperation.clears maxRange) ClassifierOperation.distance? operations
    let sinceReset := shownSince ClassifierOperation.isReset ClassifierOperation.distance? operations
    (classifier.reading.near = true ↔ ∃ distance ∈ sinceFar, distance ≤ config.threshold) ∧
      (classifier.reading.far = true ↔
        sinceReset = [] ∨ ∃ last, sinceReset.getLast? = some last ∧ (last == maxRange) = true) ∧
      (classifier.reading.far = true → classifier.reading.near = false) ∧
      (∀ distance, distance.isNaN = true →
        (classifier.feed distance).reading.near = classifier.reading.near) ∧
      (∀ distance, (distance == maxRange) = false → classifier.reading.near = true →
        (classifier.feed distance).reading.near = true) ∧
      (({ maxRange := none, config } : ProximityClassifier).after operations).reading = .initial := by
  intro classifier sinceFar sinceReset
  have judges : classifier.scale = (some maxRange, config) := ProximityClassifier.scale_after operations
  refine ⟨?_, ?_, ?_, ?_, ?_, ?_⟩
  · rw [ProximityClassifier.near_after rfl rfl]
    simp [sinceFar]
  · rw [ProximityClassifier.far_after rfl rfl]
    change sinceReset.getLast?.all (· == maxRange) = true ↔ _
    cases last : sinceReset.getLast? with
    | none => exact iff_of_true rfl (.inl (List.getLast?_eq_none_iff.mp last))
    | some distance =>
      have heard : sinceReset ≠ [] := by
        intro none
        rw [none] at last
        cases last
      simp [heard]
  · intro far
    have exclusive : classifier.reading.Exclusive :=
      ProximityClassifier.exclusive_after (by simp [ProximityReading.Exclusive, ProximityReading.initial]) operations
    cases near : classifier.reading.near with
    | true => exact absurd ⟨near, far⟩ exclusive
    | false => rfl
  · intro distance nan
    rw [ProximityClassifier.reading_feed judges, ProximityReading.near_next_of_isNaN nan]
  · intro distance short near
    rw [ProximityClassifier.reading_feed judges, ProximityReading.near_next_of_ne short, near, Bool.true_or]
  · rw [ProximityClassifier.after_of_unavailable rfl rfl]

/-- A maximum range within the threshold is far. -/
example : (({ maxRange := some 3 } : ProximityClassifier).after [.feed 1, .feed 3]).reading = .initial := by decide

end CallProximity
