import CallProximity.Proofs.PreferenceLoading

/-! Preferences that are put into a store are loaded from it again, but for a delay that no signed word holds. -/

namespace CallProximity

def PreferenceKey.all : List String :=
  [sensorDisabled, autoSpeaker, autoSpeakerIncallOnly, autoSpeakerDelay, autoAnswer]

theorem UInt64.toInt_toInt64 (word : UInt64) : word.toInt64.toInt =
    if word.toNat < 9223372036854775808 then (word.toNat : Int) else word.toNat - 18446744073709551616 := by
  change word.toBitVec.toInt = _
  rw [BitVec.toInt_eq_toNat_cond, UInt64.toNat_toBitVec]
  split <;> split <;> omega

namespace Preferences

def kept (preferences : Preferences) : Preferences :=
  if preferences.autoSpeakerDelay.toNat < 9223372036854775808 then preferences
  else { preferences with autoSpeakerDelay := 3000 }

theorem eq_of_isOn {first second : Preferences} (flags : ∀ flag : PreferenceFlag, flag.isOn first = flag.isOn second)
    (delay : first.autoSpeakerDelay = second.autoSpeakerDelay) : first = second := by
  obtain ⟨_, _, _, _, _⟩ := first
  obtain ⟨_, _, _, _, _⟩ := second
  cases delay
  cases flags .sensorDisabled
  cases flags .autoSpeaker
  cases flags .autoSpeakerIncallOnly
  cases flags .autoAnswer
  rfl

theorem lookup_entries_flag (preferences : Preferences) (flag : PreferenceFlag) :
    preferences.entries.lookup flag.key = some (.bool (flag.isOn preferences)) := by
  cases flag <;> rfl

theorem lookup_entries_delay (preferences : Preferences) : preferences.entries.lookup PreferenceKey.autoSpeakerDelay =
    some (.ofInt64 preferences.autoSpeakerDelay.toInt64) :=
  rfl

theorem key_mem_all (preferences : Preferences) {entry : String × Json} (member : entry ∈ preferences.entries) :
    entry.1 ∈ PreferenceKey.all := by
  simp only [entries, List.mem_cons, List.not_mem_nil, or_false] at member
  rcases member with rfl | rfl | rfl | rfl | rfl <;> simp [PreferenceKey.all]

theorem isOn_kept (preferences : Preferences) (flag : PreferenceFlag) :
    flag.isOn preferences.kept = flag.isOn preferences := by
  rw [kept]
  split
  · rfl
  · cases flag <;> rfl

theorem toNat_delay_kept (preferences : Preferences) : preferences.kept.autoSpeakerDelay.toNat =
    delayReading 3000 (some (.ofInt64 preferences.autoSpeakerDelay.toInt64)) := by
  simp only [kept, delayReading, Json.ofInt64, WordInteger.ofInt64, UInt64.toInt_toInt64]
  have bound := preferences.autoSpeakerDelay.toNat_lt
  by_cases fits : preferences.autoSpeakerDelay.toNat < 9223372036854775808
  · rw [if_pos fits, if_pos fits, if_pos (by omega), Int.toNat_natCast]
  · rw [if_neg fits, if_neg fits, if_neg (by omega)]
    rfl

end Preferences

namespace PreferenceStore

variable {store : PreferenceStore} {preferences : Preferences} {key : String}

theorem sourceWithout_nil (detail : String) : store.sourceWithout [] detail = store.source := by
  simp [sourceWithout, source]

theorem load_apply (store : PreferenceStore) (preferences : Preferences) :
    Preferences.load (store.apply preferences).source = preferences.kept := by
  rw [← sourceWithout_nil ""]
  apply Preferences.eq_of_isOn
  · intro flag
    rw [isOn_sourceWithout, readable?, if_neg List.not_mem_nil, get?_apply, Preferences.lookup_entries_flag,
      Preferences.isOn_kept]
    rfl
  · apply UInt64.toNat_inj.mp
    rw [delay_sourceWithout, readable?, if_neg List.not_mem_nil, get?_apply, Preferences.lookup_entries_delay,
      Preferences.toNat_delay_kept]
    rfl

theorem entries_apply : (store.apply preferences).entries =
    preferences.entries ++ store.entries.filter fun entry => entry.1 ∉ PreferenceKey.all := by
  have apart : PreferenceKey.all.Nodup := by decide
  have erased (entry : String × Json) : decide (entry.1 ∉ PreferenceKey.all) =
      (entry.1 != PreferenceKey.autoAnswer && (entry.1 != PreferenceKey.autoSpeakerDelay &&
        (entry.1 != PreferenceKey.autoSpeakerIncallOnly && (entry.1 != PreferenceKey.autoSpeaker &&
          entry.1 != PreferenceKey.sensorDisabled)))) := by
    grind [PreferenceKey.all]
  simp only [PreferenceKey.all, List.nodup_cons, List.mem_cons, List.not_mem_nil, or_false, not_or] at apart
  simp [apply, setBool, setInt, set, remove, Preferences.entries, List.filter_filter, erased, apart]

/-- Nothing is left of preferences that others are put over. -/
theorem apply_apply (others : Preferences) : (store.apply preferences).apply others = store.apply others := by
  have gone : preferences.entries.filter (fun entry => entry.1 ∉ PreferenceKey.all) = [] :=
    List.filter_eq_nil_iff.mpr fun entry member => by simpa using preferences.key_mem_all member
  have same : ((store.apply preferences).apply others).entries = (store.apply others).entries := by
    rw [entries_apply, entries_apply, List.filter_append, gone, List.nil_append, List.filter_filter, entries_apply]
    simp
  exact congrArg PreferenceStore.mk same

theorem get?_apply_of_notMem (other : key ∉ PreferenceKey.all) :
    (store.apply preferences).get? key = store.get? key := by
  have unwritten : preferences.entries.lookup key = none := by
    rw [List.lookup_eq_none_iff]
    intro entry member
    exact bne_iff_ne.mpr fun same => other (same ▸ preferences.key_mem_all member)
  rw [get?_apply, unwritten, Option.none_or]

end PreferenceStore

theorem Simulation.preferences_start (scenario : Scenario) : (Simulation.start scenario).engine.session.preferences =
    Preferences.load (({} : PreferenceStore).apply scenario.preferences).source := by
  rw [start, Engine.session_start]
  rfl

/-- Preferences return from a store as they were put in, but for a delay that a signed word cannot hold: it is the
default then. They touch no other key, and leave no trace once others are put over them. A simulation starts with
those of its scenario as they return from an empty store. -/
theorem stored_preferences_return (preferences others : Preferences) (store : PreferenceStore) (scenario : Scenario) :
    (preferences.autoSpeakerDelay.toNat < 9223372036854775808 →
        Preferences.load (store.apply preferences).source = preferences) ∧
      (9223372036854775808 ≤ preferences.autoSpeakerDelay.toNat →
        Preferences.load (store.apply preferences).source = { preferences with autoSpeakerDelay := 3000 }) ∧
      (∀ key, key ∉ PreferenceKey.all → (store.apply preferences).get? key = store.get? key) ∧
      (store.apply preferences).apply others = store.apply others ∧
      (Simulation.start scenario).engine.session.preferences = scenario.preferences.kept := by
  refine ⟨?_, ?_, fun key => PreferenceStore.get?_apply_of_notMem, PreferenceStore.apply_apply others, ?_⟩
  · intro fits
    rw [PreferenceStore.load_apply, Preferences.kept, if_pos fits]
  · intro wraps
    rw [PreferenceStore.load_apply, Preferences.kept, if_neg (Nat.not_lt.mpr wraps)]
  · rw [Simulation.preferences_start, PreferenceStore.load_apply]

end CallProximity
