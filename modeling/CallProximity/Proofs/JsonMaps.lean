import CallProximity.Json.Basic
import Mathlib.Data.String.Basic

/-! Objects read as maps. A map has each key once, in order, and is its own reading. A key can be taken out of an object
before it is read as a map or after. -/

namespace CallProximity
namespace Json

def KeysInOrder (members : List (String × Json)) : Prop :=
  members.Pairwise fun first second => first.1 < second.1

instance (members : List (String × Json)) : Decidable (KeysInOrder members) :=
  inferInstanceAs (Decidable (List.Pairwise _ _))

mutual

/-- Every object of the value is a map. -/
def InOrder : Json → Prop
  | .array items => ItemsInOrder items
  | .object members => KeysInOrder members ∧ MembersInOrder members
  | _ => True

def ItemsInOrder : List Json → Prop
  | [] => True
  | item :: rest => item.InOrder ∧ ItemsInOrder rest

def MembersInOrder : List (String × Json) → Prop
  | [] => True
  | (_, value) :: rest => value.InOrder ∧ MembersInOrder rest

end

mutual

def decideInOrder : ∀ json : Json, Decidable json.InOrder
  | .array items => decideItemsInOrder items
  | .object members => @instDecidableAnd _ _ inferInstance (decideMembersInOrder members)
  | .null | .bool _ | .number _ | .string _ => .isTrue trivial

def decideItemsInOrder : ∀ items : List Json, Decidable (ItemsInOrder items)
  | [] => .isTrue trivial
  | item :: rest => @instDecidableAnd _ _ item.decideInOrder (decideItemsInOrder rest)

def decideMembersInOrder : ∀ members : List (String × Json), Decidable (MembersInOrder members)
  | [] => .isTrue trivial
  | (_, value) :: rest => @instDecidableAnd _ _ value.decideInOrder (decideMembersInOrder rest)

end

instance (json : Json) : Decidable json.InOrder :=
  json.decideInOrder

variable {key : String} {value : Json} {members sorted : List (String × Json)}

theorem insertMember_of_greatest (greatest : ∀ member ∈ sorted, member.1 < key) :
    insertMember key value sorted = sorted ++ [(key, value)] := by
  induction sorted with
  | nil => rfl
  | cons member sorted ih =>
    have less : member.1 < key := greatest member List.mem_cons_self
    rw [insertMember, if_neg (String.lt_asymm less), if_neg, ih fun other inside =>
      greatest other (List.mem_cons_of_mem member inside)]
    · rfl
    · rintro rfl
      exact String.lt_irrefl _ less

theorem insertMember_of_least (least : ∀ member ∈ sorted, key < member.1) :
    insertMember key value sorted = (key, value) :: sorted := by
  cases sorted with
  | nil => rfl
  | cons member sorted => rw [insertMember, if_pos (least member List.mem_cons_self)]

theorem canonicalItems_eq_map (items : List Json) : canonicalItems items = items.map canonical := by
  induction items with
  | nil => rfl
  | cons item items ih => rw [canonicalItems, ih, List.map_cons]

mutual

theorem canonical_eq_self : ∀ {json : Json}, json.InOrder → json.canonical = json
  | .array items, ordered => by rw [canonical, canonicalItems_eq_self ordered]
  | .object members, ordered => by
    rw [canonical, canonicalMembers_eq_append ordered.2 (by simpa using ordered.1), List.nil_append]
  | .null, _ | .bool _, _ | .number _, _ | .string _, _ => rfl

theorem canonicalItems_eq_self : ∀ {items : List Json}, ItemsInOrder items → canonicalItems items = items
  | [], _ => rfl
  | item :: items, ordered => by
    rw [canonicalItems, canonical_eq_self ordered.1, canonicalItems_eq_self ordered.2]

theorem canonicalMembers_eq_append : ∀ {members sorted : List (String × Json)}, MembersInOrder members →
    KeysInOrder (sorted ++ members) → canonicalMembers members sorted = sorted ++ members
  | [], sorted, _, _ => (List.append_nil sorted).symm
  | (key, value) :: members, sorted, ordered, follow => by
    have greatest : ∀ member ∈ sorted, member.1 < key := fun member inside =>
      (List.pairwise_append.mp follow).2.2 member inside (key, value) List.mem_cons_self
    have further : KeysInOrder ((sorted ++ [(key, value)]) ++ members) := by
      rwa [List.append_assoc]
    rw [canonicalMembers, canonical_eq_self ordered.1, insertMember_of_greatest greatest,
      canonicalMembers_eq_append ordered.2 further, List.append_assoc]
    rfl

end

theorem eq_or_mem_of_mem_insertMember {member : String × Json} (inside : member ∈ insertMember key value sorted) :
    member = (key, value) ∨ member ∈ sorted := by
  induction sorted with
  | nil => exact .inl (List.mem_singleton.mp inside)
  | cons held sorted ih =>
    rw [insertMember] at inside
    split_ifs at inside <;> simp only [List.mem_cons] at inside ⊢ <;> tauto

theorem KeysInOrder.insertMember (ordered : KeysInOrder sorted) : KeysInOrder (insertMember key value sorted) := by
  induction sorted with
  | nil => exact List.pairwise_singleton _ _
  | cons held sorted ih =>
    obtain ⟨least, rest⟩ := List.pairwise_cons.mp ordered
    rw [Json.insertMember]
    split_ifs with before same
    · refine List.pairwise_cons.mpr ⟨fun member inside => ?_, ordered⟩
      rcases List.mem_cons.mp inside with rfl | later
      · exact before
      · exact String.lt_trans before (least member later)
    · exact List.pairwise_cons.mpr ⟨fun member inside => same ▸ least member inside, rest⟩
    · refine List.pairwise_cons.mpr ⟨fun member inside => ?_, ih rest⟩
      rcases eq_or_mem_of_mem_insertMember inside with rfl | later
      · exact lt_of_le_of_ne (not_lt.mp before) (Ne.symm same)
      · exact least member later

theorem filter_insertMember_self (key : String) (value : Json) (sorted : List (String × Json)) :
    (insertMember key value sorted).filter (·.1 != key) = sorted.filter (·.1 != key) := by
  induction sorted with
  | nil => simp [insertMember]
  | cons held sorted ih =>
    rw [insertMember]
    split_ifs with before same
    · simp
    · simp [same]
    · rw [List.filter_cons, List.filter_cons, ih]

theorem filter_insertMember {taken : String} (other : key ≠ taken) (ordered : KeysInOrder sorted) :
    (insertMember key value sorted).filter (·.1 != taken) =
      insertMember key value (sorted.filter (·.1 != taken)) := by
  induction sorted with
  | nil => simp [insertMember, other]
  | cons held sorted ih =>
    obtain ⟨least, rest⟩ := List.pairwise_cons.mp ordered
    by_cases gone : held.1 = taken
    · rw [insertMember]
      split_ifs with before same
      · -- What is left is greater than the member that goes.
        rw [insertMember_of_least]
        · simp [other]
        · intro member inside
          rcases List.mem_cons.mp (List.mem_of_mem_filter inside) with rfl | later
          · exact before
          · exact String.lt_trans before (least member later)
      · exact absurd (same.trans gone) other
      · simp [gone, ih rest]
    · rw [List.filter_cons_of_pos (by simpa using gone), insertMember, insertMember]
      split_ifs with before same
      · simp [other, gone]
      · simp [other]
      · rw [List.filter_cons_of_pos (by simpa using gone), ih rest]

theorem filter_key_insertMember {other : String} (apart : key ≠ other) :
    (insertMember key value sorted).filter (·.1 == other) = sorted.filter (·.1 == other) := by
  induction sorted with
  | nil => simp [insertMember, apart]
  | cons held sorted ih =>
    rw [insertMember]
    split_ifs with before same
    · simp [apart]
    · simp [← same, apart]
    · rw [List.filter_cons, List.filter_cons, ih]

/-- A key can be taken out of the members or of their map. -/
theorem filter_canonicalMembers (taken : String) (members : List (String × Json)) (ordered : KeysInOrder sorted) :
    (canonicalMembers members sorted).filter (·.1 != taken) =
      canonicalMembers (members.filter (·.1 != taken)) (sorted.filter (·.1 != taken)) := by
  induction members generalizing sorted with
  | nil => rfl
  | cons member members ih =>
    obtain ⟨key, value⟩ := member
    rw [canonicalMembers, ih ordered.insertMember]
    by_cases same : key = taken
    · subst same
      rw [filter_insertMember_self, List.filter_cons_of_neg (by simp)]
    · rw [filter_insertMember same ordered, List.filter_cons_of_pos (by simpa using same), canonicalMembers]

theorem filter_key_canonicalMembers {key : String} (absent : key ∉ members.map Prod.fst) :
    (canonicalMembers members sorted).filter (·.1 == key) = sorted.filter (·.1 == key) := by
  induction members generalizing sorted with
  | nil => rfl
  | cons member members ih =>
    obtain ⟨other, value⟩ := member
    rw [List.map_cons, List.mem_cons, not_or] at absent
    rw [canonicalMembers, ih absent.2, filter_key_insertMember (Ne.symm absent.1)]

end Json
end CallProximity
