import DidMessaging.Proofs.Json.Readable

namespace DidMessaging.Json

/-- Puts the members of an object in another order, and neither drops nor adds one. -/
def Rearranges (order : List (String × Json) → List (String × Json)) : Prop :=
  ∀ members, (order members).Perm members

theorem rearranges_id : Rearranges id := fun members => List.Perm.refl members

theorem rearranges_sortMembers : Rearranges sortMembers := fun members =>
  List.mergeSort_perm members _

mutual

def arranged (order : List (String × Json) → List (String × Json)) : Json → Json
  | .list elements => .list (arrangedElements order elements)
  | .object members => .object (order (arrangedMembers order members))
  | value => value

def arrangedElements (order : List (String × Json) → List (String × Json)) : List Json → List Json
  | [] => []
  | element :: elements => arranged order element :: arrangedElements order elements

def arrangedMembers (order : List (String × Json) → List (String × Json)) :
    List (String × Json) → List (String × Json)
  | [] => []
  | (name, value) :: members => (name, arranged order value) :: arrangedMembers order members

end

theorem arrangedElements_eq_map (order : List (String × Json) → List (String × Json))
    (elements : List Json) : arrangedElements order elements = elements.map (arranged order) := by
  induction elements with
  | nil => rfl
  | cons element elements ih => rw [arrangedElements, ih, List.map_cons]

theorem arrangedMembers_eq_map (order : List (String × Json) → List (String × Json))
    (members : List (String × Json)) :
    arrangedMembers order members =
      members.map fun (name, value) => (name, value.arranged order) := by
  induction members with
  | nil => rfl
  | cons entry members ih => rw [arrangedMembers, ih, List.map_cons]

mutual

theorem sorted_eq_arranged : (value : Json) → value.sorted = value.arranged sortMembers
  | .null | .flag _ | .number _ | .text _ => rfl
  | .list elements => by rw [sorted, arranged, sortedElements_eq_arranged elements]
  | .object members => by rw [sorted, arranged, sortedMembers_eq_arranged members]

theorem sortedElements_eq_arranged :
    (elements : List Json) → sortedElements elements = arrangedElements sortMembers elements
  | [] => rfl
  | element :: elements => by
      rw [sortedElements, arrangedElements, sorted_eq_arranged element,
        sortedElements_eq_arranged elements]

theorem sortedMembers_eq_arranged : (members : List (String × Json)) →
    sortedMembers members = arrangedMembers sortMembers members
  | [] => rfl
  | (name, value) :: members => by
      rw [sortedMembers, arrangedMembers, sorted_eq_arranged value,
        sortedMembers_eq_arranged members]

end

mutual

theorem arranged_id : (value : Json) → value.arranged id = value
  | .null | .flag _ | .number _ | .text _ => rfl
  | .list elements => by rw [arranged, arrangedElements_id elements]
  | .object members => by rw [arranged, arrangedMembers_id members, id]

theorem arrangedElements_id : (elements : List Json) → arrangedElements id elements = elements
  | [] => rfl
  | element :: elements => by
      rw [arrangedElements, arranged_id element, arrangedElements_id elements]

theorem arrangedMembers_id :
    (members : List (String × Json)) → arrangedMembers id members = members
  | [] => rfl
  | (name, value) :: members => by
      rw [arrangedMembers, arranged_id value, arrangedMembers_id members]

end

theorem arranged_eq_null {order : List (String × Json) → List (String × Json)} {value : Json}
    (null : value.arranged order = .null) : value = .null := by
  cases value with
  | null => rfl
  | flag => exact null
  | number => exact null
  | text => exact null
  | list => cases null
  | object => cases null

theorem readable_arranged {order : List (String × Json) → List (String × Json)}
    (rearranges : Rearranges order) {levels : Nat} {value : Json}
    (readable : Readable levels value) : Readable levels (value.arranged order) := by
  induction levels generalizing value with
  | zero => cases value <;> exact readable
  | succ levels ih =>
      cases value with
      | null => trivial
      | flag => trivial
      | text => trivial
      | number => exact readable
      | list elements =>
          rw [arranged, arrangedElements_eq_map]
          intro element member
          obtain ⟨original, present, rfl⟩ := List.mem_map.1 member
          exact ih (readable original present)
      | object members =>
          rw [arranged, arrangedMembers_eq_map]
          intro entry member
          obtain ⟨original, present, rfl⟩ := List.mem_map.1 ((rearranges _).mem_iff.1 member)
          exact ih (readable original present)

end DidMessaging.Json
