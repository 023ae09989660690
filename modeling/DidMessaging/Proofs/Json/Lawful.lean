import DidMessaging.Json.Shape
import DidMessaging.Proofs.Json.Order

/-! Shapes that read back what they write, with the members of every object in any order. -/

namespace DidMessaging.Json

variable {α : Type} {order : List (String × Json) → List (String × Json)} {levels more : Nat}

/-- What the shape writes takes at most `levels` levels, and is read back. -/
structure Shape.Lawful (shape : Shape α) (levels : Nat) : Prop where
  readable (a : α) : Readable levels (shape.write a)
  read_write {order : List (String × Json) → List (String × Json)} (rearranges : Rearranges order)
    {more : Nat} (enough : levels ≤ more) (a : α) {rest : List Char} (ends : Ends rest) :
    shape.read more (((shape.write a).arranged order).chars ++ rest) = .ok (a, rest)
  fit_write {order : List (String × Json) → List (String × Json)} (rearranges : Rearranges order)
    (a : α) : shape.fit ((shape.write a).arranged order) = some a

namespace Shape

theorem lawful_mono {shape : Shape α} (lawful : shape.Lawful levels) (enough : levels ≤ more) :
    shape.Lawful more where
  readable a := readable_mono enough (lawful.readable a)
  read_write rearranges _ further a _ ends :=
    lawful.read_write rearranges (Nat.le_trans enough further) a ends
  fit_write rearranges a := lawful.fit_write rearranges a

theorem lawful_text : text.Lawful levels where
  readable a := by cases levels <;> trivial
  read_write _ _ _ a rest _ := by
    simp only [text, arranged, Json.chars, textChars_append,
      skipBlank_cons _ (rfl : isBlank '"' = _), readText_escaped, bind, Except.bind,
      String.ofList_toList]
    rfl
  fit_write _ a := rfl

theorem lawful_flag : flag.Lawful levels where
  readable a := by cases levels <;> trivial
  read_write _ _ _ a rest _ := by cases a <;> rfl
  fit_write _ a := rfl

theorem lawful_count : count.Lawful levels where
  readable a := by
    have small : a.toNat < wordLimit := a.toNat_lt
    cases levels <;> exact ⟨a.toNat, small, rfl⟩
  read_write _ _ _ a rest ends := by
    have small : a.toNat < wordLimit := a.toNat_lt
    have read := readNumber_digits small ends
    obtain ⟨c, s, split, digit⟩ := toDigits_eq_cons a.toNat
    obtain ⟨opening, -, -, -, notMinus⟩ := opening_of_digit digit
    rw [split, List.cons_append] at read
    simp only [count, arranged, Json.chars, Number.chars, split, List.cons_append,
      skipBlank_opening _ opening, notMinus, digit, ↓reduceIte, read, bind, Except.bind,
      countOf, UInt64.ofNat_toNat]
    rfl
  fit_write _ a := by
    simp [count, arranged, countOf, Except.toOption]

theorem lawful_optional {shape : Shape α} (lawful : shape.Lawful levels)
    (notNull : ∀ a, shape.write a ≠ .null) : shape.optional.Lawful levels where
  readable a := by
    cases a with
    | none => cases levels <;> trivial
    | some a => exact lawful.readable a
  read_write rearranges _ enough a rest ends := by
    cases a with
    | none => rfl
    | some a =>
        have read := lawful.read_write rearranges enough a ends
        obtain ⟨c, s, split, opening, null⟩ :=
          chars_eq_cons (readable_arranged rearranges (lawful.readable a))
        have notN : c ≠ 'n' := fun same => notNull a (arranged_eq_null (null same))
        simp only [optional, Option.map_some, Option.getD_some]
        rw [split, List.cons_append] at read ⊢
        rw [skipBlank_opening _ opening]
        split
        · rename_i same
          exact absurd (List.cons.inj same).1 notN
        · simp only [read, bind, Except.bind]
          rfl
  fit_write rearranges a := by
    cases a with
    | none => rfl
    | some a =>
        have fit := lawful.fit_write rearranges a
        simp only [optional, Option.map_some, Option.getD_some]
        split
        · rename_i null
          exact absurd (arranged_eq_null null) (notNull a)
        · rw [fit]
          rfl

theorem lawful_list {shape : Shape α} (lawful : shape.Lawful levels) :
    shape.list.Lawful (levels + 1) where
  readable as := by
    intro value member
    obtain ⟨a, -, rfl⟩ := List.mem_map.1 member
    exact lawful.readable a
  read_write rearranges more enough as rest ends := by
    cases more with
    | zero => cases enough
    | succ more =>
        have each : ∀ a ∈ as, ∀ rest, Ends rest →
            shape.read more (((shape.write a).arranged _).chars ++ rest) = .ok (a, rest) :=
          fun a _ rest ends => lawful.read_write rearranges (Nat.le_of_succ_le_succ enough) a ends
        have read := readList_written as
          (fun a _ => readable_arranged rearranges (lawful.readable a)) each rest
        simp only [list, arranged, arrangedElements_eq_map, List.map_map, listChars_append,
          skipBlank_cons _ (rfl : isBlank '[' = _), descend]
        exact read
  fit_write rearranges as := by
    simp only [list, arranged, arrangedElements_eq_map, List.map_map]
    induction as with
    | nil => rfl
    | cons a as ih =>
        rw [List.map_cons, List.mapM_cons, ih]
        simp [lawful.fit_write rearranges a]

theorem lawful_choice {name : α → String} {all : List α}
    (found : ∀ a, all.find? (fun b => name b = name a) = some a) :
    (choice name all).Lawful levels where
  readable a := by cases levels <;> trivial
  read_write _ _ _ a rest _ := by
    simp only [choice, arranged, Json.chars, textChars_append,
      skipBlank_cons _ (rfl : isBlank '"' = _), ↓reduceIte, readText_escaped, bind, Except.bind,
      String.ofList_toList, choose, found a]
    rfl
  fit_write _ a := by
    simp only [choice, arranged, choose, found a]
    rfl

theorem parse_arranged {shape : Shape α} (lawful : shape.Lawful maxLevels)
    (rearranges : Rearranges order) (a : α) :
    shape.parse ((shape.write a).arranged order).render = .ok a := by
  have read := lawful.read_write rearranges (Nat.le_refl _) a ends_nil
  rw [List.append_nil] at read
  simp only [parse, Json.render, String.toList_ofList, read, bind, Except.bind]
  rfl

theorem parse_render {shape : Shape α} (lawful : shape.Lawful maxLevels) (a : α) :
    shape.parse (shape.render a) = .ok a := by
  have parsed := parse_arranged lawful rearranges_id a
  rwa [arranged_id] at parsed

theorem parse_canonical {shape : Shape α} (lawful : shape.Lawful maxLevels) (a : α) :
    shape.parse (shape.write a).canonical = .ok a := by
  rw [canonical, sorted_eq_arranged]
  exact parse_arranged lawful rearranges_sortMembers a

/-- Every value is read back from its text, also when the members of its objects stand in another
order there. -/
structure ReadsBack (shape : Shape α) : Prop where
  parse_render (a : α) : shape.parse (shape.render a) = .ok a
  parse_arranged {order : List (String × Json) → List (String × Json)}
    (rearranges : Rearranges order) (a : α) :
    shape.parse ((shape.write a).arranged order).render = .ok a

theorem readsBack_of_lawful {shape : Shape α} (lawful : shape.Lawful levels)
    (shallow : levels ≤ maxLevels) : shape.ReadsBack where
  parse_render := parse_render (lawful_mono lawful shallow)
  parse_arranged := parse_arranged (lawful_mono lawful shallow)

end Shape

def IsText (value : Json) (text : String) : Prop :=
  ∃ rest, readTree Shape.maxLevels text.toList = .ok (value, rest) ∧ skipBlank rest = []

theorem isText_render {value : Json} (readable : Readable Shape.maxLevels value) :
    value.IsText value.render := by
  have tree := readTree_chars readable ends_nil
  rw [List.append_nil] at tree
  exact ⟨[], by rwa [render, String.toList_ofList], rfl⟩

end DidMessaging.Json
