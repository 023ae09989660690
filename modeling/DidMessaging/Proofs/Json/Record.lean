import DidMessaging.Json.Record
import DidMessaging.Proofs.Json.Lawful

namespace DidMessaging.Json

variable {order : List (String × Json) → List (String × Json)} {levels more : Nat}

/-- A member that is read back; one that is not written stands for the value it had. -/
structure Member.Lawful (member : Member α) (levels : Nat) : Prop where
  shape : member.shape.Lawful levels
  hidden (a : α) : member.isHidden a = true → member.absent = some a

namespace Member

theorem lawful_required (name : String) {shape : Shape α} (lawful : shape.Lawful levels) :
    (required name shape).Lawful levels :=
  ⟨lawful, nofun⟩

theorem lawful_withDefault (name : String) {shape : Shape α} (absent : α)
    (lawful : shape.Lawful levels) : (withDefault name shape absent).Lawful levels :=
  ⟨lawful, nofun⟩

theorem lawful_whenSet (name : String) {shape : Shape α} (lawful : shape.Lawful levels)
    (notNull : ∀ a, shape.write a ≠ .null) : (whenSet name shape).Lawful levels := by
  refine ⟨Shape.lawful_optional lawful notNull, fun a hidden => ?_⟩
  cases a with
  | none => rfl
  | some => cases hidden

theorem lawful_whenFilled (name : String) {shape : Shape α} (lawful : shape.Lawful levels) :
    (whenFilled name shape).Lawful (levels + 1) := by
  refine ⟨Shape.lawful_list lawful, fun as hidden => ?_⟩
  cases as with
  | nil => rfl
  | cons => cases hidden

end Member

namespace Members

def Lawful : Members β σ → (levels : Nat) → Prop
  | .nil, _ => True
  | .cons member members, levels => member.Lawful levels ∧ members.Lawful levels

def names : Members β σ → List String
  | .nil => []
  | .cons member members => member.name :: members.names

def filled : Members β σ → (seen : List String) → β → σ
  | .nil, _, () => ()
  | .cons member members, seen, (a, b) =>
    (if member.name ∈ seen ∧ member.isHidden a = false then some a else none,
      members.filled seen b)

theorem filled_nil (members : Members β σ) (b : β) : members.filled [] b = members.empty := by
  induction members with
  | nil => rfl
  | cons member members ih =>
      obtain ⟨a, b⟩ := b
      simp [filled, empty, ih b]

theorem filled_cons_of_notMem {members : Members β σ} {name : String}
    (foreign : name ∉ members.names) (seen : List String) (b : β) :
    members.filled (name :: seen) b = members.filled seen b := by
  induction members with
  | nil => rfl
  | cons member members ih =>
      obtain ⟨a, b⟩ := b
      rw [names, List.mem_cons, not_or] at foreign
      simp [filled, Ne.symm foreign.1, ih foreign.2 b]

theorem names_of_mem_write {members : Members β σ} {b : β} {entry : String × Json}
    (member : entry ∈ members.write b) : entry.1 ∈ members.names := by
  induction members with
  | nil => cases member
  | cons head members ih =>
      obtain ⟨a, b⟩ := b
      rw [write] at member
      split at member
      · exact List.mem_cons_of_mem _ (ih member)
      · rcases List.mem_cons.1 member with rfl | later
        · exact List.mem_cons_self
        · exact List.mem_cons_of_mem _ (ih later)

theorem write_nodup {members : Members β σ} (distinct : members.names.Nodup) (b : β) :
    ((members.write b).map Prod.fst).Nodup := by
  induction members with
  | nil => exact List.nodup_nil
  | cons member members ih =>
      obtain ⟨a, b⟩ := b
      obtain ⟨foreign, rest⟩ := List.nodup_cons.1 distinct
      rw [write]
      split
      · exact ih rest b
      · refine List.nodup_cons.2 ⟨fun again => ?_, ih rest b⟩
        obtain ⟨entry, present, same⟩ := List.mem_map.1 again
        have named : entry.1 = member.name := same
        exact foreign (named ▸ names_of_mem_write present)

theorem mem_write_cons {member : Member α} {members : Members β σ}
    (distinct : (Members.cons member members).names.Nodup) {a : α} {b : β} {name : String}
    {value : Json} (present : (name, value) ∈ (Members.cons member members).write (a, b)) :
    (member.name = name ∧ name ∉ members.names ∧ member.isHidden a = false ∧
        value = member.shape.write a) ∨
      (member.name ≠ name ∧ (name, value) ∈ members.write b) := by
  obtain ⟨foreign, -⟩ := List.nodup_cons.1 distinct
  have other (later : (name, value) ∈ members.write b) : member.name ≠ name := by
    rintro rfl
    exact foreign (names_of_mem_write later)
  rw [write] at present
  split at present
  · exact .inr ⟨other present, present⟩
  · rename_i shown
    rcases List.mem_cons.1 present with same | later
    · obtain ⟨rfl, rfl⟩ := Prod.mk.inj same
      exact .inl ⟨rfl, foreign, Bool.eq_false_iff.2 shown, rfl⟩
    · exact .inr ⟨other later, later⟩

theorem offer_written {members : Members β σ} (lawful : members.Lawful levels)
    (distinct : members.names.Nodup) {b : β} {name : String} {value : Json}
    (present : (name, value) ∈ members.write b) {seen : List String} (fresh : name ∉ seen)
    (rearranges : Rearranges order) (enough : levels ≤ more) {rest : List Char} (ends : Ends rest) :
    members.offer more (members.filled seen b) name
        (':' :: ((value.arranged order).chars ++ rest)) =
      .ok (some (members.filled (name :: seen) b, rest)) := by
  induction members with
  | nil => cases present
  | cons member members ih =>
      obtain ⟨a, b⟩ := b
      rcases mem_write_cons distinct present with ⟨rfl, foreign, shown, rfl⟩ | ⟨other, later⟩
      · have read := lawful.1.shape.read_write rearranges enough a ends
        simp only [offer, filled, fresh, false_and, ↓reduceIte, readColon_cons, bind, Except.bind,
          read, List.mem_cons, true_or, shown, and_self, filled_cons_of_notMem foreign]
        rfl
      · have offered := ih lawful.2 (List.nodup_cons.1 distinct).2 later
        simp only [offer, filled, other, ↓reduceIte, offered, bind, Except.bind, List.mem_cons,
          false_or]
        rfl

theorem fill_written {members : Members β σ} (lawful : members.Lawful levels)
    (distinct : members.names.Nodup) {b : β} {name : String} {value : Json}
    (present : (name, value) ∈ members.write b) {seen : List String} (fresh : name ∉ seen)
    (rearranges : Rearranges order) :
    members.fill (members.filled seen b) (name, value.arranged order) =
      some (members.filled (name :: seen) b) := by
  induction members with
  | nil => cases present
  | cons member members ih =>
      obtain ⟨a, b⟩ := b
      rcases mem_write_cons distinct present with ⟨rfl, foreign, shown, rfl⟩ | ⟨other, later⟩
      · have fit := lawful.1.shape.fit_write rearranges a
        simp [fill, filled, fresh, fit, shown, filled_cons_of_notMem foreign]
      · have filled := ih lawful.2 (List.nodup_cons.1 distinct).2 later
        simp [fill, Members.filled, other, filled]

theorem collect_filled {members : Members β σ} (lawful : members.Lawful levels) {b : β}
    {seen : List String} (all : ∀ entry ∈ members.write b, entry.1 ∈ seen) :
    members.collect (members.filled seen b) = .ok b := by
  induction members with
  | nil => rfl
  | cons member members ih =>
      obtain ⟨a, b⟩ := b
      cases hidden : member.isHidden a with
      | true =>
          have collected := ih lawful.2 (b := b) fun entry present => all entry (by
            rwa [write, if_pos hidden])
          simp only [collect, filled, hidden, Bool.true_eq_false, and_false, ↓reduceIte,
            Option.none_or, lawful.1.hidden a hidden, collected]
          rfl
      | false =>
          have written : (Members.cons member members).write (a, b) =
              (member.name, member.shape.write a) :: members.write b := by
            simp [write, hidden]
          rw [written] at all
          have present : member.name ∈ seen := all _ List.mem_cons_self
          have collected := ih lawful.2 (b := b) fun entry later =>
            all entry (List.mem_cons_of_mem _ later)
          simp only [collect, filled, hidden, present, and_self, ↓reduceIte, Option.some_or,
            collected]
          rfl

def entries (order : List (String × Json) → List (String × Json)) (members : Members β σ) (b : β) :
    List (String × Json) :=
  order ((members.write b).map fun (name, value) => (name, value.arranged order))

theorem mem_entries (rearranges : Rearranges order) {members : Members β σ} {b : β}
    {entry : String × Json} (present : entry ∈ members.entries order b) :
    ∃ value, (entry.1, value) ∈ members.write b ∧ entry.2 = value.arranged order := by
  obtain ⟨⟨name, value⟩, written, rfl⟩ := List.mem_map.1 ((rearranges _).mem_iff.1 present)
  exact ⟨value, written, rfl⟩

theorem names_entries (rearranges : Rearranges order) (members : Members β σ) (b : β) :
    ((members.entries order b).map Prod.fst).Perm ((members.write b).map Prod.fst) := by
  have perm := (rearranges ((members.write b).map fun (name, value) =>
    (name, value.arranged order))).map Prod.fst
  rwa [List.map_map] at perm

/-- What holds of a loop over entries not read yet, by what holds of each of its rounds. -/
theorem rounds_of_written {members : Members β σ} {b : β} {P : List (String × Json) → σ → σ → Prop}
    (nil : ∀ slots, P [] slots slots)
    (cons : ∀ {name value seen later final}, (name, value) ∈ members.write b → name ∉ seen →
      P later (members.filled (name :: seen) b) final →
        P ((name, value.arranged order) :: later) (members.filled seen b) final)
    {given : List (String × Json)}
    (written : ∀ entry ∈ given, ∃ value,
      (entry.1, value) ∈ members.write b ∧ entry.2 = value.arranged order)
    (once : (given.map Prod.fst).Nodup) {seen : List String}
    (fresh : ∀ entry ∈ given, entry.1 ∉ seen) :
    P given (members.filled seen b) (members.filled ((given.map Prod.fst).reverse ++ seen) b) := by
  induction given generalizing seen with
  | nil => exact nil _
  | cons entry given ih =>
      obtain ⟨name, value⟩ := entry
      obtain ⟨original, present, rfl⟩ := written _ List.mem_cons_self
      obtain ⟨first, rest⟩ := List.nodup_cons.1 once
      have fresher : ∀ e ∈ given, e.1 ∉ name :: seen := by
        intro e member again
        rcases List.mem_cons.1 again with same | again
        · exact first (List.mem_map.2 ⟨e, member, same⟩)
        · exact fresh e (List.mem_cons_of_mem _ member) again
      have later := ih (fun e member => written e (List.mem_cons_of_mem _ member)) rest fresher
      rw [List.map_cons, List.reverse_cons, List.append_assoc]
      exact cons present (fresh _ List.mem_cons_self) later

theorem rounds_of_entries {members : Members β σ} (lawful : members.Lawful levels)
    (distinct : members.names.Nodup) (rearranges : Rearranges order) (b : β)
    {P : List (String × Json) → σ → σ → Prop} (nil : ∀ slots, P [] slots slots)
    (cons : ∀ {name value seen later final}, (name, value) ∈ members.write b → name ∉ seen →
      P later (members.filled (name :: seen) b) final →
        P ((name, value.arranged order) :: later) (members.filled seen b) final) :
    ∃ final, members.collect final = .ok b ∧ P (members.entries order b) members.empty final := by
  have names := names_entries rearranges members b
  have once := names.nodup_iff.2 (write_nodup distinct b)
  have rounds := rounds_of_written nil cons (fun _ present => mem_entries rearranges present) once
    (fun _ _ => List.not_mem_nil)
  rw [filled_nil, List.append_nil] at rounds
  refine ⟨_, collect_filled lawful fun entry present => ?_, rounds⟩
  rw [List.mem_reverse, names.mem_iff]
  exact List.mem_map_of_mem present

theorem readNamed_entries {members : Members β σ} (lawful : members.Lawful levels)
    (distinct : members.names.Nodup) (rearranges : Rearranges order) (enough : levels ≤ more)
    (b : β) (rest : List Char) :
    members.readNamed more (memberChars (members.entries order b) ++ '}' :: rest) =
      .ok (b, rest) := by
  obtain ⟨final, collected, folded⟩ := rounds_of_entries lawful distinct rearranges b
    (P := Folded (readNamed.member members more)) .nil fun present fresh later => by
      refine .cons (fun rest ends => ?_) later
      have offered := offer_written lawful distinct present fresh rearranges enough ends
      simp only [readNamed.member, offered, bind, Except.bind]
      rfl
  simp only [readNamed, readObject_written folded, bind, Except.bind, collected]
  rfl

theorem fitNamed_entries {members : Members β σ} (lawful : members.Lawful levels)
    (distinct : members.names.Nodup) (rearranges : Rearranges order) (b : β) :
    members.fitNamed (members.entries order b) = some b := by
  obtain ⟨final, collected, filled⟩ := rounds_of_entries lawful distinct rearranges b
    (P := fun given slots final => given.foldlM members.fill slots = some final)
    (fun _ => rfl) fun present fresh later => by
      rw [List.foldlM_cons, fill_written lawful distinct present fresh rearranges]
      exact later
  simp only [fitNamed, filled, Option.bind_eq_bind, Option.bind_some, collected]
  rfl

theorem readable_write {members : Members β σ} (lawful : members.Lawful levels) (b : β) :
    ∀ entry ∈ members.write b, Readable levels entry.2 := by
  induction members with
  | nil => nofun
  | cons member members ih =>
      obtain ⟨a, b⟩ := b
      intro entry present
      rw [write] at present
      split at present
      · exact ih lawful.2 b entry present
      · rcases List.mem_cons.1 present with rfl | later
        · exact lawful.1.shape.readable a
        · exact ih lawful.2 b entry later

end Members

theorem Shape.lawful_record (name : String) {members : Members β σ} (lawful : members.Lawful levels)
    (distinct : members.names.Nodup) {make : β → α} {parts : α → β}
    (whole : ∀ a, make (parts a) = a) :
    (Shape.record name members make parts).Lawful (levels + 1) where
  readable a := Members.readable_write lawful (parts a)
  read_write rearranges more enough a rest ends := by
    cases more with
    | zero => cases enough
    | succ more =>
        have read := Members.readNamed_entries lawful distinct rearranges
          (Nat.le_of_succ_le_succ enough) (parts a) rest
        simp only [Members.entries] at read
        simp only [record, arranged, arrangedMembers_eq_map, objectChars_append,
          skipBlank_cons _ (rfl : isBlank '{' = _), ↓reduceIte, descend, read, Except.map, whole]
  fit_write rearranges a := by
    have fit := Members.fitNamed_entries lawful distinct rearranges (parts a)
    simp only [Members.entries] at fit
    simp only [record, arranged, arrangedMembers_eq_map, fit, Option.map_some, whole]

def Lacks (value : Json) (name : String) : Prop :=
  ∃ given, value = .object given ∧ name ∉ given.map Prod.fst

theorem Shape.lacks_written {name missing : String} {members : Members β σ} {make : β → α}
    {parts : α → β} (foreign : missing ∉ members.names) (rearranges : Rearranges order) (a : α) :
    Lacks (((record name members make parts).write a).arranged order) missing := by
  refine ⟨members.entries order (parts a), ?_, fun present => ?_⟩
  · rw [Members.entries, ← arrangedMembers_eq_map]
    rfl
  · obtain ⟨entry, written, rfl⟩ :=
      List.mem_map.1 ((Members.names_entries rearranges members _).mem_iff.1 present)
    exact foreign (Members.names_of_mem_write written)

theorem Shape.lawful_union (name : String) {write : α → Json}
    {variants : List (Json → Option α)} (readable : ∀ a, Readable levels (write a))
    (found : ∀ {order}, Rearranges order → ∀ a,
      (variants.findSome? fun variant => variant ((write a).arranged order)) = some a) :
    (Shape.union name write variants).Lawful levels where
  readable := readable
  read_write rearranges more enough a rest ends := by
    have readable := readable_mono enough (readable_arranged rearranges (readable a))
    simp only [union, readTree_chars readable ends, bind, Except.bind, found rearranges a]
    rfl
  fit_write rearranges a := found rearranges a

end DidMessaging.Json
