import DidMessaging.Proofs.Json.Record

/-! Which objects fit a record: those that give each of its members once, with a value that fits, or
leave it out where it may be absent. What else they hold does not matter. -/

namespace DidMessaging.Json

def Sole (given : List (String × Json)) (name : String) (value : Json) : Prop :=
  given.filter (fun entry => entry.1 = name) = [(name, value)]

variable {given : List (String × Json)} {name : String} {value : Json}

theorem filter_named_eq_nil :
    given.filter (fun entry => entry.1 = name) = [] ↔ name ∉ given.map Prod.fst := by
  rw [List.filter_eq_nil_iff, List.mem_map, not_exists]
  exact forall_congr' fun entry => by simp

theorem mem_of_sole (sole : Sole given name value) : (name, value) ∈ given :=
  (List.mem_filter.1 (sole ▸ List.mem_cons_self)).1

theorem sole_cons_same {first : Json} :
    Sole ((name, first) :: given) name value ↔ first = value ∧ name ∉ given.map Prod.fst := by
  rw [Sole, List.filter_cons_of_pos (by simp), ← filter_named_eq_nil, List.cons.injEq,
    Prod.mk.injEq]
  simp

theorem sole_cons_other {other : String} (different : other ≠ name) (first : Json) :
    Sole ((other, first) :: given) name value ↔ Sole given name value := by
  rw [Sole, Sole, List.filter_cons_of_neg (by simpa using different)]

namespace Member

def Takes (member : Member α) (given : List (String × Json)) : Option α → Prop
  | none => member.name ∉ given.map Prod.fst
  | some a => ∃ value, Sole given member.name value ∧ member.shape.fit value = some a

def put (member : Member α) (slot : Option α) (entry : String × Json) : Option (Option α) :=
  if member.name = entry.1 then
    match slot with
    | some _ => none
    | none => (member.shape.fit entry.2).map some
  else some slot

theorem takes_required {shape : Shape α} {a : α} :
    (∃ slot, (required name shape).Takes given slot ∧
        slot.or (required name shape).absent = some a) ↔
      ∃ value, Sole given name value ∧ shape.fit value = some a := by
  constructor
  · rintro ⟨slot, takes, same⟩
    rw [required, Option.or_none] at same
    subst same
    exact takes
  · exact fun takes => ⟨some a, takes, rfl⟩

theorem takes_text {content : String} :
    (∃ slot, (required name .text).Takes given slot ∧
        slot.or (required name .text).absent = some content) ↔
      Sole given name (.text content) := by
  rw [takes_required]
  constructor
  · rintro ⟨value, sole, fits⟩
    cases value with
    | text found => exact Option.some.inj fits ▸ sole
    | _ => cases fits
  · exact fun sole => ⟨_, sole, rfl⟩

theorem foldlM_put_some {member : Member α} {a : α} {slot : Option α} :
    given.foldlM member.put (some a) = some slot ↔
      member.name ∉ given.map Prod.fst ∧ slot = some a := by
  induction given with
  | nil => simp [eq_comm]
  | cons entry given ih =>
      rw [List.foldlM_cons, List.map_cons, List.mem_cons, not_or]
      by_cases same : member.name = entry.1
      · simp [put, same]
      · simp [put, same, ih]

theorem foldlM_put_none {member : Member α} {slot : Option α} :
    given.foldlM member.put none = some slot ↔ member.Takes given slot := by
  induction given with
  | nil => cases slot <;> simp [Takes, Sole]
  | cons entry given ih =>
      obtain ⟨name, value⟩ := entry
      rw [List.foldlM_cons]
      by_cases same : member.name = name
      · subst same
        rw [put, if_pos rfl]
        cases fits : member.shape.fit value with
        | none => cases slot <;> simp [Takes, sole_cons_same, fits]
        | some a =>
            rw [Option.map_some, Option.bind_eq_bind, Option.bind_some, foldlM_put_some]
            cases slot with
            | none => simp [Takes]
            | some b =>
                simp only [Takes, sole_cons_same]
                constructor
                · rintro ⟨absent, ⟨⟩⟩
                  exact ⟨value, ⟨rfl, absent⟩, fits⟩
                · rintro ⟨_, ⟨rfl, absent⟩, found⟩
                  exact ⟨absent, found.symm.trans fits⟩
      · rw [put, if_neg same, Option.bind_eq_bind, Option.bind_some, ih]
        cases slot with
        | none => simp [Takes, same]
        | some a => simp only [Takes, sole_cons_other (Ne.symm same)]

end Member

namespace Members

/-- The object gives what the record needs, and `b` is what its members take. -/
def Fits : Members β σ → List (String × Json) → β → Prop
  | .nil, _, () => True
  | .cons member members, given, (a, b) =>
    (∃ slot, member.Takes given slot ∧ slot.or member.absent = some a) ∧ members.Fits given b

theorem fill_foreign {members : Members β σ} (foreign : name ∉ members.names) (slots : σ) :
    members.fill slots (name, value) = some slots := by
  induction members with
  | nil => rfl
  | cons member members ih =>
      obtain ⟨slot, slots⟩ := slots
      rw [names, List.mem_cons, not_or] at foreign
      simp only [fill, if_neg (Ne.symm foreign.1), ih foreign.2, Option.map_some]

theorem fill_cons {member : Member α} {members : Members β σ}
    (foreign : member.name ∉ members.names) {slot final : Option α} {slots finals : σ}
    {entry : String × Json} :
    (Members.cons member members).fill (slot, slots) entry = some (final, finals) ↔
      member.put slot entry = some final ∧ members.fill slots entry = some finals := by
  obtain ⟨name, value⟩ := entry
  by_cases same : member.name = name
  · subst same
    simp only [fill, Member.put, if_true, fill_foreign foreign]
    cases slot with
    | some => simp
    | none => cases member.shape.fit value <;> simp
  · simp only [fill, Member.put, if_neg same]
    cases members.fill slots (name, value) <;> simp

theorem foldlM_fill_cons {member : Member α} {members : Members β σ}
    (foreign : member.name ∉ members.names) {slot final : Option α} {slots finals : σ} :
    given.foldlM (Members.cons member members).fill (slot, slots) = some (final, finals) ↔
      given.foldlM member.put slot = some final ∧
        given.foldlM members.fill slots = some finals := by
  induction given generalizing slot slots with
  | nil => simp [Prod.ext_iff]
  | cons entry given ih =>
      simp only [List.foldlM_cons, Option.bind_eq_bind, Option.bind_eq_some_iff]
      constructor
      · rintro ⟨⟨middle, middles⟩, first, rest⟩
        obtain ⟨put, filled⟩ := (fill_cons foreign).1 first
        obtain ⟨head, tail⟩ := ih.1 rest
        exact ⟨⟨middle, put, head⟩, middles, filled, tail⟩
      · rintro ⟨⟨middle, put, head⟩, middles, filled, tail⟩
        exact ⟨(middle, middles), (fill_cons foreign).2 ⟨put, filled⟩, ih.2 ⟨head, tail⟩⟩

theorem foldlM_fill_nil : given.foldlM Members.nil.fill () = some () := by
  induction given with
  | nil => rfl
  | cons entry given ih => exact ih

theorem collect_cons {member : Member α} {members : Members β σ} {slot : Option α} {slots : σ}
    {a : α} {b : β} :
    (Members.cons member members).collect (slot, slots) = .ok (a, b) ↔
      slot.or member.absent = some a ∧ members.collect slots = .ok b := by
  rw [collect]
  cases slot.or member.absent with
  | none => simp
  | some value =>
      cases members.collect slots with
      | error fault => simp [bind, Except.bind]
      | ok values => simp [bind, Except.bind, pure, Except.pure]

theorem filled_collected_iff {members : Members β σ} (distinct : members.names.Nodup) {b : β} :
    (∃ slots, given.foldlM members.fill members.empty = some slots ∧
      members.collect slots = .ok b) ↔ members.Fits given b := by
  induction members with
  | nil => exact iff_of_true ⟨(), foldlM_fill_nil, rfl⟩ trivial
  | cons member members ih =>
      obtain ⟨a, b⟩ := b
      obtain ⟨foreign, others⟩ := List.nodup_cons.1 distinct
      have later := ih others (b := b)
      constructor
      · rintro ⟨⟨slot, slots⟩, folded, collected⟩
        obtain ⟨head, tail⟩ := (foldlM_fill_cons foreign).1 folded
        obtain ⟨value, values⟩ := collect_cons.1 collected
        exact ⟨⟨slot, Member.foldlM_put_none.1 head, value⟩, later.1 ⟨slots, tail, values⟩⟩
      · rintro ⟨⟨slot, takes, value⟩, fits⟩
        obtain ⟨slots, tail, values⟩ := later.2 fits
        exact ⟨(slot, slots), (foldlM_fill_cons foreign).2 ⟨Member.foldlM_put_none.2 takes, tail⟩,
          collect_cons.2 ⟨value, values⟩⟩

theorem fitNamed_eq_some {members : Members β σ} (distinct : members.names.Nodup) {b : β} :
    members.fitNamed given = some b ↔ members.Fits given b := by
  rw [← filled_collected_iff distinct, fitNamed, Option.bind_eq_bind, Option.bind_eq_some_iff]
  refine exists_congr fun slots => and_congr_right fun _ => ?_
  cases members.collect slots <;> simp [Except.toOption]

end Members

theorem Shape.fit_object_eq_some {type : String} {members : Members β σ}
    (distinct : members.names.Nodup) {make : β → α} {parts : α → β} {a : α} :
    (record type members make parts).fit (.object given) = some a ↔
      ∃ b, members.Fits given b ∧ make b = a := by
  simp only [record, Option.map_eq_some_iff, Members.fitNamed_eq_some distinct]

end DidMessaging.Json
