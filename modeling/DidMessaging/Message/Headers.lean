import DidMessaging.Json.Record

namespace DidMessaging

namespace Headers

def put (name value : String) : List (String × String) → List (String × String)
  | [] => [(name, value)]
  | (key, old) :: entries =>
    if name < key then (name, value) :: (key, old) :: entries
    else if name = key then (name, value) :: entries
    else (key, old) :: put name value entries

theorem name_of_mem_put {name value : String} {entry : String × String}
    {entries : List (String × String)} (member : entry ∈ put name value entries) :
    entry = (name, value) ∨ entry ∈ entries := by
  induction entries with
  | nil => simpa [put] using member
  | cons head tail ih =>
    obtain ⟨key, old⟩ := head
    simp only [put] at member
    split at member
    · simpa using member
    · split at member <;> simp only [List.mem_cons] at member ⊢
      · rcases member with same | later
        · exact .inl same
        · exact .inr (.inr later)
      · rcases member with same | later
        · exact .inr (.inl same)
        · rcases ih later with same | later
          · exact .inl same
          · exact .inr (.inr later)

theorem pairwise_put (name value : String) {entries : List (String × String)}
    (ascending : entries.Pairwise fun a b => a.1 < b.1) :
    (put name value entries).Pairwise fun a b => a.1 < b.1 := by
  induction entries with
  | nil => simp [put]
  | cons head tail ih =>
    obtain ⟨key, old⟩ := head
    have below := (List.pairwise_cons.1 ascending).1
    have rest := (List.pairwise_cons.1 ascending).2
    simp only [put]
    split
    · rename_i less
      refine List.pairwise_cons.2 ⟨fun entry member => ?_, ascending⟩
      rcases List.mem_cons.1 member with same | later
      · exact same ▸ less
      · exact String.lt_trans less (below entry later)
    · split
      · rename_i same
        subst same
        exact List.pairwise_cons.2 ⟨below, rest⟩
      · rename_i notLess notSame
        have greater : key < name := by
          rcases String.le_total key name with le | le
          · exact Std.lt_of_le_of_ne le (Ne.symm notSame)
          · exact absurd (Std.lt_of_le_of_ne le notSame) notLess
        refine List.pairwise_cons.2 ⟨fun entry member => ?_, ih rest⟩
        rcases name_of_mem_put member with same | later
        · exact same ▸ greater
        · exact below entry later

end Headers

/-- Headers in the order of their names, so that equal headers are the same list. -/
structure Headers where
  entries : List (String × String)
  ascending : entries.Pairwise fun a b => a.1 < b.1
  deriving DecidableEq

namespace Headers

def empty : Headers := ⟨[], .nil⟩

def insert (headers : Headers) (name value : String) : Headers :=
  ⟨put name value headers.entries, pairwise_put name value headers.ascending⟩

def size (headers : Headers) : Nat := headers.entries.length

open Json in
def shape : Shape Headers where
  write headers := .object (headers.entries.map fun (name, value) => (name, .text value))
  read levels s :=
    match skipBlank s with
    | '{' :: s => descend levels (fun levels => readObject (readMember levels) empty) s
    | s => .error (mismatch "a map" s)
  fit
    | .object members => members.foldlM fitMember empty
    | _ => none
where
  readMember (levels : Nat) (headers : Headers) (name : String) : Reader Headers := fun s => do
    let s ← readColon s
    let (value, rest) ← Shape.text.read levels s
    return (headers.insert name value, rest)
  fitMember (headers : Headers) : String × Json → Option Headers
    | (name, value) => (Shape.text.fit value).map (headers.insert name)

end Headers

end DidMessaging
