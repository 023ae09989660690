import DidMessaging.Json.Shape

namespace DidMessaging.Json

/-- A member of a record. An absent one takes the value `absent` if there is one; a value that
`isHidden` is not written. -/
structure Member (α : Type) where
  name : String
  shape : Shape α
  absent : Option α := none
  isHidden : α → Bool := fun _ => false

namespace Member

def required (name : String) (shape : Shape α) : Member α where
  name := name
  shape := shape

def withDefault (name : String) (shape : Shape α) (absent : α) : Member α where
  name := name
  shape := shape
  absent := some absent

def whenSet (name : String) (shape : Shape α) : Member (Option α) where
  name := name
  shape := shape.optional
  absent := some none
  isHidden a := a.isNone

def whenFilled (name : String) (shape : Shape α) : Member (List α) where
  name := name
  shape := shape.list
  absent := some []
  isHidden as := as.isEmpty

end Member

/-- The members of a record; `β` holds a value of each, `σ` a place for one of each. -/
inductive Members : (β σ : Type) → Type 1 where
  | nil : Members Unit Unit
  | cons {α β σ : Type} (member : Member α) (members : Members β σ) :
    Members (α × β) (Option α × σ)

namespace Members

def size : Members β σ → Nat
  | .nil => 0
  | .cons _ members => members.size + 1

def empty : Members β σ → σ
  | .nil => ()
  | .cons _ members => (none, members.empty)

def write : Members β σ → β → List (String × Json)
  | .nil, () => []
  | .cons member members, (a, b) =>
    if member.isHidden a then members.write b
    else (member.name, member.shape.write a) :: members.write b

def offer : Members β σ → (levels : Nat) → σ → String → List Char →
    Except Fault (Option (σ × List Char))
  | .nil, _, _, _, _ => .ok none
  | .cons member members, levels, (slot, slots), name, s =>
    if member.name = name then
      match slot with
      | some _ => .error (.repeatedMember name)
      | none => do
        let s ← readColon s
        let (a, rest) ← member.shape.read levels s
        return some ((some a, slots), rest)
    else do
      match ← members.offer levels slots name s with
      | none => return none
      | some (slots, rest) => return some ((slot, slots), rest)

def collect : Members β σ → σ → Except Fault β
  | .nil, () => .ok ()
  | .cons member members, (slot, slots) => do
    match slot.or member.absent with
    | none => .error (.missingMember member.name)
    | some a =>
      let b ← members.collect slots
      return (a, b)

def readNamed (members : Members β σ) (levels : Nat) : Reader β := fun s => do
  let (slots, rest) ← readObject (member members levels) members.empty s
  let b ← members.collect slots
  return (b, rest)
where
  member (members : Members β σ) (levels : Nat) (slots : σ) (name : String) : Reader σ :=
    fun s => do
      match ← members.offer levels slots name s with
      | some seen => return seen
      | none =>
        let s ← readColon s
        let rest ← skipValue s
        return (slots, rest)

def readInOrder : Members β σ → (levels : Nat) → (missing : Nat → Fault) →
    (index : Nat) → Reader β
  | .nil, _, _, _, s => .ok ((), s)
  | .cons member members, levels, missing, index, s => do
    match ← nextElement (index = 0) s, member.absent with
    | some s, _ =>
      let (a, s) ← member.shape.read levels s
      let (b, rest) ← members.readInOrder levels missing (index + 1) s
      return ((a, b), rest)
    | none, some a =>
      let (b, rest) ← members.readInOrder levels missing (index + 1) s
      return ((a, b), rest)
    | none, none => .error (missing index)

def fill : Members β σ → σ → String × Json → Option σ
  | .nil, slots, _ => some slots
  | .cons member members, (slot, slots), (name, value) =>
    if member.name = name then
      match slot with
      | some _ => none
      | none => (member.shape.fit value).map fun a => (some a, slots)
    else (members.fill slots (name, value)).map fun slots => (slot, slots)

def fitNamed (members : Members β σ) (given : List (String × Json)) : Option β := do
  let slots ← given.foldlM members.fill members.empty
  (members.collect slots).toOption

def fitInOrder : Members β σ → List Json → Option β
  | .nil, [] => some ()
  | .nil, _ :: _ => none
  | .cons member members, [] => do
    let a ← member.absent
    let b ← members.fitInOrder []
    return (a, b)
  | .cons member members, value :: values => do
    let a ← member.shape.fit value
    let b ← members.fitInOrder values
    return (a, b)

end Members

def Shape.record (name : String) (members : Members β σ) (make : β → α) (parts : α → β) :
    Shape α where
  write a := .object (members.write (parts a))
  read levels s :=
    match skipBlank s with
    | [] => .error .endInValue
    | c :: s =>
      if c = '{' then
        (descend levels members.readNamed s).map fun (b, rest) => (make b, rest)
      else if c = '[' then do
        let missing (index : Nat) : Fault := .missingElement index name members.size
        let (b, s) ← descend levels (fun levels => members.readInOrder levels missing 0) s
        let rest ← closeList s
        return (make b, rest)
      else .error (mismatch ("struct " ++ name) (c :: s))
  fit
    | .object given => (members.fitNamed given).map make
    | .list values => (members.fitInOrder values).map make
    | _ => none

/-- The first of several shapes that fits a value, which is read whole before any is tried. -/
def Shape.union (name : String) (write : α → Json) (variants : List (Json → Option α)) :
    Shape α where
  write := write
  read levels s := do
    let (value, rest) ← readTree levels s
    match variants.findSome? fun variant => variant value with
    | some a => return (a, rest)
    | none => .error (.noVariant name)
  fit value := variants.findSome? fun variant => variant value

end DidMessaging.Json
