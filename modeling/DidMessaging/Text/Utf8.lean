namespace DidMessaging.Text

/-- The first place where bytes are not UTF-8: a sequence that cannot go on after `length` bytes,
or one that the bytes end in. -/
inductive Utf8Fault where
  | invalid (length : Nat) (index : Nat)
  | incomplete (index : Nat)
  deriving DecidableEq, Repr

def Utf8Fault.message : Utf8Fault → String
  | .invalid length index => s!"invalid utf-8 sequence of {length} bytes from index {index}"
  | .incomplete index => s!"incomplete utf-8 byte sequence from index {index}"

def followers? (leading : UInt8) : Option (List (UInt8 × UInt8)) :=
  if leading < 0x80 then some []
  else if leading < 0xC2 then none
  else if leading < 0xE0 then some [(0x80, 0xBF)]
  else if leading = 0xE0 then some [(0xA0, 0xBF), (0x80, 0xBF)]
  else if leading = 0xED then some [(0x80, 0x9F), (0x80, 0xBF)]
  else if leading < 0xF0 then some [(0x80, 0xBF), (0x80, 0xBF)]
  else if leading = 0xF0 then some [(0x90, 0xBF), (0x80, 0xBF), (0x80, 0xBF)]
  else if leading < 0xF4 then some [(0x80, 0xBF), (0x80, 0xBF), (0x80, 0xBF)]
  else if leading = 0xF4 then some [(0x80, 0x8F), (0x80, 0xBF), (0x80, 0xBF)]
  else none

/-- Scans from a sequence that began at `index`, of which `length` bytes are read and `pending`
are to come. -/
def scanUtf8 (index length : Nat) : (pending : List (UInt8 × UInt8)) → List UInt8 →
    Option Utf8Fault
  | [], [] => none
  | _ :: _, [] => some (.incomplete index)
  | [], byte :: bytes =>
    match followers? byte with
    | none => some (.invalid 1 (index + length))
    | some pending => scanUtf8 (index + length) 1 pending bytes
  | (low, high) :: pending, byte :: bytes =>
    if low ≤ byte ∧ byte ≤ high then scanUtf8 index (length + 1) pending bytes
    else some (.invalid length index)

def utf8Fault (bytes : List UInt8) : Utf8Fault :=
  (scanUtf8 0 0 [] bytes).getD (.incomplete bytes.length)

def utf8 (s : String) : List UInt8 := s.toList.flatMap String.utf8EncodeChar

def ofUtf8 (bytes : List UInt8) : Except Utf8Fault String :=
  match String.fromUTF8? bytes.toByteArray with
  | some s => .ok s
  | none => .error (utf8Fault bytes)

theorem utf8_toByteArray (s : String) : (utf8 s).toByteArray = s.toByteArray := by
  simp [utf8, ← String.utf8Encode_toList, List.utf8Encode]

theorem ofUtf8_eq_ok_iff {bytes : List UInt8} {s : String} :
    ofUtf8 bytes = .ok s ↔ bytes = utf8 s := by
  rw [← List.toByteArray_inj, utf8_toByteArray]
  unfold ofUtf8 String.fromUTF8?
  split
  · rename_i read found
    split at found
    · cases found
      simp [← String.toByteArray_inj, String.fromUTF8]
    · cases found
  · rename_i missing
    split at missing
    · cases missing
    · rename_i invalid
      constructor
      · intro same
        cases same
      · intro same
        exact absurd (same ▸ s.isValidUTF8) invalid

theorem utf8_injective {s t : String} (same : utf8 s = utf8 t) : s = t := by
  have read : ofUtf8 (utf8 s) = .ok t := ofUtf8_eq_ok_iff.2 same
  exact Except.ok.inj ((ofUtf8_eq_ok_iff.2 rfl).symm.trans read)

end DidMessaging.Text
