import DidMessaging.Did.Syntax
import Mathlib.Data.List.TakeWhile

/-! The grammar of decentralized identifiers, stated apart from the scan that recognizes them. The
scan accepts what the grammar gives and nothing else, and splits it in the only possible way. -/

namespace DidMessaging.Did

def MethodChar (c : Char) : Prop := ('a' ≤ c ∧ c ≤ 'z') ∨ ('0' ≤ c ∧ c ≤ '9')

def SegmentChar (c : Char) : Prop :=
  ('A' ≤ c ∧ c ≤ 'Z') ∨ MethodChar c ∨ c = '.' ∨ c = '_' ∨ c = '-'

def HexDigit (c : Char) : Prop :=
  ('0' ≤ c ∧ c ≤ '9') ∨ ('A' ≤ c ∧ c ≤ 'F') ∨ ('a' ≤ c ∧ c ≤ 'f')

inductive SegmentUnit : List Char → Prop where
  | plain {c : Char} (plain : SegmentChar c) : SegmentUnit [c]
  | escape {a b : Char} (first : HexDigit a) (second : HexDigit b) : SegmentUnit ['%', a, b]

def Segment (segment : List Char) : Prop :=
  ∃ units, units ≠ [] ∧ (∀ unit ∈ units, SegmentUnit unit) ∧ segment = units.flatten

def Segments (s : List Char) : Prop :=
  ∃ segments, segments ≠ [] ∧ (∀ segment ∈ segments, Segment segment) ∧
    s = [':'].intercalate segments

def Padding (s : List Char) : Prop := s = [] ∨ s = ['='] ∨ s = ['=', '=']

def MethodId (id : List Char) : Prop :=
  ∃ segments padding, Segments segments ∧ Padding padding ∧ id = segments ++ padding

structure Written (method id text : String) : Prop where
  nonempty : method.toList ≠ []
  chars : ∀ c ∈ method.toList, MethodChar c
  methodId : MethodId id.toList
  joined : text = "did:" ++ method ++ ":" ++ id

theorem isLower_iff {c : Char} : c.isLower = true ↔ 'a' ≤ c ∧ c ≤ 'z' :=
  Bool.and_eq_true_iff.trans (and_congr decide_eq_true_iff decide_eq_true_iff)

theorem isDecimal_iff {c : Char} : c.isDigit = true ↔ '0' ≤ c ∧ c ≤ '9' :=
  Bool.and_eq_true_iff.trans (and_congr decide_eq_true_iff decide_eq_true_iff)

theorem isMethodChar_iff {c : Char} : isMethodChar c = true ↔ MethodChar c :=
  Bool.or_eq_true_iff.trans (or_congr isLower_iff isDecimal_iff)

theorem isAlphanum_iff {c : Char} :
    c.isAlphanum = true ↔ ('A' ≤ c ∧ c ≤ 'Z') ∨ MethodChar c := by
  have upper : c.isUpper = true ↔ 'A' ≤ c ∧ c ≤ 'Z' := decide_eq_true_iff
  have split : c.isAlphanum = (c.isUpper || isMethodChar c) := Bool.or_assoc _ _ _
  rw [split, Bool.or_eq_true_iff, upper, isMethodChar_iff]

theorem isSegmentChar_iff {c : Char} : isSegmentChar c = true ↔ SegmentChar c := by
  simp only [isSegmentChar, SegmentChar, Bool.or_eq_true, decide_eq_true_eq, isAlphanum_iff,
    or_assoc]

theorem isDigit_iff {c : Char} : Text.Hex.isDigit c = true ↔ HexDigit c := by
  unfold Text.Hex.isDigit Text.Hex.value? HexDigit
  split
  · simp [*]
  split
  · simp [*]
  split <;> simp [*]

theorem isSegments_cons {c : Char} (other : c ≠ '%') (started : Bool) (s : List Char) :
    isSegments started (c :: s) =
      if isSegmentChar c then isSegments true s
      else if c = ':' then started && isSegments false s
      else if c = '=' then started && (s = [] || s = ['='])
      else false := by
  rw [isSegments]
  exact fun _ _ _ same _ => other same

theorem isSegments_unit {unit : List Char} (wellFormed : SegmentUnit unit) (started : Bool)
    (s : List Char) : isSegments started (unit ++ s) = isSegments true s := by
  cases wellFormed with
  | @plain c plain =>
      have plain := isSegmentChar_iff.2 plain
      have other : c ≠ '%' := by rintro rfl; cases plain
      rw [List.singleton_append, isSegments_cons other, if_pos plain]
  | escape first second =>
      simp only [List.cons_append, List.nil_append, isSegments, isDigit_iff.2 first,
        isDigit_iff.2 second, Bool.true_and]

theorem isSegments_units {units : List (List Char)} (all : ∀ unit ∈ units, SegmentUnit unit)
    (s : List Char) : isSegments true (units.flatten ++ s) = isSegments true s := by
  induction units with
  | nil => rfl
  | cons unit units ih =>
      obtain ⟨first, later⟩ := List.forall_mem_cons.1 all
      rw [List.flatten_cons, List.append_assoc, isSegments_unit first, ih later]

theorem isSegments_segment {segment : List Char} (wellFormed : Segment segment) (started : Bool)
    (s : List Char) : isSegments started (segment ++ s) = isSegments true s := by
  obtain ⟨units, nonempty, all, rfl⟩ := wellFormed
  obtain ⟨unit, units, rfl⟩ := List.exists_cons_of_ne_nil nonempty
  obtain ⟨first, later⟩ := List.forall_mem_cons.1 all
  rw [List.flatten_cons, List.append_assoc, isSegments_unit first, isSegments_units later]

theorem isSegments_padding {padding : List Char} (wellFormed : Padding padding) :
    isSegments true padding = true := by
  rcases wellFormed with rfl | rfl | rfl <;> rfl

theorem isSegments_complete {id : List Char} (wellFormed : MethodId id) :
    isSegments false id = true := by
  obtain ⟨_, padding, ⟨segments, nonempty, all, rfl⟩, ends, rfl⟩ := wellFormed
  induction segments with
  | nil => exact absurd rfl nonempty
  | cons segment segments ih =>
      obtain ⟨first, later⟩ := List.forall_mem_cons.1 all
      cases segments with
      | nil =>
          rw [List.intercalate_singleton, isSegments_segment first]
          exact isSegments_padding ends
      | cons next segments =>
          rw [List.intercalate_cons_cons, List.append_assoc, List.append_assoc,
            isSegments_segment first]
          exact ih (List.cons_ne_nil _ _) later

/-- What the scan has before it: units of the present segment, at least one unless it has `started`,
then further segments and padding. -/
def Remains (started : Bool) (s : List Char) : Prop :=
  ∃ units segments padding, (started = false → units ≠ []) ∧
    (∀ unit ∈ units, SegmentUnit unit) ∧ (∀ segment ∈ segments, Segment segment) ∧
    Padding padding ∧ s = [':'].intercalate (units.flatten :: segments) ++ padding

theorem intercalate_append_cons (divider front part : List Char)
    (parts : List (List Char)) :
    divider.intercalate ((front ++ part) :: parts) =
      front ++ divider.intercalate (part :: parts) := by
  cases parts with
  | nil => rw [List.intercalate_singleton, List.intercalate_singleton]
  | cons next parts =>
      rw [List.intercalate_cons_cons, List.intercalate_cons_cons, List.append_assoc,
        List.append_assoc, List.append_assoc]

theorem remains_unit {unit s : List Char} (wellFormed : SegmentUnit unit)
    (remains : Remains true s) (started : Bool) : Remains started (unit ++ s) := by
  obtain ⟨units, segments, padding, -, all, others, ends, rfl⟩ := remains
  refine ⟨unit :: units, segments, padding, fun _ => List.cons_ne_nil _ _,
    List.forall_mem_cons.2 ⟨wellFormed, all⟩, others, ends, ?_⟩
  rw [List.flatten_cons, intercalate_append_cons, List.append_assoc]

theorem remains_colon {s : List Char} (remains : Remains false s) : Remains true (':' :: s) := by
  obtain ⟨units, segments, padding, nonempty, all, others, ends, rfl⟩ := remains
  have segment : Segment units.flatten := ⟨units, nonempty rfl, all, rfl⟩
  exact ⟨[], units.flatten :: segments, padding, nofun, nofun,
    List.forall_mem_cons.2 ⟨segment, others⟩, ends, rfl⟩

theorem remains_padding {padding : List Char} (ends : Padding padding) : Remains true padding :=
  ⟨[], [], padding, nofun, nofun, nofun, ends, rfl⟩

theorem methodId_of_remains {id : List Char} (remains : Remains false id) : MethodId id := by
  obtain ⟨units, segments, padding, nonempty, all, others, ends, rfl⟩ := remains
  have segment : Segment units.flatten := ⟨units, nonempty rfl, all, rfl⟩
  exact ⟨_, padding, ⟨units.flatten :: segments, List.cons_ne_nil _ _,
    List.forall_mem_cons.2 ⟨segment, others⟩, rfl⟩, ends, rfl⟩

theorem isSegments_sound {started : Bool} {s : List Char} (accepted : isSegments started s = true) :
    Remains started s := by
  fun_induction isSegments started s with
  | case1 started => exact accepted ▸ remains_padding (.inl rfl)
  | case2 started a b s ih =>
      simp only [Bool.and_eq_true] at accepted
      obtain ⟨⟨first, second⟩, rest⟩ := accepted
      exact remains_unit (.escape (isDigit_iff.1 first) (isDigit_iff.1 second)) (ih rest) started
  | case3 started c s _ plain ih =>
      exact remains_unit (.plain (isSegmentChar_iff.1 plain)) (ih accepted) started
  | case4 started s _ _ ih =>
      obtain ⟨rfl, rest⟩ := Bool.and_eq_true_iff.1 accepted
      exact remains_colon (ih rest)
  | case5 started s =>
      obtain ⟨rfl, ends⟩ := Bool.and_eq_true_iff.1 accepted
      refine remains_padding ?_
      simpa [Padding] using ends
  | case6 => cases accepted

theorem isSegments_iff {id : List Char} : isSegments false id = true ↔ MethodId id :=
  ⟨fun accepted => methodId_of_remains (isSegments_sound accepted), isSegments_complete⟩

theorem takeWhile_method {method : List Char} (chars : ∀ c ∈ method, MethodChar c)
    (id : List Char) : (method ++ ':' :: id).takeWhile isMethodChar = method := by
  rw [List.takeWhile_append_of_pos fun c member => isMethodChar_iff.2 (chars c member)]
  exact List.append_nil method

theorem dropWhile_method {method : List Char} (chars : ∀ c ∈ method, MethodChar c)
    (id : List Char) : (method ++ ':' :: id).dropWhile isMethodChar = ':' :: id := by
  rw [List.dropWhile_append_of_pos fun c member => isMethodChar_iff.2 (chars c member)]
  rfl

theorem split?_complete {method id : List Char} (nonempty : method ≠ [])
    (chars : ∀ c ∈ method, MethodChar c) (wellFormed : MethodId id) :
    split? ('d' :: 'i' :: 'd' :: ':' :: (method ++ ':' :: id)) = some (method, id) := by
  have accepted := isSegments_complete wellFormed
  obtain ⟨first, others, rfl⟩ := List.exists_cons_of_ne_nil nonempty
  simp only [split?, takeWhile_method chars, dropWhile_method chars, accepted, if_true]

theorem split?_sound {s method id : List Char} (split : split? s = some (method, id)) :
    s = 'd' :: 'i' :: 'd' :: ':' :: (method ++ ':' :: id) ∧ method ≠ [] ∧
      (∀ c ∈ method, MethodChar c) ∧ MethodId id := by
  unfold split? at split
  split at split
  · rename_i s
    split at split
    · cases split
    · rename_i found after nonempty
      obtain ⟨accepted, same⟩ := Option.ite_none_right_eq_some.1 split
      cases same
      refine ⟨?_, nonempty, fun c member => ?_, isSegments_iff.1 accepted⟩
      · rw [← after, List.takeWhile_append_dropWhile]
      · exact isMethodChar_iff.1 (List.mem_takeWhile_imp member)
    · cases split
  · cases split

theorem written_iff {method id text : String} :
    Written method id text ↔ split? text.toList = some (method.toList, id.toList) := by
  have spelled : ("did:" ++ method ++ ":" ++ id).toList =
      'd' :: 'i' :: 'd' :: ':' :: (method.toList ++ ':' :: id.toList) := by
    simp
  constructor
  · rintro ⟨nonempty, chars, wellFormed, rfl⟩
    rw [spelled]
    exact split?_complete nonempty chars wellFormed
  · intro split
    obtain ⟨same, nonempty, chars, wellFormed⟩ := split?_sound split
    exact ⟨nonempty, chars, wellFormed, String.toList_injective (same.trans spelled.symm)⟩

theorem parse_eq_ok {method id s : String} :
    parse s = .ok ⟨method, id⟩ ↔ Written method id s := by
  rw [written_iff, parse]
  cases split? s.toList with
  | none => exact ⟨nofun, nofun⟩
  | some found =>
      obtain ⟨foundMethod, foundId⟩ := found
      constructor
      · rintro ⟨⟩
        rw [String.toList_ofList, String.toList_ofList]
      · rintro ⟨⟩
        simp only [String.ofList_toList]

def Inner (c : Char) : Prop := '%' ≤ c ∧ c ≤ 'z' ∧ c ≠ '='

instance : DecidablePred Inner := fun c => inferInstanceAs (Decidable ('%' ≤ c ∧ c ≤ 'z' ∧ c ≠ '='))

theorem inner_of_range {low high c : Char} (within : low ≤ c ∧ c ≤ high) (start : '%' ≤ low)
    (stop : high ≤ 'z') (apart : high < '=' ∨ '=' < low) : Inner c := by
  refine ⟨Char.le_trans start within.1, Char.le_trans within.2 stop, ?_⟩
  rintro rfl
  rcases apart with below | above
  · exact Char.not_lt.2 within.2 below
  · exact Char.not_lt.2 within.1 above

theorem inner_methodChar {c : Char} (char : MethodChar c) : Inner c := by
  rcases char with letter | digit
  · exact inner_of_range letter (by decide) (by decide) (by decide)
  · exact inner_of_range digit (by decide) (by decide) (by decide)

theorem inner_segmentChar {c : Char} (char : SegmentChar c) : Inner c := by
  rcases char with letter | char | rfl | rfl | rfl
  · exact inner_of_range letter (by decide) (by decide) (by decide)
  · exact inner_methodChar char
  all_goals decide

theorem inner_hexDigit {c : Char} (digit : HexDigit c) : Inner c := by
  rcases digit with digit | letter | letter
  · exact inner_of_range digit (by decide) (by decide) (by decide)
  · exact inner_of_range letter (by decide) (by decide) (by decide)
  · exact inner_of_range letter (by decide) (by decide) (by decide)

theorem inner_unit {unit : List Char} (wellFormed : SegmentUnit unit) : ∀ c ∈ unit, Inner c := by
  cases wellFormed with
  | plain char => exact List.forall_mem_singleton.2 (inner_segmentChar char)
  | escape first second =>
      have percent : Inner '%' := by decide
      simp [percent, inner_hexDigit first, inner_hexDigit second]

theorem inner_segment {segment : List Char} (wellFormed : Segment segment) :
    ∀ c ∈ segment, Inner c := by
  obtain ⟨units, -, all, rfl⟩ := wellFormed
  intro c member
  obtain ⟨unit, present, inside⟩ := List.mem_flatten.1 member
  exact inner_unit (all unit present) c inside

theorem inner_intercalate {segments : List (List Char)}
    (all : ∀ segment ∈ segments, Segment segment) :
    ∀ c ∈ [':'].intercalate segments, Inner c := by
  induction segments with
  | nil => nofun
  | cons segment segments ih =>
      obtain ⟨first, later⟩ := List.forall_mem_cons.1 all
      cases segments with
      | nil =>
          rw [List.intercalate_singleton]
          exact inner_segment first
      | cons next segments =>
          have colon : Inner ':' := by decide
          rw [List.intercalate_cons_cons, List.forall_mem_append, List.forall_mem_append]
          exact ⟨⟨inner_segment first, List.forall_mem_singleton.2 colon⟩, ih later⟩

theorem inner_of_written {method id text : String} (written : Written method id text) :
    ∃ body padding, text.toList = body ++ padding ∧ (∀ c ∈ body, Inner c) ∧ Padding padding := by
  obtain ⟨-, chars, ⟨_, padding, ⟨segments, -, all, rfl⟩, ends, same⟩, rfl⟩ := written
  refine ⟨['d', 'i', 'd', ':'] ++ method.toList ++ [':'] ++ [':'].intercalate segments, padding, ?_,
    ?_, ends⟩
  · simp [same]
  · have front : ∀ c ∈ ['d', 'i', 'd', ':'], Inner c := by simp [Inner]
    have colon : ∀ c ∈ [':'], Inner c := by simp [Inner]
    simp only [List.forall_mem_append]
    exact ⟨⟨⟨front, fun c member => inner_methodChar (chars c member)⟩, colon⟩,
      inner_intercalate all⟩

/-- A text is recognized as a DID exactly if the grammar gives it. It is parsed then, and refused
otherwise. The method and the rest are the only ones it can have been written with, and they write
it again. Whatever stands before its padding is visible ASCII, so nothing follows the padding. -/
theorem recognized_iff_written (s : String) :
    (isDid s = true ↔ ∃ method id, Written method id s) ∧
    (isDid s = true ↔ ∃ did, parse s = .ok did) ∧
    (isDid s = false ↔ parse s = .error (.invalidDid s)) ∧
    (∀ did, parse s = .ok did → (∀ method id, Written method id s ↔ did = ⟨method, id⟩) ∧
      did.text = s ∧ parse did.text = .ok did) ∧
    (isDid s = true → ∃ body padding, s.toList = body ++ padding ∧ (∀ c ∈ body, Inner c) ∧
      Padding padding) := by
  have succeeds : isDid s = true ↔ ∃ did, parse s = .ok did := by
    rw [isDid, parse]
    cases split? s.toList with
    | none => exact ⟨nofun, nofun⟩
    | some found => exact ⟨fun _ => ⟨_, rfl⟩, fun _ => rfl⟩
  have fails : isDid s = false ↔ parse s = .error (.invalidDid s) := by
    rw [isDid, parse]
    cases split? s.toList with
    | none => exact ⟨fun _ => rfl, fun _ => rfl⟩
    | some found => exact ⟨nofun, nofun⟩
  have recognized : isDid s = true ↔ ∃ method id, Written method id s := by
    rw [succeeds]
    exact ⟨fun ⟨did, parsed⟩ => ⟨_, _, parse_eq_ok.1 parsed⟩,
      fun ⟨method, id, written⟩ => ⟨⟨method, id⟩, parse_eq_ok.2 written⟩⟩
  refine ⟨recognized, succeeds, fails, fun did parsed => ?_, fun accepted => ?_⟩
  · have same : did.text = s := (parse_eq_ok.1 parsed).joined.symm
    refine ⟨fun method id => ?_, same, same ▸ parsed⟩
    rw [← parse_eq_ok, parsed, Except.ok.injEq]
  · obtain ⟨method, id, written⟩ := recognized.1 accepted
    exact inner_of_written written

theorem padded_recognized_iff_written :
    isDid "did:prism01:b2.-_%1f:Q4==" = true ∧
      Written "prism01" "b2.-_%1f:Q4==" "did:prism01:b2.-_%1f:Q4==" ∧
      (⟨"prism01", "b2.-_%1f:Q4=="⟩ : Did).text = "did:prism01:b2.-_%1f:Q4==" := by
  have parsed : parse "did:prism01:b2.-_%1f:Q4==" = .ok ⟨"prism01", "b2.-_%1f:Q4=="⟩ := by
    decide +kernel
  obtain ⟨-, succeeds, -, split, -⟩ := recognized_iff_written "did:prism01:b2.-_%1f:Q4=="
  obtain ⟨only, same, -⟩ := split _ parsed
  exact ⟨succeeds.2 ⟨_, parsed⟩, (only _ _).2 rfl, same⟩

end DidMessaging.Did
