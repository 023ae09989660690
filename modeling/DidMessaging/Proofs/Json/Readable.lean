import DidMessaging.Json.Tree
import DidMessaging.Proofs.Json.Token

namespace DidMessaging.Json

/-- A value of at most `levels` levels whose numbers are counts of 64 bits. -/
def Readable : (levels : Nat) → Json → Prop
  | _, .null | _, .flag _ | _, .text _ => True
  | _, .number n => ∃ count < wordLimit, n = .natural count
  | 0, .list _ | 0, .object _ => False
  | levels + 1, .list elements => ∀ element ∈ elements, Readable levels element
  | levels + 1, .object members => ∀ entry ∈ members, Readable levels entry.2

theorem readable_mono {levels more : Nat} (enough : levels ≤ more) {value : Json}
    (readable : Readable levels value) : Readable more value := by
  induction more generalizing levels value with
  | zero =>
      obtain rfl : levels = 0 := by omega
      exact readable
  | succ more ih =>
      cases value with
      | null => trivial
      | flag => trivial
      | text => trivial
      | number => cases levels <;> exact readable
      | list elements =>
          cases levels with
          | zero => exact readable.elim
          | succ levels => exact fun e member => ih (by omega) (readable e member)
      | object members =>
          cases levels with
          | zero => exact readable.elim
          | succ levels => exact fun entry member => ih (by omega) (readable entry member)

def isOpening (c : Char) : Bool := !isBlank c && c ≠ ']' && c ≠ '}' && c ≠ ','

theorem opening_of_digit {c : Char} (digit : c.isDigit = true) :
    isOpening c = true ∧ c ≠ 'n' ∧ c ≠ 't' ∧ c ≠ 'f' ∧ c ≠ '-' := by
  refine ⟨?_, ?_, ?_, ?_, ?_⟩
  · simp only [isOpening, isBlank, Bool.and_eq_true, Bool.not_eq_true', decide_eq_false_iff_not,
      decide_eq_true_eq, ne_eq, not_or]
    refine ⟨⟨⟨⟨?_, ?_, ?_, ?_⟩, ?_⟩, ?_⟩, ?_⟩ <;> rintro rfl <;> cases digit
  all_goals rintro rfl; cases digit

theorem toDigits_eq_cons (n : Nat) :
    ∃ c s, Nat.toDigits 10 n = c :: s ∧ c.isDigit = true := by
  cases split : Nat.toDigits 10 n with
  | nil => exact absurd split Nat.toDigits_ne_nil
  | cons c s =>
      have member : c ∈ Nat.toDigits 10 n := split ▸ List.mem_cons_self
      exact ⟨c, s, rfl, Nat.isDigit_of_mem_toDigits (by decide) (by decide) member⟩

theorem chars_eq_cons {levels : Nat} {value : Json} (readable : Readable levels value) :
    ∃ c s, value.chars = c :: s ∧ isOpening c = true ∧ (c = 'n' → value = .null) := by
  cases value with
  | null => exact ⟨'n', _, rfl, rfl, fun _ => rfl⟩
  | flag b => cases b <;> exact ⟨_, _, rfl, rfl, fun same => absurd same (by decide)⟩
  | text s => exact ⟨'"', _, rfl, rfl, fun same => absurd same (by decide)⟩
  | list elements => exact ⟨'[', _, rfl, rfl, fun same => absurd same (by decide)⟩
  | object members => exact ⟨'{', _, rfl, rfl, fun same => absurd same (by decide)⟩
  | number n =>
      obtain ⟨count, small, rfl⟩ : ∃ count < wordLimit, n = .natural count := by
        cases levels <;> exact readable
      obtain ⟨c, s, split, digit⟩ := toDigits_eq_cons count
      obtain ⟨opening, notN, -⟩ := opening_of_digit digit
      exact ⟨c, s, split, opening, fun same => absurd same notN⟩

theorem skipBlank_opening {c : Char} (s : List Char) (opening : isOpening c = true) :
    skipBlank (c :: s) = c :: s := by
  apply skipBlank_cons
  simp only [isOpening, Bool.and_eq_true, Bool.not_eq_true'] at opening
  exact opening.1.1.1

theorem listChars_append (elements : List Json) (rest : List Char) :
    (Json.list elements).chars ++ rest = '[' :: (elementChars elements ++ ']' :: rest) := by
  simp [Json.chars]

theorem objectChars_append (members : List (String × Json)) (rest : List Char) :
    (Json.object members).chars ++ rest = '{' :: (memberChars members ++ '}' :: rest) := by
  simp [Json.chars]

def laterElements : List Json → List Char
  | [] => []
  | elements => ',' :: elementChars elements

theorem elementChars_cons (element : Json) (elements : List Json) :
    elementChars (element :: elements) = element.chars ++ laterElements elements := by
  cases elements <;> simp [elementChars, laterElements]

theorem laterElements_ends (elements : List Json) (rest : List Char) :
    Ends (laterElements elements ++ ']' :: rest) := by
  cases elements with
  | nil => exact ends_cons (.inr (.inl rfl))
  | cons => exact ends_cons (.inl rfl)

theorem nextElement_first {levels : Nat} {value : Json} (readable : Readable levels value)
    (s : List Char) : nextElement true (value.chars ++ s) = .ok (some (value.chars ++ s)) := by
  obtain ⟨c, tail, split, opening, -⟩ := chars_eq_cons readable
  have notClosing : c ≠ ']' := by rintro rfl; cases opening
  rw [split, List.cons_append, nextElement, skipBlank_opening _ opening]
  simp only [notClosing, ↓reduceIte]

theorem nextElement_later {levels : Nat} {value : Json} (readable : Readable levels value)
    (s : List Char) :
    nextElement false (',' :: (value.chars ++ s)) = .ok (some (value.chars ++ s)) := by
  obtain ⟨c, tail, split, opening, -⟩ := chars_eq_cons readable
  have notClosing : c ≠ ']' := by rintro rfl; cases opening
  rw [split, List.cons_append, nextElement, skipBlank_cons _ (by decide)]
  simp only [Char.reduceEq, Bool.false_eq_true, ↓reduceIte, skipBlank_opening _ opening, notClosing]

theorem readElements_close (element : Reader α) (bound : Nat) (first : Bool) (rest : List Char) :
    readElements element bound first (']' :: rest) = .ok ([], rest) := by
  have next : nextElement first (']' :: rest) = .ok none := rfl
  cases bound <;> rw [readElements, next] <;> rfl

theorem readElements_later {element : Reader α} {written : α → Json} {levels : Nat} (as : List α)
    (readable : ∀ a ∈ as, Readable levels (written a))
    (each : ∀ a ∈ as, ∀ rest, Ends rest → element ((written a).chars ++ rest) = .ok (a, rest))
    {bound : Nat} (enough : as.length ≤ bound) (rest : List Char) :
    readElements element bound false (laterElements (as.map written) ++ ']' :: rest) =
      .ok (as, rest) := by
  induction as generalizing bound with
  | nil => exact readElements_close element bound _ rest
  | cons a as ih =>
      cases bound with
      | zero => cases enough
      | succ bound =>
          have later := ih (fun a member => readable a (List.mem_cons_of_mem _ member))
            (fun a member => each a (List.mem_cons_of_mem _ member))
            (Nat.le_of_succ_le_succ enough)
          have first := each a List.mem_cons_self _ (laterElements_ends (as.map written) rest)
          rw [List.map_cons, laterElements, elementChars_cons, List.cons_append, List.append_assoc,
            readElements, nextElement_later (readable a List.mem_cons_self)]
          simp only [bind, Except.bind, first, later]
          rfl
          · exact nofun

theorem readElements_written {element : Reader α} {written : α → Json} {levels : Nat} (as : List α)
    (readable : ∀ a ∈ as, Readable levels (written a))
    (each : ∀ a ∈ as, ∀ rest, Ends rest → element ((written a).chars ++ rest) = .ok (a, rest))
    {bound : Nat} (enough : as.length ≤ bound) (rest : List Char) :
    readElements element bound true (elementChars (as.map written) ++ ']' :: rest) =
      .ok (as, rest) := by
  cases as with
  | nil => exact readElements_close element bound _ rest
  | cons a as =>
      cases bound with
      | zero => cases enough
      | succ bound =>
          have later := readElements_later as
            (fun a member => readable a (List.mem_cons_of_mem _ member))
            (fun a member => each a (List.mem_cons_of_mem _ member))
            (Nat.le_of_succ_le_succ enough) rest
          have first := each a List.mem_cons_self _ (laterElements_ends (as.map written) rest)
          rw [List.map_cons, elementChars_cons, List.append_assoc,
            readElements, nextElement_first (readable a List.mem_cons_self)]
          simp only [bind, Except.bind, first, later]
          rfl

theorem length_le_elementChars {levels : Nat} {elements : List Json}
    (readable : ∀ element ∈ elements, Readable levels element) :
    elements.length ≤ (elementChars elements).length := by
  induction elements with
  | nil => exact Nat.zero_le _
  | cons element elements ih =>
      obtain ⟨c, s, split, -⟩ := chars_eq_cons (readable element List.mem_cons_self)
      have later := ih fun e member => readable e (List.mem_cons_of_mem _ member)
      have comma : (elementChars elements).length ≤ (laterElements elements).length := by
        cases elements <;> simp [laterElements, elementChars]
      rw [elementChars_cons, split]
      simp only [List.length_cons, List.length_append]
      omega

theorem readList_written {element : Reader α} {written : α → Json} {levels : Nat} (as : List α)
    (readable : ∀ a ∈ as, Readable levels (written a))
    (each : ∀ a ∈ as, ∀ rest, Ends rest → element ((written a).chars ++ rest) = .ok (a, rest))
    (rest : List Char) :
    readList element (elementChars (as.map written) ++ ']' :: rest) = .ok (as, rest) := by
  apply readElements_written as readable each
  have all : ∀ value ∈ as.map written, Readable levels value := by
    intro value member
    obtain ⟨a, present, rfl⟩ := List.mem_map.1 member
    exact readable a present
  have enough := length_le_elementChars all
  rw [List.length_map] at enough
  rw [List.length_append]
  omega

def laterMembers : List (String × Json) → List Char
  | [] => []
  | members => ',' :: memberChars members

theorem memberChars_cons (name : String) (value : Json) (members : List (String × Json)) :
    memberChars ((name, value) :: members) =
      textChars name ++ ':' :: (value.chars ++ laterMembers members) := by
  cases members <;> simp [memberChars, laterMembers]

theorem laterMembers_ends (members : List (String × Json)) (rest : List Char) :
    Ends (laterMembers members ++ '}' :: rest) := by
  cases members with
  | nil => exact ends_cons (.inr (.inr rfl))
  | cons => exact ends_cons (.inl rfl)

/-- The states that a loop over the texts of these members goes through. -/
inductive Folded (member : σ → String → Reader σ) : List (String × Json) → σ → σ → Prop
  | nil (state : σ) : Folded member [] state state
  | cons {name : String} {value : Json} {entries : List (String × Json)} {state next final : σ}
      (first : ∀ rest, Ends rest →
        member state name (':' :: (value.chars ++ rest)) = .ok (next, rest))
      (later : Folded member entries next final) :
      Folded member ((name, value) :: entries) state final

theorem readColon_cons (s : List Char) : readColon (':' :: s) = .ok s := rfl

theorem readMembers_close (member : σ → String → Reader σ) (bound : Nat) (first : Bool) (state : σ)
    (rest : List Char) :
    readMembers member bound first state ('}' :: rest) = .ok (state, rest) := by
  have next : nextName first ('}' :: rest) = .ok none := rfl
  cases bound <;> rw [readMembers, next] <;> rfl

theorem readMembers_member {member : σ → String → Reader σ} {name : String} {value : Json}
    {state next : σ} {tail : List Char}
    (step : member state name (':' :: (value.chars ++ tail)) = .ok (next, tail))
    (bound : Nat) {first : Bool} {s : List Char}
    (opened : nextName first s =
      .ok (some (name.toList.flatMap escape ++ '"' :: ':' :: (value.chars ++ tail)))) :
    readMembers member (bound + 1) first state s = readMembers member bound false next tail := by
  rw [readMembers, opened]
  simp only [bind, Except.bind, readText_escaped, String.ofList_toList, step]

theorem readMembers_later {member : σ → String → Reader σ} {entries : List (String × Json)}
    {state final : σ} (folded : Folded member entries state final) {bound : Nat}
    (enough : entries.length ≤ bound) (rest : List Char) :
    readMembers member bound false state (laterMembers entries ++ '}' :: rest) =
      .ok (final, rest) := by
  induction folded generalizing bound with
  | nil state => exact readMembers_close member bound _ state rest
  | @cons name value entries state next final first later ih =>
      cases bound with
      | zero => cases enough
      | succ bound =>
          have step := first _ (laterMembers_ends entries rest)
          rw [readMembers_member step bound, ih (Nat.le_of_succ_le_succ enough)]
          rw [laterMembers, memberChars_cons]
          · simp only [List.cons_append, List.append_assoc, textChars_append]
            rfl
          · exact nofun

theorem readMembers_written {member : σ → String → Reader σ} {entries : List (String × Json)}
    {state final : σ} (folded : Folded member entries state final) {bound : Nat}
    (enough : entries.length ≤ bound) (rest : List Char) :
    readMembers member bound true state (memberChars entries ++ '}' :: rest) =
      .ok (final, rest) := by
  cases folded with
  | nil => exact readMembers_close member bound _ state rest
  | @cons name value entries _ next _ first later =>
      cases bound with
      | zero => cases enough
      | succ bound =>
          have step := first _ (laterMembers_ends entries rest)
          rw [readMembers_member step bound,
            readMembers_later later (Nat.le_of_succ_le_succ enough)]
          rw [memberChars_cons]
          simp only [List.cons_append, List.append_assoc, textChars_append]
          rfl

theorem length_le_memberChars (members : List (String × Json)) :
    members.length ≤ (memberChars members).length := by
  induction members with
  | nil => exact Nat.zero_le _
  | cons entry members ih =>
      have comma : (memberChars members).length ≤ (laterMembers members).length := by
        cases members <;> simp [laterMembers, memberChars]
      rw [memberChars_cons]
      simp only [List.length_cons, List.length_append]
      omega

theorem readObject_written {member : σ → String → Reader σ} {entries : List (String × Json)}
    {state final : σ} (folded : Folded member entries state final) (rest : List Char) :
    readObject member state (memberChars entries ++ '}' :: rest) = .ok (final, rest) := by
  apply readMembers_written folded
  have enough := length_le_memberChars entries
  rw [List.length_append]
  omega

theorem readTree_null (levels : Nat) (rest : List Char) :
    readTree levels (Json.null.chars ++ rest) = .ok (.null, rest) := by
  rw [readTree]
  rfl

theorem readTree_flag (levels : Nat) (b : Bool) (rest : List Char) :
    readTree levels ((Json.flag b).chars ++ rest) = .ok (.flag b, rest) := by
  cases b <;> rw [readTree] <;> rfl

theorem readTree_text (levels : Nat) (content : String) (rest : List Char) :
    readTree levels ((Json.text content).chars ++ rest) = .ok (.text content, rest) := by
  rw [Json.chars, textChars_append, readTree, skipBlank_cons _ (by decide)]
  simp only [Char.reduceEq, ↓reduceIte, readText_escaped]
  simp [bind, Except.bind, pure, Except.pure]

theorem readTree_natural (levels : Nat) {n : Nat} (small : n < wordLimit) {rest : List Char}
    (ends : Ends rest) :
    readTree levels ((Json.number (.natural n)).chars ++ rest) =
      .ok (.number (.natural n), rest) := by
  have read := readNumber_digits small ends
  obtain ⟨c, s, split, digit⟩ := toDigits_eq_cons n
  obtain ⟨opening, notN, notT, notF, notMinus⟩ := opening_of_digit digit
  rw [split, List.cons_append] at read
  rw [Json.chars, Number.chars, split, List.cons_append, readTree, skipBlank_opening _ opening]
  simp only [notN, notT, notF, notMinus, digit, ↓reduceIte, read]
  rfl

theorem treeMember_folded {levels : Nat} {entries : List (String × Json)}
    (each : ∀ entry ∈ entries, ∀ rest, Ends rest →
      readTree levels (entry.2.chars ++ rest) = .ok (entry.2, rest))
    (before : List (String × Json)) :
    Folded (readTree.treeMember (readTree levels)) entries before (before ++ entries) := by
  induction entries generalizing before with
  | nil =>
      rw [List.append_nil]
      exact .nil before
  | cons entry entries ih =>
      have later := ih (fun e member => each e (List.mem_cons_of_mem _ member)) (before ++ [entry])
      rw [List.append_assoc] at later
      refine .cons (fun rest ends => ?_) later
      simp only [readTree.treeMember, readColon_cons, bind, Except.bind,
        each entry List.mem_cons_self rest ends]
      rfl

/-- A readable value is read back as it was written. -/
theorem readTree_chars {levels : Nat} {value : Json} (readable : Readable levels value)
    {rest : List Char} (ends : Ends rest) :
    readTree levels (value.chars ++ rest) = .ok (value, rest) := by
  -- Elements and members lie one level deeper than the value that holds them.
  induction levels generalizing value rest with
  | zero =>
      cases value with
      | null => exact readTree_null 0 rest
      | flag b => exact readTree_flag 0 b rest
      | text content => exact readTree_text 0 content rest
      | number n =>
          obtain ⟨count, small, rfl⟩ := readable
          exact readTree_natural 0 small ends
      | list elements => exact readable.elim
      | object members => exact readable.elim
  | succ levels ih =>
      cases value with
      | null => exact readTree_null _ rest
      | flag b => exact readTree_flag _ b rest
      | text content => exact readTree_text _ content rest
      | number n =>
          obtain ⟨count, small, rfl⟩ := readable
          exact readTree_natural _ small ends
      | list elements =>
          have read : readList (readTree levels) (elementChars (elements.map id) ++ ']' :: rest) =
              .ok (elements, rest) :=
            readList_written elements readable
              (fun e member rest ends => ih (readable e member) ends) rest
          rw [List.map_id] at read
          rw [listChars_append, readTree, skipBlank_cons _ (by decide)]
          simp only [Char.reduceEq, ↓reduceIte]
          change (readList (readTree levels) _ >>= _) = _
          rw [read]
          rfl
      | object members =>
          have folded := treeMember_folded
            (fun entry member rest ends => ih (readable entry member) ends) []
          have read := readObject_written folded rest
          rw [objectChars_append, readTree, skipBlank_cons _ (by decide)]
          simp only [Char.reduceEq, ↓reduceIte]
          change (readObject (readTree.treeMember (readTree levels)) [] _ >>= _) = _
          rw [read]
          rfl

end DidMessaging.Json
