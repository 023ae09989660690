import DidMessaging.Text.Base64
import DidMessaging.Text.Utf8
import Mathlib.Data.List.Basic

namespace DidMessaging.Text.Base64

/-- The six-bit values that bytes are cut into; the last one is filled up with zeros. -/
def sextets : List UInt8 → List Nat
  | a :: b :: c :: bytes =>
    a.toNat / 4 :: (a.toNat % 4 * 16 + b.toNat / 16) :: (b.toNat % 16 * 4 + c.toNat / 64) ::
      c.toNat % 64 :: sextets bytes
  | [a, b] => [a.toNat / 4, a.toNat % 4 * 16 + b.toNat / 16, b.toNat % 16 * 4]
  | [a] => [a.toNat / 4, a.toNat % 4 * 16]
  | [] => []

theorem encode_eq_map (bytes : List UInt8) : encode bytes = (sextets bytes).map symbol := by
  fun_induction sextets bytes with
  | case1 a b c bytes ih => rw [encode, ih]; rfl
  | case2 | case3 | case4 => rfl

theorem sextets_lt (bytes : List UInt8) : ∀ value ∈ sextets bytes, value < 64 := by
  have byte (a : UInt8) : a.toNat < 256 := a.toNat_lt
  fun_induction sextets bytes with
  | case1 a b c bytes ih =>
      have := byte a; have := byte b; have := byte c
      simp only [List.forall_mem_cons]
      exact ⟨by omega, by omega, by omega, by omega, ih⟩
  | case2 a b =>
      have := byte a; have := byte b
      simp only [List.forall_mem_cons]
      exact ⟨by omega, by omega, by omega, nofun⟩
  | case3 a =>
      have := byte a
      simp only [List.forall_mem_cons]
      exact ⟨by omega, by omega, nofun⟩
  | case4 => nofun

theorem length_sextets (bytes : List UInt8) : (sextets bytes).length % 4 ≠ 1 := by
  fun_induction sextets bytes with
  | case1 a b c bytes ih =>
      simp only [List.length_cons]
      omega
  | case2 | case3 | case4 => simp

theorem value?_symbol : ∀ value < 64, value? (symbol value) = some value := by decide

theorem filterMap_encode (bytes : List UInt8) :
    (encode bytes).filterMap value? = sextets bytes := by
  rw [encode_eq_map, List.filterMap_map]
  calc
    _ = (sextets bytes).filterMap some :=
      List.filterMap_congr fun value member => value?_symbol value (sextets_lt bytes value member)
    _ = sextets bytes := List.filterMap_some

theorem ofNat_eq {n : Nat} {a : UInt8} (same : n = a.toNat) : UInt8.ofNat n = a := by
  rw [same, UInt8.ofNat_toNat]

theorem regroup_sextets (bytes : List UInt8) : regroup (sextets bytes) = some bytes := by
  have byte (a : UInt8) : a.toNat < 256 := a.toNat_lt
  fun_induction sextets bytes with
  | case1 a b c bytes ih =>
      have := byte a; have := byte b; have := byte c
      rw [regroup, ih]
      simp only [Option.bind_eq_bind, Option.bind_some, Option.pure_def]
      congr 2
      · exact ofNat_eq (by omega)
      · congr 1
        · exact ofNat_eq (by omega)
        · congr 1
          exact ofNat_eq (by omega)
  | case2 a b =>
      have := byte a; have := byte b
      rw [regroup, if_pos (by omega)]
      congr 2
      · exact ofNat_eq (by omega)
      · congr 1
        exact ofNat_eq (by omega)
  | case3 a =>
      have := byte a
      rw [regroup, if_pos (by omega)]
      congr 2
      exact ofNat_eq (by omega)
  | case4 => rfl

def room (bytes : List UInt8) : Nat := (4 - (encode bytes).length % 4) % 4

theorem decode_padded {bytes : List UInt8} {pads : Nat} (within : pads ≤ room bytes) :
    decode (encode bytes ++ List.replicate pads padding) = .ok bytes := by
  have symbols : ∀ byte ∈ encode bytes, (value? byte).isSome = true := by
    intro byte member
    rw [encode_eq_map] at member
    obtain ⟨value, present, rfl⟩ := List.mem_map.1 member
    rw [value?_symbol value (sextets_lt bytes value present)]
    rfl
  -- Padding is no symbol, so the symbols end where it begins.
  have stops : (List.replicate pads padding).takeWhile (fun byte => (value? byte).isSome) = [] ∧
      (List.replicate pads padding).dropWhile (fun byte => (value? byte).isSome) =
        List.replicate pads padding := by
    cases pads <;> exact ⟨rfl, rfl⟩
  have length : (encode bytes).length % 4 ≠ 1 := by
    rw [encode_eq_map, List.length_map]
    exact length_sextets bytes
  have whole : (encode bytes ++ List.replicate pads padding).length % 4 ≠ 1 := by
    rw [List.length_append, List.length_replicate]
    unfold room at within
    omega
  have fits : isPadding (encode bytes).length (List.replicate pads padding) = true := by
    unfold room at within
    rcases Nat.eq_zero_or_pos pads with rfl | some
    · rfl
    · simp [isPadding]
      omega
  simp only [decode, if_neg whole, List.takeWhile_append_of_pos symbols,
    List.dropWhile_append_of_pos symbols, stops, List.append_nil, fits, ↓reduceIte,
    filterMap_encode, regroup_sextets]

theorem symbol_of_value? {byte : UInt8} {value : Nat} (read : value? byte = some value) :
    value < 64 ∧ symbol value = byte := by
  have code : byte.toNat < 256 := byte.toNat_lt
  have named {n : Nat} (same : byte.toNat = n) : UInt8.ofNat n = byte := ofNat_eq same.symm
  unfold value? at read
  dsimp only at read
  split at read
  · cases read
    refine ⟨by omega, ?_⟩
    rw [symbol, if_pos (by omega)]
    exact named (by omega)
  split at read
  · cases read
    refine ⟨by omega, ?_⟩
    rw [symbol, if_neg (by omega), if_pos (by omega)]
    exact named (by omega)
  split at read
  · cases read
    refine ⟨by omega, ?_⟩
    rw [symbol, if_neg (by omega), if_neg (by omega), if_pos (by omega)]
    exact named (by omega)
  split at read
  · cases read
    exact ⟨by decide, named ‹_›⟩
  split at read
  · cases read
    exact ⟨by decide, named ‹_›⟩
  · cases read

theorem sextets_of_regroup {values : List Nat} {bytes : List UInt8}
    (small : ∀ value ∈ values, value < 64) (grouped : regroup values = some bytes) :
    sextets bytes = values := by
  have byte {n : Nat} (fits : n < 256) : (UInt8.ofNat n).toNat = n := UInt8.toNat_ofNat_of_lt' fits
  fun_induction regroup values generalizing bytes with
  | case1 a b c d values ih =>
      simp only [List.forall_mem_cons] at small
      obtain ⟨smallA, smallB, smallC, smallD, small⟩ := small
      obtain ⟨rest, regrouped, same⟩ := Option.bind_eq_some_iff.1 grouped
      cases same
      rw [sextets, byte (by omega), byte (by omega), byte (by omega), ih small regrouped]
      simp only [List.cons.injEq, and_true]
      omega
  | case2 a b c even =>
      simp only [List.forall_mem_cons] at small
      cases grouped
      rw [sextets, byte (by omega), byte (by omega)]
      simp only [List.cons.injEq, and_true]
      omega
  | case4 a b even =>
      simp only [List.forall_mem_cons] at small
      cases grouped
      rw [sextets, byte (by omega)]
      simp only [List.cons.injEq, and_true]
      omega
  | case7 => cases grouped; rfl
  | case3 | case5 | case6 => cases grouped

theorem encode_of_regroup {symbols bytes : List UInt8}
    (all : ∀ byte ∈ symbols, (value? byte).isSome = true)
    (grouped : regroup (symbols.filterMap value?) = some bytes) : encode bytes = symbols := by
  have small : ∀ value ∈ symbols.filterMap value?, value < 64 := by
    intro value member
    obtain ⟨byte, -, read⟩ := List.mem_filterMap.1 member
    exact (symbol_of_value? read).1
  rw [encode_eq_map, sextets_of_regroup small grouped, List.map_filterMap]
  calc
    _ = symbols.filterMap some := by
      refine List.filterMap_congr fun byte member => ?_
      obtain ⟨value, read⟩ := Option.isSome_iff_exists.1 (all byte member)
      rw [read, Option.map_some, (symbol_of_value? read).2]
    _ = symbols := List.filterMap_some

theorem replicate_of_isPadding {count : Nat} {rest : List UInt8}
    (fits : isPadding count rest = true) :
    rest = List.replicate rest.length padding ∧ rest.length ≤ (4 - count % 4) % 4 := by
  rw [isPadding, Bool.or_eq_true, List.isEmpty_iff] at fits
  rcases fits with rfl | fits
  · exact ⟨rfl, Nat.zero_le _⟩
  · simp only [Bool.and_eq_true, decide_eq_true_eq, List.all_eq_true, beq_iff_eq] at fits
    obtain ⟨⟨enough, all⟩, within⟩ := fits
    exact ⟨List.eq_replicate_iff.2 ⟨rfl, all⟩, by omega⟩

/-- What is decoded is an encoding, with all, some or none of its padding. -/
theorem decode_eq_ok {encoded bytes : List UInt8} :
    decode encoded = .ok bytes ↔
      ∃ pads ≤ room bytes, encoded = encode bytes ++ List.replicate pads padding := by
  constructor
  · intro decoded
    unfold decode at decoded
    extract_lets symbols rest at decoded
    have split : symbols ++ rest = encoded := List.takeWhile_append_dropWhile
    split at decoded
    · split at decoded
      · split at decoded <;> cases decoded
      · cases decoded
    split at decoded
    · rename_i fits
      split at decoded
      · rename_i grouped
        cases decoded
        have all : ∀ byte ∈ symbols, (value? byte).isSome = true :=
          List.all_eq_true.1 List.all_takeWhile
        have same := encode_of_regroup all grouped
        obtain ⟨padded, within⟩ := replicate_of_isPadding fits
        refine ⟨rest.length, ?_, ?_⟩
        · rwa [room, same]
        · rw [same, ← padded, split]
      · cases decoded
    · cases decoded
  · rintro ⟨pads, within, rfl⟩
    exact decode_padded within

def text (content : String) (pads : Nat) : String :=
  String.ofList ((encode (utf8 content) ++ List.replicate pads padding).map
    fun byte => Char.ofNat byte.toNat)

theorem utf8EncodeChar_ascii :
    ∀ n < 128, String.utf8EncodeChar (Char.ofNat n) = [UInt8.ofNat n] := by
  decide

theorem symbol_ascii : ∀ value < 64, (symbol value).toNat < 128 := by decide

theorem utf8_text (content : String) (pads : Nat) :
    utf8 (text content pads) = encode (utf8 content) ++ List.replicate pads padding := by
  have ascii : ∀ byte ∈ encode (utf8 content) ++ List.replicate pads padding,
      String.utf8EncodeChar (Char.ofNat byte.toNat) = [byte] := by
    intro byte member
    have small : byte.toNat < 128 := by
      rcases List.mem_append.1 member with symbols | rest
      · rw [encode_eq_map] at symbols
        obtain ⟨value, present, rfl⟩ := List.mem_map.1 symbols
        exact symbol_ascii value (sextets_lt _ value present)
      · rw [List.eq_of_mem_replicate rest]
        decide
    rw [utf8EncodeChar_ascii byte.toNat small, UInt8.ofNat_toNat]
  rw [utf8, text, String.toList_ofList, List.flatMap_map]
  calc
    _ = (encode (utf8 content) ++ List.replicate pads padding).flatMap fun byte => [byte] :=
      List.flatMap_congr ascii
    _ = _ := List.flatMap_singleton' _

/-- `content` is the encoding of `envelope` without padding, and then padding, but no more than
fills up the last group. -/
def Encodes (content envelope : String) : Prop :=
  ∃ pads ≤ room (utf8 envelope),
    content.toList = (text envelope 0).toList ++ List.replicate pads '='

theorem text_toList (envelope : String) (pads : Nat) :
    (text envelope pads).toList = (text envelope 0).toList ++ List.replicate pads '=' := by
  have mark : Char.ofNat padding.toNat = '=' := rfl
  simp [text, mark]

theorem padding_notMem_text (envelope : String) : '=' ∉ (text envelope 0).toList := by
  intro member
  rw [text, List.replicate_zero, List.append_nil, String.toList_ofList, encode_eq_map,
    List.map_map] at member
  obtain ⟨value, present, same⟩ := List.mem_map.1 member
  have other : ∀ value < 64, Char.ofNat (symbol value).toNat ≠ '=' := by decide
  exact other value (sextets_lt _ value present) same

theorem encodes_iff {content envelope : String} :
    Encodes content envelope ↔
      ∃ pads ≤ room (utf8 envelope),
        utf8 content = encode (utf8 envelope) ++ List.replicate pads padding := by
  refine exists_congr fun pads => and_congr_right fun _ => ?_
  rw [← text_toList, ← utf8_text, String.toList_inj]
  exact ⟨congrArg utf8, utf8_injective⟩

end DidMessaging.Text.Base64
