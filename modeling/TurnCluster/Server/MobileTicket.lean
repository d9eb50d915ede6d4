import TurnCluster.Lib.Base64
import TurnCluster.Lib.CString
import TurnCluster.Lib.Loop

namespace TurnCluster

/-- The letters, the figures and the two signs of Base64 by their codes. -/
def encodingTable : List UInt8 :=
  [65, 66, 67, 68, 69, 70, 71, 72, 73, 74, 75, 76, 77, 78, 79, 80,
    81, 82, 83, 84, 85, 86, 87, 88, 89, 90, 97, 98, 99, 100, 101, 102,
    103, 104, 105, 106, 107, 108, 109, 110, 111, 112, 113, 114, 115, 116, 117, 118,
    119, 120, 121, 122, 48, 49, 50, 51, 52, 53, 54, 55, 56, 57, 43, 47]

def modTable : List Nat := [0, 2, 1]

/-- The character `=`. -/
def equalSign : UInt8 := 61

/-- `i < input_length ? data[i++] : 0`. -/
def nextOctet (data : Memory) (inputLength i : Nat) : UInt32 × Nat :=
  if i < inputLength then ((data i).toUInt32, i + 1) else (0, i)

/-- The four characters of `triple`. -/
def encodeTriple (triple : UInt32) : List UInt8 :=
  [encodingTable.getD ((triple >>> 18) &&& 0x3F).toNat 0, encodingTable.getD ((triple >>> 12) &&& 0x3F).toNat 0,
    encodingTable.getD ((triple >>> 6) &&& 0x3F).toNat 0, encodingTable.getD ((triple >>> 0) &&& 0x3F).toNat 0]

/-- A round of the loop of `base64_encode`; the writer's place is `j`. -/
def encodeRound (data : Memory) (inputLength : Nat) : Nat × Writer → Nat × Writer
  | (i, encoded) =>
    let (octetA, i) := nextOctet data inputLength i
    let (octetB, i) := nextOctet data inputLength i
    let (octetC, i) := nextOctet data inputLength i
    let triple := (octetA <<< 0x10) + (octetB <<< 0x08) + octetC
    (i, encoded.put (encodeTriple triple))

/-- The loop of `base64_encode`; `none` if it does not end in so many rounds. -/
def encodeLoop (data : Memory) (inputLength : Nat) : Nat → Nat × Writer → Option (Nat × Writer) :=
  whileLoop (fun s => decide (s.1 < inputLength)) (encodeRound data inputLength)

/-- `base64_encode` into memory that `malloc` gives: the memory afterwards and `*output_length`. -/
def base64Encode (data : Memory) (inputLength : Nat) (heap : Memory) : Option (Memory × Nat) :=
  let outputLength := 4 * ((inputLength + 2) / 3)
  (encodeLoop data inputLength (inputLength + 1) (0, ⟨heap, 0⟩)).map fun (_, encoded) =>
    let padded := (List.range (modTable.getD (inputLength % 3) 0)).foldl
      (fun m i => m.write (outputLength - 1 - i) [equalSign]) encoded.field
    (padded.write outputLength [0], outputLength)

/-- `build_base64_decoding_table`. -/
def decodingTable : Memory :=
  (List.range 64).foldl (fun table i => table.write (encodingTable.getD i 0).toNat [UInt8.ofNat i]) (fun _ => 0)

/-- A character's value. The index is a signed `char`: `front` is what lies in front of the table. -/
def nextSextet (front : UInt8 → UInt32) (data : Memory) (i : Nat) : UInt32 :=
  if data i = equalSign then 0
  else if data i < 0x80 then (decodingTable (data i).toNat).toUInt32
  else front (data i)

/-- `if (j < *output_length) decoded_data[j++] = byte`. -/
def putWithin (limit : Nat) (w : Writer) (byte : UInt8) : Writer := if w.len < limit then w.put [byte] else w

/-- A round of the loop of `base64_decode`. -/
def decodeRound (front : UInt8 → UInt32) (data : Memory) (outputLength : Nat) : Nat × Writer → Nat × Writer
  | (i, decoded) =>
    let triple := (nextSextet front data i <<< 18) + (nextSextet front data (i + 1) <<< 12) +
      (nextSextet front data (i + 2) <<< 6) + (nextSextet front data (i + 3) <<< 0)
    let decoded := putWithin outputLength decoded ((triple >>> 16) &&& 0xFF).toUInt8
    let decoded := putWithin outputLength decoded ((triple >>> 8) &&& 0xFF).toUInt8
    let decoded := putWithin outputLength decoded ((triple >>> 0) &&& 0xFF).toUInt8
    (i + 4, decoded)

/-- `*output_length` of `base64_decode`. In a string of fewer than two characters it looks in front of
the string; the two first ones stand for that here. -/
def decodedLength (data : Memory) (inputLength : Nat) : Nat :=
  let outputLength := inputLength / 4 * 3
  let outputLength := if data (inputLength - 1) = equalSign then outputLength - 1 else outputLength
  if data (inputLength - 2) = equalSign then outputLength - 1 else outputLength

/-- The loop of `base64_decode`, which counts with an `int`. -/
def decodeLoop (front : UInt8 → UInt32) (data : Memory) (inputLength outputLength : Nat) :
    Nat → Nat × Writer → Option (Nat × Writer) :=
  whileLoop (fun s => decide ((s.1 : Int) < intOfSize inputLength)) (decodeRound front data outputLength)

/-- `base64_decode`; `none` stands for NULL. -/
def base64Decode (front : UInt8 → UInt32) (data : Memory) (inputLength : Nat) (heap : Memory) : Option (Memory × Nat) :=
  if inputLength % 4 ≠ 0 then none
  else
    let outputLength := decodedLength data inputLength
    (decodeLoop front data inputLength outputLength (inputLength + 1) (0, ⟨heap, 0⟩)).map fun (_, decoded) =>
      (decoded.field, outputLength)

def digit (n : Nat) : UInt8 := encodingTable.getD n 0

/-- The text of a byte string in the alphabet of the table. -/
def base64Text (bytes : List UInt8) : List UInt8 := Base64.text digit equalSign bytes

theorem digit_properties : ∀ n < 64, digit n ≠ equalSign ∧ digit n < 0x80 ∧ digit n ≠ 0 ∧
    decodingTable (digit n).toNat = UInt8.ofNat n := by
  decide +kernel

theorem mask_toNat (x : UInt32) (k : UInt32) (bits : Nat) (mask : UInt32) (low : mask.toNat = 2 ^ bits - 1) :
    ((x >>> k) &&& mask).toNat = x.toNat / 2 ^ (k.toNat % 32) % 2 ^ bits := by
  rw [UInt32.toNat_and, UInt32.toNat_shiftRight, low, Nat.and_two_pow_sub_one_eq_mod, Nat.shiftRight_eq_div_pow]

theorem octets_toNat (a b c : UInt8) :
    ((a.toUInt32 <<< 0x10) + (b.toUInt32 <<< 0x08) + c.toUInt32).toNat = Base64.triple a b c := by
  have small := Base64.triple_lt a b c
  unfold Base64.triple at small ⊢
  simp only [UInt32.toNat_add, UInt32.toNat_shiftLeft, UInt8.toNat_toUInt32, Nat.shiftLeft_eq, UInt32.reduceToNat,
    Nat.reduceMod, Nat.reducePow]
  omega

theorem encodeTriple_octets (a b c : UInt8) :
    encodeTriple ((a.toUInt32 <<< 0x10) + (b.toUInt32 <<< 0x08) + c.toUInt32) = Base64.quad digit a b c := by
  have number := octets_toNat a b c
  generalize (a.toUInt32 <<< 0x10) + (b.toUInt32 <<< 0x08) + c.toUInt32 = triple at number ⊢
  simp only [encodeTriple, mask_toNat triple _ 6 0x3F rfl, number]
  rfl

section Encode

variable {data : Memory} {n i fuel : Nat} {w : Writer} {a b c : UInt8}

theorem nextOctet_inside (inside : i < n) (here : data i = a) : nextOctet data n i = (a.toUInt32, i + 1) := by
  rw [nextOctet, if_pos inside, here]

theorem nextOctet_outside : nextOctet data n n = ((0 : UInt8).toUInt32, n) := if_neg (Nat.lt_irrefl n)

theorem encodeRound_three (inside : i + 2 < n) (first : data i = a) (second : data (i + 1) = b)
    (third : data (i + 2) = c) : encodeRound data n (i, w) = (i + 3, w.put (Base64.quad digit a b c)) := by
  have octetA := nextOctet_inside (show i < n by omega) first
  have octetB := nextOctet_inside (show i + 1 < n by omega) second
  simp only [encodeRound, octetA, octetB, nextOctet_inside inside third, encodeTriple_octets]

theorem encodeRound_two (last : i + 2 = n) (first : data i = a) (second : data (i + 1) = b) :
    encodeRound data n (i, w) = (n, w.put (Base64.quad digit a b 0)) := by
  have octetA := nextOctet_inside (show i < n by omega) first
  have octetB := nextOctet_inside (show i + 1 < n by omega) second
  simp only [encodeRound, octetA, octetB, last, nextOctet_outside, encodeTriple_octets]

theorem encodeRound_one (last : i + 1 = n) (first : data i = a) :
    encodeRound data n (i, w) = (n, w.put (Base64.quad digit a 0 0)) := by
  have octetA := nextOctet_inside (show i < n by omega) first
  simp only [encodeRound, octetA, last, nextOctet_outside, encodeTriple_octets]

theorem encodeLoop_next (inside : i < n) :
    encodeLoop data n (fuel + 1) (i, w) = encodeLoop data n fuel (encodeRound data n (i, w)) :=
  if_pos (decide_eq_true inside)

theorem encodeLoop_done : encodeLoop data n (fuel + 1) (n, w) = some (n, w) :=
  if_neg (Bool.eq_false_iff.mp (decide_eq_false (Nat.lt_irrefl n)))

theorem encodeLoop_run (rest : List UInt8) (stored : data.slice i rest.length = rest) (total : i + rest.length = n)
    (enough : rest.length < fuel) :
    ∃ w', encodeLoop data n fuel (i, w) = some (n, w') ∧ w'.written = w.written ++ Base64.filled digit rest := by
  fun_induction Base64.filled digit rest generalizing i w fuel with
  | case1 =>
    obtain ⟨fuel, rfl⟩ := Nat.exists_eq_add_one.mpr enough
    obtain rfl : i = n := total
    exact ⟨w, encodeLoop_done, (List.append_nil _).symm⟩
  | case2 a =>
    obtain ⟨fuel, rfl⟩ := Nat.exists_eq_add_of_le' enough
    have first : data i = a := Memory.apply_of_slice stored Nat.one_pos
    refine ⟨w.put (Base64.quad digit a 0 0), ?_, Writer.written_put _ _⟩
    have inside : i < n := by
      rw [List.length_singleton] at total
      omega
    rw [List.length_singleton, encodeLoop_next inside, encodeRound_one total first, encodeLoop_done]
  | case3 a b =>
    obtain ⟨fuel, rfl⟩ := Nat.exists_eq_add_of_le' enough
    have first : data i = a := Memory.apply_of_slice stored Nat.two_pos
    have second : data (i + 1) = b := Memory.apply_of_slice stored Nat.one_lt_two
    refine ⟨w.put (Base64.quad digit a b 0), ?_, Writer.written_put _ _⟩
    have inside : i < n := by
      simp only [List.length_cons, List.length_nil] at total
      omega
    rw [show fuel + [a, b].length.succ = fuel + 2 + 1 from rfl, encodeLoop_next inside,
      encodeRound_two total first second, encodeLoop_done]
  | case4 a b c rest ih =>
    obtain ⟨fuel, rfl⟩ := Nat.exists_eq_add_one.mpr (Nat.zero_lt_of_lt enough)
    simp only [List.length_cons] at total enough
    have first : data i = a := Memory.apply_of_slice stored (show 0 < rest.length + 3 by omega)
    have second : data (i + 1) = b := Memory.apply_of_slice stored (show 1 < rest.length + 3 by omega)
    have third : data (i + 2) = c := Memory.apply_of_slice stored (show 2 < rest.length + 3 by omega)
    have parts : data.slice i (rest.length + 3) = [a, b, c] ++ rest := stored
    obtain ⟨w', run, written⟩ := ih (Memory.slice_parts parts).2
      (by simp only [List.length_cons, List.length_nil]; omega) (show rest.length < fuel by omega)
    refine ⟨w', ?_, ?_⟩
    · rw [encodeLoop_next (by omega), encodeRound_three (by omega) first second third]
      exact run
    · rw [written, Writer.written_put, List.append_assoc]

theorem pad_apply (m : Memory) (x : UInt8) {size pads : Nat} (short : pads ≤ size) (k : Nat) :
    (List.range pads).foldl (fun m i => m.write (size - 1 - i) [x]) m k =
      if size - pads ≤ k ∧ k < size then x else m k := by
  induction pads with
  | zero => rw [List.range_zero, List.foldl_nil, if_neg (by omega)]
  | succ pads ih =>
    rw [List.range_succ, List.foldl_append, List.foldl_cons, List.foldl_nil]
    by_cases here : k = size - 1 - pads
    · rw [here, if_pos (by omega)]
      exact Memory.write_inside (i := 0) Nat.one_pos
    · rw [Memory.write_outside (by rw [List.length_singleton]; omega), ih (by omega)]
      by_cases inside : size - pads ≤ k ∧ k < size
      · rw [if_pos inside, if_pos (by omega)]
      · rw [if_neg inside, if_neg (by omega)]

theorem slice_pad (m : Memory) (x : UInt8) {size pads : Nat} (short : pads ≤ size) :
    Memory.slice ((List.range pads).foldl (fun m i => m.write (size - 1 - i) [x]) m) 0 size =
      (m.slice 0 size).take (size - pads) ++ List.replicate pads x := by
  have kept : size - pads + pads = size := Nat.sub_add_cancel short
  have split := Memory.slice_append ((List.range pads).foldl (fun m i => m.write (size - 1 - i) [x]) m) 0
    (size - pads) pads
  rw [kept] at split
  rw [split, Memory.take_slice, Nat.min_eq_left (Nat.sub_le _ _)]
  congr 1
  · refine Memory.slice_congr fun k below => ?_
    rw [pad_apply m x short, if_neg (by omega)]
  · refine List.eq_replicate_iff.mpr ⟨Memory.length_slice _ _ _, ?_⟩
    intro byte member
    obtain ⟨k, below, rfl⟩ := List.mem_map.mp member
    rw [pad_apply m x short, if_pos (by have := List.mem_range.mp below; omega)]

theorem modTable_getD (n : Nat) : modTable.getD (n % 3) 0 = Base64.padding n := by
  unfold Base64.padding
  have cases : n % 3 = 0 ∨ n % 3 = 1 ∨ n % 3 = 2 := by omega
  rcases cases with zero | one | two
  · rw [zero]
    rfl
  · rw [one]
    rfl
  · rw [two]
    rfl

/-- `base64_encode` makes the string of the text. -/
theorem base64Encode_text (data : Memory) (n : Nat) (heap : Memory) :
    ∃ encoded, base64Encode data n heap = some (encoded, 4 * ((n + 2) / 3)) ∧
      StringAt encoded 0 (base64Text (data.slice 0 n)) := by
  have length : (data.slice 0 n).length = n := Memory.length_slice _ _ _
  have size : (base64Text (data.slice 0 n)).length = 4 * ((n + 2) / 3) := by
    rw [base64Text, Base64.length_text, length]
  have short : Base64.padding n ≤ 4 * ((n + 2) / 3) := by
    unfold Base64.padding
    omega
  obtain ⟨w, run, written⟩ : ∃ w, encodeLoop data n (n + 1) (0, ⟨heap, 0⟩) = some (n, w) ∧
      w.written = [] ++ Base64.filled digit (data.slice 0 n) :=
    encodeLoop_run _ (by rw [length]) (by rw [length, Nat.zero_add]) (by omega)
  have filled : w.field.slice 0 (4 * ((n + 2) / 3)) = Base64.filled digit (data.slice 0 n) := by
    have count := congrArg List.length written
    rw [Writer.length_written, List.nil_append, Base64.length_filled, length] at count
    rw [← count]
    exact written
  have text := slice_pad w.field equalSign short
  rw [filled] at text
  have described := Base64.text_eq digit equalSign (data.slice 0 n)
  rw [Base64.length_filled, length] at described
  refine ⟨_, ?_, .closed (text.trans described.symm) ?_⟩
  · simp only [base64Encode, run, Option.map_some, modTable_getD]
  · exact Base64.text_forall digit equalSign (fun k small => (digit_properties k small).2.2.1) (by decide) _

end Encode

section Decode

variable {front : UInt8 → UInt32} {data : Memory} {n i limit fuel : Nat} {w : Writer} {a b c : UInt8}

theorem nextSextet_digit {k : Nat} (small : k < 64) (here : data i = digit k) :
    (nextSextet front data i).toNat = k := by
  obtain ⟨sign, ascii, _, value⟩ := digit_properties k small
  rw [nextSextet, here, if_neg sign, if_pos ascii, value, UInt8.toNat_toUInt32, UInt8.toNat_ofNat']
  exact Nat.mod_eq_of_lt (by omega)

theorem nextSextet_pad (here : data i = equalSign) : (nextSextet front data i).toNat = 0 := by
  rw [nextSextet, if_pos here, UInt32.toNat_zero]

theorem sextets_toNat {sa sb sc sd : UInt32} (ha : sa.toNat < 64) (hb : sb.toNat < 64) (hc : sc.toNat < 64)
    (hd : sd.toNat < 64) : ((sa <<< 18) + (sb <<< 12) + (sc <<< 6) + (sd <<< 0)).toNat =
      sa.toNat * 262144 + sb.toNat * 4096 + sc.toNat * 64 + sd.toNat := by
  simp only [UInt32.toNat_add, UInt32.toNat_shiftLeft, Nat.shiftLeft_eq, UInt32.reduceToNat, Nat.reduceMod,
    Nat.reducePow]
  omega

theorem byte_of_triple {number : UInt32} (k : UInt32) {byte : UInt8}
    (value : number.toNat / 2 ^ (k.toNat % 32) % 256 = byte.toNat) : ((number >>> k) &&& 0xFF).toUInt8 = byte := by
  rw [← UInt8.toNat_inj, UInt32.toNat_toUInt8, mask_toNat number k 8 0xFF rfl, ← value]
  exact Nat.mod_mod_of_dvd _ (by decide)

/-- The four characters from `i` on stand for three bytes. -/
structure Reads (front : UInt8 → UInt32) (data : Memory) (i : Nat) (a b c : UInt8) : Prop where
  first : (nextSextet front data i).toNat = Base64.sextet (Base64.triple a b c) 3
  second : (nextSextet front data (i + 1)).toNat = Base64.sextet (Base64.triple a b c) 2
  third : (nextSextet front data (i + 2)).toNat = Base64.sextet (Base64.triple a b c) 1
  fourth : (nextSextet front data (i + 3)).toNat = Base64.sextet (Base64.triple a b c) 0

theorem Reads.decodeRound (reads : Reads front data i a b c) :
    decodeRound front data limit (i, w) = (i + 4, putWithin limit (putWithin limit (putWithin limit w a) b) c) := by
  have number := sextets_toNat (reads.first ▸ Base64.sextet_lt _ _) (reads.second ▸ Base64.sextet_lt _ _)
    (reads.third ▸ Base64.sextet_lt _ _) (reads.fourth ▸ Base64.sextet_lt _ _)
  rw [reads.first, reads.second, reads.third, reads.fourth, Base64.sextets_join (Base64.triple_lt a b c)] at number
  obtain ⟨first, second, third⟩ := Base64.triple_bytes a b c
  rw [← number] at first second third
  simp only [TurnCluster.decodeRound, byte_of_triple 16 first, byte_of_triple 8 second, byte_of_triple 0
    ((congrArg (· % 256) (Nat.div_one _)).trans third)]

theorem putWithin_room (room : w.len < limit) (byte : UInt8) : putWithin limit w byte = w.put [byte] := if_pos room

theorem putWithin_full (full : w.len = limit) (byte : UInt8) : putWithin limit w byte = w :=
  if_neg (Nat.not_lt.mpr (Nat.le_of_eq full.symm))

theorem decodeLoop_next (size : n < 2 ^ 31) (inside : i < n) :
    decodeLoop front data n limit (fuel + 1) (i, w) =
      decodeLoop front data n limit fuel (decodeRound front data limit (i, w)) := by
  have below : (i : Int) < intOfSize n := by
    rw [intOfSize_of_small size]
    omega
  exact if_pos (decide_eq_true below)

theorem decodeLoop_done (size : n < 2 ^ 31) : decodeLoop front data n limit (fuel + 1) (n, w) = some (n, w) := by
  have stop : ¬ (n : Int) < intOfSize n := by
    rw [intOfSize_of_small size]
    omega
  exact if_neg (Bool.eq_false_iff.mp (decide_eq_false stop))

theorem decodeLoop_last (size : n < 2 ^ 31) {w' : Writer} (ends : i + 4 = n)
    (round : decodeRound front data limit (i, w) = (i + 4, w')) (enough : 4 < fuel) :
    decodeLoop front data n limit fuel (i, w) = some (n, w') := by
  obtain ⟨fuel, rfl⟩ : ∃ rest, fuel = rest + 3 + 1 + 1 := Nat.exists_eq_add_of_le' enough
  rw [decodeLoop_next size (by omega), round, ends, decodeLoop_done size]

/-- A character stands for a sextet: it is its digit, or the sign that fills up with zeros. -/
def StandsFor (char : UInt8) (sextet : Nat) : Prop := char = digit sextet ∨ char = equalSign ∧ sextet = 0

theorem nextSextet_standsFor {char : UInt8} {number k : Nat} (here : data i = char)
    (stands : StandsFor char (Base64.sextet number k)) : (nextSextet front data i).toNat = Base64.sextet number k := by
  rcases stands with same | ⟨same, zero⟩
  · exact nextSextet_digit (Base64.sextet_lt _ _) (here.trans same)
  · rw [zero]
    exact nextSextet_pad (here.trans same)

theorem reads_of_slice {p q r s : UInt8} (stored : data.slice i 4 = [p, q, r, s])
    (first : StandsFor p (Base64.sextet (Base64.triple a b c) 3))
    (second : StandsFor q (Base64.sextet (Base64.triple a b c) 2))
    (third : StandsFor r (Base64.sextet (Base64.triple a b c) 1))
    (fourth : StandsFor s (Base64.sextet (Base64.triple a b c) 0)) : Reads front data i a b c where
  first := nextSextet_standsFor (Memory.apply_of_slice (i := 0) stored (by decide)) first
  second := nextSextet_standsFor (Memory.apply_of_slice (i := 1) stored (by decide)) second
  third := nextSextet_standsFor (Memory.apply_of_slice (i := 2) stored (by decide)) third
  fourth := nextSextet_standsFor (Memory.apply_of_slice (i := 3) stored (by decide)) fourth

theorem decodeLoop_run (size : n < 2 ^ 31) (rest : List UInt8)
    (stored : data.slice i (base64Text rest).length = base64Text rest) (total : i + (base64Text rest).length = n)
    (room : w.len + rest.length = limit) (enough : (base64Text rest).length < fuel) :
    ∃ w', decodeLoop front data n limit fuel (i, w) = some (n, w') ∧ w'.written = w.written ++ rest := by
  unfold base64Text at stored total enough
  fun_induction Base64.text digit equalSign rest generalizing i w fuel with
  | case1 =>
    obtain ⟨fuel, rfl⟩ := Nat.exists_eq_add_one.mpr enough
    obtain rfl : i = n := total
    exact ⟨w, decodeLoop_done size, (List.append_nil _).symm⟩
  | case2 a =>
    obtain ⟨_, third, fourth⟩ := Base64.sextet_of_zeros a 0
    have reads : Reads front data i a 0 0 := reads_of_slice stored (Or.inl rfl) (Or.inl rfl)
      (Or.inr ⟨rfl, third⟩) (Or.inr ⟨rfl, fourth⟩)
    have full : (w.put [a]).len = limit := room
    have more : w.len < limit := by
      rw [← room]
      exact Nat.lt_succ_self _
    refine ⟨w.put [a], decodeLoop_last size total ?_ enough, Writer.written_put _ _⟩
    rw [reads.decodeRound, putWithin_room more, putWithin_full full, putWithin_full full]
  | case3 a b =>
    have reads : Reads front data i a b 0 := reads_of_slice stored (Or.inl rfl) (Or.inl rfl) (Or.inl rfl)
      (Or.inr ⟨rfl, (Base64.sextet_of_zeros a b).1⟩)
    have full : ((w.put [a]).put [b]).len = limit := room
    have more : (w.put [a]).len < limit := by
      rw [← room]
      exact Nat.lt_succ_self _
    refine ⟨(w.put [a]).put [b], decodeLoop_last size total ?_ enough, ?_⟩
    · rw [reads.decodeRound, putWithin_room (Nat.lt_of_succ_lt more), putWithin_room more, putWithin_full full]
    · rw [Writer.written_put, Writer.written_put, List.append_assoc]
      rfl
  | case4 a b c rest ih =>
    obtain ⟨fuel, rfl⟩ := Nat.exists_eq_add_one.mpr (Nat.zero_lt_of_lt enough)
    have reads : Reads front data i a b c := reads_of_slice (Memory.slice_parts stored).1 (Or.inl rfl)
      (Or.inl rfl) (Or.inl rfl) (Or.inl rfl)
    rw [List.length_append, Base64.length_quad] at total enough
    simp only [List.length_cons] at room
    have last : ((w.put [a]).put [b]).len < limit := by
      rw [← room]
      show w.len + 1 + 1 < _
      omega
    obtain ⟨w', run, written⟩ := ih (Memory.slice_parts stored).2 (by rw [Base64.length_quad]; omega)
      (show (((w.put [a]).put [b]).put [c]).len + rest.length = limit by
        show w.len + 1 + 1 + 1 + rest.length = limit
        omega)
      (show (Base64.text digit equalSign rest).length < fuel by omega)
    refine ⟨w', ?_, ?_⟩
    · rw [decodeLoop_next size (by omega), reads.decodeRound,
        putWithin_room (Nat.lt_of_succ_lt (Nat.lt_of_succ_lt last)), putWithin_room (Nat.lt_of_succ_lt last),
        putWithin_room last]
      exact run
    · rw [written, Writer.written_put, Writer.written_put, Writer.written_put, List.append_assoc, List.append_assoc,
        List.append_assoc]
      rfl

theorem end_of_slice {front : List UInt8} {p q r s : UInt8} (stored : data.slice 0 n = front ++ [p, q, r, s]) :
    data (n - 1) = s ∧ data (n - 2) = r := by
  have size : n = front.length + 4 := by
    rw [← Memory.length_slice data 0 n, stored, List.length_append]
    rfl
  have behind : data.slice front.length 4 = [p, q, r, s] := by
    have parts := (Memory.slice_parts stored).2
    rwa [Nat.zero_add] at parts
  rw [size]
  exact ⟨Memory.apply_of_slice behind (show 3 < 4 by decide), Memory.apply_of_slice behind (show 2 < 4 by decide)⟩

theorem decodedLength_text {bytes : List UInt8} (nonempty : bytes ≠ []) (size : n = 4 * ((bytes.length + 2) / 3))
    (stored : data.slice 0 n = base64Text bytes) : decodedLength data n = bytes.length := by
  have positive : 0 < bytes.length := List.length_pos_iff.mpr nonempty
  have sign (number k : Nat) : digit (Base64.sextet number k) ≠ equalSign :=
    (digit_properties _ (Base64.sextet_lt _ _)).1
  obtain ⟨front, a, b, c, ends⟩ := Base64.text_end digit equalSign bytes nonempty
  rw [base64Text, ends] at stored
  unfold decodedLength
  dsimp only
  by_cases one : bytes.length % 3 = 1
  · rw [if_pos one] at stored
    obtain ⟨last, before⟩ := end_of_slice stored
    rw [if_pos before, if_pos last]
    omega
  · rw [if_neg one] at stored
    by_cases two : bytes.length % 3 = 2
    · rw [if_pos two] at stored
      obtain ⟨last, before⟩ := end_of_slice stored
      rw [if_neg fun same => sign _ 1 (before.symm.trans same), if_pos last]
      omega
    · rw [if_neg two] at stored
      obtain ⟨last, before⟩ := end_of_slice stored
      rw [if_neg fun same => sign _ 1 (before.symm.trans same), if_neg fun same => sign _ 0 (last.symm.trans same)]
      omega

/-- `base64_decode` reads a text back. -/
theorem base64Decode_text {bytes : List UInt8} (nonempty : bytes ≠ []) (size : n = 4 * ((bytes.length + 2) / 3))
    (small : n < 2 ^ 31) (stored : data.slice 0 n = base64Text bytes) (heap : Memory) :
    ∃ decoded, base64Decode front data n heap = some (decoded, bytes.length) ∧
      decoded.slice 0 bytes.length = bytes := by
  have length : (base64Text bytes).length = n := by rw [base64Text, Base64.length_text, size]
  obtain ⟨w, run, written⟩ : ∃ w, decodeLoop front data n bytes.length (n + 1) (0, ⟨heap, 0⟩) = some (n, w) ∧
      w.written = [] ++ bytes :=
    decodeLoop_run small bytes (by rw [length, stored]) (by rw [length, Nat.zero_add]) (Nat.zero_add _)
      (by rw [length]; exact Nat.lt_succ_self n)
  have count := congrArg List.length written
  rw [Writer.length_written, List.nil_append] at count
  refine ⟨w.field, ?_, ?_⟩
  · have whole : ¬ n % 4 ≠ 0 := by omega
    simp only [base64Decode, if_neg whole, decodedLength_text nonempty size stored, run, Option.map_some]
  · rw [← count]
    exact written

end Decode

/-- The bytes of a mobile id as they lie in memory, and `mobile_id_to_string`. -/
def mobileIdToString (mid : UInt64) (dst : Memory) (dstSz : Nat) (heap : Memory) : Int × Memory :=
  match base64Encode (Memory.ofList (bytes64 mid)) 8 heap with
  | none => (-1, dst)
  | some (s, outputLength) =>
    if outputLength = 0 ∨ dstSz < outputLength + 1 then (-1, dst)
    else (outputLength, (dst.write 0 (s.slice 0 outputLength)).write outputLength [0])

/-- `string_to_mobile_id`; `none` if the string does not end in so many bytes. -/
def stringToMobileId (front : UInt8 → UInt32) (fuel : Nat) (src heap : Memory) : Option UInt64 :=
  (strlen src fuel 0).map fun inputLength =>
    match base64Decode front src inputLength heap with
    | none => 0
    | some (out, outputLength) => if outputLength = 8 then le64 out 0 else 0

theorem base64_inverse {bytes : List UInt8} (nonempty : bytes ≠ []) (size : bytes.length < 2 ^ 30)
    (front : UInt8 → UInt32) (heap heap' : Memory) :
    ∃ encoded outputLength, base64Encode (Memory.ofList bytes) bytes.length heap = some (encoded, outputLength) ∧
      ∃ decoded, base64Decode front encoded outputLength heap' = some (decoded, bytes.length) ∧
        decoded.slice 0 bytes.length = bytes := by
  obtain ⟨encoded, made, string⟩ := base64Encode_text (Memory.ofList bytes) bytes.length heap
  rw [Memory.slice_ofList] at string
  have stored := string.slice
  rw [base64Text, Base64.length_text] at stored
  exact ⟨encoded, _, made, base64Decode_text nonempty rfl (by omega) stored heap'⟩

theorem mobileIdToString_ticket (mid : UInt64) (dst heap : Memory) :
    ∃ dst', mobileIdToString mid dst 33 heap = (12, dst') ∧ StringAt dst' 0 (base64Text (bytes64 mid)) := by
  obtain ⟨s, made, string⟩ := base64Encode_text (Memory.ofList (bytes64 mid)) 8 heap
  have whole := Memory.slice_ofList (bytes64 mid)
  rw [length_bytes64] at whole
  rw [whole] at string
  have size : (base64Text (bytes64 mid)).length = 12 := by rw [base64Text, Base64.length_text, length_bytes64]
  have copied := Memory.slice_write dst 0 (s.slice 0 12)
  have text := string.slice
  rw [size] at text
  rw [Memory.length_slice, text] at copied
  refine ⟨(dst.write 0 (s.slice 0 12)).write 12 [0], ?_, ?_⟩
  · rw [mobileIdToString, made]
    rfl
  · rw [text]
    exact .closed copied string.nonzero

theorem stringToMobileId_ticket {src : Memory} {mid : UInt64} (ticket : StringAt src 0 (base64Text (bytes64 mid)))
    (front : UInt8 → UInt32) (heap : Memory) : stringToMobileId front 33 src heap = some mid := by
  have size : (base64Text (bytes64 mid)).length = 12 := by rw [base64Text, Base64.length_text, length_bytes64]
  have stored := ticket.slice
  rw [size] at stored
  have nonempty : bytes64 mid ≠ [] := fun empty => absurd (empty ▸ length_bytes64 mid) (by decide)
  obtain ⟨out, read, same⟩ : ∃ out, base64Decode front src 12 heap = some (out, (bytes64 mid).length) ∧
      out.slice 0 (bytes64 mid).length = bytes64 mid :=
    base64Decode_text nonempty (by rw [length_bytes64]) (by decide) stored heap
  rw [length_bytes64] at read same
  rw [stringToMobileId, ticket.strlen (by omega), size, Option.map_some, read]
  simp only [if_true, le64, same, ofNat_leNumber_bytes64]

/-- Base64 loses nothing, and so a mobility ticket gives its id back. -/
theorem base64_round_trip (bytes : List UInt8) (nonempty : bytes ≠ []) (size : bytes.length < 2 ^ 30)
    (front : UInt8 → UInt32) (heap heap' : Memory) :
    (∃ encoded outputLength, base64Encode (Memory.ofList bytes) bytes.length heap = some (encoded, outputLength) ∧
      ∃ decoded, base64Decode front encoded outputLength heap' = some (decoded, bytes.length) ∧
        decoded.slice 0 bytes.length = bytes) ∧
    ∀ (mid : UInt64) (dst : Memory), (mobileIdToString mid dst 33 heap).1 = 12 ∧
      stringToMobileId front 33 (mobileIdToString mid dst 33 heap).2 heap' = some mid := by
  refine ⟨base64_inverse nonempty size front heap heap', fun mid dst => ?_⟩
  obtain ⟨dst', made, ticket⟩ := mobileIdToString_ticket mid dst heap
  rw [made]
  exact ⟨rfl, stringToMobileId_ticket ticket front heap'⟩

theorem base64_round_trip_four : ([77, 97, 110, 33] : List UInt8) ≠ [] ∧ [77, 97, 110, 33].length < 2 ^ 30 ∧
    stringToMobileId (fun _ => 0) 33 (mobileIdToString 0xFEDCBA9876543210 (fun _ => 7) 33 (fun _ => 9)).2 (fun _ => 5) =
      some 0xFEDCBA9876543210 :=
  ⟨by decide, by decide, ((base64_round_trip [77, 97, 110, 33] (by decide) (by decide) (fun _ => 0) (fun _ => 9)
    (fun _ => 5)).2 0xFEDCBA9876543210 (fun _ => 7)).2⟩

end TurnCluster
