import Mathlib.Data.List.TakeWhile
import WebBaseline.Text.Utf8

/-!
# Texts and their bytes

Strict decoding undoes encoding.  Every character is encoded as one byte below 0x80, or as a first
byte that says how many bytes follow and in which range the second one lies, and that many bytes
which hold six bits each.  Unifying line ends leaves a text without carriage returns as it is.
-/

namespace WebBaseline.Text

/-! ### The bytes of a text -/

theorem toList_loop_byteArray (bytes : ByteArray) (i : Nat) (read : List UInt8) :
    ByteArray.toList.loop bytes i read = read.reverse ++ bytes.data.toList.drop i := by
  fun_induction ByteArray.toList.loop bytes i read with
  | case1 i read hi ih =>
      have hi' : i < bytes.data.toList.length := hi
      have hget : bytes.get! i = bytes.data.toList[i] := by
        rw [Array.getElem_toList]
        exact getElem!_pos bytes.data i hi
      rw [ih, List.drop_eq_getElem_cons hi', hget, List.reverse_cons, List.append_assoc]
      rfl
  | case2 i read hi =>
      have hi' : bytes.data.toList.length ≤ i := Nat.le_of_not_lt hi
      rw [List.drop_eq_nil_of_le hi', List.append_nil]

theorem toList_toUTF8 (s : String) :
    s.toUTF8.toList = s.toList.flatMap String.utf8EncodeChar := by
  have hbytes : s.toUTF8.data.toList = s.toList.flatMap String.utf8EncodeChar := by
    have hs : s.toByteArray = s.toList.utf8Encode := by
      rw [← String.toByteArray_ofList, String.ofList_toList]
    rw [String.toUTF8_eq_toByteArray, hs]
    exact List.toList_data_toByteArray
  rw [ByteArray.toList, toList_loop_byteArray, hbytes]
  rfl

/-! ### One character -/

theorem toNat_ofNat_byte {n : Nat} (h : n < 256) : (UInt8.ofNat n).toNat = n := by
  rw [UInt8.toNat_ofNat']
  exact Nat.mod_eq_of_lt h

theorem ofNat_byte_le {b : UInt8} {n : Nat} (hn : n < 256) (h : n ≤ b.toNat) :
    UInt8.ofNat n ≤ b := by
  rw [UInt8.le_iff_toNat_le, toNat_ofNat_byte hn]
  exact h

theorem le_ofNat_byte {b : UInt8} {n : Nat} (hn : n < 256) (h : b.toNat ≤ n) :
    b ≤ UInt8.ofNat n := by
  rw [UInt8.le_iff_toNat_le, toNat_ofNat_byte hn]
  exact h

theorem not_ofNat_byte_lt {n : Nat} (hn : n < 256) (h : 0x80 ≤ n) : ¬ UInt8.ofNat n < 0x80 := by
  rw [UInt8.lt_iff_toNat_lt, toNat_ofNat_byte hn]
  exact Nat.not_lt_of_le h

/-- The shape that a first byte announces, by its number. -/
theorem leadShape_ofNat : ∀ n < 256, leadShape (UInt8.ofNat n) =
    if 0xC2 ≤ n ∧ n ≤ 0xDF then some (1, 0x80, 0xBF)
    else if n = 0xE0 then some (2, 0xA0, 0xBF)
    else if n = 0xED then some (2, 0x80, 0x9F)
    else if 0xE1 ≤ n ∧ n ≤ 0xEF then some (2, 0x80, 0xBF)
    else if n = 0xF0 then some (3, 0x90, 0xBF)
    else if 0xF1 ≤ n ∧ n ≤ 0xF3 then some (3, 0x80, 0xBF)
    else if n = 0xF4 then some (3, 0x80, 0x8F)
    else none := by
  decide +kernel

/-- A first byte with as many bytes behind it as it asks for, all of them in their ranges. -/
theorem decodeStep_of_leadShape {b second low high : UInt8} {count : Nat} (hb : ¬ b < 0x80)
    (hshape : leadShape b = some (count, low, high)) (hlow : low ≤ second) (hhigh : second ≤ high)
    (tails : List UInt8) (htails : ∀ t ∈ tails, 0x80 ≤ t ∧ t ≤ 0xBF)
    (hcount : tails.length = count - 1) (rest : List UInt8) :
    decodeStep (b :: second :: (tails ++ rest)) =
      .char (Char.ofNat ((second :: tails).foldl (fun n t ↦ n * 64 + t.toNat % 64)
        (leadBits count b))) (count + 1) := by
  have htake : (tails ++ rest).take (count - 1) = tails := by
    rw [← hcount, List.take_left']
    rfl
  have hgood : tails.takeWhile (fun t ↦ decide (0x80 ≤ t) && decide (t ≤ 0xBF)) = tails := by
    refine List.takeWhile_eq_self_iff.mpr fun t ht ↦ ?_
    simpa using htails t ht
  rw [decodeStep, if_neg hb, hshape]
  simp only [hlow, hhigh, decide_true, Bool.and_self, Bool.not_true, Bool.false_eq_true, if_false,
    htake, hgood, hcount, if_true]

/-- A byte that holds six bits of a character. -/
theorem continuation_range (n : Nat) :
    0x80 ≤ UInt8.ofNat (n % 64 + 128) ∧ UInt8.ofNat (n % 64 + 128) ≤ 0xBF := by
  refine ⟨le_ofNat_byte (by omega) ?_, ofNat_byte_le (by omega) ?_⟩
  · exact Nat.le_add_left 128 (n % 64)
  · have hbits : n % 64 + 128 ≤ 191 := by omega
    exact hbits

theorem toNat_continuation (n : Nat) : (UInt8.ofNat (n % 64 + 128)).toNat % 64 = n % 64 := by
  rw [toNat_ofNat_byte (by omega)]
  omega

section Lengths

variable {v : Nat} (rest : List UInt8)

theorem decodeStep_two (hlow : 0x80 ≤ v) (hhigh : v ≤ 0x7FF) :
    decodeStep ([UInt8.ofNat (v / 64 % 32 + 192), UInt8.ofNat (v % 64 + 128)] ++ rest) =
      .char (Char.ofNat v) 2 := by
  have hlead : v / 64 % 32 + 192 < 256 := by omega
  have hshape : leadShape (UInt8.ofNat (v / 64 % 32 + 192)) = some (1, 0x80, 0xBF) := by
    rw [leadShape_ofNat _ hlead, if_pos (by omega)]
  obtain ⟨hfirst, hlast⟩ := continuation_range v
  have hstep := decodeStep_of_leadShape (not_ofNat_byte_lt hlead (by omega)) hshape hfirst hlast
    [] (by simp) rfl rest
  have hvalue : (v / 64 % 32 + 192) % 32 * 64 + v % 64 = v := by omega
  simp only [List.foldl_cons, List.foldl_nil, leadBits, toNat_ofNat_byte hlead, toNat_continuation,
    hvalue] at hstep
  exact hstep

theorem decodeStep_three (hlow : 0x800 ≤ v) (hhigh : v ≤ 0xFFFF)
    (hvalid : v < 0xD800 ∨ 0xDFFF < v) :
    decodeStep ([UInt8.ofNat (v / 4096 % 16 + 224), UInt8.ofNat (v / 64 % 64 + 128),
        UInt8.ofNat (v % 64 + 128)] ++ rest) = .char (Char.ofNat v) 3 := by
  have hlead : v / 4096 % 16 + 224 < 256 := by omega
  have hsecond : v / 64 % 64 + 128 < 256 := by omega
  obtain ⟨hfirst, hlast⟩ := continuation_range (v / 64)
  -- the second byte keeps out short forms after 0xE0 and surrogates after 0xED
  have hshape : ∃ low high, leadShape (UInt8.ofNat (v / 4096 % 16 + 224)) = some (2, low, high) ∧
      low ≤ UInt8.ofNat (v / 64 % 64 + 128) ∧ UInt8.ofNat (v / 64 % 64 + 128) ≤ high := by
    rw [leadShape_ofNat _ hlead, if_neg (by omega)]
    by_cases hE0 : v / 4096 % 16 + 224 = 0xE0
    · rw [if_pos hE0]
      refine ⟨_, _, rfl, le_ofNat_byte hsecond ?_, hlast⟩
      have hbits : 0xA0 ≤ v / 64 % 64 + 128 := by omega
      exact hbits
    · rw [if_neg hE0]
      by_cases hED : v / 4096 % 16 + 224 = 0xED
      · rw [if_pos hED]
        refine ⟨_, _, rfl, hfirst, ofNat_byte_le hsecond ?_⟩
        have hbits : v / 64 % 64 + 128 ≤ 0x9F := by omega
        exact hbits
      · rw [if_neg hED, if_pos (by omega)]
        exact ⟨_, _, rfl, hfirst, hlast⟩
  obtain ⟨low, high, hshape, hlow', hhigh'⟩ := hshape
  have hstep := decodeStep_of_leadShape (not_ofNat_byte_lt hlead (by omega)) hshape hlow' hhigh'
    [UInt8.ofNat (v % 64 + 128)] (by simpa using continuation_range v) rfl rest
  have hvalue : ((v / 4096 % 16 + 224) % 16 * 64 + v / 64 % 64) * 64 + v % 64 = v := by omega
  simp only [List.foldl_cons, List.foldl_nil, leadBits, toNat_ofNat_byte hlead, toNat_continuation,
    hvalue] at hstep
  exact hstep

theorem decodeStep_four (hlow : 0x10000 ≤ v) (hhigh : v < 0x110000) :
    decodeStep ([UInt8.ofNat (v / 262144 % 8 + 240), UInt8.ofNat (v / 4096 % 64 + 128),
        UInt8.ofNat (v / 64 % 64 + 128), UInt8.ofNat (v % 64 + 128)] ++ rest) =
      .char (Char.ofNat v) 4 := by
  have hlead : v / 262144 % 8 + 240 < 256 := by omega
  have hsecond : v / 4096 % 64 + 128 < 256 := by omega
  obtain ⟨hfirst, hlast⟩ := continuation_range (v / 4096)
  -- the second byte keeps out short forms after 0xF0 and what lies beyond the last plane after 0xF4
  have hshape : ∃ low high, leadShape (UInt8.ofNat (v / 262144 % 8 + 240)) = some (3, low, high) ∧
      low ≤ UInt8.ofNat (v / 4096 % 64 + 128) ∧ UInt8.ofNat (v / 4096 % 64 + 128) ≤ high := by
    rw [leadShape_ofNat _ hlead, if_neg (by omega), if_neg (by omega), if_neg (by omega),
      if_neg (by omega)]
    by_cases hF0 : v / 262144 % 8 + 240 = 0xF0
    · rw [if_pos hF0]
      refine ⟨_, _, rfl, le_ofNat_byte hsecond ?_, hlast⟩
      have hbits : 0x90 ≤ v / 4096 % 64 + 128 := by omega
      exact hbits
    · rw [if_neg hF0]
      by_cases hF3 : v / 262144 % 8 + 240 ≤ 0xF3
      · rw [if_pos (by omega)]
        exact ⟨_, _, rfl, hfirst, hlast⟩
      · rw [if_neg (by omega), if_pos (by omega)]
        refine ⟨_, _, rfl, hfirst, ofNat_byte_le hsecond ?_⟩
        have hbits : v / 4096 % 64 + 128 ≤ 0x8F := by omega
        exact hbits
  obtain ⟨low, high, hshape, hlow', hhigh'⟩ := hshape
  have htails : ∀ t ∈ [UInt8.ofNat (v / 64 % 64 + 128), UInt8.ofNat (v % 64 + 128)],
      0x80 ≤ t ∧ t ≤ 0xBF := by
    intro t ht
    rcases List.mem_cons.mp ht with rfl | ht
    · exact continuation_range (v / 64)
    · rw [List.mem_singleton.mp ht]
      exact continuation_range v
  have hstep := decodeStep_of_leadShape (not_ofNat_byte_lt hlead (by omega)) hshape hlow' hhigh'
    _ htails rfl rest
  have hvalue : (((v / 262144 % 8 + 240) % 8 * 64 + v / 4096 % 64) * 64 + v / 64 % 64) * 64 +
      v % 64 = v := by omega
  simp only [List.foldl_cons, List.foldl_nil, leadBits, toNat_ofNat_byte hlead, toNat_continuation,
    hvalue] at hstep
  exact hstep

end Lengths

/-- The bytes of a character are read as this character, whatever follows them. -/
theorem decodeStep_utf8EncodeChar (c : Char) (rest : List UInt8) :
    decodeStep (String.utf8EncodeChar c ++ rest) =
      .char c (String.utf8EncodeChar c).length := by
  have hvalid : c.val.toNat < 0xD800 ∨ 0xDFFF < c.val.toNat ∧ c.val.toNat < 0x110000 := c.valid
  have hc : Char.ofNat c.val.toNat = c := Char.ofNat_toNat c
  unfold String.utf8EncodeChar
  simp only
  by_cases hone : c.val.toNat ≤ 127
  · have hbyte : UInt8.ofNat c.val.toNat < 0x80 := by
      rw [UInt8.lt_iff_toNat_lt, toNat_ofNat_byte (by omega)]
      exact Nat.lt_succ_of_le hone
    rw [if_pos hone, List.singleton_append, decodeStep, if_pos hbyte,
      toNat_ofNat_byte (by omega), hc]
    rfl
  · rw [if_neg hone]
    by_cases htwo : c.val.toNat ≤ 2047
    · rw [if_pos htwo, decodeStep_two rest (by omega) htwo, hc]
      rfl
    · rw [if_neg htwo]
      by_cases hthree : c.val.toNat ≤ 65535
      · rw [if_pos hthree, decodeStep_three rest (by omega) hthree (by omega), hc]
        rfl
      · rw [if_neg hthree, decodeStep_four rest (by omega) (by omega), hc]
        rfl

/-! ### Whole texts -/

theorem decodeFrom_flatMap (cs : List Char) {fuel : Nat} (hfuel : cs.length ≤ fuel)
    (read : List Char) :
    decodeFrom fuel (cs.flatMap String.utf8EncodeChar) read = some (read.reverse ++ cs) := by
  induction cs generalizing fuel read with
  | nil => cases fuel <;> simp [decodeFrom]
  | cons c rest ih =>
      cases fuel with
      | zero => simp at hfuel
      | succ fuel =>
          have hne : (String.utf8EncodeChar c ++
              rest.flatMap String.utf8EncodeChar).isEmpty = false := by
            simp
          rw [List.flatMap_cons, decodeFrom, hne, if_neg Bool.false_ne_true,
            decodeStep_utf8EncodeChar]
          simp only
          rw [List.drop_left, ih (Nat.le_of_succ_le_succ hfuel), List.reverse_cons,
            List.append_assoc, List.singleton_append]

theorem length_le_length_flatMap (cs : List Char) :
    cs.length ≤ (cs.flatMap String.utf8EncodeChar).length := by
  induction cs with
  | nil => exact Nat.le_refl 0
  | cons c rest ih =>
      have hpos := List.length_pos_iff.mpr (String.utf8EncodeChar_ne_nil (c := c))
      rw [List.flatMap_cons, List.length_append, List.length_cons]
      omega

/-- A text is read back from its bytes. -/
theorem decode?_toUTF8 (s : String) : decode? s.toUTF8.toList = some s := by
  rw [toList_toUTF8, decode?, decodeFrom_flatMap s.toList (length_le_length_flatMap s.toList)]
  simp

/-! ### Line ends -/

/-- The text with every line end written as a line feed. -/
def unified (s : String) : String := String.ofList (unifyNewlines s.toList)

theorem unifyNewlines_of_not_mem {cs : List Char} (h : '\r' ∉ cs) : unifyNewlines cs = cs := by
  fun_induction unifyNewlines cs with
  | case1 => rfl
  | case2 rest ih => simp at h
  | case3 c rest hreturn ih =>
      rw [List.mem_cons, not_or] at h
      rw [if_neg (fun hc ↦ h.1 hc.symm), ih h.2]

theorem unified_of_not_mem {s : String} (h : '\r' ∉ s.toList) : unified s = s := by
  rw [unified, unifyNewlines_of_not_mem h, String.ofList_toList]

end WebBaseline.Text
