import NativeBuild.Proofs.Utf8
import Mathlib.Data.String.Basic
import Mathlib.Tactic.SplitIfs

/-!
# Text and its bytes

Writing a text as bytes and reading it back are inverse to each other, in both directions: what was
written is read as the text it was (`decode?_encode`), and what can be read strictly is what would
be written (`encode_of_decode?`). So bytes either are the bytes of one text or of none
(`decode?_eq_some_iff_encode`), and where they are, the lossy reading is the strict one
(`decodeLossy_encode`).

Both directions are proved for one unit at the front, with a case for each of the four lengths that
a unit can have. In between everything is arithmetic on the numbers of bytes, `isSecond_iff`.

Bytes that are no text are read too, by the lossy reading, and cut at their line feeds they are read
line by line (`decodeLossy_append_newline`): no fault reaches over an ASCII byte.

Texts are in the same order as their bytes (`encode_lt_encode_iff`): of two characters the greater
one has the greater first byte, or the same one and then a greater byte.
-/

namespace NativeBuild.Utf8

variable {a b c d : UInt8} {r : Bytes}

/-! ### Bytes as numbers -/

theorem isContinuation_iff : isContinuation b = true ↔ 0x80 ≤ b.toNat ∧ b.toNat ≤ 0xBF := by
  simp only [isContinuation, Bool.and_eq_true, decide_eq_true_eq, UInt8.le_iff_toNat_le,
    UInt8.reduceToNat]

/-- Which bytes may stand second depends on the first byte: the shortest form is the only one, and
surrogates and numbers that are too large have none. -/
theorem isSecond_iff : isSecond a b = true ↔ 0x80 ≤ b.toNat ∧ b.toNat ≤ 0xBF ∧
    (a.toNat = 0xE0 → 0xA0 ≤ b.toNat) ∧ (a.toNat = 0xED → b.toNat ≤ 0x9F) ∧
      (a.toNat = 0xF0 → 0x90 ≤ b.toNat) ∧ (a.toNat = 0xF4 → b.toNat ≤ 0x8F) := by
  unfold isSecond secondRange
  simp only [Bool.and_eq_true, decide_eq_true_eq, ← UInt8.toNat_inj, UInt8.reduceToNat]
  -- one case for each first byte that narrows the range of the second
  split_ifs <;> simp only [UInt8.le_iff_toNat_le, UInt8.reduceToNat] <;> omega

theorem toNat_byte {n : Nat} (h : n < 256) : (UInt8.ofNat n).toNat = n := by
  rw [UInt8.toNat_ofNat', Nat.mod_eq_of_lt h]

/-! ### One unit at the front -/

/-- **Units of each length** are read off the front, here one of a single byte. -/
theorem units_one (ha : a.toNat < 0x80) :
    units (a :: r) = some (Char.ofNat a.toNat) :: units r := by
  have h : a < 0x80 := UInt8.lt_iff_toNat_lt.2 ha
  rw [units.eq_def]
  simp [h]

/-- A first byte of a longer unit is not one of the shorter ones. -/
theorem not_shorter (ha : 0xC2 ≤ a.toNat) : ¬ a < 0x80 ∧ 0xC2 ≤ a ∧ (a ≤ 0xDF ↔ a.toNat ≤ 0xDF) ∧
    (0xE0 ≤ a ↔ 0xE0 ≤ a.toNat) ∧ (a ≤ 0xEF ↔ a.toNat ≤ 0xEF) ∧ (0xF0 ≤ a ↔ 0xF0 ≤ a.toNat) ∧
      (a ≤ 0xF4 ↔ a.toNat ≤ 0xF4) := by
  refine ⟨fun h => ?_, UInt8.le_iff_toNat_le.2 ha, UInt8.le_iff_toNat_le, UInt8.le_iff_toNat_le,
    UInt8.le_iff_toNat_le, UInt8.le_iff_toNat_le, UInt8.le_iff_toNat_le⟩
  have h' : a.toNat < 0x80 := UInt8.lt_iff_toNat_lt.1 h
  omega

theorem units_two (ha : 0xC2 ≤ a.toNat) (ha' : a.toNat ≤ 0xDF) (hb : isContinuation b = true) :
    units (a :: b :: r) = some (Char.ofNat ((a.toNat - 0xC0) * 64 + tailBits b)) :: units r := by
  obtain ⟨h₁, h₂, h₃, -⟩ := not_shorter ha
  rw [units.eq_def]
  simp [h₁, h₂, h₃, ha', hb]

theorem units_three (ha : 0xE0 ≤ a.toNat) (ha' : a.toNat ≤ 0xEF) (hb : isSecond a b = true)
    (hc : isContinuation c = true) : units (a :: b :: c :: r) =
      some (Char.ofNat (((a.toNat - 0xE0) * 64 + tailBits b) * 64 + tailBits c)) :: units r := by
  obtain ⟨h₁, -, h₃, h₄, h₅, -⟩ := not_shorter (a := a) (by omega)
  have h : ¬ a.toNat ≤ 0xDF := by omega
  rw [units.eq_def]
  simp [h₁, h₃, h₄, h₅, h, ha, ha', hb, hc]

theorem units_four (ha : 0xF0 ≤ a.toNat) (ha' : a.toNat ≤ 0xF4) (hb : isSecond a b = true)
    (hc : isContinuation c = true) (hd : isContinuation d = true) : units (a :: b :: c :: d :: r) =
      some
        (Char.ofNat ((((a.toNat - 0xF0) * 64 + tailBits b) * 64 + tailBits c) * 64 + tailBits d)) ::
        units r := by
  obtain ⟨h₁, -, h₃, -, h₅, h₆, h₇⟩ := not_shorter (a := a) (by omega)
  have h : ¬ a.toNat ≤ 0xDF ∧ ¬ a.toNat ≤ 0xEF := by omega
  rw [units.eq_def]
  simp [h₁, h₃, h₅, h₆, h₇, h, ha, ha', hb, hc, hd]

/-! ### Reading what was written -/

/-- The numbers of characters: surrogates are left out, and nothing is beyond the last plane. -/
theorem toNat_char (x : Char) : x.toNat < 0x110000 ∧ (x.toNat < 0xD800 ∨ 0xDFFF < x.toNat) := by
  have h : x.toNat < 0xD800 ∨ 0xDFFF < x.toNat ∧ x.toNat < 0x110000 := x.valid
  omega

/-- A character is written as one unit. -/
theorem units_utf8EncodeChar_append (x : Char) (r : Bytes) :
    units (String.utf8EncodeChar x ++ r) = some x :: units r := by
  have hvalid := toNat_char x
  have hnumber : ∀ {n : Nat}, n = x.val.toNat → Char.ofNat n = x := by
    rintro n rfl
    exact Char.ofNat_toNat x
  rw [String.utf8EncodeChar]
  change x.val.toNat < _ ∧ (x.val.toNat < _ ∨ _ < x.val.toNat) at hvalid
  generalize x.val.toNat = v at hvalid hnumber ⊢
  -- one case for each length of a unit; the bits in its bytes add up to the number
  split_ifs with h₁ h₂ h₃
  · have ha := toNat_byte (n := v) (by omega)
    rw [List.singleton_append, units_one (by omega), hnumber ha]
  · have ha := toNat_byte (n := v / 64 % 32 + 192) (by omega)
    have hb := toNat_byte (n := v % 64 + 128) (by omega)
    rw [List.cons_append, List.singleton_append, units_two (by omega) (by omega)
      (isContinuation_iff.2 (by omega)), hnumber]
    unfold tailBits
    omega
  · have ha := toNat_byte (n := v / 4096 % 16 + 224) (by omega)
    have hb := toNat_byte (n := v / 64 % 64 + 128) (by omega)
    have hc := toNat_byte (n := v % 64 + 128) (by omega)
    rw [List.cons_append, List.cons_append, List.singleton_append, units_three (by omega) (by omega)
      (isSecond_iff.2 (by omega)) (isContinuation_iff.2 (by omega)), hnumber]
    unfold tailBits
    omega
  · have ha := toNat_byte (n := v / 262144 % 8 + 240) (by omega)
    have hb := toNat_byte (n := v / 4096 % 64 + 128) (by omega)
    have hc := toNat_byte (n := v / 64 % 64 + 128) (by omega)
    have hd := toNat_byte (n := v % 64 + 128) (by omega)
    rw [List.cons_append, List.cons_append, List.cons_append, List.singleton_append,
      units_four (by omega) (by omega) (isSecond_iff.2 (by omega)) (isContinuation_iff.2 (by omega))
        (isContinuation_iff.2 (by omega)), hnumber]
    unfold tailBits
    omega

@[simp] theorem encode_nil : encode [] = [] := rfl

@[simp] theorem encode_cons (x : Char) (cs : List Char) :
    encode (x :: cs) = String.utf8EncodeChar x ++ encode cs := rfl

/-- Texts are encoded character by character. -/
@[simp] theorem encode_append (cs ds : List Char) : encode (cs ++ ds) = encode cs ++ encode ds :=
  List.flatMap_append

/-- What is encoded consists of whole units. -/
theorem units_encode (cs : List Char) : units (encode cs) = cs.map some := by
  induction cs with
  | nil => simp [units]
  | cons x cs ih => rw [encode_cons, units_utf8EncodeChar_append, ih, List.map_cons]

/-- **What was written is read as the text it was.** -/
theorem decode?_encode (cs : List Char) : decode? (encode cs) = some cs :=
  decode?_eq_some_iff.2 (units_encode cs)

/-- A reader that allows for faults finds none in what is encoded. -/
theorem decodeLossy_encode (cs : List Char) : decodeLossy (encode cs) = cs := by
  rw [decodeLossy, units_encode, List.map_map]
  exact List.map_id cs

/-! ### Writing what was read -/

theorem toNat_ofNat_of_valid {n : Nat} (h : n < 0x110000) (h' : n < 0xD800 ∨ 0xDFFF < n) :
    (Char.ofNat n).val.toNat = n := by
  have hv : n.isValidChar := by
    unfold Nat.isValidChar
    omega
  rw [Char.ofNat, dif_pos hv]
  exact UInt32.toNat_ofNatLT ..

theorem byte_eq {n : Nat} (h : n = a.toNat) : UInt8.ofNat n = a := by
  subst h
  exact UInt8.ofNat_toNat

/-- **The unit of each length is the encoding of its character**, here that of a single byte. -/
theorem utf8EncodeChar_one (ha : a.toNat < 0x80) :
    String.utf8EncodeChar (Char.ofNat a.toNat) = [a] := by
  rw [String.utf8EncodeChar, toNat_ofNat_of_valid (by omega) (by omega), if_pos (by omega),
    byte_eq rfl]

theorem utf8EncodeChar_two (ha : 0xC2 ≤ a.toNat) (ha' : a.toNat ≤ 0xDF)
    (hb : isContinuation b = true) :
    String.utf8EncodeChar (Char.ofNat ((a.toNat - 0xC0) * 64 + tailBits b)) = [a, b] := by
  rw [isContinuation_iff] at hb
  generalize hn : (a.toNat - 0xC0) * 64 + tailBits b = n
  unfold tailBits at hn
  rw [String.utf8EncodeChar, toNat_ofNat_of_valid (by omega) (by omega), if_neg (by omega),
    if_pos (by omega), byte_eq (a := a) (by omega), byte_eq (a := b) (by omega)]

theorem utf8EncodeChar_three (ha : 0xE0 ≤ a.toNat) (ha' : a.toNat ≤ 0xEF) (hb : isSecond a b = true)
    (hc : isContinuation c = true) : String.utf8EncodeChar
      (Char.ofNat (((a.toNat - 0xE0) * 64 + tailBits b) * 64 + tailBits c)) = [a, b, c] := by
  rw [isSecond_iff] at hb
  rw [isContinuation_iff] at hc
  generalize hn : ((a.toNat - 0xE0) * 64 + tailBits b) * 64 + tailBits c = n
  unfold tailBits at hn
  rw [String.utf8EncodeChar, toNat_ofNat_of_valid (by omega) (by omega), if_neg (by omega),
    if_neg (by omega), if_pos (by omega), byte_eq (a := a) (by omega), byte_eq (a := b) (by omega),
    byte_eq (a := c) (by omega)]

theorem utf8EncodeChar_four (ha : 0xF0 ≤ a.toNat) (ha' : a.toNat ≤ 0xF4) (hb : isSecond a b = true)
    (hc : isContinuation c = true) (hd : isContinuation d = true) :
    String.utf8EncodeChar (Char.ofNat
      ((((a.toNat - 0xF0) * 64 + tailBits b) * 64 + tailBits c) * 64 + tailBits d)) =
        [a, b, c, d] := by
  rw [isSecond_iff] at hb
  rw [isContinuation_iff] at hc hd
  generalize hn : (((a.toNat - 0xF0) * 64 + tailBits b) * 64 + tailBits c) * 64 + tailBits d = n
  unfold tailBits at hn
  rw [String.utf8EncodeChar, toNat_ofNat_of_valid (by omega) (by omega), if_neg (by omega),
    if_neg (by omega), if_neg (by omega), byte_eq (a := a) (by omega), byte_eq (a := b) (by omega),
    byte_eq (a := c) (by omega), byte_eq (a := d) (by omega)]

/-- Bytes without faults are the encoding of what their units stand for. -/
theorem encode_of_units {bs : Bytes} {cs : List Char} (h : units bs = cs.map some) :
    encode cs = bs := by
  -- what comes after the first unit is known by induction
  have hcons : ∀ {x : Char} {us : List (Option Char)} {cs : List Char} {u bs : Bytes},
      some x :: us = cs.map some → String.utf8EncodeChar x = u →
        (∀ {ds : List Char}, us = ds.map some → encode ds = bs) → encode cs = u ++ bs := by
    intro x us cs u bs h hu ih
    obtain ⟨y, ds, rfl, hy, hds⟩ := List.map_eq_cons_iff.1 h.symm
    obtain rfl := Option.some.inj hy
    rw [encode_cons, hu, ih hds.symm]
  -- one case for each way in which a unit can begin; a fault is no character
  fun_induction units bs generalizing cs with
  | case1 =>
    obtain rfl := List.map_eq_nil_iff.1 h.symm
    rfl
  | case2 a r ha ih => exact hcons h (utf8EncodeChar_one (UInt8.lt_iff_toNat_lt.1 ha)) ih
  | case3 a _ ha b r hb ih =>
    simp only [Bool.and_eq_true, decide_eq_true_eq, UInt8.le_iff_toNat_le] at ha
    exact hcons h (utf8EncodeChar_two ha.1 ha.2 hb) ih
  | case6 a _ _ ha b c r hb hc ih =>
    simp only [Bool.and_eq_true, decide_eq_true_eq, UInt8.le_iff_toNat_le] at ha
    exact hcons h (utf8EncodeChar_three ha.1 ha.2 hb hc) ih
  | case12 a _ _ _ ha b c d r hb hc hd ih =>
    simp only [Bool.and_eq_true, decide_eq_true_eq, UInt8.le_iff_toNat_le] at ha
    exact hcons h (utf8EncodeChar_four ha.1 ha.2 hb hc hd) ih
  | _ => cases cs <;> simp at h

/-- **What can be read strictly is what would be written.** -/
theorem encode_of_decode? {bs : Bytes} {cs : List Char} (h : decode? bs = some cs) :
    encode cs = bs :=
  encode_of_units (decode?_eq_some_iff.1 h)

/-- **Decoding is the inverse of encoding.** -/
theorem decode?_eq_some_iff_encode {bs : Bytes} {cs : List Char} :
    decode? bs = some cs ↔ bs = encode cs := by
  constructor
  · exact fun h => (encode_of_decode? h).symm
  · rintro rfl
    exact decode?_encode cs

/-! ### ASCII bytes -/

/-- A byte below `0x80` stands for itself. -/
theorem eq_toNat_of_mem_utf8EncodeChar {x : Char} (hb : b ∈ String.utf8EncodeChar x)
    (hlt : b.toNat < 0x80) : b.toNat = x.toNat := by
  have hx : x.val.toNat < 0x110000 := (toNat_char x).1
  change b.toNat = x.val.toNat
  rw [String.utf8EncodeChar] at hb
  generalize x.val.toNat = v at *
  -- all bytes of longer units are above
  have habove : ∀ {n : Nat}, n < 256 → 0x80 ≤ n → b ≠ UInt8.ofNat n := by
    rintro n hn hle rfl
    rw [toNat_byte hn] at hlt
    omega
  -- a unit of one byte is the number itself, and no byte of another unit is small enough
  split_ifs at hb with h₁ h₂ h₃ <;> simp only [List.mem_cons, List.not_mem_nil, or_false] at hb
  · rw [hb, toNat_byte (by omega)]
  · rcases hb with hb | hb
    · exact absurd hb (habove (by omega) (by omega))
    · exact absurd hb (habove (by omega) (by omega))
  · rcases hb with hb | hb | hb
    · exact absurd hb (habove (by omega) (by omega))
    · exact absurd hb (habove (by omega) (by omega))
    · exact absurd hb (habove (by omega) (by omega))
  · rcases hb with hb | hb | hb | hb
    · exact absurd hb (habove (by omega) (by omega))
    · exact absurd hb (habove (by omega) (by omega))
    · exact absurd hb (habove (by omega) (by omega))
    · exact absurd hb (habove (by omega) (by omega))

/-- An ASCII byte in an encoded text is an ASCII character of the text. -/
theorem ascii_mem_of_mem_encode {cs : List Char} (hb : b ∈ encode cs) (hlt : b.toNat < 0x80) :
    Char.ofNat b.toNat ∈ cs := by
  obtain ⟨x, hx, hbx⟩ := List.mem_flatMap.1 hb
  rw [eq_toNat_of_mem_utf8EncodeChar hbx hlt, Char.ofNat_toNat]
  exact hx

/-- **What is cut at an ASCII byte is decoded piece by piece**: such a byte neither goes on with a
unit nor is gone on with, however the bytes in front of it end. -/
theorem units_append_ascii (hb : b.toNat < 0x80) (p r : Bytes) :
    units (p ++ b :: r) = units p ++ some (Char.ofNat b.toNat) :: units r := by
  have hcont : isContinuation b = false := by
    rw [Bool.eq_false_iff, Ne, isContinuation_iff]
    omega
  have hsecond : ∀ a, isSecond a b = false := by
    intro a
    rw [Bool.eq_false_iff, Ne, isSecond_iff]
    omega
  have hcons := units_one (r := r) hb
  -- one case for each way in which a unit can begin in front of the byte; one that is not complete
  -- there is a fault
  fun_induction units p with
  | case1 => exact hcons
  | _ =>
    simp only [List.cons_append, List.nil_append]
    rw [units.eq_def]
    grind

/-- A line feed is never part of a longer unit, so **bytes may be cut at it** before they are
decoded. -/
theorem decodeLossy_append_newline (p r : Bytes) :
    decodeLossy (p ++ 0x0A :: r) = decodeLossy p ++ '\n' :: decodeLossy r := by
  have hunits := units_append_ascii (b := 0x0A) (by decide) p r
  rw [decodeLossy, hunits, List.map_append, List.map_cons]
  rfl

/-! ### Order -/

/-- Byte strings compare by their first bytes, and by the rest where these are equal. -/
theorem byte_cons_lt {n m : Nat} {s t : Bytes} (hn : n < 256) (hm : m < 256) (hle : n ≤ m)
    (h : n = m → s < t) : UInt8.ofNat n :: s < UInt8.ofNat m :: t := by
  rw [List.cons_lt_cons_iff, UInt8.lt_iff_toNat_lt, ← UInt8.toNat_inj, toNat_byte hn, toNat_byte hm]
  exact (Nat.lt_or_eq_of_le hle).imp_right fun he => ⟨he, h he⟩

/-- A greater character has greater bytes, whatever follows. -/
theorem utf8EncodeChar_append_lt {x y : Char} (h : x < y) (s t : Bytes) :
    String.utf8EncodeChar x ++ s < String.utf8EncodeChar y ++ t := by
  have hx : x.val.toNat < 0x110000 := (toNat_char x).1
  have hy : y.val.toNat < 0x110000 := (toNat_char y).1
  have hlt : x.val.toNat < y.val.toNat := h
  rw [String.utf8EncodeChar, String.utf8EncodeChar]
  generalize x.val.toNat = v at *
  generalize y.val.toNat = w at *
  -- units of different lengths differ in their first bytes, and the longer one is the greater one
  split_ifs <;> try omega
  · -- one byte against two, three and four
    exact byte_cons_lt (by omega) (by omega) (by omega) fun h₁ => absurd h₁ (by omega)
  · exact byte_cons_lt (by omega) (by omega) (by omega) fun h₁ => absurd h₁ (by omega)
  · exact byte_cons_lt (by omega) (by omega) (by omega) fun h₁ => absurd h₁ (by omega)
  · exact byte_cons_lt (by omega) (by omega) (by omega) fun h₁ => absurd h₁ (by omega)
  · exact byte_cons_lt (by omega) (by omega) (by omega) fun h₁ =>
      byte_cons_lt (by omega) (by omega) (by omega) fun h₂ => absurd h₂ (by omega)
  · exact byte_cons_lt (by omega) (by omega) (by omega) fun h₁ => absurd h₁ (by omega)
  · exact byte_cons_lt (by omega) (by omega) (by omega) fun h₁ => absurd h₁ (by omega)
  · exact byte_cons_lt (by omega) (by omega) (by omega) fun h₁ =>
      byte_cons_lt (by omega) (by omega) (by omega) fun h₂ =>
        byte_cons_lt (by omega) (by omega) (by omega) fun h₃ => absurd h₃ (by omega)
  · exact byte_cons_lt (by omega) (by omega) (by omega) fun h₁ => absurd h₁ (by omega)
  · exact byte_cons_lt (by omega) (by omega) (by omega) fun h₁ =>
      byte_cons_lt (by omega) (by omega) (by omega) fun h₂ =>
        byte_cons_lt (by omega) (by omega) (by omega) fun h₃ =>
          byte_cons_lt (by omega) (by omega) (by omega) fun h₄ => absurd h₄ (by omega)

/-- **Encoding keeps the order** of texts. -/
theorem encode_lt_encode {cs ds : List Char} (h : cs < ds) : encode cs < encode ds := by
  induction cs generalizing ds with
  | nil =>
    cases ds with
    | nil => exact absurd h (List.not_lt_nil _)
    | cons y ds =>
      -- no character is written as nothing
      obtain ⟨b, r, hb⟩ := List.exists_cons_of_ne_nil (String.utf8EncodeChar_ne_nil (c := y))
      rw [encode_nil, encode_cons, hb]
      exact List.nil_lt_cons b _
  | cons x cs ih =>
    cases ds with
    | nil => exact absurd h (List.not_lt_nil _)
    | cons y ds =>
      rw [encode_cons, encode_cons]
      -- the first characters differ, or the order is settled behind them
      rcases List.cons_lt_cons_iff.1 h with hxy | ⟨rfl, hlt⟩
      · exact utf8EncodeChar_append_lt hxy _ _
      · exact List.append_left_lt (ih hlt)

/-- **The bytes of texts are in the order of the texts.** -/
theorem encode_lt_encode_iff {s t : String} : encode s.toList < encode t.toList ↔ s < t := by
  constructor
  · intro h
    -- in any other order of the texts the bytes would be in that order as well
    rcases lt_trichotomy s t with hlt | rfl | hgt
    · exact hlt
    · exact absurd h (List.lt_irrefl _)
    · exact absurd (encode_lt_encode (String.lt_iff_toList_lt.1 hgt)) (List.lt_asymm h)
  · exact fun h => encode_lt_encode (String.lt_iff_toList_lt.1 h)

end NativeBuild.Utf8
