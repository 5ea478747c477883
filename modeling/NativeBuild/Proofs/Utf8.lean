import NativeBuild.Text.Utf8

/-!
# ASCII characters in decoded text

What is cut at an ASCII byte before it is decoded stays cut. Every character of a decoded text that
is an ASCII character (`ascii_mem_of_mem_units`) is one of the decoded bytes, because a unit of two,
three or four bytes never stands for a number below `0x80`: the ranges of the first two bytes leave
out the overlong forms (`le_two`, `le_three`, `le_four`). So neither the strict nor the lossy
reading of a name without a slash has a slash in it (`notMem_of_decode?`, `notMem_decodeLossy`).

In the other direction a text is known by its bytes, `encode_injective`.
-/

namespace NativeBuild.Utf8

/-- Encoding loses nothing, since the bytes decode to the text again. -/
theorem encode_injective {cs ds : List Char} (h : encode cs = encode ds) : cs = ds := by
  have hb : cs.utf8Encode = ds.utf8Encode := congrArg List.toByteArray h
  rw [← String.toByteArray_ofList, ← String.toByteArray_ofList, String.toByteArray_inj] at hb
  exact String.ofList_injective hb

/-! ### The numbers that longer units stand for -/

/-- A number that gives a character other than NUL is the number of that character. -/
theorem eq_toNat_of_ofNat {n : Nat} {c : Char} (h : c = Char.ofNat n) (hpos : 0 < c.toNat) :
    n = c.toNat := by
  subst h
  unfold Char.ofNat at hpos ⊢
  by_cases hv : n.isValidChar
  · rw [dif_pos hv]
    exact (UInt32.toNat_ofNatLT ..).symm
  · rw [dif_neg hv] at hpos
    exact absurd hpos (by decide)

variable {a b c d : UInt8}

/-- A unit of two bytes stands for a number beyond ASCII, and so do those of three and of four. -/
theorem le_two (ha : 0xC2 ≤ a) : 0x80 ≤ (a.toNat - 0xC0) * 64 + tailBits b := by
  have ha' : 0xC2 ≤ a.toNat := UInt8.le_iff_toNat_le.1 ha
  omega

theorem le_three (ha : 0xE0 ≤ a) (hb : isSecond a b = true) :
    0x80 ≤ ((a.toNat - 0xE0) * 64 + tailBits b) * 64 + tailBits c := by
  have ha' : 0xE0 ≤ a.toNat := UInt8.le_iff_toNat_le.1 ha
  by_cases he : a = 0xE0
  · have hb' : 0xA0 ≤ b := by
      simp only [isSecond, secondRange, he, if_true, Bool.and_eq_true, decide_eq_true_eq] at hb
      exact hb.1
    have hb'' : 0xA0 ≤ b.toNat := UInt8.le_iff_toNat_le.1 hb'
    unfold tailBits
    omega
  · have hne : a.toNat ≠ 0xE0 := fun h => he (UInt8.toNat_inj.1 h)
    omega

theorem le_four (ha : 0xF0 ≤ a) (hb : isSecond a b = true) :
    0x80 ≤ (((a.toNat - 0xF0) * 64 + tailBits b) * 64 + tailBits c) * 64 + tailBits d := by
  have ha' : 0xF0 ≤ a.toNat := UInt8.le_iff_toNat_le.1 ha
  by_cases he : a = 0xF0
  · have hb' : 0x90 ≤ b := by
      simp [isSecond, secondRange, he] at hb
      exact hb.1
    have hb'' : 0x90 ≤ b.toNat := UInt8.le_iff_toNat_le.1 hb'
    unfold tailBits
    omega
  · have hne : a.toNat ≠ 0xF0 := fun h => he (UInt8.toNat_inj.1 h)
    omega

/-! ### ASCII characters come from ASCII bytes -/

/-- **An ASCII character of a text is a byte of it.** NUL is left out, since it also stands for
numbers that are no characters. -/
theorem ascii_mem_of_mem_units {bs : Bytes} {x : Char} (h : some x ∈ units bs) (hpos : 0 < x.toNat)
    (hx : x.toNat < 0x80) : UInt8.ofNat x.toNat ∈ bs := by
  -- what stands for a large number is no ASCII character
  have hlarge : ∀ {n : Nat}, 0x80 ≤ n → x ≠ Char.ofNat n := by
    intro n hn he
    have hnx := eq_toNat_of_ofNat he hpos
    omega
  -- one case for each way in which a unit can begin; a fault gives no character
  fun_induction units bs with
  | case1 => simp at h
  | case2 a r ha ih =>
    rcases List.mem_cons.1 h with h | h
    · rw [← eq_toNat_of_ofNat (Option.some.inj h) hpos]
      simp
    · exact List.mem_cons_of_mem _ (ih h)
  | case3 a _ ha b r _ ih =>
    -- the longer units stand for numbers that are no ASCII
    simp only [Bool.and_eq_true, decide_eq_true_eq] at ha
    rcases List.mem_cons.1 h with h | h
    · exact absurd (Option.some.inj h) (hlarge (le_two ha.1))
    · exact List.mem_cons_of_mem _ (List.mem_cons_of_mem _ (ih h))
  | case6 a _ _ ha b c r hb _ ih =>
    simp only [Bool.and_eq_true, decide_eq_true_eq] at ha
    rcases List.mem_cons.1 h with h | h
    · exact absurd (Option.some.inj h) (hlarge (le_three ha.1 hb))
    · simp [ih h]
  | case12 a _ _ _ ha b c d r hb _ _ ih =>
    simp only [Bool.and_eq_true, decide_eq_true_eq] at ha
    rcases List.mem_cons.1 h with h | h
    · exact absurd (Option.some.inj h) (hlarge (le_four ha.1 hb))
    · simp [ih h]
  -- where a unit is broken off, there is a fault in front of what follows
  | _ => grind

/-- A strict reading is a list of units without a fault. -/
theorem decode?_eq_some_iff {bs : Bytes} {cs : List Char} :
    decode? bs = some cs ↔ units bs = cs.map some := by
  unfold decode?
  -- both lists run along together
  induction units bs generalizing cs with
  | nil => cases cs <;> simp
  | cons u us ih =>
    cases u with
    | none => cases cs <;> simp
    | some c =>
      cases cs with
      | nil => cases h : us.mapM id <;> simp [h]
      | cons d ds => cases h : us.mapM id <;> simp [h, ← ih]

/-- A decoded text has an ASCII character only where the bytes have it. -/
theorem notMem_of_decode? {bs : Bytes} {cs : List Char} {x : Char} (h : decode? bs = some cs)
    (hpos : 0 < x.toNat) (hx : x.toNat < 0x80) (hbs : UInt8.ofNat x.toNat ∉ bs) : x ∉ cs := by
  intro hm
  refine hbs (ascii_mem_of_mem_units ?_ hpos hx)
  rw [decode?_eq_some_iff.1 h]
  exact List.mem_map_of_mem hm

theorem notMem_decodeLossy {bs : Bytes} {x : Char} (hpos : 0 < x.toNat) (hx : x.toNat < 0x80)
    (hbs : UInt8.ofNat x.toNat ∉ bs) : x ∉ decodeLossy bs := by
  intro hm
  obtain ⟨u, hu, hux⟩ := List.mem_map.1 hm
  cases u with
  | none =>
    -- the replacement character is no ASCII character
    subst hux
    exact absurd hx (by decide)
  | some c => exact hbs (ascii_mem_of_mem_units ((show c = x from hux) ▸ hu) hpos hx)

/-- Only nothing is read as nothing: what is no text is read as the sign for it. -/
theorem decodeLossy_eq_nil_iff {bs : Bytes} : decodeLossy bs = [] ↔ bs = [] := by
  refine ⟨fun h => ?_, fun h => by subst h; rfl⟩
  have hu : units bs = [] := List.map_eq_nil_iff.1 h
  -- whatever the first byte is, it gives a unit or a fault
  fun_induction units bs with
  | case1 => rfl
  | _ => simp at hu

end NativeBuild.Utf8
