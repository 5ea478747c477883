import NativeBuild.Proofs.Utf8
import NativeBuild.Target.Basic
import Mathlib.Data.List.Infix

/-!
# Stems tell targets apart

A stem spells the bytes of a target's name in characters that make variables may have. Every byte
has its own spelling, and where a spelling ends can be told from its first two characters: one that
begins with an underscore has two characters, or four after `_x`, and any other has one. So a stem
is read back from left to right (`Spelling.append_inj`, `flatMap_stemByte_injective`), and
`stem_inj` says that it determines the kind and the name of its target. Whatever a name consists of,
its stem consists of letters, digits and underscores (`isVariableChar_of_mem_stem`).

The variables of a target are its stem with one of four endings. No ending is the end of another, so
that a variable determines its stem and its ending (`append_ending_inj`), and thereby its target
(`variables_tell_apart`).
-/

namespace NativeBuild

/-! ### Spellings -/

/-- The **spellings of a byte** in a stem. -/
inductive Spelling : UInt8 → List Char → Prop where
  | underscore : Spelling 0x5F ['_', '_']
  | slash : Spelling 0x2F ['_', 'S']
  | alphanum {b : UInt8} (h : (Char.ofNat b.toNat).isAlphanum = true) :
    Spelling b [Char.ofNat b.toNat]
  | hex (b : UInt8) :
      Spelling b ['_', 'x', Nat.digitChar (b.toNat / 16), Nat.digitChar (b.toNat % 16)]

/-- What stands for a byte in a stem is a spelling of it. -/
theorem spelling_stemByte (b : UInt8) : Spelling b (Target.stemByte b) := by
  unfold Target.stemByte
  split
  · rename_i h
    exact h ▸ Spelling.underscore
  · split
    · rename_i h
      exact h ▸ Spelling.slash
    · split
      · rename_i h
        exact Spelling.alphanum h
      · exact Spelling.hex b

/-- No letter or digit is an underscore, with which the other spellings begin. -/
theorem ne_underscore_of_isAlphanum {c : Char} (h : c.isAlphanum = true) : c ≠ '_' := by
  rintro rfl
  exact absurd h (by decide)

/-- A letter or digit is the character of one byte only. -/
theorem eq_of_ofNat_eq {a b : UInt8} (ha : (Char.ofNat a.toNat).isAlphanum = true)
    (h : Char.ofNat a.toNat = Char.ofNat b.toNat) : a = b := by
  -- NUL, which numbers that are no characters give as well, is neither letter nor digit
  have hpos : 0 < (Char.ofNat a.toNat).toNat := by
    refine Nat.pos_of_ne_zero fun hzero => ?_
    have hnul : Char.ofNat a.toNat = '\x00' := by
      rw [← Char.toNat_inj, hzero]
      rfl
    rw [hnul] at ha
    exact absurd ha (by decide)
  have h₁ : a.toNat = (Char.ofNat a.toNat).toNat := Utf8.eq_toNat_of_ofNat rfl hpos
  have h₂ : b.toNat = (Char.ofNat a.toNat).toNat := Utf8.eq_toNat_of_ofNat h hpos
  exact UInt8.toNat_inj.1 (h₁.trans h₂.symm)

theorem digitChar_inj {m n : Nat} (hm : m < 16) (hn : n < 16)
    (h : Nat.digitChar m = Nat.digitChar n) :
    m = n := by
  have hall : ∀ i j : Fin 16, Nat.digitChar i = Nat.digitChar j → i = j := by decide
  exact congrArg Fin.val (hall ⟨m, hm⟩ ⟨n, hn⟩ h)

/-- A byte is known by its two hexadecimal digits. -/
theorem eq_of_hex_eq {a b : UInt8}
    (hhigh : Nat.digitChar (a.toNat / 16) = Nat.digitChar (b.toNat / 16))
    (hlow : Nat.digitChar (a.toNat % 16) = Nat.digitChar (b.toNat % 16)) : a = b := by
  have ha := a.toNat_lt
  have hb := b.toNat_lt
  have h₁ := digitChar_inj (by omega) (by omega) hhigh
  have h₂ := digitChar_inj (by omega) (by omega) hlow
  exact UInt8.toNat_inj.1 (by omega)

/-- **A spelling can be read off the front of a text**, and so can the byte that it spells. -/
theorem Spelling.append_inj {a b : UInt8} {u v r s : List Char} (ha : Spelling a u)
    (hb : Spelling b v) (h : u ++ r = v ++ s) : a = b ∧ r = s := by
  -- of two different spellings one begins with no underscore, or they differ after it
  cases ha with
  | underscore =>
    cases hb with
    | underscore => exact ⟨rfl, by simpa using h⟩
    | slash => simp at h
    | alphanum hb =>
      simp only [List.cons_append, List.cons.injEq] at h
      exact absurd h.1.symm (ne_underscore_of_isAlphanum hb)
    | hex => simp at h
  | slash =>
    cases hb with
    | underscore => simp at h
    | slash => exact ⟨rfl, by simpa using h⟩
    | alphanum hb =>
      simp only [List.cons_append, List.cons.injEq] at h
      exact absurd h.1.symm (ne_underscore_of_isAlphanum hb)
    | hex => simp at h
  | alphanum ha =>
    simp only [List.cons_append, List.nil_append] at h
    cases hb with
    | alphanum hb =>
      rw [List.cons_append, List.cons.injEq] at h
      exact ⟨eq_of_ofNat_eq ha h.1, h.2⟩
    | _ => exact absurd (List.cons.inj h).1 (ne_underscore_of_isAlphanum ha)
  | hex =>
    cases hb with
    | underscore => simp at h
    | slash => simp at h
    | alphanum hb =>
      simp only [List.cons_append, List.cons.injEq] at h
      exact absurd h.1.symm (ne_underscore_of_isAlphanum hb)
    | hex =>
      simp only [List.cons_append, List.nil_append, List.cons.injEq, true_and] at h
      exact ⟨eq_of_hex_eq h.1 h.2.1, h.2.2⟩

/-- No byte is spelled by nothing. -/
theorem Spelling.ne_nil {b : UInt8} {u : List Char} (h : Spelling b u) : u ≠ [] := by
  cases h <;> simp

/-- Spellings one after another are read in one way. -/
theorem flatMap_stemByte_injective : Function.Injective (List.flatMap Target.stemByte) := by
  intro bs
  induction bs with
  | nil =>
    intro cs h
    cases cs with
    | nil => rfl
    | cons c cs =>
      rw [List.flatMap_nil, List.flatMap_cons, eq_comm, List.append_eq_nil_iff] at h
      exact absurd h.1 (spelling_stemByte c).ne_nil
  | cons b bs ih =>
    intro cs h
    cases cs with
    | nil =>
      rw [List.flatMap_nil, List.flatMap_cons, List.append_eq_nil_iff] at h
      exact absurd h.1 (spelling_stemByte b).ne_nil
    | cons c cs =>
      rw [List.flatMap_cons, List.flatMap_cons] at h
      -- take one spelling off the front of both
      obtain ⟨rfl, hrest⟩ := (spelling_stemByte b).append_inj (spelling_stemByte c) h
      rw [ih hrest]

/-! ### The characters of a spelling -/

/-- The characters that a **variable** may have anywhere: the letters and digits of ASCII, and the
underscore. -/
def IsVariableChar (c : Char) : Prop :=
  ('A' ≤ c ∧ c ≤ 'Z') ∨ ('a' ≤ c ∧ c ≤ 'z') ∨ ('0' ≤ c ∧ c ≤ '9') ∨ c = '_'

instance (c : Char) : Decidable (IsVariableChar c) := inferInstanceAs (Decidable (_ ∨ _))

theorem isVariableChar_of_isAlphanum {c : Char} (h : c.isAlphanum = true) : IsVariableChar c := by
  have hupper : c.isUpper = decide ('A' ≤ c ∧ c ≤ 'Z') := rfl
  have hlower : c.isLower = (decide ('a' ≤ c) && decide (c ≤ 'z')) := rfl
  have hdigit : c.isDigit = (decide ('0' ≤ c) && decide (c ≤ '9')) := rfl
  have halphanum : c.isAlphanum = (c.isUpper || c.isLower || c.isDigit) := rfl
  simp only [halphanum, hupper, hlower, hdigit, Bool.or_eq_true, Bool.and_eq_true,
    decide_eq_true_eq, or_assoc] at h
  rcases h with h | h | h
  · exact Or.inl h
  · exact Or.inr (Or.inl h)
  · exact Or.inr (Or.inr (Or.inl h))

theorem isVariableChar_digitChar {n : Nat} (hn : n < 16) : IsVariableChar (Nat.digitChar n) := by
  have hall : ∀ i : Fin 16, IsVariableChar (Nat.digitChar i) := by decide
  exact hall ⟨n, hn⟩

/-- **Spellings consist of letters, digits and underscores.** -/
theorem Spelling.isVariableChar {b : UInt8} {u : List Char} (h : Spelling b u) :
    ∀ c ∈ u, IsVariableChar c := by
  cases h with
  | underscore => simp [IsVariableChar]
  | slash => simp [IsVariableChar]
  | alphanum h => exact List.forall_mem_singleton.2 (isVariableChar_of_isAlphanum h)
  | hex =>
    have hlt := b.toNat_lt
    simp only [List.forall_mem_cons]
    exact ⟨by decide, by decide, isVariableChar_digitChar (by omega),
      isVariableChar_digitChar (by omega), by simp⟩

/-! ### Stems -/

namespace Target

/-- A stem is the mark of the kind, an underscore, and the name byte by byte. -/
theorem toList_stem (x : Target) : x.stem.toList =
    x.kind.mark.toList ++ '_' :: (Utf8.encode x.name.toList).flatMap stemByte := by
  simp [stem]

/-- **A stem determines its target**, as far as targets of a plan are told apart: by kind and name.
-/
theorem stem_inj {x y : Target} (h : x.stem = y.stem) : x.kind = y.kind ∧ x.name = y.name := by
  have hl := congrArg String.toList h
  rw [toList_stem, toList_stem] at hl
  -- the marks of the kinds are equally long, so the texts agree part by part
  have hmark : x.kind.mark.toList.length = y.kind.mark.toList.length := by
    cases x.kind <;> cases y.kind <;> rfl
  obtain ⟨hkind, hname⟩ := List.append_inj hl hmark
  constructor
  · revert hkind
    cases x.kind <;> cases y.kind <;> simp [TargetKind.mark]
  · rw [List.cons.injEq] at hname
    exact String.toList_inj.1 (Utf8.encode_injective (flatMap_stemByte_injective hname.2))

theorem stem_congr {x y : Target} (hkind : x.kind = y.kind) (hname : x.name = y.name) :
    x.stem = y.stem := by
  rw [stem, stem, hkind, hname]

/-- **Stems consist of letters, digits and underscores**, whatever the name of the target. -/
theorem isVariableChar_of_mem_stem (x : Target) : ∀ c ∈ x.stem.toList, IsVariableChar c := by
  have hmark : ∀ c ∈ x.kind.mark.toList, IsVariableChar c := by
    cases x.kind <;> simp [TargetKind.mark, IsVariableChar]
  intro c hc
  rw [toList_stem, List.mem_append, List.mem_cons] at hc
  rcases hc with hc | rfl | hc
  · exact hmark c hc
  · decide
  · obtain ⟨b, -, hb⟩ := List.mem_flatMap.1 hc
    exact (spelling_stemByte b).isVariableChar c hb

end Target

/-! ### Endings -/

namespace Fragment

/-- What the names of a target's variables end in, after the stem. -/
def endings : List String := ["_SOURCES", "_OBJECTS", "_LINKER", "_LDFLAGS"]

/-- No ending is the end of another. -/
theorem eq_of_suffix_of_mem_endings :
    ∀ e ∈ endings, ∀ e' ∈ endings, e.toList <:+ e'.toList → e = e' := by
  decide +kernel

theorem append_ending_inj {s s' e e' : String} (he : e ∈ endings) (he' : e' ∈ endings)
    (h : s ++ e = s' ++ e') : s = s' ∧ e = e' := by
  have hl : s.toList ++ e.toList = s'.toList ++ e'.toList := by
    rw [← String.toList_append, h, String.toList_append]
  -- of two ends of one text the shorter is an end of the longer
  have hends : e.toList <:+ e'.toList ∨ e'.toList <:+ e.toList :=
    List.suffix_or_suffix_of_suffix (hl ▸ List.suffix_append _ _) (List.suffix_append _ _)
  obtain rfl : e = e' := by
    rcases hends with hend | hend
    · exact eq_of_suffix_of_mem_endings e he e' he' hend
    · exact (eq_of_suffix_of_mem_endings e' he' e he hend).symm
  exact ⟨String.toList_inj.1 (List.append_cancel_right hl), rfl⟩

/-- **Variables tell targets apart.** A stem is that of one kind and one name, and consists of
letters, digits and underscores; and with an ending it is a variable that no other target has, and
no other ending gives. -/
theorem variables_tell_apart :
    (∀ x y : Target, x.stem = y.stem ↔ x.kind = y.kind ∧ x.name = y.name) ∧
    (∀ x : Target, ∀ c ∈ x.stem.toList, IsVariableChar c) ∧
    ∀ x y : Target, ∀ e ∈ endings, ∀ e' ∈ endings,
      x.stem ++ e = y.stem ++ e' ↔ (x.kind = y.kind ∧ x.name = y.name) ∧ e = e' := by
  have hstem : ∀ x y : Target, x.stem = y.stem ↔ x.kind = y.kind ∧ x.name = y.name :=
    fun x y => ⟨Target.stem_inj, fun h => Target.stem_congr h.1 h.2⟩
  refine ⟨hstem, Target.isVariableChar_of_mem_stem, fun x y e he e' he' => ?_⟩
  rw [← hstem]
  constructor
  · exact append_ending_inj he he'
  · rintro ⟨hxy, rfl⟩
    rw [hxy]

/-- The stem of `a/OURCES` is a variable of `a`; yet no variable of the one is a variable of the
other. -/
theorem variables_of_similar_names :
    (Target.empty .module "a/OURCES").stem = (Target.empty .module "a").stem ++ "_SOURCES" ∧
      (Target.empty .module "a/OURCES").stem ++ "_LINKER" ≠ (Target.empty .module "a").stem ++
        "_SOURCES" := by
  obtain ⟨-, -, hvariables⟩ := variables_tell_apart
  refine ⟨by decide +kernel, fun h => ?_⟩
  obtain ⟨⟨-, hname⟩, -⟩ := (hvariables _ _ "_LINKER" (by decide) "_SOURCES" (by decide)).1 h
  exact absurd hname (by decide)

end Fragment

end NativeBuild
