/-!
# Lists in ascending order of a key

The entries of a file tree, the files of a directory and the directories of a scan are all kept the
same way: as a list whose keys ascend strictly, so that each key occurs once, the order is the order
of the keys, and two lists that hold the same are equal.

* `Ascending key l` says that the keys of `l` ascend strictly.
* `insertAt key a l` puts `a` where its key belongs; an element with that key makes room for it.
* `lookup key k l` is the element with key `k`.

The laws say what an insertion does to each of the three: `Ascending.insertAt`, `mem_insertAt_iff`
and `lookup_insertAt`.
-/

namespace NativeBuild

variable {α κ : Type}

/-- The **keys ascend strictly** along the list. -/
def Ascending [LT κ] (key : α → κ) (l : List α) : Prop := l.Pairwise fun a b => key a < key b

/-- Puts an element where its key belongs, in the place of an element with the same key. -/
def insertAt [LT κ] [DecidableLT κ] (key : α → κ) (a : α) : List α → List α
  | [] => [a]
  | b :: r =>
    if key a < key b then a :: b :: r
    else if key b < key a then b :: insertAt key a r
    else a :: r

/-- The element with a key. -/
def lookup [DecidableEq κ] (key : α → κ) (k : κ) (l : List α) : Option α :=
  l.find? fun a => key a = k

variable {key : α → κ} {a : α} {l : List α}

section

variable [LT κ]

@[simp] theorem Ascending.nil : Ascending key ([] : List α) := List.Pairwise.nil

theorem ascending_cons : Ascending key (a :: l) ↔ (∀ b ∈ l, key a < key b) ∧ Ascending key l :=
  List.pairwise_cons

theorem Ascending.filter (h : Ascending key l) (p : α → Bool) : Ascending key (l.filter p) :=
  List.Pairwise.filter p h

/-- In an ascending list a key determines its element. -/
theorem Ascending.eq_of_key_eq [Std.Irrefl (α := κ) (· < ·)] (h : Ascending key l) {b c : α}
    (hb : b ∈ l) (hc : c ∈ l) (hk : key b = key c) : b = c := by
  induction l with
  | nil => simp at hb
  | cons d r ih =>
    obtain ⟨hd, hr⟩ := ascending_cons.1 h
    rcases List.mem_cons.1 hb with hbd | hbr <;> rcases List.mem_cons.1 hc with hcd | hcr
    · rw [hbd, hcd]
    · exact absurd (hk ▸ hbd ▸ hd c hcr) (Std.Irrefl.irrefl _)
    · exact absurd (hcd ▸ hk ▸ hd b hbr) (Std.Irrefl.irrefl _)
    · exact ih hr hbr hcr

/-- **What an ascending list holds determines it.** -/
theorem Ascending.eq_of_mem_iff [Std.Irrefl (α := κ) (· < ·)]
    [Trans (α := κ) (· < ·) (· < ·) (· < ·)] {l₁ l₂ : List α} (h₁ : Ascending key l₁)
    (h₂ : Ascending key l₂) (h : ∀ a, a ∈ l₁ ↔ a ∈ l₂) :
    l₁ = l₂ := by
  have hirrefl : ∀ a : α, ¬ key a < key a := fun a => Std.Irrefl.irrefl (key a)
  have hnodup : ∀ {l : List α}, Ascending key l → l.Nodup := by
    intro l hl
    refine List.Pairwise.imp (fun {a b} hab => ?_) hl
    rintro rfl
    exact hirrefl a hab
  have hperm : l₁.Perm l₂ := (List.perm_ext_iff_of_nodup (hnodup h₁) (hnodup h₂)).2 h
  refine hperm.eq_of_pairwise (fun a b _ _ hab hba => ?_) h₁ h₂
  exact absurd (Trans.trans hab hba) (hirrefl a)

end

section

variable [LT κ] [DecidableLT κ]

theorem mem_of_mem_insertAt {b : α} (h : b ∈ insertAt key a l) : b = a ∨ b ∈ l := by
  induction l with
  | nil => simpa [insertAt] using h
  | cons c r ih =>
    simp only [insertAt] at h
    split at h
    · simpa using h
    · split at h
      · rcases List.mem_cons.1 h with rfl | h
        · simp
        · rcases ih h with rfl | h <;> simp [*]
      · rcases List.mem_cons.1 h with rfl | h <;> simp [*]

theorem self_mem_insertAt : a ∈ insertAt key a l := by
  induction l with
  | nil => simp [insertAt]
  | cons c r ih =>
    simp only [insertAt]
    split
    · simp
    · split <;> simp [ih]

/-- An element with another key stays. -/
theorem mem_insertAt_of_mem [Std.Trichotomous (α := κ) (· < ·)] {b : α} (h : b ∈ l)
    (hk : key b ≠ key a) : b ∈ insertAt key a l := by
  induction l with
  | nil => simp at h
  | cons c r ih =>
    simp only [insertAt]
    split
    · exact List.mem_cons_of_mem _ h
    · rename_i hac
      split
      · rcases List.mem_cons.1 h with rfl | h
        · simp
        · exact List.mem_cons_of_mem _ (ih h)
      · rename_i hca
        rcases List.mem_cons.1 h with rfl | h
        · exact absurd (Std.Trichotomous.trichotomous (r := (· < · : κ → κ → Prop)) _ _ hca hac) hk
        · exact List.mem_cons_of_mem _ h

theorem mem_insertAt_iff [Std.Trichotomous (α := κ) (· < ·)] {b : α}
    (hnew : ∀ c ∈ l, key c ≠ key a) :
    b ∈ insertAt key a l ↔ b = a ∨ b ∈ l := by
  refine ⟨mem_of_mem_insertAt, ?_⟩
  rintro (rfl | hb)
  · exact self_mem_insertAt
  · exact mem_insertAt_of_mem hb (hnew b hb)

/-- An element with the least key comes first. -/
theorem insertAt_of_forall_lt (h : ∀ b ∈ l, key a < key b) : insertAt key a l = a :: l := by
  cases l with
  | nil => rfl
  | cons b r => rw [insertAt, if_pos (h b List.mem_cons_self)]

/-- What keeps the keys keeps the place. -/
theorem map_insertAt {β : Type} (key : α → κ) (key' : β → κ) {f : α → β}
    (hf : ∀ b, key' (f b) = key b) :
    (insertAt key a l).map f = insertAt key' (f a) (l.map f) := by
  induction l with
  | nil => rfl
  | cons b r ih =>
    rw [List.map_cons, insertAt, insertAt, hf, hf]
    split
    · rfl
    · split
      · rw [List.map_cons, ih]
      · rfl

theorem Ascending.insertAt [Trans (α := κ) (· < ·) (· < ·) (· < ·)]
    [Std.Trichotomous (α := κ) (· < ·)] (h : Ascending key l) :
    Ascending key (insertAt key a l) := by
  induction l with
  | nil => simp [NativeBuild.insertAt, ascending_cons]
  | cons c r ih =>
    obtain ⟨hc, hr⟩ := ascending_cons.1 h
    simp only [NativeBuild.insertAt]
    split
    · rename_i hac
      refine ascending_cons.2 ⟨fun b hb => ?_, h⟩
      rcases List.mem_cons.1 hb with rfl | hb
      · exact hac
      · exact Trans.trans hac (hc b hb)
    · rename_i hac
      split
      · rename_i hca
        refine ascending_cons.2 ⟨fun b hb => ?_, ih hr⟩
        rcases mem_of_mem_insertAt hb with rfl | hb
        · exact hca
        · exact hc b hb
      · rename_i hca
        have he := Std.Trichotomous.trichotomous (r := (· < · : κ → κ → Prop)) _ _ hca hac
        exact ascending_cons.2 ⟨fun b hb => he ▸ hc b hb, hr⟩

end

theorem lookup_eq_none_iff [DecidableEq κ] {k : κ} :
    lookup key k l = none ↔ ∀ b ∈ l, key b ≠ k := by
  simp [lookup]

theorem lookup_eq_some_iff [LT κ] [DecidableEq κ] [Std.Irrefl (α := κ) (· < ·)]
    (h : Ascending key l) {k : κ} {b : α} :
    lookup key k l = some b ↔ b ∈ l ∧ key b = k := by
  constructor
  · intro hb
    exact ⟨List.mem_of_find?_eq_some hb, by simpa using List.find?_some hb⟩
  · rintro ⟨hb, rfl⟩
    cases hf : lookup key (key b) l with
    | none => exact absurd (List.find?_eq_none.1 hf b hb) (by simp)
    | some c =>
      have hc := List.mem_of_find?_eq_some hf
      have hk : key c = key b := by simpa using List.find?_some hf
      rw [h.eq_of_key_eq hc hb hk]

/-- **An insertion changes the element of one key.** -/
theorem lookup_insertAt [LT κ] [DecidableLT κ] [DecidableEq κ] [Std.Trichotomous (α := κ) (· < ·)]
    [Std.Irrefl (α := κ) (· < ·)] [Trans (α := κ) (· < ·) (· < ·) (· < ·)] (h : Ascending key l)
    (k : κ) :
    lookup key k (insertAt key a l) = if key a = k then some a else lookup key k l := by
  have hi : Ascending key (insertAt key a l) := h.insertAt
  split
  · rename_i he
    exact (lookup_eq_some_iff hi).2 ⟨self_mem_insertAt, he⟩
  · rename_i hne
    cases hl : lookup key k l with
    | none =>
      rw [lookup_eq_none_iff] at hl ⊢
      intro b hb
      rcases mem_of_mem_insertAt hb with rfl | hb
      · exact hne
      · exact hl b hb
    | some b =>
      obtain ⟨hb, rfl⟩ := (lookup_eq_some_iff h).1 hl
      exact (lookup_eq_some_iff hi).2 ⟨mem_insertAt_of_mem hb (Ne.symm hne), rfl⟩

end NativeBuild
