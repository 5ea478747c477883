import NativeBuild.Traced

/-!
# When a computation succeeds

A computation that is put together from parts succeeds exactly when each part does, on what the
parts before it gave. The lemmas below say so for a sequence of two (`bind_eq_ok_iff`,
`result_bind_eq_ok_iff`), for a loop (`foldlM_keeps`) and for the parts that belong to the elements
of a list (`result_mapM_eq_ok_iff`, `result_forM_eq_ok`), so that a success can be taken apart
without looking at how failures are passed on.
-/

namespace NativeBuild

variable {ν ε α β : Type}

/-- Two steps in a row succeed if the first one does, and the second one with what the first
gave. -/
theorem bind_eq_ok_iff {x : Except ε α} {f : α → Except ε β} {b : β} :
    x >>= f = .ok b ↔ ∃ a, x = .ok a ∧ f a = .ok b := by
  cases x with
  | error e => simp [bind, Except.bind]
  | ok a => simp [bind, Except.bind]

/-- What every step keeps is kept by all of them. -/
theorem foldlM_keeps {γ : Type} {f : γ → α → Except ε γ} {p : γ → Prop}
    (hf : ∀ b a b', p b → f b a = .ok b' → p b') {l : List α} {b r : γ} (hb : p b)
    (h : l.foldlM f b = .ok r) : p r := by
  induction l generalizing b with
  | nil => exact Except.ok.inj h ▸ hb
  | cons a rest ih =>
    rw [List.foldlM_cons, bind_eq_ok_iff] at h
    obtain ⟨b', hstep, hrest⟩ := h
    exact ih (hf b a b' hb hstep) hrest

namespace Traced

@[simp] theorem ofExcept_ok_bind (a : α) (f : α → Traced ν ε β) :
    (ofExcept (.ok a) : Traced ν ε α) >>= f = f a :=
  pure_bind a f

/-- The same of computations that leave notes. -/
theorem result_bind_eq_ok_iff {x : Traced ν ε α} {f : α → Traced ν ε β} {b : β} :
    (x >>= f).result = .ok b ↔ ∃ a, x.result = .ok a ∧ (f a).result = .ok b := by
  rw [result_bind, bind_eq_ok_iff]

/-- The first part may have nothing to give but its success. -/
theorem result_bind_unit_eq_ok_iff {x : Traced ν ε Unit} {f : Unit → Traced ν ε β} {b : β} :
    (x >>= f).result = .ok b ↔ x.result = .ok () ∧ (f ()).result = .ok b := by
  rw [result_bind_eq_ok_iff]
  constructor
  · rintro ⟨⟨⟩, hx, hf⟩
    exact ⟨hx, hf⟩
  · rintro ⟨hx, hf⟩
    exact ⟨(), hx, hf⟩

/-- **Going through a list**: when the part of an element succeeds under a condition on the element
and with a value that it determines, then the whole succeeds under all these conditions and with all
these values. -/
theorem result_mapM_eq_ok_iff {f : α → Traced ν ε β} {p : α → Prop} {g : α → β}
    (hf : ∀ a b, (f a).result = .ok b ↔ p a ∧ b = g a) {l : List α} {bs : List β} :
    (l.mapM f).result = .ok bs ↔ (∀ a ∈ l, p a) ∧ bs = l.map g := by
  induction l generalizing bs with
  | nil => simp [List.mapM_nil, eq_comm]
  | cons a rest ih =>
    rw [List.mapM_cons, result_bind_eq_ok_iff, List.forall_mem_cons, List.map_cons]
    -- the value of the first element and those of the rest are determined
    simp only [hf, result_bind_eq_ok_iff, ih, result_pure, Except.ok.injEq]
    constructor
    · rintro ⟨b, ⟨ha, rfl⟩, bs', ⟨hrest, rfl⟩, rfl⟩
      exact ⟨⟨ha, hrest⟩, rfl⟩
    · rintro ⟨⟨ha, hrest⟩, rfl⟩
      exact ⟨g a, ⟨ha, rfl⟩, rest.map g, ⟨hrest, rfl⟩, rfl⟩

/-- Going through a list without results succeeds if it does at each element. -/
theorem result_forM_eq_ok {f : α → Traced ν ε Unit} {l : List α}
    (hf : ∀ a ∈ l, (f a).result = .ok ()) : (l.forM f).result = .ok () := by
  induction l with
  | nil => rfl
  | cons a rest ih =>
    change (f a >>= fun _ => rest.forM f).result = .ok ()
    rw [result_bind_unit_eq_ok_iff]
    exact ⟨hf a List.mem_cons_self, ih fun b hb => hf b (List.mem_cons_of_mem a hb)⟩

end Traced

end NativeBuild
