/-!
# Computations that leave a trace

`Traced ν ε α` is a computation that has finished: with a list of notes of type `ν`, in the order in
which they were made, and with a result of type `α` or a failure of type `ε`. A failure ends the
computation, so nothing is noted after it, and what was noted before it stays.

The monad laws hold, and `notes_bind` and `result_bind` say what sequencing does to the two parts;
the result of a computation never depends on its notes.
-/

namespace NativeBuild

/-- A finished computation with its **trace** and its **result**. -/
structure Traced (ν ε α : Type) where
  notes : List ν
  result : Except ε α

namespace Traced

variable {ν ε α β γ : Type}

@[ext] theorem ext {x y : Traced ν ε α} (hn : x.notes = y.notes) (hr : x.result = y.result) :
    x = y := by
  cases x; cases y; simp_all

/-- A result without notes. -/
def ofExcept (r : Except ε α) : Traced ν ε α := ⟨[], r⟩

/-- One note. -/
def note (n : ν) : Traced ν ε Unit := ⟨[n], .ok ()⟩

/-- A failure. -/
def fail (e : ε) : Traced ν ε α := ⟨[], .error e⟩

/-- Goes on with the result of a computation, if it has one. -/
def andThen (x : Traced ν ε α) (f : α → Traced ν ε β) : Traced ν ε β :=
  match x.result with
  | .ok a => ⟨x.notes ++ (f a).notes, (f a).result⟩
  | .error e => ⟨x.notes, .error e⟩

instance : Monad (Traced ν ε) where
  pure a := ⟨[], .ok a⟩
  bind := andThen

@[simp] theorem notes_pure (a : α) : (pure a : Traced ν ε α).notes = [] := rfl

@[simp] theorem result_pure (a : α) : (pure a : Traced ν ε α).result = .ok a := rfl

@[simp] theorem notes_note (n : ν) : (note n : Traced ν ε Unit).notes = [n] := rfl

@[simp] theorem result_note (n : ν) : (note n : Traced ν ε Unit).result = .ok () := rfl

@[simp] theorem notes_fail (e : ε) : (fail e : Traced ν ε α).notes = [] := rfl

@[simp] theorem result_fail (e : ε) : (fail e : Traced ν ε α).result = .error e := rfl

@[simp] theorem notes_ofExcept (r : Except ε α) : (ofExcept r : Traced ν ε α).notes = [] := rfl

@[simp] theorem result_ofExcept (r : Except ε α) : (ofExcept r : Traced ν ε α).result = r := rfl

theorem bind_of_ok {x : Traced ν ε α} {a : α} (h : x.result = .ok a) (f : α → Traced ν ε β) :
    x >>= f = ⟨x.notes ++ (f a).notes, (f a).result⟩ := by
  show x.andThen f = _
  simp [andThen, h]

theorem bind_of_error {x : Traced ν ε α} {e : ε} (h : x.result = .error e)
    (f : α → Traced ν ε β) : x >>= f = ⟨x.notes, .error e⟩ := by
  show x.andThen f = _
  simp [andThen, h]

/-- The result of a sequence is the sequence of the results. -/
@[simp] theorem result_bind (x : Traced ν ε α) (f : α → Traced ν ε β) :
    (x >>= f).result = x.result >>= fun a => (f a).result := by
  cases h : x.result with
  | ok a => rw [bind_of_ok h]; rfl
  | error e => rw [bind_of_error h]; rfl

/-- The notes of a sequence: those of the first part, then those of the second if it is reached. -/
theorem notes_bind (x : Traced ν ε α) (f : α → Traced ν ε β) :
    (x >>= f).notes = x.notes ++ match x.result with
      | .ok a => (f a).notes
      | .error _ => [] := by
  cases h : x.result with
  | ok a => rw [bind_of_ok h]
  | error e => rw [bind_of_error h]; simp

private theorem id_map_traced (x : Traced ν ε α) : id <$> x = x := by
  show x.andThen (fun a => pure a) = x
  cases h : x.result <;> (ext <;> simp [andThen, h])

private theorem pure_bind_traced (a : α) (f : α → Traced ν ε β) : pure a >>= f = f a := by
  show (pure a : Traced ν ε _).andThen f = f a
  ext <;> simp [andThen]

private theorem bind_assoc_traced (x : Traced ν ε α) (f : α → Traced ν ε β)
    (g : β → Traced ν ε γ) : x >>= f >>= g = x >>= fun a => f a >>= g := by
  show (x.andThen f).andThen g = x.andThen fun a => (f a).andThen g
  cases h : x.result with
  | error e => simp [andThen, h]
  | ok a => cases h' : (f a).result <;> simp [andThen, h, h']

instance : LawfulMonad (Traced ν ε) :=
  LawfulMonad.mk' _ id_map_traced pure_bind_traced bind_assoc_traced

end Traced

end NativeBuild
