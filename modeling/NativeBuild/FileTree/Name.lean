import NativeBuild.Path

/-!
# Names in a directory

A name is what one component of a path can stand for: a non-empty string of at most 255 bytes, any
bytes but `/` and zero, and neither `.` nor `..`. Names need not be text. They are ordered by their
bytes.

A name may have an extension, the part after its last dot; a dot in front begins no extension.
-/

namespace NativeBuild

/-- The condition on the bytes of a name. -/
def Name.isName (b : Bytes) : Bool :=
  b != [] && b.length ≤ 255 && !b.contains Path.slash && !b.contains 0 &&
    b != [Path.dot] && b != [Path.dot, Path.dot]

/-- A **name** in a directory. -/
structure Name where
  bytes : Bytes
  isName_bytes : Name.isName bytes = true
  deriving DecidableEq, Repr

namespace Name

@[ext] theorem ext {a b : Name} (h : a.bytes = b.bytes) : a = b := by
  cases a; cases b; simp_all

instance : LT Name := ⟨fun a b => a.bytes < b.bytes⟩

/-- Do bytes come before others? -/
def before : Bytes → Bytes → Bool
  | _, [] => false
  | [], _ :: _ => true
  | a :: r, b :: s => if a = b then before r s else a < b

theorem before_iff {r s : Bytes} : before r s = true ↔ r < s := by
  induction r generalizing s with
  | nil => cases s <;> simp [before]
  | cons a r ih =>
    cases s with
    | nil => simp [before]
    | cons b s =>
      by_cases h : a = b
      · subst h
        simp [before, ih]
      · simp [before, h, List.cons_lt_cons_iff]

instance : DecidableLT Name :=
  fun a b => decidable_of_iff (before a.bytes b.bytes = true) before_iff

instance : Std.Irrefl (α := Name) (· < ·) := ⟨fun a => List.lt_irrefl a.bytes⟩

instance : Std.Trichotomous (α := Name) (· < ·) where
  trichotomous _ _ h₁ h₂ :=
    ext (Std.Trichotomous.trichotomous (r := ((· < ·) : Bytes → Bytes → Prop)) _ _ h₁ h₂)

instance : Trans (α := Name) (· < ·) (· < ·) (· < ·) where
  trans h₁ h₂ := List.lt_trans (α := UInt8) h₁ h₂

/-- The name that bytes are, if they are one. -/
def ofBytes? (b : Bytes) : Option Name :=
  if h : isName b = true then some ⟨b, h⟩ else none

/-- The name as a path of one component. -/
def path (n : Name) : Path := ⟨n.bytes⟩

/-- The name as messages show it. -/
def display (n : Name) : String := n.path.display

/-- A name as **stem** and **extension**: the parts before and after the last dot, unless there is
no dot or it is the first byte. -/
def split (n : Name) : Bytes × Option Bytes :=
  let back := n.bytes.reverse
  match back.dropWhile (· != Path.dot) with
  | [] => (n.bytes, none)
  | [_] => (n.bytes, none)
  | _ :: stem => (stem.reverse, some (back.takeWhile (· != Path.dot)).reverse)

end Name

/-- A place in a file tree: the names on the way down to it from the top. -/
abbrev Location := List Name

namespace Location

/-- Does a location come before another? -/
def before : Location → Location → Bool
  | _, [] => false
  | [], _ :: _ => true
  | a :: l, b :: k => if a = b then before l k else a < b

theorem before_iff {l k : Location} : before l k = true ↔ l < k := by
  induction l generalizing k with
  | nil => cases k <;> simp [before]
  | cons a l ih =>
    cases k with
    | nil => simp [before]
    | cons b k =>
      by_cases h : a = b
      · subst h
        simp [before, ih]
      · simp [before, h, List.cons_lt_cons_iff]

/-- Locations are compared often and along all of a path, hence by a loop. -/
instance : DecidableLT Location := fun l k => decidable_of_iff (before l k = true) before_iff

/-- The path down to a location, seen from where its first name lies. -/
def path (l : Location) : Path := ⟨[Path.slash].intercalate (l.map Name.bytes)⟩

end Location

instance : Std.Trichotomous (α := Location) (· < ·) where
  trichotomous _ _ h₁ h₂ := List.le_antisymm (List.not_lt.1 h₂) (List.not_lt.1 h₁)

end NativeBuild
