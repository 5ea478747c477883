import NativeBuild.Proofs.Encoding
import NativeBuild.Proofs.Stock
import NativeBuild.Proofs.Targets

/-!
# An inventory keeps the first file of each name

An inventory is filled by one insertion after another. An insertion is refused if the inventory has
a file of the same name, and then it stays as it is. So of the files that are inserted the first of
each name is kept, and the others are refused.

The view of an inventory is `Inventory.get?`, which determines it together with the directory
(`Inventory.eq_of_get?_eq`). An insertion changes what is found under a name only where nothing has
been found (`Inventory.get?_afterInsert`). By induction, what is found after a sequence of
insertions is the first file of the name (`Inventory.get?_afterAll`), and everything else is read
off there:

* which files there are, and when an insertion is refused (`Inventory.first_insertion_wins`);
* that the order of the insertions does not matter, if the names are different: among those each is
  the first.
-/

namespace NativeBuild

/-- A file to be **inserted** into an inventory, and the directory that an error names. -/
structure Insertion where
  file : SourceFile
  place : Path
  deriving DecidableEq, Repr

/-- A file is the **first of its name** among those to be inserted. -/
def Insertion.Foremost (xs : List Insertion) (f : SourceFile) : Prop :=
  ∃ front x back, xs = front ++ x :: back ∧ x.file = f ∧ ∀ y ∈ front, y.file.name ≠ f.name

/-- The first file of a name. -/
def Insertion.first? (xs : List Insertion) (name : String) : Option SourceFile :=
  lookup SourceFile.name name (xs.map Insertion.file)

namespace Insertion

variable {xs ys : List Insertion} {name : String} {f : SourceFile}

/-- The first file of a name, read from the front. -/
theorem first?_cons (x : Insertion) (xs : List Insertion) (name : String) :
    first? (x :: xs) name = if x.file.name = name then some x.file else first? xs name := by
  rw [first?, lookup, List.map_cons, List.find?_cons]
  by_cases h : x.file.name = name
  · rw [if_pos h, decide_eq_true h]
  · rw [if_neg h, decide_eq_false h]
    rfl

/-- No file has a name that is not found. -/
theorem first?_eq_none_iff : first? xs name = none ↔ ∀ x ∈ xs, x.file.name ≠ name := by
  rw [first?, lookup_eq_none_iff, List.forall_mem_map]

/-- **What is found under a name** is the first file of the name. -/
theorem first?_eq_some_iff : first? xs name = some f ↔ Foremost xs f ∧ f.name = name := by
  constructor
  · intro h
    obtain ⟨hname, front, back, heq, hfront⟩ := List.find?_eq_some_iff_append.1 h
    obtain ⟨front, rest, rfl, rfl, hrest⟩ := List.map_eq_append_iff.1 heq
    obtain ⟨x, back, rfl, rfl, -⟩ := List.map_eq_cons_iff.1 hrest
    obtain rfl : x.file.name = name := of_decide_eq_true hname
    exact ⟨⟨front, x, back, rfl, rfl,
      fun y hy => by simpa using hfront y.file (List.mem_map_of_mem hy)⟩, rfl⟩
  · rintro ⟨⟨front, x, back, rfl, rfl, hfront⟩, rfl⟩
    refine List.find?_eq_some_iff_append.2 ⟨decide_eq_true rfl, front.map file, back.map file,
      by simp, ?_⟩
    exact List.forall_mem_map.2 fun y hy => by simpa using hfront y hy

/-- Among files with different names the order does not matter. -/
theorem first?_eq_of_perm (h : (xs.map file).Perm (ys.map file))
    (hn : (xs.map fun x => x.file.name).Nodup)
    (name : String) : first? xs name = first? ys name := by
  have hxs : ((xs.map file).map SourceFile.name).Nodup := by
    rwa [List.map_map]
  have hys : ((ys.map file).map SourceFile.name).Nodup := (h.map SourceFile.name).nodup_iff.1 hxs
  refine Option.ext fun f => ?_
  calc first? xs name = some f
      ↔ f ∈ xs.map file ∧ f.name = name := find?_key_eq_some_iff hxs
    _ ↔ f ∈ ys.map file ∧ f.name = name := and_congr_left fun _ => h.mem_iff
    _ ↔ first? ys name = some f := (find?_key_eq_some_iff hys).symm

end Insertion

namespace Inventory

variable {inv inv' : Inventory} {f : SourceFile} {name : String}

/-! ### The view of an inventory -/

/-- What is found under a name is the file that has it. -/
theorem get?_eq_some_iff : inv.get? name = some f ↔ f ∈ inv.files ∧ f.name = name :=
  lookup_eq_some_iff inv.ascending

theorem get?_eq_none_iff : inv.get? name = none ↔ name ∉ inv.names := by
  rw [get?, lookup_eq_none_iff, names, List.mem_map]
  simp only [not_exists, not_and, ne_eq]

/-- **The directory and the view** determine an inventory. -/
theorem eq_of_get?_eq (hdir : inv.dir = inv'.dir) (h : ∀ name, inv.get? name = inv'.get? name) :
    inv = inv' := by
  -- what an inventory finds is what it has, and in its order there is no choice
  have hfiles : inv.files = inv'.files := by
    refine inv.ascending.eq_of_mem_iff inv'.ascending fun f => ?_
    have hget := h f.name
    constructor
    · intro hf
      rw [get?_eq_some_iff.2 ⟨hf, rfl⟩] at hget
      exact (get?_eq_some_iff.1 hget.symm).1
    · intro hf
      rw [get?_eq_some_iff.2 ⟨hf, rfl⟩] at hget
      exact (get?_eq_some_iff.1 hget).1
  obtain ⟨dir, files, ascending⟩ := inv
  obtain ⟨dir', files', ascending'⟩ := inv'
  obtain rfl : dir = dir' := hdir
  obtain rfl : files = files' := hfiles
  rfl

/-- The **views of an inventory agree** with one another. -/
structure Coherent (inv : Inventory) : Prop where
  /-- Each file is kept under its own name. -/
  names_eq : inv.names = inv.files.map SourceFile.name
  size_eq : inv.size = inv.files.length
  size_names : inv.names.length = inv.size
  isEmpty_iff : inv.isEmpty = true ↔ inv.size = 0
  found_iff : ∀ name f, inv.get? name = some f ↔ f ∈ inv.files ∧ f.name = name
  missing_iff : ∀ name, inv.get? name = none ↔ name ∉ inv.names

/-- Whatever is asked about an inventory, the answers fit together. -/
theorem coherent (inv : Inventory) : inv.Coherent where
  names_eq := rfl
  size_eq := rfl
  size_names := List.length_map _
  isEmpty_iff := by rw [isEmpty, List.isEmpty_iff, size, List.length_eq_zero_iff]
  found_iff _ _ := get?_eq_some_iff
  missing_iff _ := get?_eq_none_iff

/-! ### One insertion -/

/-- **An insertion is refused** if there is a file of the name. Then the inventory is left as it
was, and the error tells the extensions of both files. -/
theorem offer_eq_error_iff {place : Path} {e : BuildError} : inv.offer f place = (inv', .error e) ↔
    inv' = inv ∧ ∃ first, inv.get? f.name = some first ∧
      e = .duplicateName place f.name first.ext f.ext := by
  cases hget : inv.get? f.name with
  | none => simp [offer_of_none hget]
  | some first => simp [offer_of_some hget, eq_comm]

/-- A file is refused for its name alone. -/
theorem exists_offer_eq_error_iff {place : Path} :
    (∃ e, (inv.offer f place).2 = .error e) ↔ inv.get? f.name ≠ none := by
  cases hget : inv.get? f.name with
  | none => simp [offer_of_none hget]
  | some first => simp [offer_of_some hget]

/-- What an inventory is after an insertion. -/
def afterInsert (inv : Inventory) (x : Insertion) : Inventory := (inv.offer x.file x.place).1

/-- **What an insertion changes**: what is found under a name where nothing has been found. -/
theorem get?_afterInsert (inv : Inventory) (x : Insertion) (name : String) :
    (inv.afterInsert x).get? name =
      (inv.get? name).or (if x.file.name = name then some x.file else none) := by
  rw [afterInsert]
  cases hget : inv.get? x.file.name with
  | some first =>
    -- the insertion is refused, since under the name of the file there is another one
    rw [offer_of_some hget]
    dsimp only
    split
    · rename_i h
      rw [← h, hget, Option.some_or]
    · rw [Option.or_none]
  | none =>
    rw [offer_of_none hget]
    dsimp only
    rw [get?, files_put, lookup_insertAt inv.ascending]
    split
    · rename_i h
      rw [← h, hget, Option.none_or]
    · rw [Option.or_none, get?]

theorem dir_afterInsert (inv : Inventory) (x : Insertion) : (inv.afterInsert x).dir = inv.dir := by
  rw [afterInsert]
  cases hget : inv.get? x.file.name with
  | some first => rw [offer_of_some hget]
  | none => rw [offer_of_none hget, dir_put]

/-! ### Insertions in turn -/

/-- What an inventory is after insertions, one after another. -/
def afterAll (inv : Inventory) (xs : List Insertion) : Inventory := xs.foldl afterInsert inv

/-- **What is found after insertions**: what was there before, or else the first file of the
name. -/
theorem get?_afterAll (inv : Inventory) (xs : List Insertion) (name : String) :
    (inv.afterAll xs).get? name = (inv.get? name).or (Insertion.first? xs name) := by
  induction xs generalizing inv with
  | nil => exact Option.or_none.symm
  | cons x xs ih =>
    calc ((inv.afterInsert x).afterAll xs).get? name
        = ((inv.get? name).or (if x.file.name = name then some x.file
          else none)).or (Insertion.first? xs name) := by
          rw [ih, get?_afterInsert]
      _ = (inv.get? name).or (Insertion.first? (x :: xs) name) := by
          rw [Option.or_assoc, Insertion.first?_cons]
          split <;> rfl

/-- Insertions leave the directory. -/
theorem dir_afterAll (inv : Inventory) (xs : List Insertion) : (inv.afterAll xs).dir = inv.dir := by
  induction xs generalizing inv with
  | nil => rfl
  | cons x xs ih => exact (ih _).trans (dir_afterInsert inv x)

/-- Of an inventory that was empty the first file of each name is found. -/
theorem get?_afterAll_empty (dir : String) (xs : List Insertion) (name : String) :
    ((empty dir).afterAll xs).get? name = Insertion.first? xs name :=
  get?_afterAll _ xs name

/-- **The first insertion of a name wins.** After any insertions into a new inventory its names
ascend in the order of their bytes and its views agree. The files are those that were the first of
their names. A further insertion is refused exactly if a file of the name has been inserted before;
the error then tells the extension of the first of them, and the inventory that the insertion leaves
is the one that was there. Files with different names may be inserted in any order. -/
theorem first_insertion_wins (dir : String) :
    (∀ (xs : List Insertion) (inv : Inventory), (empty dir).afterAll xs = inv →
      inv.dir = dir ∧
      (inv.names.Pairwise fun n m => Utf8.encode n.toList < Utf8.encode m.toList) ∧
      inv.Coherent ∧
      (∀ f, f ∈ inv.files ↔ Insertion.Foremost xs f) ∧
      ∀ x : Insertion,
        ((∃ e, (inv.offer x.file x.place).2 = .error e) ↔
          ∃ y ∈ xs, y.file.name = x.file.name) ∧
        ∀ inv' e, inv.offer x.file x.place = (inv', .error e) → inv' = inv ∧
          ∃ first, Insertion.Foremost xs first ∧ first.name = x.file.name ∧
            e = .duplicateName x.place x.file.name first.ext x.file.ext) ∧
    ∀ xs ys : List Insertion, (xs.map Insertion.file).Perm (ys.map Insertion.file) →
      (xs.map fun x => x.file.name).Nodup → (empty dir).afterAll xs = (empty dir).afterAll ys := by
  refine ⟨?_, fun xs ys hperm hnames => ?_⟩
  · rintro xs inv rfl
    have hview := get?_afterAll_empty dir xs
    refine ⟨dir_afterAll _ xs, ?_, coherent _, fun f => ?_, fun x => ⟨?_, fun inv' e he => ?_⟩⟩
    · exact List.pairwise_map.2
        (((empty dir).afterAll xs).ascending.imp Utf8.encode_lt_encode_iff.2)
    · -- a file that is there is found under its name
      rw [← and_iff_left (a := f ∈ ((empty dir).afterAll xs).files) (Eq.refl f.name),
        ← get?_eq_some_iff, hview, Insertion.first?_eq_some_iff, and_iff_left rfl]
    · -- nothing is found under the name if no file of the name was inserted
      rw [exists_offer_eq_error_iff, hview, Ne, Insertion.first?_eq_none_iff]
      simp only [not_forall, ne_eq, not_not, exists_prop]
    · obtain ⟨hsame, first, hfirst, rfl⟩ := offer_eq_error_iff.1 he
      rw [hview, Insertion.first?_eq_some_iff] at hfirst
      exact ⟨hsame, first, hfirst.1, hfirst.2, rfl⟩
  · -- the two inventories have one view
    refine eq_of_get?_eq ((dir_afterAll _ xs).trans (dir_afterAll _ ys).symm) fun name => ?_
    rw [get?_afterAll_empty, get?_afterAll_empty, Insertion.first?_eq_of_perm hperm hnames]

end Inventory

/-! ### Files of one name -/

namespace RivalFiles

/-- A file in the directory `net`. -/
def file (name ext : String) : SourceFile :=
  ⟨.ofString ("net/" ++ name ++ "." ++ ext), "net/" ++ name ++ "." ++ ext, name, ext⟩

/-- Two files, and one that is refused since it has the name of the second. -/
def insertions : List Insertion :=
  [⟨file "b" "c", .ofString "net"⟩, ⟨file "a" "c", .ofString "net"⟩,
    ⟨file "a" "cpp", .ofString "net"⟩]

/-- Yet another file of that name is refused for the one that is there, which leaves the inventory
alone. What the inventory has is what it would have if the two files had come in the other order. -/
theorem first_stays :
    ((Inventory.empty "net").afterAll insertions).offer (file "a" "cxx") (.ofString "src/net") =
      ((Inventory.empty "net").afterAll insertions,
        .error (.duplicateName (.ofString "src/net") "a" "c" "cxx")) ∧
    (Inventory.empty "net").afterAll (insertions.take 2) =
      (Inventory.empty "net").afterAll (insertions.take 2).reverse := by
  obtain ⟨hafter, horder⟩ := Inventory.first_insertion_wins "net"
  refine ⟨?_, horder _ _ ((List.reverse_perm _).symm.map _) (by decide_cbv)⟩
  generalize hinv : (Inventory.empty "net").afterAll insertions = inv
  obtain ⟨-, -, -, -, hnext⟩ := hafter insertions inv hinv
  obtain ⟨hrefused, herror⟩ := hnext ⟨file "a" "cxx", .ofString "src/net"⟩
  -- a file of the name has been inserted, so a further one is refused
  obtain ⟨e, he⟩ := hrefused.2 ⟨⟨file "a" "c", .ofString "net"⟩, by decide_cbv, rfl⟩
  have hpair := Prod.mk.eta (p := inv.offer (file "a" "cxx") (.ofString "src/net"))
  rw [he] at hpair
  obtain ⟨hsame, first, hforemost, hname, rfl⟩ := herror _ e hpair.symm
  have hfirst : Insertion.first? insertions "a" = some (file "a" "c") := by decide_cbv
  obtain rfl :=
    Option.some.inj ((Insertion.first?_eq_some_iff.2 ⟨hforemost, hname⟩).symm.trans hfirst)
  rw [← hpair, hsame]
  rfl

end RivalFiles

end NativeBuild
