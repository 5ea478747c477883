import NativeBuild.Proofs.Listing
import NativeBuild.Proofs.Scanning
import NativeBuild.Proofs.Stepping

/-!
# Scans that follow links end

A scan is told here as the loop that it is: each step of its walk is followed by taking in what that
step has met, and the loop stops at the first thing that goes wrong (`Tree.scanStep`).
`Tree.scan_ends` says of every tree, with whatever links there are in it:

* after `Tree.walkBound` steps the loop has stopped, with what the scan answers;
* the answer is an inventory of the root, or that two files have one name, or that the walk has
  failed;
* there is an inventory exactly if the files have different names and the walk can pass everything
  that it comes to (`Tree.LinksHold`, `Tree.PathsFit`). In particular no link that it comes to is
  broken, and none leads back to a directory on the way to the link.

What a walk can pass is said of the names that lead on from the directory where it begins. Names
lead on from an entry of the directory, and for the rest of the way this entry is where a walk
begins that is in one directory more (`Tree.Passes.child`, `Tree.passes_iff`). A walk by recursion
goes on in the same way, and the potential of a walk ends both (`Tree.result_walkBelow_eq_ok_iff`).
-/

namespace NativeBuild

namespace Tree

variable {t : Tree} {reachable : List Name → Bool} {links left : Nat} {l d : Location} {n : Name}
  {trail names : List Name} {outer : List Standing}

/-! ### What a walk can pass -/

/-- **No link is broken, and none leads back**: names from `l` on that lead to a link lead on from
there, and if they lead to a directory, then to none that they have come through. -/
def LinksHold (t : Tree) (links : Nat) (l : Location) : Prop :=
  ∀ names n d k target, t.Leads links l names d k → t.get? (d ++ [n]) = some (.link target) →
    ∃ there left, t.throughLink k d target = .ok (there, left) ∧
      (t.isDir there = true → ∀ front p j, front <+: names → t.Leads links l front p j → p ≠ there)

/-- **All paths can be used** that a walk from `l` has to use: those of directories and of links. -/
def PathsFit (t : Tree) (reachable : List Name → Bool) (links : Nat) (l : Location) : Prop :=
  ∀ names n d k e, t.Leads links l names d k → t.get? (d ++ [n]) = some e →
    (∀ content mode, e ≠ .file content mode) →
    reachable (names ++ [n]) = true

/-- **A walk is not in the directory** `there` when it has come from `l` along `names` and is in
those of `outer` as well. -/
def Clear (t : Tree) (links : Nat) (l : Location) (outer : List Standing) (names : List Name)
    (there : Location) : Prop :=
  (∀ a ∈ outer, a.place ≠ there) ∧
    ∀ front p j, front <+: names → t.Leads links l front p j → p ≠ there

/-- An entry of the directory `d` **does not hold a walk up**: if it is a link, it leads somewhere,
and to a directory only if that is clear. -/
def LetsPass (t : Tree) (clear : Location → Prop) (d : Location) (k : Nat) (e : Entry) : Prop :=
  ∀ target, e = .link target → ∃ there left, t.throughLink k d target = .ok (there, left) ∧
    (t.isDir there = true → clear there)

/-- **A walk can pass** everything that names from `l` on lead to, when it has come there by the
names `trail` and is in the directories `outer` as well. -/
def Passes (t : Tree) (reachable : List Name → Bool) (links : Nat) (l : Location)
    (trail : List Name) (outer : List Standing) : Prop :=
  ∀ names n d k e, t.Leads links l names d k → t.get? (d ++ [n]) = some e →
    (∀ content mode, e ≠ .file content mode) →
    reachable (trail ++ (names ++ [n])) = true ∧ t.LetsPass (t.Clear links l outer names) d k e

/-- Without further names only the directories that one stands in matter. -/
theorem clear_nil_iff (trail : List Name) {there : Location} :
    t.Clear links l outer [] there ↔ ∀ a ∈ (⟨l, trail⟩ : Standing) :: outer, a.place ≠ there := by
  rw [List.forall_mem_cons, and_comm]
  refine and_congr_right fun _ => ⟨fun h => ?_, fun h front p j hfront hp => ?_⟩
  · exact h [] l links List.nil_prefix (leads_nil_iff.2 ⟨rfl, rfl⟩)
  · obtain rfl := List.prefix_nil.1 hfront
    rwa [(leads_nil_iff.1 hp).1]

/-- Where the first name leads, the walk is in one directory more. -/
theorem clear_cons_iff {there : Location} (hn : t.Leads links l [n] d left) :
    t.Clear links l outer (n :: names) there ↔
    t.Clear left d (⟨l, trail⟩ :: outer) names there := by
  constructor
  · rintro ⟨houter, hfront⟩
    refine ⟨List.forall_mem_cons.2 ⟨?_, houter⟩, fun front p j hpre hp => ?_⟩
    · exact hfront [] l links List.nil_prefix (leads_nil_iff.2 ⟨rfl, rfl⟩)
    · exact hfront (n :: front) p j (List.cons_prefix_cons.2 ⟨rfl, hpre⟩)
        (leads_cons_iff.2 ⟨d, left, hn, hp⟩)
  · rintro ⟨hinside, hfront⟩
    obtain ⟨hself, houter⟩ := List.forall_mem_cons.1 hinside
    refine ⟨houter, fun front p j hpre hp => ?_⟩
    -- the places that are gone through are where the walk stands, and those further on
    cases front with
    | nil => rwa [(leads_nil_iff.1 hp).1]
    | cons m front =>
      obtain ⟨rfl, hfronts⟩ := List.cons_prefix_cons.1 hpre
      obtain ⟨q, i, hm, hp⟩ := leads_cons_iff.1 hp
      obtain ⟨rfl, rfl⟩ := hn.eq hm
      exact hfront front p j hfronts hp

/-- More directories that are clear let more pass. -/
theorem LetsPass.imp {clear clear' : Location → Prop} {k : Nat} {e : Entry}
    (h : t.LetsPass clear d k e)
    (hclear : ∀ there, clear there → clear' there) : t.LetsPass clear' d k e := by
  intro target he
  obtain ⟨there, left, hthrough, hdir⟩ := h target he
  exact ⟨there, left, hthrough, fun hd => hclear there (hdir hd)⟩

/-- From the root the walk passes when all links hold and all paths fit. -/
theorem passes_nil_iff :
    t.Passes reachable links l [] [] ↔ t.LinksHold links l ∧ t.PathsFit reachable links l := by
  constructor
  · intro h
    refine ⟨fun names n d k target hnames hget => ?_, fun names n d k e hnames hget he =>
      (h names n d k e hnames hget he).1⟩
    obtain ⟨there, left, hthrough, hclear⟩ := (h names n d k _ hnames hget (by simp)).2 target rfl
    exact ⟨there, left, hthrough, fun hdir => (hclear hdir).2⟩
  · rintro ⟨hlinks, hpaths⟩ names n d k e hnames hget he
    refine ⟨hpaths names n d k e hnames hget he, ?_⟩
    rintro target rfl
    obtain ⟨there, left, hthrough, hback⟩ := hlinks names n d k target hnames hget
    exact ⟨there, left, hthrough, fun hdir => ⟨by simp, hback hdir⟩⟩

/-- **A walk goes on at an entry** if the entry does not hold it up. -/
theorem exists_result_meet_iff {e : Entry} :
    (∃ o, (t.meet reachable links ⟨l, trail⟩ outer (n, e)).result = .ok o) ↔
      ((∀ content mode, e ≠ .file content mode) →
        reachable (trail ++ [n]) = true ∧ t.LetsPass (t.Clear links l outer []) l links e) := by
  cases e with
  | file content mode =>
    rw [result_meet_file]
    simp
  | dir =>
    simp only [result_meet_dir_iff, LetsPass]
    simp
  | link target =>
    -- a link has to lead somewhere, and to a directory only if that is clear
    simp only [result_meet_link_iff]
    constructor
    · rintro ⟨o, hreach, there, left, hthrough, hor⟩ -
      refine ⟨hreach, ?_⟩
      rintro _ ⟨⟩
      refine ⟨there, left, hthrough, fun hdir => (clear_nil_iff trail).2 ?_⟩
      rcases hor with ⟨-, hnew, -⟩ | ⟨hnot, -⟩
      · exact hnew
      · exact absurd hdir (by simp [hnot])
    · intro h
      obtain ⟨hreach, hlink⟩ := h (by simp)
      obtain ⟨there, left, hthrough, hclear⟩ := hlink target rfl
      cases hdir : t.isDir there with
      | true => exact ⟨_, hreach, there, left, hthrough,
        Or.inl ⟨hdir, (clear_nil_iff trail).1 (hclear hdir), rfl⟩⟩
      | false => exact ⟨none, hreach, there, left, hthrough, Or.inr ⟨hdir, rfl⟩⟩

/-- Where a walk goes on, the name of the entry leads. -/
theorem leads_of_meet {x : Name × Entry} (hx : x ∈ t.entriesOf l)
    (h : (t.meet reachable links ⟨l, trail⟩ outer x).result = .ok (some (d, left))) :
    t.Leads links l [x.1] d left := by
  obtain ⟨n, e⟩ := x
  have hget := mem_entriesOf_iff.1 hx
  refine leads_singleton_iff.2 ⟨isDir_of_get?_concat hget, ?_⟩
  cases e with
  -- nothing leads on from a file
  | file content mode => simp [result_meet_file] at h
  | dir =>
    obtain ⟨rfl, rfl⟩ := Prod.mk.inj (Option.some.inj (result_meet_dir_iff.1 h).2)
    exact Or.inl ⟨.dir, hget, by simp, rfl, rfl⟩
  | link target =>
    obtain ⟨-, there, k, hthrough, ⟨-, -, ho⟩ | ⟨-, ho⟩⟩ := result_meet_link_iff.1 h
    · obtain ⟨rfl, rfl⟩ := Prod.mk.inj (Option.some.inj ho)
      exact Or.inr ⟨target, hget, hthrough⟩
    · simp at ho

/-- **Where a name leads to a directory**, a walk that goes on at the entry goes on there. -/
theorem eq_some_of_meet {e : Entry} {o : Option (Location × Nat)} (hn : t.Leads links l [n] d left)
    (hdir : t.isDir d = true) (hget : t.get? (l ++ [n]) = some e)
    (h : (t.meet reachable links ⟨l, trail⟩ outer (n, e)).result = .ok o) : o = some (d, left) := by
  obtain ⟨-, ⟨e', hget', -, rfl, rfl⟩ | ⟨target, hget', hthrough⟩⟩ := leads_singleton_iff.1 hn
  · obtain rfl : e = .dir := Option.some.inj (hget.symm.trans (of_decide_eq_true hdir))
    exact (result_meet_dir_iff.1 h).2
  · obtain rfl := Option.some.inj (hget.symm.trans hget')
    obtain ⟨-, there, k, hthrough', hor⟩ := result_meet_link_iff.1 h
    obtain ⟨rfl, rfl⟩ := Prod.mk.inj (Except.ok.inj (hthrough.symm.trans hthrough'))
    rcases hor with ⟨-, -, ho⟩ | ⟨hnot, -⟩
    · exact ho
    · exact absurd hdir (by simp [hnot])

/-- What a walk can pass it can pass **one name further on**, where it is in one directory more. -/
theorem Passes.child (h : t.Passes reachable links l trail outer)
    (hn : t.Leads links l [n] d left) :
    t.Passes reachable left d (trail ++ [n]) (⟨l, trail⟩ :: outer) := by
  intro names m p k e hnames hget he
  obtain ⟨hreach, hpass⟩ := h (n :: names) m p k e (leads_cons_iff.2 ⟨d, left, hn, hnames⟩) hget he
  exact ⟨by simpa using hreach, hpass.imp fun there => (clear_cons_iff hn).1⟩

/-- **Passing everything** is passing each entry of the directory, and then everything that the walk
comes to from there. -/
theorem passes_iff : t.Passes reachable links l trail outer ↔ ∀ x ∈ t.entriesOf l, ∃ o,
    (t.meet reachable links ⟨l, trail⟩ outer x).result = .ok o ∧
      ∀ d left, o = some (d, left) →
        t.Passes reachable left d (trail ++ [x.1]) (⟨l, trail⟩ :: outer) := by
  constructor
  · rintro h ⟨n, e⟩ hx
    obtain ⟨o, ho⟩ := exists_result_meet_iff.2 fun he =>
      h [] n l links e (leads_nil_iff.2 ⟨rfl, rfl⟩) (mem_entriesOf_iff.1 hx) he
    refine ⟨o, ho, ?_⟩
    rintro d left rfl
    exact h.child (leads_of_meet hx ho)
  · intro h names n d k e hnames hget he
    cases names with
    | nil =>
      -- the entry lies in the directory itself
      obtain ⟨rfl, rfl⟩ := leads_nil_iff.1 hnames
      obtain ⟨o, ho, -⟩ := h (n, e) (mem_entriesOf_iff.2 hget)
      exact exists_result_meet_iff.1 ⟨o, ho⟩ he
    | cons m names =>
      -- the first name leads to a directory that the walk goes on in
      obtain ⟨q, j, hm, hnames⟩ := leads_cons_iff.1 hnames
      -- it is one, since there is an entry where the names behind it lead
      have hq : t.isDir q = true := by
        by_contra hnot
        rw [Bool.not_eq_true] at hnot
        obtain rfl := eq_nil_of_leads hnames hnot
        obtain ⟨rfl, -⟩ := leads_nil_iff.1 hnames
        simp [isDir_of_get?_concat hget] at hnot
      obtain ⟨e', hget'⟩ : ∃ e', t.get? (l ++ [m]) = some e' := by
        obtain ⟨-, ⟨e', hget', -⟩ | ⟨target, hget', -⟩⟩ := leads_singleton_iff.1 hm
        · exact ⟨e', hget'⟩
        · exact ⟨_, hget'⟩
      obtain ⟨o, ho, hpass⟩ := h (m, e') (mem_entriesOf_iff.2 hget')
      obtain ⟨hreach, hlets⟩ :=
        hpass q j (eq_some_of_meet hm hq hget' ho) names n d k e hnames hget he
      exact ⟨by simpa using hreach, hlets.imp fun there => (clear_cons_iff hm).2⟩

/-! ### When a walk comes to its end -/

/-- A visit goes well if meeting the entry does, and the walk behind it if there is one. -/
theorem result_visit_eq_ok_iff {s : Standing} {x : Name × Entry} :
    (t.visit reachable links s outer x).result = .ok () ↔
    ∃ o, (t.meet reachable links s outer x).result = .ok o ∧
      ∀ d left, o = some (d, left) →
        (t.walkBelow reachable left d (s.trail ++ [x.1]) (s :: outer)).result = .ok () := by
  rw [visit, Traced.result_bind_eq_ok_iff]
  refine exists_congr fun o => and_congr_right fun _ => ?_
  cases o with
  | none => simp
  | some a =>
    obtain ⟨d, left⟩ := a
    constructor
    · rintro h _ _ ⟨⟩
      exact h
    · exact fun h => h d left rfl

/-- **A walk that follows links comes to its end** if it can pass everything that it comes to, and
only then. -/
theorem result_walkBelow_eq_ok_iff :
    (t.walkBelow reachable links l trail outer).result = .ok () ↔
    t.Passes reachable links l trail outer := by
  -- not by what lies below `l`: a link may lead above it, but the potential gets lower all the same
  induction hm :
    t.potential ⟨l, trail⟩ outer using Nat.strong_induction_on generalizing links l trail outer with
  | _ m ih =>
    -- where a visit goes on the potential is lower, so the walk from there is known
    have hvisit :
        ∀ x ∈ t.entriesOf l, (t.visit reachable links ⟨l, trail⟩ outer x).result = .ok () ↔ ∃ o,
        (t.meet reachable links ⟨l, trail⟩ outer x).result = .ok o ∧
          ∀ d left, o = some (d, left) →
            t.Passes reachable left d (trail ++ [x.1]) (⟨l, trail⟩ :: outer) := by
      intro x hx
      rw [result_visit_eq_ok_iff]
      refine exists_congr fun o => and_congr_right fun ho => forall₂_congr fun d left =>
        forall_congr' fun hd => ?_
      exact ih _ (hm ▸ potential_lt_of_meet hx (hd ▸ ho)) rfl
    rw [walkBelow_eq_visits, passes_iff]
    constructor
    · exact fun h x hx => (hvisit x hx).1 (Traced.result_of_result_forM h hx)
    · exact fun h => Traced.result_forM_eq_ok fun x hx => (hvisit x hx).2 (h x hx)

end Tree

/-! ### A scan step by step -/

/-- What a walk has met is **taken in**; if that goes well, the answer is that of the walk. -/
def Traced.takeIn {α : Type} (base : Path) (root : String) (walked : Walked α)
    (stock : List Inventory) :
    Except BuildError (α × List Inventory) := do
  let stock ← (walked.notes.filterMap (Discovered.ofNames? base root)).foldlM takeStock stock
  match walked.result with
  | .ok a => return (a, stock)
  | .error fault => .error (.walk base fault)

/-- Taking in what two walks have met, one after the other. -/
theorem Traced.takeIn_bind {α β : Type} (base : Path) (root : String) (walked : Walked α)
    (f : α → Walked β) (stock : List Inventory) : (walked >>= f).takeIn base root stock =
      walked.takeIn base root stock >>= fun r => (f r.1).takeIn base root r.2 := by
  cases hr : walked.result with
  | error fault =>
    rw [Traced.bind_of_error hr, takeIn, takeIn, hr]
    cases (walked.notes.filterMap (Discovered.ofNames? base root)).foldlM takeStock stock <;> rfl
  | ok a =>
    rw [Traced.bind_of_ok hr, takeIn, takeIn, hr]
    dsimp only
    rw [List.filterMap_append, List.foldlM_append]
    cases (walked.notes.filterMap (Discovered.ofNames? base root)).foldlM takeStock stock <;> rfl

/-- **How far a scan has come**: the directories that its walk is in, and what it has in stock. -/
abbrev Progress := List Frame × List Inventory

namespace Tree

variable {t : Tree} {project : Path} {root : String}

/-- **One step of a scan**: a step of its walk, and what that has met is taken in. -/
def scanStep (t : Tree) (base : Path) (root : String) (p : Progress) : Except BuildError Progress :=
  (t.step (reachable base) p.1).takeIn base root p.2

/-- A number of steps. -/
def scanSteps (t : Tree) (base : Path) (root : String) : Nat → Progress → Except BuildError Progress
  | 0, p => .ok p
  | k + 1, p => t.scanStep base root p >>= t.scanSteps base root k

/-- The directories that the walk of a scan is in to begin with: the root, if it is a directory. -/
def framesAt (t : Tree) (base : Path) : List Frame :=
  match t.resolve base with
  | .ok (l, links) => if t.isDir l then [t.enter links l []] else []
  | .error _ => []

/-- **Where a scan begins**, if the root is accepted. -/
def scanStart (t : Tree) (project : Path) (root : String) : Except BuildError Progress := do
  checkRoot root
  return (t.framesAt (rootPath project root), [])

/-- Without a directory to walk there is no frame. -/
theorem framesAt_of_missing {base : Path}
    (h : ∀ l links, t.resolve base = .ok (l, links) → t.isDir l = false) :
    t.framesAt base = [] := by
  rw [framesAt]
  cases hr : t.resolve base with
  | error fault => rfl
  | ok a => exact if_neg (by simp [h a.1 a.2 hr])

/-- A directory gives the first frame. -/
theorem framesAt_of_isDir {base : Path} {l : Location} {links : Nat}
    (hr : t.resolve base = .ok (l, links))
    (hdir : t.isDir l = true) : t.framesAt base = [t.enter links l []] := by
  rw [framesAt, hr]
  exact if_pos hdir

/-- The steps of a scan are those of its walk. -/
theorem scanSteps_eq (t : Tree) (base : Path) (root : String) (k : Nat) (p : Progress) :
    t.scanSteps base root k p = (t.advance (reachable base) k p.1).takeIn base root p.2 := by
  induction k generalizing p with
  | zero => rfl
  | succ k ih =>
    rw [scanSteps, scanStep, advance_succ, Traced.takeIn_bind]
    exact bind_congr fun p => ih p

/-- When no frame is left the steps are at their end. -/
theorem scanSteps_nil (t : Tree) (base : Path) (root : String) (k : Nat) (stock : List Inventory) :
    t.scanSteps base root k ([], stock) = .ok ([], stock) := by
  rw [scanSteps_eq, advance_nil]
  rfl

/-- **A scan has ended after so many steps**, with its answer. -/
theorem scanStart_bind_scanSteps (t : Tree) (project : Path) (root : String) {k : Nat}
    (hk : t.walkBound ≤ k) :
    (t.scanStart project root >>= t.scanSteps (rootPath project root) (trimRoot root) k) =
      (t.scan project root true).result.map fun invs => ([], invs) := by
  rw [scanStart]
  rcases scan_cases t project root true with ⟨hroot, hscan⟩ |
    ⟨hroot, ⟨hdir, hscan⟩ | ⟨l, links, hr, hdir⟩⟩
  · rw [hscan, checkRoot_eq_error hroot]
    rfl
  · -- the walk is in no directory from the beginning
    rw [hscan, hroot, framesAt_of_missing hdir]
    exact t.scanSteps_nil _ _ k []
  · -- the steps take in what the walk notes, up to the first clash or to the end of the walk
    rw [scan_of_isDir hroot hr hdir, hroot, framesAt_of_isDir hr hdir, found]
    change t.scanSteps _ _ k ([t.enter links l []], []) = _
    rw [scanSteps_eq, advance_enter t _ links l hk, Traced.takeIn_bind, Traced.takeIn]
    generalize t.walk (reachable (rootPath project root)) true l links = walked
    cases (walked.notes.filterMap
      (Discovered.ofNames? (rootPath project root) (trimRoot root))).foldlM takeStock []
    · rfl
    · cases walked.result <;> rfl

theorem scanSteps_add (t : Tree) (base : Path) (root : String) (k j : Nat) (p : Progress) :
    t.scanSteps base root (k + j) p = t.scanSteps base root k p >>= t.scanSteps base root j := by
  induction k generalizing p with
  | zero =>
    rw [Nat.zero_add]
    rfl
  | succ k ih =>
    rw [Nat.add_right_comm, scanSteps, scanSteps, bind_assoc]
    exact bind_congr fun p => ih p

/-- **A scan that has stopped** has come to its answer, after however few steps. -/
theorem result_scan_of_scanSteps {k : Nat} {answer : Except BuildError (List Inventory)}
    (h : (t.scanStart project root >>= t.scanSteps (rootPath project root) (trimRoot root) k) =
      answer.map fun invs => ([], invs)) : (t.scan project root true).result = answer := by
  -- steps that are made after it has stopped change nothing
  have hstays : ((answer.map fun invs => ([], invs)) >>=
      t.scanSteps (rootPath project root) (trimRoot root) t.walkBound) = answer.map fun invs =>
        ([], invs) := by
    cases answer with
    | error e => rfl
    | ok invs => exact t.scanSteps_nil _ _ _ invs
  have hend := t.scanStart_bind_scanSteps project root (Nat.le_add_left t.walkBound k)
  rw [funext (t.scanSteps_add _ _ k _), ← bind_assoc, h, hstays] at hend
  -- the answer can be read off
  cases answer <;> cases hr : (t.scan project root true).result <;> simp_all [Except.map]

/-- A scan of an accepted root fails for two files of one name, or because its walk does. -/
theorem scan_answers (hroot : checkRoot root = .ok ()) (followLinks : Bool) :
    (∃ invs, (t.scan project root followLinks).result = .ok invs) ∨
      (∃ place name first second,
        (t.scan project root followLinks).result =
          .error (.duplicateName place name first second)) ∨
      ∃ fault, (t.scan project root followLinks).result =
        .error (.walk (rootPath project root) fault) := by
  rcases scan_cases t project root followLinks with ⟨hnot, -⟩ |
    ⟨-, ⟨-, hscan⟩ | ⟨l, links, hr, hdir⟩⟩
  · exact absurd hroot hnot
  · exact Or.inl ⟨[], hscan⟩
  · rw [scan_of_isDir hroot hr hdir]
    rcases foldlM_found_cases t project root followLinks l links with ⟨invs, hfound, -⟩ |
      ⟨s, s', -, hfound⟩
    · rw [hfound]
      -- a clash comes first, since files are taken in while the walk goes on
      cases (t.walk (reachable (rootPath project root)) followLinks l links).result with
      | ok u => exact Or.inl ⟨invs, rfl⟩
      | error fault => exact Or.inr (Or.inr ⟨fault, rfl⟩)
    · rw [hfound]
      exact Or.inr (Or.inl ⟨_, _, _, _, rfl⟩)

/-- **Scans that follow links end**, whatever links there are. After a number of steps that depends
on the tree alone a scan has stopped with its answer: with inventories, or because two files have
one name, or because its walk has failed. It has inventories exactly if, wherever the root lies, no
link that is met is broken or leads back to a directory on the way to it, all paths on the way can
be used, and no two files clash. -/
theorem scan_ends (t : Tree) (project : Path) (root : String) (hroot : checkRoot root = .ok ()) :
    (∀ k, t.walkBound ≤ k →
      (t.scanStart project root >>= t.scanSteps (rootPath project root) (trimRoot root) k) =
        (t.scan project root true).result.map fun invs => ([], invs)) ∧
    ((∃ invs, (t.scan project root true).result = .ok invs) ∨
      (∃ place name first second,
        (t.scan project root true).result = .error (.duplicateName place name first second)) ∨
      ∃ fault, (t.scan project root true).result = .error (.walk (rootPath project root) fault)) ∧
    ((∃ invs, (t.scan project root true).result = .ok invs) ↔
      ∀ l links, t.resolve (rootPath project root) = .ok (l, links) → t.isDir l = true →
        t.LinksHold links l ∧ t.PathsFit (reachable (rootPath project root)) links l ∧
          ∀ s s', ¬ t.Clash true links l s s') := by
  refine ⟨fun k hk => t.scanStart_bind_scanSteps project root hk, scan_answers hroot true, ?_⟩
  -- nothing is above the root, and so nothing to lead back to but what the walk itself goes through
  have hwalk :
      ∀ l links, (t.walk (reachable (rootPath project root)) true l links).result = .ok () ↔
      t.LinksHold links l ∧ t.PathsFit (reachable (rootPath project root)) links l := by
    intro l links
    rw [walk_true, result_walkBelow_eq_ok_iff, passes_nil_iff]
  constructor
  · rintro ⟨invs, h⟩ l links hr hdir
    obtain ⟨hlinks, hpaths⟩ := (hwalk l links).1 (found_of_scan h hr hdir).2
    exact ⟨hlinks, hpaths, not_clash_of_scan h hr hdir⟩
  · -- where the root is no directory there is nothing to pass
    intro h
    by_cases hr : ∃ l links, t.resolve (rootPath project root) = .ok (l, links) ∧ t.isDir l = true
    · obtain ⟨l, links, hr, hdir⟩ := hr
      obtain ⟨hlinks, hpaths, hclash⟩ := h l links hr hdir
      exact scan_of_not_clash hroot hr hdir ((hwalk l links).2 ⟨hlinks, hpaths⟩) hclash
    · simp only [not_exists, not_and, Bool.not_eq_true] at hr
      exact ⟨[], scan_of_missing hroot hr⟩

end Tree

namespace LinkedProject

open SmallProject (src lib file text)

/-- The name of a link that leads upwards. -/
def up : Name := SmallProject.name "up"

/-- A project with a link in its module root to what lies around that. -/
def looping : Tree where
  entries :=
    [([src], .dir),
      ([src, file], text ""),
      ([src, up], .link (.ofString ".."))]
  ascending := by
    unfold Ascending
    decide_cbv
  closed := SmallProject.closed_of_dropLast (by decide_cbv)

/-- A project with two links to one directory in its module root, one of them through a third
link. -/
def sharing : Tree where
  entries :=
    [([lib], .dir),
      ([lib, file], text ""),
      ([src], .dir),
      ([src, lib], .link (.ofString "../lib")),
      ([src, up], .link (.ofString "../up")),
      ([up], .link (.ofString "lib"))]
  ascending := by
    unfold Ascending
    decide_cbv
  closed := SmallProject.closed_of_dropLast (by decide_cbv)

/-- The walk enters the module root a second time, by its own name, and stops where it meets the
link again. -/
theorem result_scan_looping : (looping.scan (.ofString ".") "src" true).result =
    .error (.walk (rootPath (.ofString ".") "src") (.loop [up, src, up] [up])) := by
  refine Tree.result_scan_of_scanSteps (k := 6) ?_
  cbv

/-- What stands in a directory that has one source file. -/
def inventory (dir : String) : Inventory where
  dir := dir
  files := [⟨.ofString ("./src/" ++ dir ++ "/a.c"), "src/" ++ dir ++ "/a.c", "a", "c"⟩]
  ascending := List.pairwise_singleton _ _

/-- A directory may be entered by several links, one after the other. -/
theorem result_scan_sharing : (sharing.scan (.ofString ".") "src" true).result =
    .ok [inventory "lib", inventory "up"] := by
  refine Tree.result_scan_of_scanSteps (k := 7) ?_
  cbv

/-- The one scan stops for a link that leads back, and no step more changes that. All links of the
other hold. -/
theorem linkedProjects_end :
    (∀ k, looping.walkBound ≤ k → (looping.scanStart (.ofString ".") "src" >>=
        looping.scanSteps (rootPath (.ofString ".") "src") (trimRoot "src") k) =
      .error (.walk (rootPath (.ofString ".") "src") (.loop [up, src, up] [up]))) ∧
    sharing.LinksHold linkLimit [src] := by
  obtain ⟨hlooping, -, -⟩ := Tree.scan_ends looping (.ofString ".") "src" LongProject.checkRoot_src
  obtain ⟨-, -, hsharing⟩ := Tree.scan_ends sharing (.ofString ".") "src" LongProject.checkRoot_src
  have hr : sharing.resolve (rootPath (.ofString ".") "src") = .ok ([src], linkLimit) := by cbv
  refine ⟨fun k hk => ?_, (hsharing.1 ⟨_, result_scan_sharing⟩ _ _ hr (by cbv)).1⟩
  exact (hlooping k hk).trans (congrArg (Except.map fun invs => ([], invs)) result_scan_looping)

end LinkedProject

end NativeBuild
