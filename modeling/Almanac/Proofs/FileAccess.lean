import Almanac.FileStore
import Almanac.Proofs.Outcome

/-!
# Almanac.Proofs.FileAccess

What a program may rely on when it reads and replaces files.

Paths lead to places, and at a place stand the bytes of a file.  `FileView` collects the laws of
such an arrangement: reading delivers what stands at the place of a path, replacing changes that
place alone, and a file that cannot be created leaves everything as it was.  The laws leave open
what paths and places are and how the ones lead to the others; `FileStore.view` is the arrangement
of a tree of directories.

Such a tree is set up by making directories, which moves nothing (`FileStore.of_makeDirectory`), and
looked through as a sorted list of paths, with every file in it (`FileStore.mem_listing`).
-/

namespace Almanac

/-! ## the laws -/

/-- What is left of a state when the bytes of the file at a path are replaced. -/
def Files.replaced {σ π : Type} [Files π (StateM σ)] (s : σ) (path : π) (bytes : ByteArray) : σ :=
  ((Files.replace path bytes : StateM σ _).run s).2

/-- A state seen as files at places, which paths lead to. -/
structure FileView (σ κ : Type) {π : Type} [Files π (StateM σ)] where
  /-- The place that a path leads to. -/
  resolve : σ → π → Except Failure κ
  /-- The place of a file that can be created or emptied. -/
  target : σ → π → Except Failure κ
  /-- The bytes of the file at a place. -/
  bytes? : σ → κ → Option ByteArray
  fetch_state : ∀ s path, ((Files.fetch path : StateM σ _).run s).2 = s
  /-- Opening a file delivers all its bytes. -/
  fetch_file : ∀ {s path place bytes}, resolve s path = .ok place → bytes? s place = some bytes →
    ((Files.fetch path : StateM σ _).run s).1 = .ok ⟨bytes, none⟩
  /-- A file that cannot be created leaves everything as it was. -/
  replace_of_error : ∀ {s path cause} bytes, target s path = .error cause →
    (Files.replace path bytes : StateM σ _).run s = (.error (.cannotCreate cause), s)
  /-- A file that can be created takes all bytes. -/
  replace_of_ok : ∀ {s path place} bytes, target s path = .ok place →
    ((Files.replace path bytes : StateM σ _).run s).1 = .ok ()
  bytes?_replaced_self : ∀ {s path place} bytes, target s path = .ok place →
    bytes? (Files.replaced s path bytes) place = some bytes
  bytes?_replaced_of_ne : ∀ {s path place other} bytes, target s path = .ok place →
    other ≠ place → bytes? (Files.replaced s path bytes) other = bytes? s other
  resolve_replaced_self : ∀ {s path place} bytes, target s path = .ok place →
    resolve (Files.replaced s path bytes) path = .ok place
  /-- A path goes on leading where it leads. -/
  resolve_replaced : ∀ {s path place path' place'} bytes, target s path = .ok place →
    resolve s path' = .ok place' → resolve (Files.replaced s path bytes) path' = .ok place'

/-! ## the tree of directories -/

namespace FileStore

/-- The place that a path leads to. -/
def resolve (s : FileStore) (path : String) : Except Failure Place := do
  let (start, names) ← route path
  s.walk start names

/-- The bytes of the file at a place. -/
def bytes? (s : FileStore) (place : Place) : Option ByteArray :=
  match s.find? place with
  | some (.file bytes) => some bytes
  | _ => none

variable {s : FileStore} {place start : Place} {path : String}

theorem bytes?_eq_some_iff {bytes : ByteArray} :
    s.bytes? place = some bytes ↔ s.find? place = some (.file bytes) := by
  unfold bytes?
  split <;> simp_all

/-! ### walking -/

theorem walk_cons_eq_ok_iff {name : String} {names : List String} {stop : Place} :
    s.walk place (name :: names) = .ok stop ↔
      s.find? place = some .directory ∧ ¬ maxNameBytes < name.utf8ByteSize ∧
        s.walk (place.enter name) names = .ok stop := by
  rw [walk]
  split
  · simp_all
  · simp_all
  · split <;> simp_all

theorem walk_append_eq_ok_iff {front names : List String} {stop : Place} :
    s.walk start (front ++ names) = .ok stop ↔
      ∃ middle, s.walk start front = .ok middle ∧ s.walk middle names = .ok stop := by
  induction front generalizing start with
  | nil => simp [walk]
  | cons name front ih => simp only [List.cons_append, walk_cons_eq_ok_iff, ih]; grind

/-- A new file is not in the way where no directory stood. -/
theorem walk_put {names : List String} {stop : Place} {node : Node}
    (h : s.find? place ≠ some .directory) (hwalk : s.walk start names = .ok stop) :
    (s.put place node).walk start names = .ok stop := by
  induction names generalizing start with
  | nil => exact hwalk
  | cons name names ih =>
      obtain ⟨hdir, hname, hwalk⟩ := walk_cons_eq_ok_iff.1 hwalk
      have hne : start ≠ place := by
        intro heq
        exact h (heq ▸ hdir)
      rw [walk_cons_eq_ok_iff, find?_put_of_ne s hne]
      exact ⟨hdir, hname, ih hwalk⟩

/-! ### places -/

theorem resolve_eq_ok_iff : s.resolve path = .ok place ↔
    ∃ start names, route path = .ok (start, names) ∧ s.walk start names = .ok place := by
  unfold resolve
  rw [Outcome.bind_eq_ok_iff, Prod.exists]

/-- Cutting empty names off the end leaves names that end in another one. -/
theorem eq_of_dropWhile_reverse {names before : List String} {last : String}
    (hlast : names.getLast? ≠ some "")
    (h : names.reverse.dropWhile (·.isEmpty) = last :: before) :
    names = before.reverse ++ [last] := by
  rw [← List.head?_reverse] at hlast
  have hall : names.reverse.dropWhile (·.isEmpty) = names.reverse := by
    cases hnames : names.reverse with
    | nil => rfl
    | cons name rest =>
        rw [hnames, List.head?_cons, ne_eq, Option.some.injEq] at hlast
        simp [hlast]
  rw [← List.reverse_reverse names, ← hall, h, List.reverse_cons]

/-- A file is created where its path leads, and no directory stands there. -/
theorem of_target_eq_ok (h : s.target path = .ok place) :
    s.resolve path = .ok place ∧ s.find? place ≠ some .directory := by
  obtain ⟨⟨start, names⟩, hroute, h⟩ := Outcome.bind_eq_ok_iff.1 h
  dsimp only at h
  split at h
  · contradiction
  · rename_i last before hnames
    obtain ⟨directory, hdirectory, h⟩ := Outcome.bind_eq_ok_iff.1 h
    rw [Outcome.guard_eq_ok_iff, not_or] at h
    obtain ⟨⟨hlast, -⟩, h⟩ := h
    obtain ⟨place', hplace, h⟩ := Outcome.bind_eq_ok_iff.1 h
    have hnode : s.find? place' ≠ some .directory ∧ place' = place := by
      split at h
      · exact absurd h Outcome.throw_ne_ok
      · exact ⟨‹_›, Outcome.pure_eq_ok_iff.1 h⟩
    obtain ⟨hnode, rfl⟩ := hnode
    -- The last name is looked up where the names in front of it lead, as `.` stays there.
    obtain ⟨middle, hmiddle, hstay⟩ := walk_append_eq_ok_iff.1 hdirectory
    obtain ⟨-, -, hstay⟩ := walk_cons_eq_ok_iff.1 hstay
    have hsame : middle = directory := Except.ok.inj hstay
    refine ⟨resolve_eq_ok_iff.2 ⟨start, names, hroute, ?_⟩, hnode⟩
    rw [eq_of_dropWhile_reverse hlast hnames]
    exact walk_append_eq_ok_iff.2 ⟨middle, hmiddle, hsame ▸ hplace⟩

/-- A directory, or the beginning of a path, is never replaced. -/
theorem names_ne_nil (h : s.find? place ≠ some .directory) : place.names ≠ [] := by
  intro hnames
  exact h (if_pos hnames)

/-! ### the arrangement -/

theorem run_replace_of_error {cause : Failure} (bytes : ByteArray)
    (h : s.target path = .error cause) :
    (Files.replace path bytes : StateM FileStore _).run s = (.error (.cannotCreate cause), s) := by
  have hreplace : s.replace path bytes = .error cause := by
    rw [replace, h]
    rfl
  simp only [Files.replace, StateT.run_bind, StateT.run_get, pure_bind, hreplace]
  rfl

theorem run_replace_of_ok (bytes : ByteArray) (h : s.target path = .ok place) :
    (Files.replace path bytes : StateM FileStore _).run s =
      (.ok (), s.put place (.file bytes)) := by
  have hreplace : s.replace path bytes = .ok (s.put place (.file bytes)) := by
    rw [replace, h]
    rfl
  simp only [Files.replace, StateT.run_bind, StateT.run_get, pure_bind, hreplace]
  rfl

theorem replaced_eq (bytes : ByteArray) (h : s.target path = .ok place) :
    Files.replaced s path bytes = s.put place (.file bytes) := by
  rw [Files.replaced, run_replace_of_ok bytes h]

theorem fetch_eq_ok {bytes : ByteArray} (hplace : s.resolve path = .ok place)
    (hbytes : s.bytes? place = some bytes) : s.fetch path = .ok ⟨bytes, none⟩ := by
  obtain ⟨start, names, hroute, hwalk⟩ := resolve_eq_ok_iff.1 hplace
  rw [fetch, hroute, Outcome.ok_bind]
  dsimp only
  rw [hwalk, Outcome.ok_bind, bytes?_eq_some_iff.1 hbytes]
  rfl

/-- Replacing a file does not stand in the way of any path. -/
theorem resolve_put {path : String} {place' : Place} {node : Node}
    (h : s.find? place ≠ some .directory) (hplace : s.resolve path = .ok place') :
    (s.put place node).resolve path = .ok place' := by
  obtain ⟨start, names, hroute, hwalk⟩ := resolve_eq_ok_iff.1 hplace
  exact resolve_eq_ok_iff.2 ⟨start, names, hroute, walk_put h hwalk⟩

/-- A tree of directories and files. -/
def view : FileView FileStore Place where
  resolve := resolve
  target := target
  bytes? := bytes?
  fetch_state _ _ := rfl
  fetch_file := fetch_eq_ok
  replace_of_error := run_replace_of_error
  replace_of_ok bytes h := by rw [run_replace_of_ok bytes h]
  bytes?_replaced_self bytes h := by
    obtain ⟨-, hnode⟩ := of_target_eq_ok h
    rw [replaced_eq bytes h, bytes?, find?_put_self _ (names_ne_nil hnode)]
  bytes?_replaced_of_ne bytes h hne := by
    rw [replaced_eq bytes h, bytes?, find?_put_of_ne _ hne, bytes?]
  resolve_replaced_self bytes h := by
    obtain ⟨hplace, hnode⟩ := of_target_eq_ok h
    rw [replaced_eq bytes h]
    exact resolve_put hnode hplace
  resolve_replaced bytes h hplace := by
    obtain ⟨-, hnode⟩ := of_target_eq_ok h
    rw [replaced_eq bytes h]
    exact resolve_put hnode hplace

/-! ### making and listing directories -/

variable {s' : FileStore}

theorem addDirectory_of_none (h : s.find? place = none) :
    s.addDirectory place = s.put place .directory ∧ place.names ≠ [] := by
  have hnode : s.find? place ≠ some .directory := by
    rw [h]
    exact (Option.some_ne_none _).symm
  rw [addDirectory, h]
  exact ⟨rfl, names_ne_nil hnode⟩

/-- What stands somewhere goes on standing there; something new is a directory. -/
theorem find?_addDirectory (s : FileStore) (place other : Place) :
    (s.addDirectory place).find? other = s.find? other ∨
      s.find? other = none ∧ (s.addDirectory place).find? other = some .directory := by
  cases hplace : s.find? place with
  | some node => exact .inl (by rw [addDirectory, hplace])
  | none =>
      obtain ⟨hadd, hnames⟩ := addDirectory_of_none hplace
      rw [hadd]
      by_cases hother : other = place
      · rw [hother]
        exact .inr ⟨hplace, find?_put_self s hnames .directory⟩
      · exact .inl (find?_put_of_ne s hother .directory)

theorem find?_addDirectory_self (s : FileStore) (place : Place) :
    (s.addDirectory place).find? place ≠ none := by
  cases hplace : s.find? place with
  | some node =>
      rw [addDirectory, hplace]
      exact Option.ne_none_iff_exists'.2 ⟨node, hplace⟩
  | none =>
      obtain ⟨hadd, hnames⟩ := addDirectory_of_none hplace
      rw [hadd, find?_put_self s hnames]
      exact Option.some_ne_none _

/-- What stands somewhere goes on standing there; all that is new are directories. -/
theorem find?_addDirectories (s : FileStore) (start : Place) (names : List String)
    (other : Place) :
    (s.addDirectories start names).find? other = s.find? other ∨
      s.find? other = none ∧ (s.addDirectories start names).find? other = some .directory := by
  induction names generalizing s start with
  | nil => exact .inl rfl
  | cons name names ih =>
      have hstep := find?_addDirectory s (start.enter name) other
      have hrest := ih (s.addDirectory (start.enter name)) (start.enter name)
      rw [addDirectories]
      grind

/-- Names that directories were added for lead somewhere, unless a file is in their way or one of
them is too long. -/
theorem walk_addDirectories (names : List String) (h : s.find? start ≠ none) :
    (s.addDirectories start names).walk start names ≠ .error .notFound := by
  induction names generalizing s start with
  | nil => simp [walk]
  | cons name names ih =>
      have hstart := find?_addDirectories s start (name :: names) start
      have hrest := ih (find?_addDirectory_self s (start.enter name))
      rw [walk]
      rw [addDirectories] at hstart ⊢
      split
      · grind
      · simp
      · split
        · simp
        · exact hrest

/-- A path starts in a directory. -/
theorem find?_of_route {names : List String} (h : route path = .ok (start, names)) :
    s.find? start = some .directory := by
  have hstart : FileStore.start path = start := by
    unfold route at h
    grind
  rw [← hstart, FileStore.start]
  split <;> rfl

/-- The path of a new directory leads somewhere, unless a file is in its way or it is too long, and
nothing but directories is new. -/
theorem of_makeDirectory (h : s.makeDirectory path = .ok s') :
    s'.resolve path ≠ .error .notFound ∧
      ∀ place, s'.find? place = s.find? place ∨
        s.find? place = none ∧ s'.find? place = some .directory := by
  obtain ⟨⟨start, names⟩, hroute, h⟩ := Outcome.bind_eq_ok_iff.1 h
  have hs' : s.addDirectories start names = s' := Outcome.pure_eq_ok_iff.1 h
  have hstart : s.find? start ≠ none := by
    rw [find?_of_route hroute]
    exact Option.some_ne_none _
  rw [← hs', resolve, hroute]
  exact ⟨walk_addDirectories names hstart, find?_addDirectories s start names⟩

/-- Paths are listed in ascending order. -/
theorem pairwise_listing (s : FileStore) : s.listing.Pairwise (· ≤ ·) := by
  unfold listing
  have htrans (a b c : String) (hab : decide (a ≤ b) = true) (hbc : decide (b ≤ c) = true) :
      decide (a ≤ c) = true :=
    decide_eq_true (String.le_trans (of_decide_eq_true hab) (of_decide_eq_true hbc))
  have htotal (a b : String) : (decide (a ≤ b) || decide (b ≤ a)) = true := by
    simpa using String.le_total a b
  exact (List.pairwise_mergeSort htrans htotal _).imp of_decide_eq_true

/-- A file below the working directory is listed. -/
theorem mem_listing {bytes : ByteArray} (hplace : place.origin = Place.working.origin)
    (h : s.bytes? place = some bytes) : "/".intercalate place.names ∈ s.listing := by
  rw [bytes?_eq_some_iff, find?] at h
  split at h
  · simp at h
  · obtain ⟨front, rest, hnodes, -⟩ := List.lookup_eq_some_iff.1 h
    have hmem : (place, .file bytes) ∈ s.nodes := by
      rw [hnodes]
      exact List.mem_append_right front List.mem_cons_self
    rw [listing, List.mem_mergeSort]
    exact List.mem_map.2 ⟨_, List.mem_filter.2 ⟨hmem, decide_eq_true hplace⟩, rfl⟩

end FileStore

end Almanac
