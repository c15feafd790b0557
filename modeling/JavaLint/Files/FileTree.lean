import JavaLint.Files.Path
import JavaLint.KeyMap
/-!
# File trees

The files and directories that a run can see. A place in a tree is the list of
names that leads to it from the top; every place above an entry is a directory.

## Main definitions

- `Place`, `FileTree` — places and the entries that stand at them
- `FileTree.ofList` — the tree of a list of entries
- `FileTree.isFile`, `FileTree.isDirectory`, `FileTree.filesBelow` — what stands where
- `FileTree.locate?` — the place that an absolute path leads to

## Design notes

There are no links. A path is followed step by step, and a step may only be
taken from a directory, so `missing/../a` leads nowhere.
-/

namespace JavaLint

/-- The names that lead from the top of a tree to one of its entries. -/
abbrev Place := List String

/-- Can this text name a file? -/
def isFileName (name : String) : Bool :=
  name != "" && name != "." && name != ".." && !name.toList.contains '/'

/-- What stands at a place. -/
inductive FileEntry where
  | file (bytes : ByteArray)
  | directory
  deriving Inhabited

/-- Is the entry a file? -/
def FileEntry.isFile : FileEntry → Bool
  | .file _ => true
  | .directory => false

/-- Files and directories. A directory needs an entry of its own only if it is
    empty. Nothing stands below a file; what stands below an entry comes after it. -/
structure FileTree where
  entries : KeyMap Place FileEntry := .empty
  named : ∀ e ∈ entries.entries, ∀ name ∈ e.1, isFileName name = true := by simp [KeyMap.empty]
  leaves : entries.entries.Pairwise fun e below => e.2.isFile = true → ¬ e.1 <+: below.1 := by
    simp [KeyMap.empty]

/-- What lies between a place and one below it is below it as well. -/
theorem Place.isPrefix_of_between {a b c : Place} (hac : a <+: c) (hab : a < b) (hbc : b < c) :
    a <+: b := by
  induction a generalizing b c with
  | nil => exact List.nil_prefix
  | cons x a ih =>
    obtain ⟨c, rfl⟩ := hac
    cases b with
    | nil => exact absurd hab (List.not_lt_nil _)
    | cons y b =>
      rw [List.cons_lt_cons_iff] at hab
      rw [List.cons_append, List.cons_lt_cons_iff] at hbc
      rcases hab with hxy | ⟨rfl, hab⟩
      · rcases hbc with hyx | ⟨rfl, -⟩
        · exact absurd hyx (String.lt_asymm hxy)
        · exact absurd hxy (String.lt_irrefl y)
      · rcases hbc with hxx | ⟨-, hbc⟩
        · exact absurd hxx (String.lt_irrefl x)
        · exact List.cons_prefix_cons.2 ⟨rfl, ih (List.prefix_append a c) hab hbc⟩

namespace FileTree

/-- The entries without the files that have something below them: a place above
    an entry is a directory. -/
def settle : List (Place × FileEntry) → List (Place × FileEntry)
  | [] => []
  | (place, entry) :: rest =>
    if entry.isFile && rest.head?.any fun next => place.isPrefixOf next.1 then settle rest
    else (place, entry) :: settle rest

theorem settle_sublist (entries : List (Place × FileEntry)) : (settle entries).Sublist entries := by
  induction entries with
  | nil => exact List.Sublist.refl []
  | cons e rest ih =>
    unfold settle
    split
    · exact ih.cons e
    · exact ih.cons_cons e

/-- Only the next entry needs to be looked at, because what is below a place
    comes right after it. -/
theorem leaves_settle {entries : List (Place × FileEntry)} (h : KeysIncrease entries) :
    (settle entries).Pairwise fun e below => e.2.isFile = true → ¬ e.1 <+: below.1 := by
  induction entries with
  | nil => exact List.Pairwise.nil
  | cons e rest ih =>
    obtain ⟨place, entry⟩ := e
    obtain ⟨hfirst, hrest⟩ := List.pairwise_cons.1 h
    unfold settle
    split
    · exact ih hrest
    · next hkeep =>
      refine List.pairwise_cons.2 ⟨fun b hb hfile hbelow => hkeep ?_, ih hrest⟩
      have hmem : b ∈ rest := (settle_sublist rest).subset hb
      cases rest with
      | nil => exact absurd hmem List.not_mem_nil
      | cons next rest =>
        have hnext : place <+: next.1 := by
          rcases List.mem_cons.1 hmem with rfl | hmem
          · exact hbelow
          · exact Place.isPrefix_of_between hbelow (hfirst next List.mem_cons_self)
              ((List.pairwise_cons.1 hrest).1 b hmem)
        have hfile : entry.isFile = true := hfile
        simp [hfile, List.isPrefixOf_iff_prefix.2 hnext]

/-- The tree with nothing in it. -/
def empty : FileTree := {}

instance : Inhabited FileTree := ⟨empty⟩

/-- The tree of the entries whose places are made of file names. -/
def ofMap (m : KeyMap Place FileEntry) : FileTree :=
  let namedEntries := m.entries.filter fun e => e.1.all isFileName
  have increasing : KeysIncrease namedEntries := m.increasing.sublist List.filter_sublist
  { entries := ⟨settle namedEntries, increasing.sublist (settle_sublist _)⟩
    named := fun _ he =>
      List.all_eq_true.1 (List.mem_filter.1 ((settle_sublist _).subset he)).2
    leaves := leaves_settle increasing }

/-- The tree of a list of entries; of two at one place the later one counts. -/
def ofList (entries : List (Place × FileEntry)) : FileTree :=
  ofMap (KeyMap.ofList entries)

/-- What a tree says about a place. -/
def get? (t : FileTree) (place : Place) : Option FileEntry :=
  t.entries.get? place

/-- Does a file stand at the place? -/
def isFile (t : FileTree) (place : Place) : Bool :=
  match t.get? place with
  | some (.file _) => true
  | _ => false

/-- Is a directory without other entries set at the place? -/
def isBareDirectory (t : FileTree) (place : Place) : Bool :=
  match t.get? place with
  | some .directory => true
  | _ => false

/-- Does a directory stand at the place? -/
def isDirectory (t : FileTree) (place : Place) : Bool :=
  place.isEmpty || t.isBareDirectory place ||
    t.entries.entries.any fun (p, _) => p != place && place.isPrefixOf p

/-- Does a file or directory stand at the place? -/
def has (t : FileTree) (place : Place) : Bool :=
  t.isFile place || t.isDirectory place

/-- The bytes of the file at a place. -/
def bytes? (t : FileTree) (place : Place) : Option ByteArray :=
  match t.get? place with
  | some (.file bytes) => some bytes
  | _ => none

/-- The text of the file at a place. -/
def text? (t : FileTree) (place : Place) : Option String :=
  (t.bytes? place).bind String.fromUTF8?

/-- The files at and below a place, by the names that lead to them from there,
    in the order of these names. -/
def filesBelow (t : FileTree) (base : Place) : List (Place × ByteArray) :=
  t.entries.entries.filterMap fun (place, entry) =>
    match base.isPrefixOf? place, entry with
    | some names, .file bytes => some (names, bytes)
    | _, _ => none

/-- One step of a path, which must start from a directory. -/
def step? (t : FileTree) (place : Place) (piece : List Char) : Option Place :=
  if !t.isDirectory place then none
  else if piece = [] || piece = ['.'] then some place
  else if piece = ['.', '.'] then some place.dropLast
  else some (place ++ [String.ofList piece])

/-- The place of the file or directory that an absolute path leads to. -/
def locate? (t : FileTree) (path : String) : Option Place :=
  ((Path.pieces path.toList).foldlM t.step? []).filter t.has

/-- Does an absolute path lead to a file? -/
def isFileAt (t : FileTree) (path : String) : Bool :=
  (t.locate? path).any t.isFile

/-- The text of the file that an absolute path leads to. -/
def textAt? (t : FileTree) (path : String) : Option String :=
  (t.locate? path).bind t.text?

end FileTree

end JavaLint
