import Mathlib.Data.List.AList
import TurboP2P.Lib.Window

namespace FileTree

abbrev Name := List UInt8

/-- The names from the root down. -/
abbrev Path := List Name

/-- The contents of a file, whose length is a 64-bit number. -/
abbrev File := { bytes : List UInt8 // bytes.length < 2 ^ 64 }

def File.size (file : File) : UInt64 := UInt64.ofNat file.val.length

theorem File.size_toNat (file : File) : file.size.toNat = file.val.length :=
  Nat.mod_eq_of_lt file.property

/-- The beginning of a file. -/
def File.take (file : File) (count : Nat) : File :=
  ⟨file.val.take count, Nat.lt_of_le_of_lt (List.length_take_le' count file.val) file.property⟩

def File.window (file : File) (offset length : Nat) : File :=
  ⟨Window.window offset length file.val, by
    have hfile := file.property
    rw [Window.length_window]
    omega⟩

/-- A file cut into pieces of one size, of which the last may be shorter. -/
def File.pieces (file : File) (size : Nat) : List File :=
  (List.range (Window.count size file.val)).map fun i => file.window (i * size) size

theorem File.flatten_pieces {size : Nat} (hsize : 0 < size) (file : File) :
    ((file.pieces size).map Subtype.val).flatten = file.val := by
  rw [File.pieces, List.map_map]
  exact (Window.flatten_windows _ _ _).trans (List.take_of_length_le (Window.count_spec hsize file.val).1)

theorem File.length_pieces {size : Nat} (hsize : 0 < size) {file piece : File} (hpiece : piece ∈ file.pieces size) :
    0 < piece.val.length ∧ piece.val.length ≤ size := by
  obtain ⟨i, hi, rfl⟩ := List.mem_map.mp hpiece
  have hstart := (Window.count_spec hsize file.val).2 i (List.mem_range.mp hi)
  simp only [File.window, Window.length_window]
  omega

inductive Node where
  | file (content : File)
  | directory
  | other
  deriving DecidableEq

/-- What exists in a file system, each node under its path. -/
abbrev Tree := AList fun _ : Path => Node

def children (tree : Tree) (dir : Path) : List Name :=
  tree.keys.filterMap fun path => if path.dropLast = dir then path.getLast? else none

theorem mem_children {tree : Tree} {dir : Path} {name : Name} : name ∈ children tree dir ↔ dir ++ [name] ∈ tree := by
  simp only [children, List.mem_filterMap, AList.mem_keys]
  constructor
  · rintro ⟨path, hpath, hname⟩
    split at hname
    · rename_i hdir
      rw [← hdir, List.dropLast_append_getLast? name hname]
      exact hpath
    · cases hname
  · intro hpath
    exact ⟨dir ++ [name], hpath, by simp⟩

theorem nodup_children (tree : Tree) (dir : Path) : (children tree dir).Nodup := by
  refine List.Nodup.filterMap ?_ tree.keys_nodup
  intro path path' name hname hname'
  simp only [Option.mem_def, Option.ite_none_right_eq_some] at hname hname'
  rw [← List.dropLast_append_getLast? name hname.2, ← List.dropLast_append_getLast? name hname'.2, hname.1, hname'.1]

/-- What a directory entry says of the node; a file system may leave it
open. -/
inductive EntryType where
  | FILE
  | DIRECTORY
  | OTHER
  deriving DecidableEq

/-- Reading a directory gives its entries in some order. -/
structure Readdir where
  entries : Tree → Path → List (Name × EntryType)
  names : ∀ tree dir, ((entries tree dir).map Prod.fst).Perm (children tree dir)
  file : ∀ tree dir name, (name, EntryType.FILE) ∈ entries tree dir →
    ∃ content, tree.lookup (dir ++ [name]) = some (.file content)
  directory : ∀ tree dir name, (name, EntryType.DIRECTORY) ∈ entries tree dir →
    tree.lookup (dir ++ [name]) = some .directory

/-- Reading a file gives its bytes in blocks that may be shorter than asked
for. -/
structure Reads (limit : Nat) where
  blocks : List UInt8 → List (List UInt8)
  flatten : ∀ bytes, (blocks bytes).flatten = bytes
  sizes : ∀ bytes, ∀ block ∈ blocks bytes, block ≠ [] ∧ block.length ≤ limit

/-- One byte with every read. -/
def Reads.bytewise {limit : Nat} (hlimit : 0 < limit) : Reads limit where
  blocks bytes := bytes.map ([·])
  flatten bytes := by
    induction bytes with
    | nil => rfl
    | cons byte bytes ih => exact congrArg (List.cons byte) ih
  sizes bytes block hblock := by
    obtain ⟨byte, _, rfl⟩ := List.mem_map.mp hblock
    exact ⟨List.cons_ne_nil byte [], hlimit⟩

end FileTree
