import Mathlib.Data.List.Basic
import Mathlib.Tactic.Common

namespace Durable

/-- A file that is replaced by renaming a temporary file: what it holds now and
what it may hold after a crash, and the temporary file, with whether its content
has been synchronised. -/
structure Disk (α : Type) where
  visible : Option (List α)
  possible : List (Option (List α))
  temporary : Option (List α)
  synced : Bool

/-- How a rename ends: the file is as before, the file is new until a crash
decides, or the file is new for good. -/
inductive Replaced where
  | FAILED
  | COMMIT_UNCERTAIN
  | DURABLE
  deriving DecidableEq

variable {α : Type}

def Disk.empty : Disk α := { visible := none, possible := [none], temporary := none, synced := false }

/-- The temporary file is opened, which cuts it to nothing, and `content` is
written to it. -/
def Disk.write (disk : Disk α) (content : List α) : Disk α := { disk with temporary := some content, synced := false }

def Disk.sync (disk : Disk α) : Disk α := { disk with synced := true }

def Disk.unlink (disk : Disk α) : Disk α := { disk with temporary := none }

/-- What a crash may leave of a file with this content: only what has been
synchronised is there as a whole. -/
def leftovers (synced : Bool) (content : List α) : List (Option (List α)) :=
  if synced then [some content] else content.inits.map some

/-- The temporary file becomes the file. -/
def Disk.rename (disk : Disk α) (replaced : Replaced) : Disk α :=
  match replaced, disk.temporary with
  | .FAILED, _ => disk
  | _, none => disk
  | .COMMIT_UNCERTAIN, some content =>
    { disk with visible := some content, possible := disk.possible ++ leftovers disk.synced content, temporary := none }
  | .DURABLE, some content =>
    { disk with visible := some content, possible := leftovers disk.synced content, temporary := none }

/-- A replacement in which nothing fails before the rename. -/
def Disk.replace (disk : Disk α) (replaced : Replaced) (content : List α) : Disk α :=
  (disk.write content).sync.rename replaced

/-- A crash leaves one of the possible contents, and anything in the temporary
file; a crash of the process alone leaves both as they are. -/
def Disk.crash (disk : Disk α) (left : Option (Nat × Option (List α))) : Disk α :=
  match left with
  | none => disk
  | some (index, temporary) =>
    let content := disk.possible[index]?.getD disk.visible
    { visible := content, possible := [content], temporary, synced := true }

/-- The file satisfies `P` now and after every crash. -/
def Disk.Always (P : Option (List α) → Prop) (disk : Disk α) : Prop :=
  P disk.visible ∧ ∀ content ∈ disk.possible, P content

/-- The file is the same now and after every crash, whatever the temporary file
is. -/
structure Disk.SameFile (disk other : Disk α) : Prop where
  visible : other.visible = disk.visible
  possible : other.possible = disk.possible

variable {P : Option (List α) → Prop} {disk other : Disk α}

theorem Disk.SameFile.always (hsame : disk.SameFile other) (hdisk : disk.Always P) : other.Always P := by
  unfold Disk.Always
  rw [hsame.visible, hsame.possible]
  exact hdisk

theorem Disk.always_empty (hnone : P none) : (Disk.empty : Disk α).Always P :=
  ⟨hnone, fun _ hcontent => List.mem_singleton.mp hcontent ▸ hnone⟩

theorem Disk.Always.replace (hdisk : disk.Always P) {content : List α} (hcontent : P (some content))
    (replaced : Replaced) : (disk.replace replaced content).Always P := by
  cases replaced with
  | FAILED => exact hdisk
  | COMMIT_UNCERTAIN =>
    refine ⟨hcontent, fun other hother => ?_⟩
    obtain hold | hnew := List.mem_append.mp hother
    · exact hdisk.2 other hold
    · exact List.mem_singleton.mp hnew ▸ hcontent
  | DURABLE => exact ⟨hcontent, fun other hother => List.mem_singleton.mp hother ▸ hcontent⟩

/-- Nothing that was there before a durable replacement can come back. -/
theorem Disk.always_replace_durable (disk : Disk α) {content : List α} (hcontent : P (some content)) :
    (disk.replace .DURABLE content).Always P :=
  ⟨hcontent, fun _ hother => List.mem_singleton.mp hother ▸ hcontent⟩

theorem Disk.Always.crash (hdisk : disk.Always P) (left : Option (Nat × Option (List α))) :
    (disk.crash left).Always P := by
  cases left with
  | none => exact hdisk
  | some left =>
    have hcontent : P (disk.possible[left.1]?.getD disk.visible) := by
      cases hleft : disk.possible[left.1]? with
      | none => exact hdisk.1
      | some content => exact hdisk.2 content (List.mem_of_getElem? hleft)
    exact ⟨hcontent, fun other hother => List.mem_singleton.mp hother ▸ hcontent⟩

end Durable
