import Mathlib.Data.List.Basic
import Mathlib.Logic.Function.Basic

/-! # Files that a crash may tear

A file is on the disk once it has been synced. A crash leaves such a file as it
is and anything in the place of another. A rename moves a file as a whole and is
not undone.
-/

namespace Foundation

structure StoredFile where
  bytes : List UInt8
  synced : Bool
  deriving DecidableEq

/-- The files of a directory by their names. -/
abbrev Directory (π : Type) := π → Option StoredFile

namespace Directory

variable {π : Type} [DecidableEq π] (d : Directory π) (p q : π)

def store (bytes : List UInt8) : Directory π := Function.update d p (some ⟨bytes, false⟩)

def sync : Directory π := Function.update d p ((d p).map fun f => { f with synced := true })

def remove : Directory π := Function.update d p none

/-- The file takes the place of another. -/
def rename : Directory π := Function.update (Function.update d p none) q (d p)

omit [DecidableEq π] in
/-- What is left of the files that were not on the disk. -/
def crash (left : π → Option (List UInt8)) : Directory π := fun p =>
  match d p with
  | none => none
  | some f => if f.synced then some f else (left p).map fun bytes => ⟨bytes, true⟩

variable {d p q} {r : π} {bytes : List UInt8} {f : StoredFile}

@[simp] theorem store_self : d.store p bytes p = some ⟨bytes, false⟩ := Function.update_self ..

@[simp] theorem sync_self : d.sync p p = (d p).map fun f => { f with synced := true } :=
  Function.update_self ..

@[simp] theorem remove_self : d.remove p p = none := Function.update_self ..

@[simp] theorem rename_target : d.rename p q q = d p := Function.update_self ..

theorem store_of_ne (h : r ≠ p) : d.store p bytes r = d r := Function.update_of_ne h ..

theorem sync_of_ne (h : r ≠ p) : d.sync p r = d r := Function.update_of_ne h ..

theorem remove_of_ne (h : r ≠ p) : d.remove p r = d r := Function.update_of_ne h ..

theorem rename_of_ne (hp : r ≠ p) (hq : r ≠ q) : d.rename p q r = d r := by
  rw [rename, Function.update_of_ne hq, Function.update_of_ne hp]

omit [DecidableEq π] in
/-- A crash spares what was synced. -/
theorem crash_of_synced {left : π → Option (List UInt8)} (h : d p = some f) (hf : f.synced = true) :
    d.crash left p = some f := by
  simp [crash, h, hf]

omit [DecidableEq π] in
theorem crash_of_none {left : π → Option (List UInt8)} (h : d p = none) :
    d.crash left p = none := by
  simp [crash, h]

end Directory

end Foundation
