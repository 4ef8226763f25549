import Mathlib.Data.List.Basic
import Mathlib.Logic.Function.Basic

/-!
Files by name, and writes to them one after another. A write creates or empties its file and then
appends to it; a process that dies among its writes leaves what it has done so far.
-/

namespace Files

variable {ν β : Type} [DecidableEq ν]

/-- The files there are, with what they hold. -/
abbrev Directory (ν β : Type) := ν → Option (List β)

structure FileWrite (ν β : Type) where
  file : ν
  content : List β
deriving DecidableEq

namespace Directory

def put (directory : Directory ν β) (file : ν) (content : List β) : Directory ν β :=
  Function.update directory file (some content)

def empty : Directory ν β := fun _ => none

@[simp] theorem put_same (directory : Directory ν β) (file : ν) (content : List β) :
    directory.put file content file = some content :=
  Function.update_self ..

theorem put_other (directory : Directory ν β) {file other : ν} (different : other ≠ file)
    (content : List β) : directory.put file content other = directory other :=
  Function.update_of_ne different ..

/-- All of the writes. -/
def store (directory : Directory ν β) : List (FileWrite ν β) → Directory ν β
  | [] => directory
  | write :: writes => (directory.put write.file write.content).store writes

/-- The writes of a process that dies: `left` counts what it still does, the creation of a file as
one and each element as one. -/
def cutOff (directory : Directory ν β) : List (FileWrite ν β) → Nat → Directory ν β
  | [], _ | _ :: _, 0 => directory
  | write :: writes, left + 1 =>
      if left < write.content.length then directory.put write.file (write.content.take left)
      else (directory.put write.file write.content).cutOff writes (left - write.content.length)

theorem store_append (directory : Directory ν β) (writes more : List (FileWrite ν β)) :
    directory.store (writes ++ more) = (directory.store writes).store more := by
  induction writes generalizing directory with
  | nil => rfl
  | cons write writes ih => exact ih _

theorem store_other {writes : List (FileWrite ν β)} {file : ν}
    (others : ∀ write ∈ writes, write.file ≠ file) (directory : Directory ν β) :
    directory.store writes file = directory file := by
  induction writes generalizing directory with
  | nil => rfl
  | cons write writes ih =>
      have later := ih (fun other member => others other (List.mem_cons_of_mem _ member))
        (directory.put write.file write.content)
      exact later.trans (directory.put_other (others write List.mem_cons_self).symm _)

/-- Each file holds what was written to it. -/
theorem store_written {writes : List (FileWrite ν β)} (distinct : (writes.map (·.file)).Nodup)
    {write : FileWrite ν β} (member : write ∈ writes) (directory : Directory ν β) :
    directory.store writes write.file = some write.content := by
  induction writes generalizing directory with
  | nil => cases member
  | cons first rest ih =>
      simp only [List.map_cons, List.nodup_cons, List.mem_map, not_exists, not_and] at distinct
      rcases List.mem_cons.mp member with same | later
      · subst same
        exact (store_other distinct.1 _).trans (put_same ..)
      · exact ih distinct.2 later _

/-- A file that is written last is there only after all the others are complete. -/
theorem cutOff_last {directory : Directory ν β} {writes : List (FileWrite ν β)} {last : FileWrite ν β}
    {left : Nat} {content : List β} (fresh : directory last.file = none)
    (others : ∀ write ∈ writes, write.file ≠ last.file)
    (found : directory.cutOff (writes ++ [last]) left last.file = some content) :
    content <+: last.content ∧
      directory.cutOff (writes ++ [last]) left =
        (directory.store writes).put last.file content := by
  induction writes generalizing directory left with
  | nil =>
      cases left with
      | zero => cases fresh.symm.trans found
      | succ left =>
          simp only [List.nil_append, cutOff] at found ⊢
          split at found
          · rename_i short
            cases (put_same ..).symm.trans found
            exact ⟨List.take_prefix .., if_pos short⟩
          · rename_i whole
            cases (put_same ..).symm.trans found
            exact ⟨List.prefix_rfl, if_neg whole⟩
  | cons write writes ih =>
      have earlier := (others write List.mem_cons_self).symm
      have still : ∀ part, directory.put write.file part last.file = none :=
        fun part => (directory.put_other earlier part).trans fresh
      cases left with
      | zero => cases fresh.symm.trans found
      | succ left =>
          simp only [List.cons_append, cutOff] at found ⊢
          split at found
          · cases (still _).symm.trans found
          · rename_i whole
            rw [if_neg whole]
            exact ih (still _) (fun other member => others other (List.mem_cons_of_mem _ member))
              found

end Directory

end Files
