import ScreenFlow.Files
import ScreenFlow.Proofs.Outcome

namespace ScreenFlow.Files

/-! Files that are written and read again. A file is only made where a directory is, so writing it
leaves all directories as they are, and every path leads where it led before. A file that is saved
is emptied first, and stays empty if there is nothing to put into it. -/

open Outcome

variable {files : Files} {names : List String} {content : List UInt8} {path : String}

/-- A file can be made at the path, or replaced. -/
def Admits (files : Files) (path : String) : Prop :=
  ∃ names, files.locate path = .ok names ∧ files.isDirectory names.dropLast = true

theorem write_eq_ok_iff {written : Files} :
    files.write path content = .ok written ↔
      ∃ names, files.locate path = .ok names ∧ files.isDirectory names.dropLast = true ∧
        files.put names content = written := by
  rw [write, bind_eq_ok]
  refine exists_congr fun names => and_congr_right fun _ => ?_
  split
  · next held => simp [held, pure_eq_ok]
  · next missing => simp [missing]

theorem succeeds_write_iff : Succeeds (files.write path content) ↔ files.Admits path := by
  constructor
  · intro written
    rcases written with ⟨written, stored⟩
    rcases write_eq_ok_iff.mp stored with ⟨names, located, directory, -⟩
    exact ⟨names, located, directory⟩
  · intro admits
    rcases admits with ⟨names, located, directory⟩
    exact ⟨_, write_eq_ok_iff.mpr ⟨names, located, directory, rfl⟩⟩

/-! ## Files in their places -/

theorem find?_put (files : Files) (names : List String) (content : List UInt8) :
    ((files.put names content).find? names).map File.content = some content := by
  rw [put]
  split
  · next held =>
      rcases Option.isSome_iff_exists.mp held with ⟨file, found⟩
      have same : ((fun file : File => file.path == names) ∘ fun file : File =>
          if file.path = names then { file with content } else file) =
            fun file => file.path == names := by
        funext file
        by_cases path : file.path = names <;> simp [path]
      have path : file.path = names := by simpa using List.find?_some found
      rw [find?, List.find?_map, same, ← find?, found]
      simp [path]
  · next absent =>
      have fresh : files.all.find? (fun file => file.path == names) = none := by
        simpa [find?] using absent
      simp [find?, List.find?_append, fresh]

theorem isDirectory_iff :
    files.isDirectory names = true ↔ names = [] ∨ names = [Path.root] ∨
      ∃ path ∈ files.all.map File.path, names <+: path ∧ names.length < path.length := by
  simp [isDirectory, or_assoc]

theorem isDirectory_of_prefix {shorter longer : List String} (start : shorter <+: longer)
    (directory : files.isDirectory longer = true) : files.isDirectory shorter = true := by
  rw [isDirectory_iff] at directory ⊢
  rcases directory with rfl | rfl | ⟨path, held, inside, short⟩
  · exact .inl (List.prefix_nil.mp start)
  · rcases List.prefix_cons_iff.mp start with rfl | ⟨rest, rfl, rest_prefix⟩
    · exact .inl rfl
    · exact .inr (.inl (by rw [List.prefix_nil.mp rest_prefix]))
  · exact .inr (.inr ⟨path, held, start.trans inside, Nat.lt_of_le_of_lt start.length_le short⟩)

theorem paths_put (files : Files) (names : List String) (content : List UInt8) :
    (files.put names content).all.map File.path = files.all.map File.path ∨
      (files.put names content).all.map File.path = files.all.map File.path ++ [names] := by
  rw [put]
  split
  · left
    rw [List.map_map]
    refine List.map_congr_left fun file _ => ?_
    simp only [Function.comp_apply]
    split <;> rfl
  · exact .inr (by simp)

theorem isDirectory_put (directory : files.isDirectory names.dropLast = true)
    (others : List String) :
    (files.put names content).isDirectory others = files.isDirectory others := by
  rw [Bool.eq_iff_iff, isDirectory_iff, isDirectory_iff]
  rcases paths_put files names content with same | more
  · rw [same]
  -- What leads to the new file leads to the directory in which it is made.
  have through : others <+: names → others.length < names.length →
      files.isDirectory others = true := by
    intro inside short
    apply isDirectory_of_prefix _ directory
    apply List.prefix_of_prefix_length_le inside (List.dropLast_prefix names)
    rw [List.length_dropLast]
    omega
  rw [more]
  constructor
  · intro given
    rcases given with rfl | rfl | ⟨path, held, inside, short⟩
    · exact .inl rfl
    · exact .inr (.inl rfl)
    · rcases List.mem_append.mp held with old | new
      · exact .inr (.inr ⟨path, old, inside, short⟩)
      · rcases List.mem_singleton.mp new with rfl
        exact isDirectory_iff.mp (through inside short)
  · intro given
    rcases given with rfl | rfl | ⟨path, held, inside, short⟩
    · exact .inl rfl
    · exact .inr (.inl rfl)
    · exact .inr (.inr ⟨path, List.mem_append_left _ held, inside, short⟩)

theorem resolve_congr {other : Files}
    (same : ∀ names, other.isDirectory names = files.isDirectory names) {row reached : List String}
    (resolved : files.resolve reached row = .ok names) : other.resolve reached row = .ok names := by
  induction row generalizing reached with
  | nil => exact resolved
  | cons name row induction =>
      rw [resolve] at resolved ⊢
      rw [same]
      split at resolved
      · next directory =>
          rw [if_pos directory]
          exact induction resolved
      · cases resolved

theorem locate_congr {other : Files}
    (same : ∀ names, other.isDirectory names = files.isDirectory names)
    (located : files.locate path = .ok names) : other.locate path = .ok names := by
  rcases bind_eq_ok.mp located with ⟨reached, resolved, located⟩
  rw [locate, resolve_congr same resolved, ok_bind, same]
  exact located

theorem put_put (files : Files) (names : List String) (content more : List UInt8) :
    (files.put names content).put names more = files.put names more := by
  have held : ((files.put names content).find? names).isSome = true := by
    have found := find?_put files names content
    cases there : (files.put names content).find? names with
    | none => simp [there] at found
    | some file => rfl
  rw [put, if_pos held, put, put]
  split
  · rw [List.map_map]
    refine congrArg Files.mk (List.map_congr_left fun file _ => ?_)
    by_cases same : file.path = names <;> simp [same]
  · next absent =>
      have others : ∀ file ∈ files.all, file.path ≠ names := by
        simpa [find?] using absent
      have kept : (files.all.map fun file =>
          if file.path = names then { file with content := more } else file) = files.all :=
        (List.map_congr_left fun file member => if_neg (others file member)).trans files.all.map_id
      rw [List.map_append, kept]
      simp

theorem read_of_write {written : Files} (stored : files.write path content = .ok written) :
    written.read path = .ok content := by
  rcases write_eq_ok_iff.mp stored with ⟨names, located, directory, rfl⟩
  rw [read, locate_congr (isDirectory_put directory) located, ok_bind]
  have found := find?_put files names content
  cases there : (files.put names content).find? names with
  | none => simp [there] at found
  | some file =>
      rw [there, Option.map_some, Option.some.injEq] at found
      exact congrArg Except.ok found

theorem write_write {opened : Files} (stored : files.write path content = .ok opened)
    (more : List UInt8) : opened.write path more = files.write path more := by
  rcases write_eq_ok_iff.mp stored with ⟨names, located, directory, rfl⟩
  have same : ∀ others, (files.put names content).isDirectory others = files.isDirectory others :=
    isDirectory_put directory
  rw [write, write, locate_congr same located, located, ok_bind, ok_bind, same, if_pos directory,
    if_pos directory, put_put]

/-! ## Saving -/

section Saving

variable {opened later : Files} {made : Except Fault (List UInt8)} {fault : Fault}

theorem save_of_unplaced (unplaced : files.write path [] = .error fault) :
    files.save path made = (.error fault, files) := by
  rw [save, unplaced]

theorem save_of_wordless (place : files.write path [] = .ok opened) :
    files.save path (.error fault) = (.error fault, opened) := by
  rw [save, place]
  rfl

theorem save_of_place (place : files.write path [] = .ok opened) :
    ∃ written, files.write path content = .ok written ∧
      files.save path (.ok content) = (.ok (), written) := by
  rcases succeeds_write_iff.mpr (succeeds_write_iff.mp ⟨opened, place⟩) with ⟨written, stored⟩
  refine ⟨written, stored, ?_⟩
  have filled : (Except.ok content).bind (opened.write path) = .ok written :=
    (write_write place content).trans stored
  simp only [save, place, filled]

theorem save_eq_ok_iff : files.save path made = (.ok (), later) ↔
    ∃ content, made = .ok content ∧ files.write path content = .ok later := by
  cases place : files.write path [] with
  | error fault =>
      rw [save_of_unplaced place]
      refine iff_of_false (by simp) fun given => ?_
      rcases given with ⟨content, -, stored⟩
      rcases succeeds_write_iff.mpr (succeeds_write_iff.mp ⟨later, stored⟩) with ⟨opened, placed⟩
      rw [place] at placed
      cases placed
  | ok opened =>
      cases made with
      | error fault => simp [save_of_wordless place]
      | ok content =>
          rcases @save_of_place _ content _ _ place with ⟨written, stored, saved⟩
          simp [saved, stored]

end Saving

end ScreenFlow.Files
