import FileShareX.Foundation.Text
import Mathlib.Data.List.TakeWhile

/-!
# POSIX path names

A path handed to the operating system is a C string.  It is resolved one
component at a time, from the root or from the working directory; empty and
`.` components stay where they are, `..` goes up, and the root is its own
parent.  Symbolic links are not modelled.
-/

namespace Posix

open Wire

abbrev Name := Bytes

/-- A resolved path: the names met on the way down from the root. -/
abbrev Path := List Name

def slash : UInt8 := 47
def dot : Name := [46]
def dotdot : Name := [46, 46]

/-- What a `const char*` shows of a string: the bytes before the first NUL. -/
def cString (text : Bytes) : Bytes := text.takeWhile (· ≠ 0)

def components (path : Bytes) : List Name := path.splitOn slash

def enter (dir : Path) (name : Name) : Path :=
  if name = [] ∨ name = dot then dir
  else if name = dotdot then dir.dropLast
  else dir ++ [name]

def walk (dir : Path) (names : List Name) : Path := names.foldl enter dir

def resolve (cwd : Path) (path : Bytes) : Path :=
  let path := cString path
  walk (if path.head? = some slash then [] else cwd) (components path)

/-- A name that stands for an entry of the directory it is looked up in. -/
def IsEntry (name : Name) : Prop := name ≠ [] ∧ name ≠ dot ∧ name ≠ dotdot

instance (name : Name) : Decidable (IsEntry name) := by
  unfold IsEntry
  infer_instance

def leading (path : Bytes) : List Name := (components path).dropLast

def lastName (path : Bytes) : Name := (components path).getLastD []

/-! ### C strings -/

theorem cString_append {text : Bytes} (free : (0 : UInt8) ∉ text) (more : Bytes) :
    cString (text ++ more) = text ++ cString more := by
  refine List.takeWhile_append_of_pos fun byte member => ?_
  simpa using fun zero : byte = 0 => free (zero ▸ member)

theorem cString_eq_self {text : Bytes} (free : (0 : UInt8) ∉ text) : cString text = text := by
  simpa [cString] using cString_append free []

theorem cString_eq_self_iff {text : Bytes} : cString text = text ↔ (0 : UInt8) ∉ text := by
  refine ⟨fun uncut member => ?_, cString_eq_self⟩
  rw [← uncut] at member
  simpa using List.mem_takeWhile_imp member

theorem cString_append_of_mem {text : Bytes} (nul : (0 : UInt8) ∈ text) (more : Bytes) :
    cString (text ++ more) = cString text := by
  induction text with
  | nil => cases nul
  | cons byte rest ih =>
    by_cases zero : byte = 0
    · simp [cString, zero]
    · have nul : (0 : UInt8) ∈ rest := by
        rcases List.mem_cons.mp nul with h | h
        · exact absurd h.symm zero
        · exact h
      simpa [cString, zero] using ih nul

/-! ### Components -/

theorem components_ne_nil (path : Bytes) : components path ≠ [] := by simp [components]

theorem components_eq_singleton {name : Name} (free : slash ∉ name) : components name = [name] :=
  List.splitOn_eq_singleton free

theorem components_append_slash (front back : Bytes) :
    components (front ++ slash :: back) = components front ++ components back :=
  List.splitOn_append_cons_self front back

theorem components_eq_leading_append (path : Bytes) :
    components path = leading path ++ [lastName path] := by
  rw [leading, lastName, List.getLastD_eq_getLast?, List.getLast?_eq_some_getLast (components_ne_nil path),
    Option.getD_some, List.dropLast_append_getLast]

theorem leading_eq_of_components {path : Bytes} {lead : List Name} {name : Name}
    (split : components path = lead ++ [name]) : leading path = lead ∧ lastName path = name := by
  simp [leading, lastName, split]

theorem components_append {ext : Bytes} (free : slash ∉ ext) (path : Bytes) :
    components (path ++ ext) = leading path ++ [lastName path ++ ext] := by
  induction path with
  | nil => simp [leading, lastName, components, List.splitOn_eq_singleton free]
  | cons byte rest ih =>
    have split := components_eq_leading_append rest
    have longer := List.splitOn_cons_eq_if_modifyHead (a := slash) byte (rest ++ ext)
    have shorter := List.splitOn_cons_eq_if_modifyHead (a := slash) byte rest
    change components (byte :: (rest ++ ext)) = _ at longer
    change components (byte :: rest) = _ at shorter
    rw [show rest.splitOn slash = _ from split] at shorter
    rw [show (rest ++ ext).splitOn slash = _ from ih] at longer
    rw [List.cons_append, longer]
    by_cases sep : (byte == slash) = true
    · rw [if_pos sep, ← List.cons_append] at shorter
      obtain ⟨lead, last⟩ := leading_eq_of_components shorter
      rw [lead, last, if_pos sep, List.cons_append]
    · rw [if_neg sep] at shorter
      rw [if_neg sep]
      cases front : leading rest with
      | nil =>
        rw [front] at shorter
        obtain ⟨lead, last⟩ := @leading_eq_of_components _ [] _ shorter
        simp [lead, last]
      | cons head tail =>
        rw [front] at shorter
        obtain ⟨lead, last⟩ := @leading_eq_of_components _ ((byte :: head) :: tail) _ shorter
        simp [lead, last]

theorem leading_of_not_mem {name : Name} (free : slash ∉ name) : leading name = [] := by
  simp [leading, components_eq_singleton free]

theorem lastName_of_not_mem {name : Name} (free : slash ∉ name) : lastName name = name := by
  simp [lastName, components_eq_singleton free]

/-! ### Walking -/

theorem walk_append (dir : Path) (first second : List Name) :
    walk dir (first ++ second) = walk (walk dir first) second := List.foldl_append

@[simp] theorem walk_nil (dir : Path) : walk dir [] = dir := rfl

@[simp] theorem walk_singleton (dir : Path) (name : Name) : walk dir [name] = enter dir name := rfl

theorem enter_entry {name : Name} (entry : IsEntry name) (dir : Path) :
    enter dir name = dir ++ [name] := by
  obtain ⟨nonempty, notDot, notDotdot⟩ := entry
  simp [enter, nonempty, notDot, notDotdot]

/-- Any other name leads to the directory itself or to its parent. -/
theorem enter_of_not_entry {name : Name} (special : ¬ IsEntry name) (dir : Path) :
    enter dir name = dir ∨ enter dir name = dir.dropLast := by
  unfold IsEntry at special
  unfold enter
  by_cases stays : name = [] ∨ name = dot
  · exact .inl (if_pos stays)
  · rw [if_neg stays]
    by_cases up : name = dotdot
    · exact .inr (if_pos up)
    · exact absurd ⟨fun h => stays (.inl h), fun h => stays (.inr h), up⟩ special

theorem enter_eq_concat_iff (dir : Path) (name entry : Name) :
    enter dir name = dir ++ [entry] ↔ IsEntry name ∧ entry = name := by
  by_cases special : IsEntry name
  · simp [enter_entry special, special, eq_comm]
  · have longer : (dir ++ [entry]).length = dir.length + 1 := by simp
    constructor
    · intro equal
      rcases enter_of_not_entry special dir with same | parent
      · rw [← equal, same] at longer
        omega
      · rw [← equal, parent, List.length_dropLast] at longer
        omega
    · exact fun h => absurd h.1 special

end Posix
