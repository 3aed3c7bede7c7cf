import Mathlib.Data.List.Basic
import Mathlib.Data.List.TakeWhile

namespace PosixPaths

abbrev Name := List Char

-- The files as a process finds them: where each name in a directory leads, links followed. What is no directory has
-- no entries, and the directory above the root is the root.
structure Hierarchy where
  File : Type
  root : File
  working : File
  entry : File → Name → Option File
  self : ∀ file, entry file ['.'] = some file ∨ ∀ name, entry file name = none
  top : entry root ['.'] = some root ∧ entry root ['.','.'] = some root
  place : entry working ['.'] = some working

def components (path : List Char) : List Name := (path.splitOn '/').filter fun name => name ≠ []

-- A path that ends in a separator must lead to a directory, as if a dot stood behind.
def names (path : List Char) : List Name :=
  if path.getLast? = some '/' then components path++[['.']] else components path

namespace Hierarchy
variable (hierarchy : Hierarchy)

def start (path : List Char) : hierarchy.File := if path.head? = some '/' then hierarchy.root else hierarchy.working

def resolve (path : List Char) : Option hierarchy.File :=
  if path = [] then none else (names path).foldlM hierarchy.entry (hierarchy.start path)

end Hierarchy

def lastPart (separator : Char) (path : List Char) : List Char := (path.reverse.takeWhile fun c => c ≠ separator).reverse

-- Two paths denote the same file where they lead to the same one in every hierarchy, from every working directory.
def SameFile (path other : List Char) : Prop := ∀ hierarchy : Hierarchy, hierarchy.resolve path = hierarchy.resolve other

variable {hierarchy : Hierarchy} {dir name : List Char}

theorem components_join : components (dir++ '/' :: name) = components dir++components name := by
  unfold components
  rw [List.splitOn_append_cons_of_beq _ _ (by simp),List.filter_append]

theorem components_single (plain : '/' ∉ name) (some : name ≠ []) : components name = [name] := by
  simp [components,List.splitOn_eq_singleton plain,some]

theorem names_join (plain : '/' ∉ name) : names (dir++ '/' :: name) = components dir++[if name = [] then ['.'] else name] := by
  unfold names
  rw [components_join,List.getLast?_append_cons]
  by_cases empty : name = []
  · subst empty
    simp [components]
  · have last : ('/' :: name).getLast? ≠ some '/' := by
      intro ends
      rw [List.getLast?_cons_of_ne_nil empty] at ends
      exact plain (List.mem_of_getLast? ends)
    simp [last,empty,components_single plain]

theorem resolve_join (plain : '/' ∉ name) (some : name ≠ []) (there : dir ≠ []) :
    hierarchy.resolve (dir++ '/' :: name) = (hierarchy.resolve dir).bind fun directory => hierarchy.entry directory name := by
  have start : hierarchy.start (dir++ '/' :: name) = hierarchy.start dir := by
    unfold Hierarchy.start
    rw [List.head?_append_of_ne_nil _ there]
  unfold Hierarchy.resolve
  rw [if_neg (by simp),if_neg there,names_join plain,if_neg some,start,List.foldlM_append]
  unfold names
  split
  · rw [List.foldlM_append]
    cases walked : (components dir).foldlM hierarchy.entry (hierarchy.start dir) with
    | none => rfl
    | some file => rcases hierarchy.self file with same | none <;> simp [*]
  · simp

theorem resolve_top (plain : '/' ∉ name) (some : name ≠ []) : hierarchy.resolve ('/' :: name) = hierarchy.entry hierarchy.root name := by
  have walk : names ([]++ '/' :: name) = _ := names_join plain
  unfold Hierarchy.resolve
  rw [if_neg (by simp),show '/' :: name = []++ '/' :: name from rfl,walk,if_neg some]
  simp [components,Hierarchy.start]

section last
variable {separator c : Char} {path : List Char}

theorem mem_lastPart (inside : c ∈ lastPart separator path) : c ∈ path ∧ c ≠ separator := by
  have taken := List.mem_reverse.mp inside
  have other := List.mem_takeWhile_imp taken
  exact ⟨List.mem_reverse.mp (List.takeWhile_subset _ taken),of_decide_eq_true other⟩

theorem lastPart_plain : separator ∉ lastPart separator path := fun inside => (mem_lastPart inside).2 rfl

theorem no_separator (plain : separator ∉ name) : ∀ c ∈ name.reverse, decide (c ≠ separator) = true := by
  intro c inside
  have differ : c ≠ separator := fun same => plain (same ▸ List.mem_reverse.mp inside)
  exact decide_eq_true differ

theorem lastPart_join (plain : separator ∉ name) : lastPart separator (dir++separator::name) = name := by
  unfold lastPart
  rw [List.reverse_append,List.reverse_cons,List.append_assoc,List.takeWhile_append_of_pos (no_separator plain)]
  simp

theorem cut_path (cut : separator ∈ path) : ∃ dir, path = dir++separator::lastPart separator path := by
  obtain ⟨back,front,whole,none⟩ := List.eq_append_cons_of_mem (List.mem_reverse.mpr cut)
  have same : path = front.reverse++separator::back.reverse := by
    rw [← List.reverse_reverse path,whole]
    simp
  have last : lastPart separator path = back.reverse := by
    rw [same]
    exact lastPart_join (by simpa using none)
  rw [last]
  exact ⟨_,same⟩

theorem lastPart_self : lastPart separator path = path ↔ separator ∉ path := by
  constructor
  · intro same
    rw [← same]
    exact lastPart_plain
  · intro plain
    unfold lastPart
    rw [List.takeWhile_eq_self_iff.mpr (no_separator plain),List.reverse_reverse]

end last

end PosixPaths
