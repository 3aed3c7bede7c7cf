import VolumeBackup.DeviceMapperMount
import VolumeBackup.PosixPaths

namespace VolumeBackup
open PosixPaths

def standing : Hierarchy where
  File := Bool
  root := true
  working := false
  entry file _ := some file
  self _ := .inl rfl
  top := ⟨rfl,rfl⟩
  place := rfl

def depth (deeper : Name) (file : Nat) (name : Name) : Nat :=
  if name = ['.'] then file else if name = ['.','.'] then file-1 else if name = deeper then file+1 else file

def descending (deeper : Name) : Hierarchy where
  File := Nat
  root := 0
  working := 0
  entry file name := some (depth deeper file name)
  self _ := .inl rfl
  top := ⟨rfl,rfl⟩
  place := rfl

section split
variable {path : String} {dir name : List Char}

theorem GetFileName_last : (GetFileName path).toList = lastPart '\\' (lastPart '/' path.toList) := by
  unfold GetFileName lastPart
  rw [String.toList_ofList,List.reverse_reverse,List.takeWhile_takeWhile]
  simp [and_comm]

theorem PathJoin_list (first rest : String) : (PathJoin first rest).toList = first.toList++ '/' :: rest.toList := by
  simp [PathJoin]

theorem unstripped (ends : path.toList.getLast? ≠ some '/') : (path.toList.reverse.dropWhile fun c => c = '/').reverse = path.toList := by
  rw [List.getLast?_eq_head?_reverse] at ends
  rw [List.reverse_eq_iff]
  cases back : path.toList.reverse with
  | nil => rfl
  | cons c rest =>
      rw [back] at ends
      have differ : c ≠ '/' := by simpa using ends
      simp [differ]

theorem parent_bare (ends : path.toList.getLast? ≠ some '/') (bare : '/' ∉ path.toList) : GetParentDirectoryPath path = "" := by
  have none : path.toList.reverse.dropWhile (fun c => c ≠ '/') = [] :=
    List.dropWhile_eq_nil_iff.mpr (no_separator bare)
  unfold GetParentDirectoryPath
  simp only [unstripped ends,none]

theorem parent_cut (cut : path.toList = dir++ '/' :: name) (plain : '/' ∉ name) (some : name ≠ []) :
    (GetParentDirectoryPath path).toList = dir := by
  have ends : path.toList.getLast? ≠ .some '/' := by
    intro ends
    rw [cut,List.getLast?_append_cons,List.getLast?_cons_of_ne_nil some] at ends
    exact plain (List.mem_of_getLast? ends)
  have rest : path.toList.reverse.dropWhile (fun c => c ≠ '/') = '/' :: dir.reverse := by
    rw [cut,List.reverse_append,List.reverse_cons,List.append_assoc,List.dropWhile_append_of_pos (no_separator plain)]
    rfl
  unfold GetParentDirectoryPath
  simp only [unstripped ends,rest]
  simp [cut]

theorem rejoined_cut (cut : path.toList = dir++ '/' :: name) (plain : '/' ∉ name) (some : name ≠ []) :
    (PathJoin (GetParentDirectoryPath path) (GetFileName path)).toList = dir++ '/' :: lastPart '\\' name := by
  rw [PathJoin_list,parent_cut cut plain some,GetFileName_last,cut,lastPart_join plain]

theorem standing_resolve (some : name ≠ []) : standing.resolve name = .some (standing.start name) := by
  have stays (file : Bool) (names : List Name) : names.foldlM standing.entry file = .some file := by
    induction names with
    | nil => rfl
    | cons name names ih => exact ih
  unfold Hierarchy.resolve
  rw [if_neg some]
  exact stays _ _

theorem bare_differs (bare : '/' ∉ name) (some : name ≠ []) {other : List Char} : ¬SameFile ('/' :: other) name := by
  intro same
  have here := same standing
  have start : name.head? ≠ .some '/' := fun first => bare (List.mem_of_head? first)
  rw [standing_resolve some,standing_resolve (List.cons_ne_nil _ _)] at here
  simp [Hierarchy.start,start,standing] at here

theorem depth_other {deeper : Name} {file : Nat} (other : name ≠ deeper) : depth deeper file name ≤ file := by
  unfold depth
  split
  · exact Nat.le_refl _
  · split
    · exact Nat.sub_le _ _
    · exact Nat.le_refl _

theorem depth_deeper {file : Nat} (dot : name ≠ ['.']) (dots : name ≠ ['.','.']) : depth name file name = file+1 := by
  simp [depth,dot,dots]

theorem descending_resolve {deeper : Name} (plain : '/' ∉ name) : (descending deeper).resolve (dir++ '/' :: name) =
    .some (depth deeper ((components dir).foldl (depth deeper) 0) (if name = [] then ['.'] else name)) := by
  have steps (names : List Name) (file : Nat) : names.foldlM (descending deeper).entry file = .some (names.foldl (depth deeper) file) := by
    induction names generalizing file with
    | nil => rfl
    | cons name names ih => exact ih _
  have zero : (descending deeper).start (dir++ '/' :: name) = (0 : Nat) := by
    unfold Hierarchy.start
    split <;> rfl
  have last (name : Name) : (components dir++[name]).foldl (depth deeper) 0 = depth deeper ((components dir).foldl (depth deeper) 0) name := by
    rw [List.foldl_append,List.foldl_cons,List.foldl_nil]
  unfold Hierarchy.resolve
  rw [if_neg (by simp),names_join plain,zero,← last]
  exact steps _ _

theorem backslash_differs (plain : '/' ∉ name) (cut : '\\' ∈ name) :
    ¬SameFile (dir++ '/' :: lastPart '\\' name) (dir++ '/' :: name) := by
  intro same
  have short : '/' ∉ lastPart '\\' name := fun inside => plain (mem_lastPart inside).1
  have some : name ≠ [] := List.ne_nil_of_mem cut
  have dot : name ≠ ['.'] := fun dot => by simp [dot] at cut
  have dots : name ≠ ['.','.'] := fun dots => by simp [dots] at cut
  have other : (if lastPart '\\' name = [] then ['.'] else lastPart '\\' name) ≠ name := by
    split
    · exact dot.symm
    · exact fun whole => lastPart_self.mp whole cut
  have here := same (descending name)
  rw [descending_resolve short,descending_resolve plain,if_neg some,depth_deeper dot dots] at here
  have level : depth name ((components dir).foldl (depth name) 0) _ = (components dir).foldl (depth name) 0+1 := Option.some.inj here
  have above : depth name ((components dir).foldl (depth name) 0) _ ≤ (components dir).foldl (depth name) 0 := depth_other other
  omega

theorem umount_beside {json : MountJson} {host : MountHost} {provider : LinuxDeviceMapperUmountProvider} (hierarchy : Hierarchy)
    (built : VolumeCopyUmountProviderBuild json host path = .some provider) (cut : path.toList = dir++ '/' :: name) (plain : '/' ∉ name)
    (some : name ≠ []) : ∃ directory : Option hierarchy.File,
      hierarchy.resolve path.toList = directory.bind (fun file => hierarchy.entry file name) ∧
      ∀ record : String, record ≠ "" → '/' ∉ record.toList → hierarchy.resolve (PathJoin provider.m_outputDirPath record).toList =
        directory.bind fun file => hierarchy.entry file record.toList := by
  have output : provider.m_outputDirPath = GetParentDirectoryPath path := by
    unfold VolumeCopyUmountProviderBuild at built
    split at built
    · split at built
      · obtain ⟨_,_,rfl⟩ := Option.map_eq_some_iff.mp built
        rfl
      · cases built
    · cases built
  have joined (record : String) : (PathJoin provider.m_outputDirPath record).toList = dir++ '/' :: record.toList := by
    rw [output,PathJoin_list,parent_cut cut plain some]
  have text {record : String} (named : record ≠ "") : record.toList ≠ [] := by simpa using named
  by_cases top : dir = []
  · subst top
    refine ⟨hierarchy.root,by rw [cut]; exact resolve_top plain some,fun record named single => ?_⟩
    rw [joined]
    exact resolve_top single (text named)
  · refine ⟨hierarchy.resolve dir,by rw [cut]; exact resolve_join plain some top,fun record named single => ?_⟩
    rw [joined]
    exact resolve_join single (text named) top

theorem cut_ends {text : List Char} (cut : '/' ∈ text) (ends : text.getLast? ≠ some '/') :
    ∃ dir, text = dir++ '/' :: lastPart '/' text ∧ lastPart '/' text ≠ [] := by
  obtain ⟨dir,whole⟩ := cut_path cut
  refine ⟨dir,whole,fun empty => ends ?_⟩
  rw [whole,empty]
  simp

-- A path that is split and joined again leads elsewhere where it has no separator, and where its last part has a
-- backslash; a name joined to a directory has the directory as its parent; and a provider that is built from a record with a
-- separator looks for the other records beside it.
theorem rejoined_same (path dir name : String) (some : path ≠ "") (ends : path.toList.getLast? ≠ .some '/') :
    (SameFile (PathJoin (GetParentDirectoryPath path) (GetFileName path)).toList path.toList ↔
      '/' ∈ path.toList ∧ '\\' ∉ lastPart '/' path.toList) ∧
    (name ≠ "" → '/' ∉ name.toList → SameFile (GetParentDirectoryPath (PathJoin dir name)).toList dir.toList) ∧
    ∀ (json : MountJson) (host : MountHost) (provider : LinuxDeviceMapperUmountProvider) (hierarchy : Hierarchy),
      VolumeCopyUmountProviderBuild json host path = .some provider → '/' ∈ path.toList → ∃ directory : Option hierarchy.File,
        hierarchy.resolve path.toList = directory.bind (fun file => hierarchy.entry file (lastPart '/' path.toList)) ∧
        ∀ record : String, record ≠ "" → '/' ∉ record.toList → hierarchy.resolve (PathJoin provider.m_outputDirPath record).toList =
          directory.bind fun file => hierarchy.entry file record.toList := by
  refine ⟨?_,?_,fun json host provider hierarchy built cut => ?beside⟩
  case beside =>
    obtain ⟨front,whole,more⟩ := cut_ends cut ends
    exact umount_beside hierarchy built whole lastPart_plain more
  · by_cases cut : '/' ∈ path.toList
    · obtain ⟨front,whole,more⟩ := cut_ends cut ends
      have rejoined := rejoined_cut whole lastPart_plain more
      constructor
      · intro same
        refine ⟨cut,fun backslash => ?_⟩
        apply backslash_differs lastPart_plain backslash
        rw [rejoined,whole,lastPart_join lastPart_plain] at same
        exact same
      · rintro ⟨_,plain⟩ hierarchy
        rw [rejoined,lastPart_self.mpr plain,← whole]
    · refine ⟨fun same => ?_,fun both => absurd both.1 cut⟩
      have text : path.toList ≠ [] := by simpa using some
      have rejoined := PathJoin_list (GetParentDirectoryPath path) (GetFileName path)
      rw [parent_bare ends cut] at rejoined
      rw [parent_bare ends cut,rejoined] at same
      exact absurd same (bare_differs cut text)
  · intro named plain hierarchy
    have text : name.toList ≠ [] := by simpa using named
    rw [parent_cut (PathJoin_list dir name) plain text]

theorem rejoined_same_record : SameFile (PathJoin (GetParentDirectoryPath "/mnt/record.json") (GetFileName "/mnt/record.json")).toList
    "/mnt/record.json".toList := ((rejoined_same "/mnt/record.json" "/mnt" "a" (by decide) (by decide)).1).mpr ⟨by decide,by decide⟩

-- The record of a mount, named from the directory that it is in.
theorem bare_record_elsewhere : ¬∀ path : String, path ≠ "" → path.toList.getLast? ≠ some '/' →
    SameFile (PathJoin (GetParentDirectoryPath path) (GetFileName path)).toList path.toList := by
  intro always
  have same := always "record.json" (by decide) (by decide)
  rw [PathJoin_list,show GetParentDirectoryPath "record.json" = "" from by decide] at same
  exact bare_differs (by decide) (by decide) same

end split

end VolumeBackup
