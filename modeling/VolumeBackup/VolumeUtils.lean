import VolumeBackup.TaskContext

namespace VolumeBackup

def VOLUME_COPY_META_JSON_FILENAME_EXTENSION : String := ".volumecopy.meta.json"
def SHA256_CHECKSUM_BINARY_FILENAME_EXTENSION : String := ".sha256.meta.bin"
def COPY_DATA_BIN_FILENAME_EXTENSION : String := ".copydata.bin"
def COPY_DATA_BIN_PARTED_FILENAME_EXTENSION : String := ".copydata.bin.part"
def COPY_DATA_IMAGE_FILENAME_EXTENSION : String := ".copydata.img"
def WRITER_BITMAP_FILENAME_EXTENSION : String := ".checkpoint.bin"

def PathJoin (first rest : String) : String := first++"/"++rest

def GetFileName (fullpath : String) : String :=
  String.ofList ((fullpath.toList.reverse.takeWhile fun c => c ≠ '/' ∧ c ≠ '\\').reverse)

def GetChecksumBinPath (copyMetaDirPath copyName : String) (sessionIndex : Nat) : String :=
  PathJoin copyMetaDirPath (copyName++"."++toString sessionIndex++SHA256_CHECKSUM_BINARY_FILENAME_EXTENSION)

def GetCopyDataFilePath (copyDataDirPath copyName : String) (copyFormat : CopyFormat) (sessionIndex : Nat) : String :=
  PathJoin copyDataDirPath (match copyFormat with
    | .BIN => if sessionIndex = 0 then copyName++COPY_DATA_BIN_FILENAME_EXTENSION
        else copyName++COPY_DATA_BIN_PARTED_FILENAME_EXTENSION++toString sessionIndex
    | .IMAGE => copyName++COPY_DATA_IMAGE_FILENAME_EXTENSION)

def GetWriterBitmapFilePath (checkpointDirPath copyName : String) (sessionIndex : Nat) : String :=
  PathJoin checkpointDirPath (copyName++"."++toString sessionIndex++WRITER_BITMAP_FILENAME_EXTENSION)

-- The path that WriteVolumeCopyMeta and ReadVolumeCopyMeta build.
def GetVolumeCopyMetaPath (copyMetaDirPath copyName : String) : String :=
  PathJoin copyMetaDirPath (copyName++VOLUME_COPY_META_JSON_FILENAME_EXTENSION)

variable {dir other copyName named : String} {format : CopyFormat} {i j : Nat}

theorem digits_inj (same : Nat.toDigits 10 i = Nat.toDigits 10 j) : i = j := by
  have value := congrArg (fun digits => Nat.ofDigitChars 10 digits 0) same
  simpa only [Nat.ofDigitChars_ten_toDigits] using value

theorem not_digit {c : Char} (letter : c.isDigit = false) : c ∉ Nat.toDigits 10 i := by
  intro inside
  have digit := Nat.isDigit_of_mem_toDigits (by decide) (by decide) inside
  rw [letter] at digit
  cases digit

theorem dot_not_digit : '.' ∉ Nat.toDigits 10 i := not_digit (by decide)

theorem mark_inj {α : Type} {mark : α} {left right tail rest : List α} (clear : mark ∉ tail) (free : mark ∉ rest)
    (same : left++mark::tail = right++mark::rest) : left = right ∧ tail = rest := by
  induction left generalizing right with
  | nil =>
      cases right with
      | nil => exact ⟨rfl,(List.cons.inj same).2⟩
      | cons head more =>
          have inside : mark ∈ tail := by
            rw [(List.cons.inj same).2]
            simp
          exact absurd inside clear
  | cons head more ih =>
      cases right with
      | nil =>
          have inside : mark ∈ rest := by
            rw [← (List.cons.inj same).2]
            simp
          exact absurd inside free
      | cons first others =>
          obtain ⟨equal,tails⟩ := List.cons.inj same
          obtain ⟨lefts,rests⟩ := ih tails
          exact ⟨by rw [equal,lefts],rests⟩

theorem numbered_path {extension : String} (same : PathJoin dir (copyName++"."++toString i++extension) =
    PathJoin other (named++"."++toString j++extension)) : PathJoin dir copyName = PathJoin other named ∧ i = j := by
  have text := congrArg String.toList same
  simp only [PathJoin,Nat.toString_eq_repr,String.toList_append,Nat.toList_repr,← List.append_assoc] at text
  have number : (dir.toList++ '/' ::copyName.toList)++ '.' ::Nat.toDigits 10 i =
      (other.toList++ '/' ::named.toList)++ '.' ::Nat.toDigits 10 j := by
    simpa using List.append_cancel_right text
  obtain ⟨front,digits⟩ := mark_inj dot_not_digit dot_not_digit number
  refine ⟨String.toList_inj.mp ?_,digits_inj digits⟩
  simpa [PathJoin] using front

theorem join_dir (same : PathJoin dir copyName = PathJoin other copyName) : dir = other := by
  have text := congrArg String.toList same
  simp only [PathJoin,String.toList_append,List.append_assoc] at text
  exact String.toList_inj.mp (List.append_cancel_right text)

theorem join_name (same : PathJoin dir copyName = PathJoin dir named) : copyName = named := by
  have text := congrArg String.toList same
  simp only [PathJoin,String.toList_append,List.append_assoc,List.append_cancel_left_eq] at text
  exact String.toList_inj.mp text

theorem numbered_inj {extension : String} (same : PathJoin dir (copyName++"."++toString i++extension) =
    PathJoin other (copyName++"."++toString j++extension)) : dir = other ∧ i = j := by
  obtain ⟨front,index⟩ := numbered_path same
  exact ⟨join_dir front,index⟩

theorem checksum_inj : GetChecksumBinPath dir copyName i = GetChecksumBinPath other copyName j → dir = other ∧ i = j := numbered_inj

theorem checkpoint_inj : GetWriterBitmapFilePath dir copyName i = GetWriterBitmapFilePath other copyName j → dir = other ∧ i = j :=
  numbered_inj

def Ends (path ending : String) : Prop := ∃ left, path = left++ending

theorem Ends.apart {path file first second : String} (ends : Ends path first) (closes : Ends file second)
    (long : second.length ≤ first.length) (differ : (second.toList.isSuffixOf first.toList) = false) : path ≠ file := by
  rintro rfl
  obtain ⟨left,here⟩ := ends
  obtain ⟨right,there⟩ := closes
  have text := congrArg String.toList (here.symm.trans there)
  rw [String.toList_append,String.toList_append] at text
  have tail : second.toList <:+ left.toList++first.toList := text ▸ List.suffix_append _ _
  have suffix := List.suffix_of_suffix_length_le tail (List.suffix_append _ _) (by simpa only [String.length_toList] using long)
  rw [← List.isSuffixOf_iff_suffix,differ] at suffix
  cases suffix

theorem Ends.apart_number {path file name : String} (ends : Ends path (toString i)) (closes : Ends file name)
    (last : ∃ c ∈ name.toList.getLast?, c.isDigit = false) : path ≠ file := by
  rintro rfl
  obtain ⟨left,here⟩ := ends
  obtain ⟨right,there⟩ := closes
  obtain ⟨c,present,letter⟩ := last
  have text := congrArg String.toList (here.symm.trans there)
  simp only [Nat.toString_eq_repr,String.toList_append,Nat.toList_repr] at text
  have tail := congrArg List.getLast? text
  rw [List.getLast?_append,List.getLast?_append,List.getLast?_eq_some_getLast Nat.toDigits_ne_nil,present,Option.some_or,
    Option.some_or] at tail
  have digit := Nat.isDigit_of_mem_toDigits (by decide) (by decide) (List.getLast_mem (Nat.toDigits_ne_nil (n := i) (b := 10)))
  rw [Option.some.inj tail,letter] at digit
  cases digit

section endings
variable (dir copyName : String) (i : Nat)

theorem checksum_ends : Ends (GetChecksumBinPath dir copyName i) SHA256_CHECKSUM_BINARY_FILENAME_EXTENSION :=
  ⟨dir++"/"++(copyName++"."++toString i),by simp only [GetChecksumBinPath,PathJoin,String.append_assoc]⟩

theorem checkpoint_ends : Ends (GetWriterBitmapFilePath dir copyName i) WRITER_BITMAP_FILENAME_EXTENSION :=
  ⟨dir++"/"++(copyName++"."++toString i),by simp only [GetWriterBitmapFilePath,PathJoin,String.append_assoc]⟩

theorem meta_ends : Ends (GetVolumeCopyMetaPath dir copyName) VOLUME_COPY_META_JSON_FILENAME_EXTENSION :=
  ⟨dir++"/"++copyName,by simp only [GetVolumeCopyMetaPath,PathJoin,String.append_assoc]⟩

theorem image_ends : Ends (GetCopyDataFilePath dir copyName .IMAGE i) COPY_DATA_IMAGE_FILENAME_EXTENSION :=
  ⟨dir++"/"++copyName,by simp only [GetCopyDataFilePath,PathJoin,String.append_assoc]⟩

theorem bin_ends : Ends (GetCopyDataFilePath dir copyName .BIN i) COPY_DATA_BIN_FILENAME_EXTENSION ∨
    Ends (GetCopyDataFilePath dir copyName .BIN i) (toString i) := by
  by_cases first : i = 0
  · exact .inl ⟨dir++"/"++copyName,by simp only [GetCopyDataFilePath,PathJoin,if_pos first,String.append_assoc]⟩
  · refine .inr ⟨dir++"/"++(copyName++COPY_DATA_BIN_PARTED_FILENAME_EXTENSION),?_⟩
    simp only [GetCopyDataFilePath,PathJoin,if_neg first,String.append_assoc]

theorem copy_ends (format : CopyFormat) : Ends (GetCopyDataFilePath dir copyName format i) COPY_DATA_BIN_FILENAME_EXTENSION ∨
    Ends (GetCopyDataFilePath dir copyName format i) COPY_DATA_IMAGE_FILENAME_EXTENSION ∨
    Ends (GetCopyDataFilePath dir copyName format i) (toString i) := by
  cases format with
  | IMAGE => exact .inr (.inl (image_ends dir copyName i))
  | BIN => exact (bin_ends dir copyName i).imp_right .inr

end endings

theorem checksum_checkpoint : GetChecksumBinPath dir copyName i ≠ GetWriterBitmapFilePath other named j :=
  (checksum_ends dir copyName i).apart (checkpoint_ends other named j) (by decide) (by decide)

theorem checksum_meta : GetChecksumBinPath dir copyName i ≠ GetVolumeCopyMetaPath other named :=
  ((meta_ends other named).apart (checksum_ends dir copyName i) (by decide) (by decide)).symm

theorem checkpoint_meta : GetWriterBitmapFilePath dir copyName i ≠ GetVolumeCopyMetaPath other named :=
  ((meta_ends other named).apart (checkpoint_ends dir copyName i) (by decide) (by decide)).symm

theorem checkpoint_some : GetWriterBitmapFilePath dir copyName i ≠ "" := by
  intro same
  obtain ⟨left,here⟩ := checkpoint_ends dir copyName i
  have length := congrArg String.length (same.symm.trans here)
  rw [String.length_append] at length
  have long : 0 < WRITER_BITMAP_FILENAME_EXTENSION.length := by decide
  have empty : "".length = 0 := rfl
  omega

theorem copy_checksum : GetCopyDataFilePath dir copyName format i ≠ GetChecksumBinPath other named j := by
  have checksum := checksum_ends other named j
  rcases copy_ends dir copyName i format with bin | image | part
  · exact (checksum.apart bin (by decide) (by decide)).symm
  · exact (checksum.apart image (by decide) (by decide)).symm
  · exact part.apart_number checksum ⟨'n',by decide,by decide⟩

theorem copy_checkpoint : GetCopyDataFilePath dir copyName format i ≠ GetWriterBitmapFilePath other named j := by
  have checkpoint := checkpoint_ends other named j
  rcases copy_ends dir copyName i format with bin | image | part
  · exact (checkpoint.apart bin (by decide) (by decide)).symm
  · exact (checkpoint.apart image (by decide) (by decide)).symm
  · exact part.apart_number checkpoint ⟨'n',by decide,by decide⟩

theorem copy_meta : GetCopyDataFilePath dir copyName format i ≠ GetVolumeCopyMetaPath other named := by
  have json := meta_ends other named
  rcases copy_ends dir copyName i format with bin | image | part
  · exact (json.apart bin (by decide) (by decide)).symm
  · exact (json.apart image (by decide) (by decide)).symm
  · exact part.apart_number json ⟨'n',by decide,by decide⟩

theorem image_bin : GetCopyDataFilePath dir copyName .IMAGE i ≠ GetCopyDataFilePath other named .BIN j := by
  have image := image_ends dir copyName i
  rcases bin_ends other named j with bin | part
  · exact image.apart bin (by decide) (by decide)
  · exact (part.apart_number image ⟨'g',by decide,by decide⟩).symm

theorem part_first (right : j ≠ 0) : GetCopyDataFilePath dir copyName .BIN j ≠ GetCopyDataFilePath other named .BIN 0 := by
  have part : Ends (GetCopyDataFilePath dir copyName .BIN j) (toString j) :=
    ⟨dir++"/"++(copyName++COPY_DATA_BIN_PARTED_FILENAME_EXTENSION),by
      simp only [GetCopyDataFilePath,PathJoin,if_neg right,String.append_assoc]⟩
  have bin : Ends (GetCopyDataFilePath other named .BIN 0) COPY_DATA_BIN_FILENAME_EXTENSION :=
    ⟨other++"/"++named,by simp only [GetCopyDataFilePath,PathJoin,if_true,String.append_assoc]⟩
  exact part.apart_number bin ⟨'n',by decide,by decide⟩

theorem part_name (left : i ≠ 0) (right : j ≠ 0) (same : GetCopyDataFilePath dir copyName .BIN i = GetCopyDataFilePath dir named .BIN j) :
    copyName = named ∧ i = j := by
  have text := congrArg String.toList same
  have mark : COPY_DATA_BIN_PARTED_FILENAME_EXTENSION.toList = ".copydata.bin.par".toList++['t'] := by decide
  simp only [GetCopyDataFilePath,PathJoin,if_neg left,if_neg right,Nat.toString_eq_repr,String.toList_append,Nat.toList_repr,
    List.append_assoc,List.append_cancel_left_eq,mark] at text
  have number : (copyName.toList++".copydata.bin.par".toList)++ 't' ::Nat.toDigits 10 i =
      (named.toList++".copydata.bin.par".toList)++ 't' ::Nat.toDigits 10 j := by
    simpa using text
  obtain ⟨front,digits⟩ := mark_inj (not_digit (by decide)) (not_digit (by decide)) number
  exact ⟨String.toList_inj.mp (List.append_cancel_right front),digits_inj digits⟩

theorem ending_name {ending : String} (same : PathJoin dir (copyName++ending) = PathJoin dir (named++ending)) : copyName = named := by
  have text := congrArg String.toList (join_name same)
  rw [String.toList_append,String.toList_append] at text
  exact String.toList_inj.mp (List.append_cancel_right text)

theorem bin_inj (same : GetCopyDataFilePath dir copyName .BIN i = GetCopyDataFilePath dir named .BIN j) : copyName = named ∧ i = j := by
  by_cases left : i = 0
  · subst left
    by_cases right : j = 0
    · subst right
      exact ⟨ending_name same,rfl⟩
    · exact absurd same.symm (part_first right)
  · by_cases right : j = 0
    · subst right
      exact absurd same (part_first left)
    · exact part_name left right same

theorem part_inj (same : GetCopyDataFilePath dir copyName .BIN i = GetCopyDataFilePath dir copyName .BIN j) : i = j := (bin_inj same).2

end VolumeBackup
