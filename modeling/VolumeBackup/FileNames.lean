import VolumeBackup.RecordNames

namespace VolumeBackup

inductive Artefact where
  | copyData (copyFormat : CopyFormat)
  | checksumBin
  | writerBitmap
  | volumeCopyMeta
  deriving DecidableEq, Repr

namespace Artefact

def path (dir copyName : String) (sessionIndex : Nat) : Artefact → String
  | copyData copyFormat => GetCopyDataFilePath dir copyName copyFormat sessionIndex
  | checksumBin => GetChecksumBinPath dir copyName sessionIndex
  | writerBitmap => GetWriterBitmapFilePath dir copyName sessionIndex
  | volumeCopyMeta => GetVolumeCopyMetaPath dir copyName

def filename (copyName : String) (sessionIndex : Nat) : Artefact → String
  | copyData .BIN => if sessionIndex = 0 then copyName++COPY_DATA_BIN_FILENAME_EXTENSION
      else copyName++COPY_DATA_BIN_PARTED_FILENAME_EXTENSION++toString sessionIndex
  | copyData .IMAGE => copyName++COPY_DATA_IMAGE_FILENAME_EXTENSION
  | checksumBin => copyName++"."++toString sessionIndex++SHA256_CHECKSUM_BINARY_FILENAME_EXTENSION
  | writerBitmap => copyName++"."++toString sessionIndex++WRITER_BITMAP_FILENAME_EXTENSION
  | volumeCopyMeta => copyName++VOLUME_COPY_META_JSON_FILENAME_EXTENSION

-- The image and the meta are one for all sessions of a copy.
def numbered : Artefact → Bool
  | copyData .IMAGE | volumeCopyMeta => false
  | _ => true

variable {a b : Artefact} {dir first second : String} {i j : Nat}

theorem path_join : a.path dir first i = PathJoin dir (a.filename first i) := by
  cases a with
  | copyData copyFormat => cases copyFormat <;> rfl
  | checksumBin => rfl
  | writerBitmap => rfl
  | volumeCopyMeta => rfl

theorem filename_plain (plain : Plain first) : Plain (a.filename first i) := by
  have ended {ending : String} (all : (ending.toList.all fun c => decide (c ≠ '/') && decide (c ≠ '\\')) = true) :
      Plain (first++ending) := plain.append (plain_all all)
  have number {ending : String} (all : (ending.toList.all fun c => decide (c ≠ '/') && decide (c ≠ '\\')) = true) :
      Plain (first++"."++toString i++ending) :=
    ((ended (by decide +kernel)).append digit_plain).append (plain_all all)
  cases a with
  | copyData copyFormat =>
      cases copyFormat with
      | BIN =>
          simp only [filename]
          split
          · exact ended (by decide +kernel)
          · exact (ended (by decide +kernel)).append digit_plain
      | IMAGE => exact ended (by decide +kernel)
  | checksumBin => exact number (by decide +kernel)
  | writerBitmap => exact number (by decide +kernel)
  | volumeCopyMeta => exact ended (by decide +kernel)

theorem path_same : a.path dir first i = a.path dir second j ↔ first = second ∧ (a.numbered = true → i = j) := by
  constructor
  · intro same
    cases a with
    | copyData copyFormat =>
        cases copyFormat with
        | BIN => exact (bin_inj same).imp_right fun index _ => index
        | IMAGE => exact ⟨ending_name same,nofun⟩
    | checksumBin | writerBitmap =>
        obtain ⟨front,index⟩ := numbered_path same
        exact ⟨join_name front,fun _ => index⟩
    | volumeCopyMeta => exact ⟨ending_name same,nofun⟩
  · rintro ⟨rfl,index⟩
    cases a with
    | copyData copyFormat =>
        cases copyFormat with
        | BIN => rw [index rfl]
        | IMAGE => rfl
    | checksumBin | writerBitmap => rw [index rfl]
    | volumeCopyMeta => rfl

theorem path_kind (same : a.path dir first i = b.path dir second j) : a = b := by
  cases a with
  | copyData copyFormat =>
      cases b with
      | copyData other =>
          cases copyFormat with
          | BIN =>
              cases other with
              | BIN => rfl
              | IMAGE => exact absurd same.symm (image_bin (i := j))
          | IMAGE =>
              cases other with
              | BIN => exact absurd same (image_bin (i := i))
              | IMAGE => rfl
      | checksumBin => exact absurd same copy_checksum
      | writerBitmap => exact absurd same copy_checkpoint
      | volumeCopyMeta => exact absurd same copy_meta
  | checksumBin =>
      cases b with
      | copyData => exact absurd same.symm copy_checksum
      | checksumBin => rfl
      | writerBitmap => exact absurd same checksum_checkpoint
      | volumeCopyMeta => exact absurd same checksum_meta
  | writerBitmap =>
      cases b with
      | copyData => exact absurd same.symm copy_checkpoint
      | checksumBin => exact absurd same.symm checksum_checkpoint
      | writerBitmap => rfl
      | volumeCopyMeta => exact absurd same checkpoint_meta
  | volumeCopyMeta =>
      cases b with
      | copyData => exact absurd same.symm copy_meta
      | checksumBin => exact absurd same.symm checksum_meta
      | writerBitmap => exact absurd same.symm checkpoint_meta
      | volumeCopyMeta => rfl

-- In one directory no file of a copy is that of another kind, copy or session, the image and the meta being for all sessions; and the
-- name of a file is found again in its path.
theorem file_names (plain : Plain first) (dir second : String) (i j : Nat) (a b : Artefact) :
    (a.path dir first i = b.path dir second j ↔ a = b ∧ first = second ∧ (a.numbered = true → i = j)) ∧
    a.path dir first i = PathJoin dir (a.filename first i) ∧ GetFileName (a.path dir first i) = a.filename first i := by
  refine ⟨⟨fun same => ?_,?_⟩,path_join,?_⟩
  · have kind := path_kind same
    subst kind
    exact ⟨rfl,path_same.mp same⟩
  · rintro ⟨rfl,rest⟩
    exact path_same.mpr rest
  · rw [path_join]
    exact file_name (filename_plain plain)

theorem file_names_parts : (copyData .BIN).path "/copy" "c" 0 ≠ (copyData .BIN).path "/copy" "c" 1 ∧
    GetFileName ((copyData .BIN).path "/copy" "c" 1) = "c.copydata.bin.part1" := by
  have plain : Plain "c" := plain_all (by decide)
  refine ⟨fun same => ?_,?_⟩
  · have index := ((file_names plain "/copy" "c" 0 1 _ _).1.mp same).2.2 rfl
    cases index
  · exact (file_names plain "/copy" "c" 1 1 (copyData .BIN) (copyData .BIN)).2.2.trans (by decide)

end Artefact

end VolumeBackup
