import Mathlib.Data.List.TakeWhile
import Mathlib.Tactic.Push
import VolumeBackup.VolumeUtils
import VolumeBackup.FileSystem

-- What a formatted read of a stream gives: white space is skipped, and what comes up to the next white space is taken.
namespace FormattedInput
variable {α : Type u} (space : α → Bool)

def word (text : List α) : List α := (text.dropWhile space).takeWhile fun c => !space c

variable {space} {text : List α} {c : α}

theorem word_clear : c ∈ word space text → space c = false := by
  intro inside
  have clear := List.all_eq_true.mp (List.all_takeWhile (p := fun c => !space c)) c inside
  simpa using clear

theorem word_whole : word space text = text ↔ ∀ c ∈ text, space c = false := by
  constructor
  · intro whole c inside
    rw [← whole] at inside
    exact word_clear inside
  · intro clear
    have skipped : text.dropWhile space = text := by
      cases text with
      | nil => rfl
      | cons c rest => simp [clear c List.mem_cons_self]
    unfold word
    rw [skipped]
    apply List.takeWhile_eq_self_iff.mpr
    intro c inside
    simp [clear c inside]

theorem word_front (first : text.head? = some c) (solid : space c = false) : word space text <+: text := by
  have skipped : text.dropWhile space = text := by
    cases text with
    | nil => rfl
    | cons head rest =>
        cases Option.some.inj first
        simp [solid]
  unfold word
  rw [skipped]
  exact List.takeWhile_prefix _

end FormattedInput

namespace ByteMemory

def Content.ofText (text : List UInt8) : Content := .of text.length fun k => text.getD k 0

def Content.text (content : Content) : List UInt8 := ByteMemory.read content.byte 0 content.size

theorem read_text (front text : List UInt8) : ByteMemory.read (fun k => (front++text).getD k 0) front.length text.length = text := by
  induction text generalizing front with
  | nil => rfl
  | cons c rest ih =>
      have here : (front++c::rest).getD front.length 0 = c := by simp
      have later := ih (front++[c])
      rw [List.append_assoc,List.length_append] at later
      rw [List.length_cons,read,here]
      exact congrArg _ later

@[simp] theorem text_ofText (text : List UInt8) : (Content.ofText text).text = text := by
  have whole : read (Content.ofText text).byte 0 text.length = read (fun k => text.getD k 0) 0 text.length :=
    read_same.mpr Content.of_same
  exact whole.trans (read_text [] text)

end ByteMemory

namespace VolumeBackup
open ByteMemory FormattedInput

namespace CopyMetaFile

abbrev ByteString := List UInt8

def isspace (c : UInt8) : Bool := c = 32 || (9 ≤ c && c ≤ 13)

structure CopySegment where
  copyDataFile : ByteString
  checksumBinFile : ByteString
  index : Int32
  offset : UInt64
  length : UInt64
  deriving DecidableEq, Repr

structure VolumeCopyMeta where
  copyName : ByteString
  backupType : Int32
  copyFormat : Int32
  volumeSize : UInt64
  blockSize : UInt32
  segments : List CopySegment
  volumePath : ByteString
  label : ByteString := []
  uuid : ByteString := []
  snapshotPath : ByteString := []
  snapshotLabel : ByteString := []
  snapshotUUID : ByteString := []
  deriving DecidableEq, Repr

def VolumeCopyMeta.initial : VolumeCopyMeta :=
  {copyName := [],backupType := 0,copyFormat := 0,volumeSize := 0,blockSize := 0,segments := [],volumePath := []}

-- The fields of the serialize section; the label, the UUID and the snapshot are none.
structure SameFields (after written : VolumeCopyMeta) : Prop where
  copyName : after.copyName = written.copyName
  backupType : after.backupType = written.backupType
  copyFormat : after.copyFormat = written.copyFormat
  volumeSize : after.volumeSize = written.volumeSize
  volumePath : after.volumePath = written.volumePath
  blockSize : after.blockSize = written.blockSize
  segments : after.segments = written.segments

def VolumeCopyMeta.texts (written : VolumeCopyMeta) : List ByteString :=
  [written.copyName,written.volumePath]++written.segments.flatMap fun segment => [segment.copyDataFile,segment.checksumBinFile]

-- The JSON library. Deserialize fills in a record that is there, and an exception gives none.
structure MiniJson (T : Type) where
  Serialize : T → ByteString
  Deserialize : ByteString → T → Option T

section json
variable {T : Type} (library : MiniJson T) (disk : Disk) (record : T) (filepath : String)

-- Whatever becomes of the text, an opened file counts as written.
def JsonSerialize (reply : Reply) : Bool × Disk := (reply.opened,disk.save filepath (.ofText (library.Serialize record)) reply)

-- The record where true is returned. The file is read with >>, which stops at the first white space.
def JsonDeserialize : Option T := (disk filepath).bind fun content => library.Deserialize (word isspace content.text) record

end json

section files
variable (library : MiniJson VolumeCopyMeta) (disk : Disk) (copyMetaDirPath copyName : String) (volumeCopyMeta : VolumeCopyMeta)

def WriteVolumeCopyMeta (reply : Reply) : Bool × Disk :=
  JsonSerialize library disk volumeCopyMeta (GetVolumeCopyMetaPath copyMetaDirPath copyName) reply

def ReadVolumeCopyMeta : Option VolumeCopyMeta :=
  JsonDeserialize library disk volumeCopyMeta (GetVolumeCopyMetaPath copyMetaDirPath copyName)

end files

variable {library : MiniJson VolumeCopyMeta} {disk : Disk} {copyMetaDirPath copyName : String} {written before : VolumeCopyMeta}
  {verbatim : UInt8 → Bool}

def MiniJson.Inverts (library : MiniJson VolumeCopyMeta) (written : VolumeCopyMeta) : Prop :=
  ∀ before, ∃ after, library.Deserialize (library.Serialize written) before = some after ∧ SameFields after written

-- The JSON of a record is an object, which begins with its brace; cut short it is no JSON any more, and the library throws. White space
-- is in it just where a string has some that the library writes verbatim: a blank needs no escape, a control character does.
structure MiniJson.Documented (library : MiniJson VolumeCopyMeta) (written : VolumeCopyMeta) (verbatim : UInt8 → Bool) : Prop where
  inverts : library.Inverts written
  object : (library.Serialize written).head? = some 123
  rejects : ∀ text before, text <+: library.Serialize written → text ≠ library.Serialize written → library.Deserialize text before = none
  spaces : (∃ c ∈ library.Serialize written, isspace c = true) ↔ ∃ text ∈ written.texts, ∃ c ∈ text, verbatim c = true

-- None of the strings of a record has white space that ends up in its JSON.
def VolumeCopyMeta.Plain (written : VolumeCopyMeta) (verbatim : UInt8 → Bool) : Prop := ∀ text ∈ written.texts, ∀ c ∈ text, verbatim c = false

instance : Decidable (written.Plain verbatim) := inferInstanceAs (Decidable (∀ text ∈ written.texts, ∀ c ∈ text, verbatim c = false))

theorem MiniJson.Documented.solid (known : library.Documented written verbatim) :
    written.Plain verbatim ↔ ∀ c ∈ library.Serialize written, isspace c = false := by
  have spaces := not_congr known.spaces
  push Not at spaces
  unfold VolumeCopyMeta.Plain
  simpa using spaces.symm

section reading
variable (saved : disk (GetVolumeCopyMetaPath copyMetaDirPath copyName) = some (.ofText (library.Serialize written)))
include saved

theorem read_saved : ReadVolumeCopyMeta library disk copyMetaDirPath copyName before =
    library.Deserialize (word isspace (library.Serialize written)) before := by
  simp [ReadVolumeCopyMeta,JsonDeserialize,saved]

theorem plain_read (inverts : library.Inverts written) (solid : ∀ c ∈ library.Serialize written, isspace c = false) :
    ∃ after, ReadVolumeCopyMeta library disk copyMetaDirPath copyName before = some after ∧ SameFields after written := by
  rw [read_saved saved,word_whole.mpr solid]
  exact inverts before

theorem spaced_missed (known : library.Documented written verbatim) (spaced : ¬written.Plain verbatim) :
    ReadVolumeCopyMeta library disk copyMetaDirPath copyName before = none := by
  have front : word isspace (library.Serialize written) <+: library.Serialize written := word_front known.object (by decide)
  rw [read_saved saved]
  exact known.rejects _ before front fun whole => spaced (known.solid.mpr (word_whole.mp whole))

end reading

structure RoundTrips (library : MiniJson VolumeCopyMeta) (disk : Disk) (copyMetaDirPath copyName : String)
    (written before : VolumeCopyMeta) : Prop where
  wrote : (WriteVolumeCopyMeta library disk copyMetaDirPath copyName written .yes).1 = true
  read : ∃ after, ReadVolumeCopyMeta library (WriteVolumeCopyMeta library disk copyMetaDirPath copyName written .yes).2
    copyMetaDirPath copyName before = some after ∧ SameFields after written

theorem written_saved : (WriteVolumeCopyMeta library disk copyMetaDirPath copyName written .yes).2
    (GetVolumeCopyMetaPath copyMetaDirPath copyName) = some (.ofText (library.Serialize written)) := by
  simp [WriteVolumeCopyMeta,JsonSerialize,Disk.save]

-- The meta of a copy is read back just where none of its strings has white space that the library writes as it is.
theorem copy_meta_round_trip (known : library.Documented written verbatim) :
    RoundTrips library disk copyMetaDirPath copyName written before ↔
      ∀ text ∈ written.texts, ∀ c ∈ text, verbatim c = false := by
  constructor
  · intro trips
    by_contra spaced
    obtain ⟨after,done,_⟩ := trips.read
    rw [spaced_missed written_saved known spaced] at done
    cases done
  · intro plain
    exact ⟨rfl,plain_read written_saved known.inverts (known.solid.mp plain)⟩

def ofString (text : String) : ByteString := text.toUTF8.data.toList

def ofBackupType : BackupType → Int32
  | .FULL => 0
  | .FOREVER_INC => 1

def ofCopyFormat : CopyFormat → Int32
  | .BIN => 0
  | .IMAGE => 1

def quoted (text : ByteString) : ByteString := 34::text++[34]

def number (value : Int) : ByteString := ofString (toString value)

def member (name : String) (value : ByteString) : ByteString := quoted (ofString name)++58::value

def listed : List ByteString → ByteString
  | [] => []
  | [last] => last
  | first::rest => first++44::listed rest

def object (members : List ByteString) : ByteString := 123::listed members++[125]

def CopySegment.json (segment : CopySegment) : ByteString := object [member "copyDataFile" (quoted segment.copyDataFile),
  member "checksumBinFile" (quoted segment.checksumBinFile),member "index" (number segment.index.toInt),
  member "offset" (number segment.offset.toNat),member "length" (number segment.length.toNat)]

def VolumeCopyMeta.json (written : VolumeCopyMeta) : ByteString := object [member "copyName" (quoted written.copyName),
  member "backupType" (number written.backupType.toInt),member "copyFormat" (number written.copyFormat.toInt),
  member "volumeSize" (number written.volumeSize.toNat),member "volumePath" (quoted written.volumePath),
  member "blockSize" (number written.blockSize.toNat),
  member "segments" (91::listed (written.segments.map CopySegment.json)++[93])]

def recordLibrary (known : List VolumeCopyMeta) : MiniJson VolumeCopyMeta where
  Serialize := VolumeCopyMeta.json
  Deserialize := fun text _ => known.find? fun record => record.json = text

theorem record_inverts (record : VolumeCopyMeta) : (recordLibrary [record]).Inverts record :=
  fun _ => ⟨record,by simp [recordLibrary],⟨rfl,rfl,rfl,rfl,rfl,rfl,rfl⟩⟩

theorem record_documented {record : VolumeCopyMeta}
    (spaces : (∃ c ∈ record.json, isspace c = true) ↔ ∃ text ∈ record.texts, ∃ c ∈ text, verbatim c = true) :
    (recordLibrary [record]).Documented record verbatim := by
  refine ⟨record_inverts record,rfl,fun text _ _ cut => ?_,spaces⟩
  have other : ¬record.json = text := fun same => cut same.symm
  simp [recordLibrary,other]

def namedMeta (copyName : String) : VolumeCopyMeta where
  copyName := ofString copyName
  backupType := 0
  copyFormat := 1
  volumeSize := 1
  blockSize := 4194304
  segments := [⟨ofString (copyName++".copydata.img"),ofString (copyName++".0.sha256.meta.bin"),0,0,1⟩]
  volumePath := ofString "/dev/sda1"

def namedLibrary (copyName : String) : MiniJson VolumeCopyMeta := recordLibrary [namedMeta copyName]

theorem named_inverts (copyName : String) : (namedLibrary copyName).Inverts (namedMeta copyName) := record_inverts _

theorem copy_meta_round_trip_plain : RoundTrips (namedLibrary "c") (fun _ => none) "/meta" "c" (namedMeta "c") (namedMeta "") := by
  have known : (namedLibrary "c").Documented (namedMeta "c") fun c => c = 32 := record_documented (by decide +kernel)
  exact (copy_meta_round_trip known).mpr (by decide +kernel)

-- A copy name with a blank: the reader gets the text up to there.
theorem blank_unread : ¬∀ (library : MiniJson VolumeCopyMeta) (disk : Disk) (copyMetaDirPath copyName : String)
    (written before : VolumeCopyMeta), library.Inverts written → RoundTrips library disk copyMetaDirPath copyName written before := by
  intro always
  obtain ⟨after,done,_⟩ := (always (namedLibrary "my copy") (fun _ => none) "/meta" "my copy" (namedMeta "my copy") (namedMeta "my copy")
    (named_inverts _)).read
  have missed : (ReadVolumeCopyMeta (namedLibrary "my copy")
      (WriteVolumeCopyMeta (namedLibrary "my copy") (fun _ => none) "/meta" "my copy" (namedMeta "my copy") .yes).2
      "/meta" "my copy" (namedMeta "my copy")).isNone = true := by
    rw [read_saved written_saved]
    decide +kernel
  rw [done] at missed
  cases missed

end CopyMetaFile

end VolumeBackup
