import VolumeBackup.ByteRecords
import VolumeBackup.DeviceMapperMount

namespace VolumeBackup

namespace DeviceMapperControl
open ByteRecords

def DM_ALIGN_MASK : Int32 := 7
def DM_MAX_TYPE_NAME : Nat := 16

def DM_ALIGN (x : Int32) : Int32 := (x+DM_ALIGN_MASK) &&& ~~~DM_ALIGN_MASK

structure DmTargetSpec where
  sector_start : UInt64 := 0
  length : UInt64 := 0
  status : Int32 := 0
  next : UInt32 := 0
  target_type : List UInt8 := .replicate DM_MAX_TYPE_NAME 0
  deriving DecidableEq, Repr

def sizeofDmTargetSpec : Nat := 40

def DmTargetSpec.bytes (spec : DmTargetSpec) : List UInt8 :=
  encode 8 spec.sector_start.toNat++encode 8 spec.length.toNat++encode 4 spec.status.toUInt32.toNat++
    encode 4 spec.next.toNat++spec.target_type

def DmTargetSpec.read (bytes : List UInt8) : DmTargetSpec where
  sector_start := .ofNat (decode (bytes.take 8))
  length := .ofNat (decode ((bytes.drop 8).take 8))
  status := (UInt32.ofNat (decode ((bytes.drop 16).take 4))).toInt32
  next := .ofNat (decode ((bytes.drop 20).take 4))
  target_type := (bytes.drop 24).take DM_MAX_TYPE_NAME

-- snprintf() with "%s": as much of the text as leaves room for the zero behind it.
def snprintf (buffer text : List UInt8) : List UInt8 :=
  let printed := text.take (buffer.length-1)++[0]
  printed++buffer.drop printed.length

structure DmTarget where
  m_startSector : UInt64
  m_sectorsCount : UInt64
  Name : List UInt8
  GetParameterString : List UInt8
  deriving DecidableEq, Repr

-- The int that DM_ALIGN takes and returns is turned from and into a size_t.
def padding (size : Nat) : UInt64 := (DM_ALIGN (.ofNat size)).toInt64.toUInt64-UInt64.ofNat size

def DmTarget.Serialize (target : DmTarget) : List UInt8 :=
  let text := List.replicate sizeofDmTargetSpec 0++target.GetParameterString++[0]
  let data := text++List.replicate (padding text.length).toNat 0
  let spec : DmTargetSpec := {
    sector_start := target.m_startSector
    length := target.m_sectorsCount
    target_type := snprintf (.replicate DM_MAX_TYPE_NAME 0) target.Name
    next := .ofNat data.length}
  spec.bytes++data.drop sizeofDmTargetSpec

structure DmTargetLinear where
  m_blockDevicePath : List UInt8
  m_startSector : UInt64
  m_sectorsCount : UInt64
  m_physicalSector : UInt64
  deriving DecidableEq, Repr

def ofChars (text : List Char) : List UInt8 := text.map fun c => UInt8.ofNat c.toNat

def DmTargetLinear.target (linear : DmTargetLinear) : DmTarget where
  m_startSector := linear.m_startSector
  m_sectorsCount := linear.m_sectorsCount
  Name := ofChars "linear".toList
  GetParameterString := linear.m_blockDevicePath++ofChars [' ']++ofChars (toString linear.m_physicalSector.toNat).toList

structure DmTable where
  m_targets : List DmTarget := []
  m_readonly : Bool := false
  deriving DecidableEq, Repr

def DmTable.AddTarget (table : DmTable) (target : DmTarget) : DmTable := {table with m_targets := table.m_targets++[target]}
def DmTable.Serialize (table : DmTable) : List UInt8 := table.m_targets.flatMap DmTarget.Serialize
def DmTable.TargetCount (table : DmTable) : Nat := table.m_targets.length

-- What the kernel takes from a target: the numbers, and two texts that end with a zero.
structure KernelTarget where
  sector_start : UInt64
  length : UInt64
  type : List UInt8
  params : List UInt8
  deriving DecidableEq, Repr

def readTarget (bytes : List UInt8) : Option (KernelTarget × Nat) :=
  if bytes.length < sizeofDmTargetSpec then none
  else
    let spec := DmTargetSpec.read bytes
    (cstring spec.target_type).bind fun type => (cstring (bytes.drop sizeofDmTargetSpec)).map fun params =>
      (⟨spec.sector_start,spec.length,type,params⟩,spec.next.toNat)

-- The struct and the size that Serialize comes to before it pads.
def DmTarget.size (target : DmTarget) : Nat := sizeofDmTargetSpec+target.GetParameterString.length+1

def DmTarget.spec (target : DmTarget) : DmTargetSpec where
  sector_start := target.m_startSector
  length := target.m_sectorsCount
  target_type := snprintf (.replicate DM_MAX_TYPE_NAME 0) target.Name
  next := .ofNat (target.size+(padding target.size).toNat)

def DmTarget.kernel (target : DmTarget) : KernelTarget :=
  ⟨target.m_startSector,target.m_sectorsCount,target.Name,target.GetParameterString⟩

theorem mask_shift (x : BitVec 32) : x &&& ~~~(7#32) = (x >>> 3) <<< 3 := by
  have mask : ∀ i (bound : i < 32), (4294967288#32)[i] = decide (3 ≤ i) := by decide
  apply BitVec.eq_of_getLsbD_eq
  intro i bound
  by_cases small : i < 3
  · simp [mask i bound,small,bound]
  · have back : 3+(i-3) = i := by omega
    simp [mask i bound,Nat.le_of_not_lt small,small,bound,back]

theorem align_toNat (x : Int32) : (DM_ALIGN x).toUInt32.toNat = (x+7).toUInt32.toNat/8*8 := by
  have bits : (DM_ALIGN x).toBitVec = ((x+7).toBitVec >>> 3) <<< 3 := mask_shift _
  have value : (DM_ALIGN x).toUInt32.toNat = (DM_ALIGN x).toBitVec.toNat := rfl
  have same : (x+7).toUInt32.toNat = (x+7).toBitVec.toNat := rfl
  have bound := (x+7).toBitVec.isLt
  rw [value,same,bits,BitVec.toNat_shiftLeft,BitVec.toNat_ushiftRight,Nat.shiftLeft_eq,Nat.shiftRight_eq_div_pow]
  omega

-- An int as a size_t: a negative one is a huge number.
theorem size_of_int (x : Int32) : x.toInt64.toUInt64.toNat =
    if x.toUInt32.toNat < 2^31 then x.toUInt32.toNat else x.toUInt32.toNat+(2^64-2^32) := by
  have bits : x.toInt64.toUInt64.toNat = (x.toBitVec.signExtend 64).toNat := rfl
  have value : x.toUInt32.toNat = x.toBitVec.toNat := rfl
  have bound := x.toBitVec.isLt
  rw [bits,value,BitVec.toNat_signExtend,BitVec.msb_eq_decide,BitVec.toNat_setWidth]
  split <;> split <;> simp at * <;> omega

-- Up to the last multiple of eight below 2^31 the padding is what fills up to the next one; above, it is longer than all memory.
theorem padding_size (below : size < 2^31) :
    (padding size).toNat = if size+7 < 2^31 then (size+7)/8*8-size else 2^64-2^31-size := by
  have int : ((Int32.ofNat size)+7).toUInt32.toNat = size+7 := by
    have value : ((Int32.ofNat size)+7).toUInt32.toNat = (BitVec.ofNat 32 size+7#32).toNat := rfl
    rw [value,BitVec.toNat_add,BitVec.toNat_ofNat]
    have seven : (7#32).toNat = 7 := rfl
    omega
  have aligned := size_of_int (DM_ALIGN (.ofNat size))
  rw [align_toNat,int] at aligned
  unfold padding
  rw [UInt64.toNat_sub,aligned,UInt64.toNat_ofNat']
  split <;> split <;> omega

theorem field_at (front part back : List UInt8) (start : front.length = n) (width : part.length = k) :
    ((front++(part++back)).drop n).take k = part := by
  rw [List.drop_left' start,List.take_left' width]

theorem length_bytes (spec : DmTargetSpec) : spec.bytes.length = 24+spec.target_type.length := by
  simp only [DmTargetSpec.bytes,List.length_append,length_encode]

theorem snprintf_length (room : 0 < buffer.length) : (snprintf buffer text).length = buffer.length := by
  simp [snprintf]
  omega

theorem read_bytes (spec : DmTargetSpec) (type : spec.target_type.length = DM_MAX_TYPE_NAME) (rest : List UInt8) :
    DmTargetSpec.read (spec.bytes++rest) = spec := by
  obtain ⟨start,length,status,next,name⟩ := spec
  have start_back : decode (encode 8 start.toNat) = start.toNat := decode_encode start.toNat_lt
  have length_back : decode (encode 8 length.toNat) = length.toNat := decode_encode length.toNat_lt
  have status_back : decode (encode 4 status.toUInt32.toNat) = status.toUInt32.toNat :=
    decode_encode status.toUInt32.toNat_lt
  have next_back : decode (encode 4 next.toNat) = next.toNat := decode_encode next.toNat_lt
  have first : (encode 8 start.toNat++(encode 8 length.toNat++encode 4 status.toUInt32.toNat++encode 4 next.toNat++name++rest)).take 8 =
    encode 8 start.toNat := List.take_left' length_encode
  have second := field_at (encode 8 start.toNat) (encode 8 length.toNat)
    (encode 4 status.toUInt32.toNat++encode 4 next.toNat++name++rest) length_encode length_encode
  have third := field_at (encode 8 start.toNat++encode 8 length.toNat) (encode 4 status.toUInt32.toNat)
    (encode 4 next.toNat++name++rest) (by simp; rfl) length_encode
  have fourth := field_at (encode 8 start.toNat++encode 8 length.toNat++encode 4 status.toUInt32.toNat)
    (encode 4 next.toNat) (name++rest) (by simp; rfl) length_encode
  have fifth := field_at (encode 8 start.toNat++encode 8 length.toNat++encode 4 status.toUInt32.toNat++encode 4 next.toNat)
    name rest (by simp; rfl) type
  simp only [List.append_assoc] at first second third fourth fifth
  simp only [DmTargetSpec.read,DmTargetSpec.bytes,List.append_assoc,first,second,third,fourth,fifth,
    start_back,length_back,status_back,next_back,UInt64.ofNat_toNat,UInt32.ofNat_toNat]
  rfl

structure Encodable (target : DmTarget) : Prop where
  named : target.Name.length < DM_MAX_TYPE_NAME
  name : 0 ∉ target.Name
  params : 0 ∉ target.GetParameterString
  short : target.Serialize.length < 2^31

variable {target : DmTarget}

theorem serialize_parts : target.Serialize = target.spec.bytes++(target.GetParameterString++0::List.replicate (padding target.size).toNat 0) := by
  have size : (List.replicate sizeofDmTargetSpec (0 : UInt8)++target.GetParameterString++[0]).length = target.size := by
    simp [DmTarget.size,Nat.add_assoc]
  have cut (rest : List UInt8) : (List.replicate sizeofDmTargetSpec 0++rest).drop sizeofDmTargetSpec = rest :=
    List.drop_left' List.length_replicate
  have total (n : Nat) : (List.replicate sizeofDmTargetSpec (0 : UInt8)++target.GetParameterString++[0]++List.replicate n 0).length =
      target.size+n := by
    rw [List.length_append,size,List.length_replicate]
  simp only [DmTarget.Serialize,size,total]
  rw [List.append_assoc,List.append_assoc,cut]
  rfl

theorem type_length : target.spec.target_type.length = DM_MAX_TYPE_NAME := by
  have room : 0 < (List.replicate DM_MAX_TYPE_NAME (0 : UInt8)).length := by decide
  exact (snprintf_length room).trans List.length_replicate

theorem serialize_length : target.Serialize.length = target.size+(padding target.size).toNat := by
  rw [serialize_parts,List.length_append,length_bytes,type_length,List.length_append,List.length_cons,List.length_replicate,DmTarget.size]
  have whole : 24+DM_MAX_TYPE_NAME = sizeofDmTargetSpec := rfl
  omega

theorem serialize_aligned (short : target.Serialize.length < 2^31) : 8 ∣ target.Serialize.length := by
  rw [serialize_length] at short ⊢
  have below : target.size < 2^31 := by omega
  rw [padding_size below] at short ⊢
  split at short <;> split <;> omega

theorem next_length (short : target.Serialize.length < 2^31) : target.spec.next.toNat = target.Serialize.length := by
  rw [serialize_length] at short ⊢
  exact UInt32.toNat_ofNat_of_lt' (Nat.lt_trans short (by decide))

theorem type_text (named : target.Name.length < DM_MAX_TYPE_NAME) (name : 0 ∉ target.Name) :
    cstring target.spec.target_type = some target.Name := by
  have whole : target.Name.take (DM_MAX_TYPE_NAME-1) = target.Name := List.take_of_length_le (Nat.le_sub_one_of_lt named)
  have type : target.spec.target_type = target.Name++0::(List.replicate DM_MAX_TYPE_NAME 0).drop (target.Name.length+1) := by
    simp [DmTarget.spec,snprintf,whole]
  rw [type]
  exact cstring_text name

theorem target_read (encodable : Encodable target) (rest : List UInt8) :
    readTarget (target.Serialize++rest) = some (target.kernel,target.Serialize.length) := by
  have enough : ¬(target.Serialize++rest).length < sizeofDmTargetSpec := by
    rw [List.length_append,serialize_length,DmTarget.size]
    omega
  have struct : target.spec.bytes.length = sizeofDmTargetSpec := by
    rw [length_bytes,type_length]
    rfl
  have params : cstring ((target.Serialize++rest).drop sizeofDmTargetSpec) = some target.GetParameterString := by
    rw [serialize_parts,List.append_assoc,List.drop_left' struct,List.append_assoc,List.cons_append]
    exact cstring_text encodable.params
  have spec : DmTargetSpec.read (target.Serialize++rest) = target.spec := by
    rw [serialize_parts,List.append_assoc]
    exact read_bytes _ type_length _
  unfold readTarget
  rw [if_neg enough,spec,params]
  simp only [type_text encodable.named encodable.name,Option.bind_some,Option.map_some,next_length encodable.short]
  rfl

-- A buffer that is front and then a table: the kernel, which starts behind the front, finds the targets of the table in their order,
-- each at a multiple of eight, and then the end; it finds no further one.
structure Decodes (front : List UInt8) (table : DmTable) : Prop where
  targets : ∃ entries, walk readTarget (front++table.Serialize) table.TargetCount front.length =
      some (entries,(front++table.Serialize).length) ∧
    entries.map Prod.snd = table.m_targets.map DmTarget.kernel ∧ ∀ entry ∈ entries, 8 ∣ entry.1
  last : ∀ more, walk readTarget (front++table.Serialize) (table.TargetCount+more+1) front.length = none

theorem encodable_decodes {table : DmTable} (encodable : ∀ target ∈ table.m_targets, Encodable target) (front : List UInt8)
    (aligned : 8 ∣ front.length) : Decodes front table := by
  have exact : ∀ target ∈ table.m_targets, ∀ rest, readTarget (target.Serialize++rest) = some (target.kernel,target.Serialize.length) :=
    fun target inside => target_read (encodable target inside)
  have lengths : ∀ target ∈ table.m_targets, 8 ∣ target.Serialize.length :=
    fun target inside => serialize_aligned (encodable target inside).short
  exact ⟨⟨_,walk_places exact front,places_records,places_aligned lengths aligned⟩,fun more => walk_beyond exact rfl more front⟩

def linearTable (targets : List DmTargetLinear) : DmTable := targets.foldl (fun table linear => table.AddTarget linear.target) {}

theorem linearTable_targets (targets : List DmTargetLinear) : (linearTable targets).m_targets = targets.map DmTargetLinear.target := by
  have grown (table : DmTable) : (targets.foldl (fun table linear => table.AddTarget linear.target) table).m_targets =
      table.m_targets++targets.map DmTargetLinear.target := by
    induction targets generalizing table with
    | nil => simp
    | cons linear rest ih =>
        rw [List.foldl_cons,ih]
        simp [DmTable.AddTarget]
  exact grown {}

theorem digits_nonzero {n : Nat} : 0 ∉ ofChars (toString n).toList := by
  intro inside
  obtain ⟨c,member,zero⟩ := List.mem_map.mp inside
  rw [Nat.toString_eq_repr,Nat.toList_repr] at member
  have digit := Nat.isDigit_of_mem_toDigits (by decide) (by decide) member
  simp only [Char.isDigit,Bool.and_eq_true,decide_eq_true_eq] at digit
  have low : 48 ≤ c.toNat := digit.1
  have high : c.toNat ≤ 57 := digit.2
  have byte := congrArg UInt8.toNat zero
  rw [UInt8.toNat_ofNat'] at byte
  have none : (0 : UInt8).toNat = 0 := rfl
  omega

theorem linear_encodable {linear : DmTargetLinear} (path : 0 ∉ linear.m_blockDevicePath) (short : linear.target.Serialize.length < 2^31) :
    Encodable linear.target where
  named := show (ofChars "linear".toList).length < DM_MAX_TYPE_NAME by decide
  name := show 0 ∉ ofChars "linear".toList by decide
  params := by
    have blank : (0 : UInt8) ∉ ofChars [' '] := by decide
    simp only [DmTargetLinear.target,List.mem_append,not_or]
    exact ⟨⟨path,blank⟩,digits_nonzero⟩
  short := short

structure DmIoctl where
  version : UInt32 × UInt32 × UInt32 := (0,0,0)
  data_size : UInt32 := 0
  data_start : UInt32 := 0
  target_count : UInt32 := 0
  open_count : Int32 := 0
  flags : UInt32 := 0
  event_nr : UInt32 := 0
  padding : UInt32 := 0
  dev : UInt64 := 0
  name : List UInt8 := .replicate 128 0
  uuid : List UInt8 := .replicate 129 0
  data : List UInt8 := .replicate 7 0

def sizeofDmIoctl : Nat := 312
def DM_READONLY_FLAG : UInt32 := 1

def DmIoctl.bytes (io : DmIoctl) : List UInt8 :=
  [io.version.1,io.version.2.1,io.version.2.2,io.data_size,io.data_start,io.target_count,io.open_count.toUInt32,io.flags,io.event_nr,
    io.padding].flatMap (fun field => encode 4 field.toNat)++encode 8 io.dev.toNat++io.name++io.uuid++io.data

def InitDmIoctlStruct (name : List UInt8) : DmIoctl where
  version := (4,0,0)
  data_size := .ofNat sizeofDmIoctl
  name := if name.isEmpty then .replicate 128 0 else snprintf (.replicate 128 0) name

def LoadTable (name : List UInt8) (table : DmTable) : DmIoctl × List UInt8 :=
  let io : DmIoctl := {InitDmIoctlStruct name with
    data_size := .ofNat (sizeofDmIoctl+table.Serialize.length)
    data_start := .ofNat sizeofDmIoctl
    target_count := .ofNat table.TargetCount
    flags := if table.m_readonly then DM_READONLY_FLAG else 0}
  (io,io.bytes++table.Serialize)

theorem ioctl_size {name : List UInt8} {table : DmTable} : (LoadTable name table).1.bytes.length = sizeofDmIoctl := by
  have room : 0 < (List.replicate 128 (0 : UInt8)).length := by simp
  have named : (InitDmIoctlStruct name).name.length = 128 := by
    unfold InitDmIoctlStruct
    dsimp only
    split
    · exact List.length_replicate
    · exact (snprintf_length room).trans List.length_replicate
  have uuid : (InitDmIoctlStruct name).uuid.length = 129 := List.length_replicate
  have data : (InitDmIoctlStruct name).data.length = 7 := List.length_replicate
  simp [LoadTable,DmIoctl.bytes,named,uuid,data,sizeofDmIoctl]

theorem loaded_decodes {table : DmTable} (encodable : ∀ target ∈ table.m_targets, Encodable target) (few : table.TargetCount < 2^32)
    (name : List UInt8) : ∃ entries, walk readTarget (LoadTable name table).2 (LoadTable name table).1.target_count.toNat
        (LoadTable name table).1.data_start.toNat = some (entries,(LoadTable name table).2.length) ∧
      entries.map Prod.snd = table.m_targets.map DmTarget.kernel := by
  have size := @ioctl_size name table
  obtain ⟨⟨entries,walked,records,_⟩,_⟩ := encodable_decodes encodable (LoadTable name table).1.bytes (by rw [size]; decide)
  have count : (LoadTable name table).1.target_count.toNat = table.TargetCount := UInt32.toNat_ofNat_of_lt' few
  have start : (LoadTable name table).1.data_start.toNat = sizeofDmIoctl := UInt32.toNat_ofNat_of_lt' (by decide)
  rw [count,start,← size]
  exact ⟨entries,walked,records⟩

def ofMount (target : VolumeBackup.DmTargetLinear) : DmTargetLinear where
  m_blockDevicePath := target.m_blockDevicePath.toUTF8.data.toList
  m_startSector := .ofNat target.m_startSector
  m_sectorsCount := .ofNat target.m_sectorsCount
  m_physicalSector := .ofNat target.m_physicalSector

theorem mount_table_decodes {targets : List VolumeBackup.DmTargetLinear}
    (paths : ∀ target ∈ targets, 0 ∉ (ofMount target).m_blockDevicePath)
    (short : ∀ target ∈ targets, (ofMount target).target.Serialize.length < 2^31)
    (small : ∀ target ∈ targets, target.m_startSector < 2^64 ∧ target.m_sectorsCount < 2^64) (few : targets.length < 2^32)
    (name : List UInt8) : ∃ entries, walk readTarget (LoadTable name (linearTable (targets.map ofMount))).2
        (LoadTable name (linearTable (targets.map ofMount))).1.target_count.toNat
        (LoadTable name (linearTable (targets.map ofMount))).1.data_start.toNat =
      some (entries,(LoadTable name (linearTable (targets.map ofMount))).2.length) ∧
      entries.map (fun entry => (entry.2.sector_start.toNat,entry.2.length.toNat)) =
        targets.map fun target => (target.m_startSector,target.m_sectorsCount) := by
  have encodable : ∀ target ∈ (linearTable (targets.map ofMount)).m_targets, Encodable target := by
    rw [linearTable_targets,List.map_map]
    intro target inside
    obtain ⟨mounted,member,rfl⟩ := List.mem_map.mp inside
    exact linear_encodable (paths mounted member) (short mounted member)
  have count : (linearTable (targets.map ofMount)).TargetCount < 2^32 := by
    rwa [DmTable.TargetCount,linearTable_targets,List.length_map,List.length_map]
  obtain ⟨entries,walked,records⟩ := loaded_decodes encodable count name
  refine ⟨entries,walked,?_⟩
  have numbers := congrArg (List.map fun kernel : KernelTarget => (kernel.sector_start.toNat,kernel.length.toNat)) records
  rw [linearTable_targets,List.map_map,List.map_map,List.map_map,List.map_map] at numbers
  refine Eq.trans numbers (List.map_congr_left fun target inside => ?_)
  obtain ⟨start,length⟩ := small target inside
  exact Prod.ext (UInt64.toNat_ofNat_of_lt' start) (UInt64.toNat_ofNat_of_lt' length)

-- The kernel gets from the table of linear targets just these, with their paths and sectors, also as LoadTable hands it the table of a
-- mount.
theorem dm_table_decodes (targets : List DmTargetLinear) (paths : ∀ linear ∈ targets, 0 ∉ linear.m_blockDevicePath)
    (short : ∀ linear ∈ targets, linear.target.Serialize.length < 2^31) :
    (linearTable targets).TargetCount = targets.length ∧
    (∃ entries, walk readTarget (linearTable targets).Serialize (linearTable targets).TargetCount 0 =
        some (entries,(linearTable targets).Serialize.length) ∧
      entries.map Prod.snd = targets.map (fun linear => ⟨linear.m_startSector,linear.m_sectorsCount,ofChars "linear".toList,
        linear.target.GetParameterString⟩) ∧
      ∀ entry ∈ entries, 8 ∣ entry.1) ∧
    (∀ more, walk readTarget (linearTable targets).Serialize ((linearTable targets).TargetCount+more+1) 0 = none) ∧
    ∀ (mounted : List VolumeBackup.DmTargetLinear) (name : List UInt8), targets = mounted.map ofMount → mounted.length < 2^32 →
      (∀ target ∈ mounted, target.m_startSector < 2^64 ∧ target.m_sectorsCount < 2^64) →
      ∃ entries, walk readTarget (LoadTable name (linearTable targets)).2 (LoadTable name (linearTable targets)).1.target_count.toNat
          (LoadTable name (linearTable targets)).1.data_start.toNat =
        some (entries,(LoadTable name (linearTable targets)).2.length) ∧
        entries.map (fun entry => (entry.2.sector_start.toNat,entry.2.length.toNat)) =
          mounted.map fun target => (target.m_startSector,target.m_sectorsCount) := by
  have encodable : ∀ target ∈ (linearTable targets).m_targets, Encodable target := by
    rw [linearTable_targets]
    intro target inside
    obtain ⟨linear,member,rfl⟩ := List.mem_map.mp inside
    exact linear_encodable (paths linear member) (short linear member)
  obtain ⟨⟨entries,walked,records,aligned⟩,last⟩ := encodable_decodes encodable [] (Nat.dvd_zero 8)
  refine ⟨?_,⟨entries,walked,?_,aligned⟩,last,?_⟩
  · rw [DmTable.TargetCount,linearTable_targets,List.length_map]
  · rw [records,linearTable_targets,List.map_map]
    rfl
  · rintro mounted name rfl few small
    exact mount_table_decodes (fun target inside => paths _ (List.mem_map_of_mem inside))
      (fun target inside => short _ (List.mem_map_of_mem inside)) small few name

def partTargets : List DmTargetLinear :=
  [⟨ofChars "/dev/loop0".toList,0,2048,0⟩,⟨ofChars "/dev/loop12".toList,2048,18446744073709551615,8⟩]

theorem dm_table_decodes_parts : ∃ entries, walk readTarget (linearTable partTargets).Serialize 2 0 = some (entries,112) ∧
    entries.map Prod.fst = [0,56] := by
  have decoded := dm_table_decodes partTargets (by decide) (by decide +kernel)
  obtain ⟨count,⟨entries,walked,_⟩,_⟩ := decoded
  have two : (linearTable partTargets).TargetCount = 2 := count
  have total : (linearTable partTargets).Serialize.length = 112 := by decide +kernel
  rw [two,total] at walked
  have starts : (walk readTarget (linearTable partTargets).Serialize 2 0).map (fun found => found.1.map Prod.fst) = some [0,56] := by
    decide +kernel
  rw [walked] at starts
  exact ⟨entries,walked,Option.some.inj starts⟩

end DeviceMapperControl

end VolumeBackup
