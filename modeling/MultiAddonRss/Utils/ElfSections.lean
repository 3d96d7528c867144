import MultiAddonRss.Utils.VirtualTables

/-!
# The tables of an ELF file

`GetModuleInformation` maps the file of a loaded module and walks its program headers, for
the code segment, and its section headers, whose names stand in a string table. The layout
of the file is free: the header says where the tables are.
-/

namespace MultiAddonRss

open Foundations

/-- `ElfW(Phdr)`. -/
structure Phdr where
  pType : UInt32
  pFlags : UInt32
  pOffset : UInt64
  pVaddr : UInt64
  pPaddr : UInt64
  pFilesz : UInt64
  pMemsz : UInt64
  pAlign : UInt64

/-- `ElfW(Shdr)`. -/
structure Shdr where
  shName : UInt32
  shType : UInt32
  shFlags : UInt64
  shAddr : UInt64
  shOffset : UInt64
  shSize : UInt64
  shLink : UInt32
  shInfo : UInt32
  shAddralign : UInt64
  shEntsize : UInt64

/-- `ElfW(Ehdr)`, without its identification. -/
structure Ehdr where
  eType : UInt16
  eMachine : UInt16
  eVersion : UInt32
  eEntry : UInt64
  ePhoff : UInt64
  eShoff : UInt64
  eFlags : UInt32
  eEhsize : UInt16
  ePhentsize : UInt16
  ePhnum : UInt16
  eShentsize : UInt16
  eShnum : UInt16
  eShstrndx : UInt16

section Read

variable (image : Memory)

def readUInt16 (address : ℕ) : UInt16 := .ofNat (readWord image 2 address)

def readUInt32 (address : ℕ) : UInt32 := .ofNat (readWord image 4 address)

def readUInt64 (address : ℕ) : UInt64 := .ofNat (readWord image 8 address)

def readPhdr (address : ℕ) : Phdr where
  pType := readUInt32 image address
  pFlags := readUInt32 image (address + 4)
  pOffset := readUInt64 image (address + 8)
  pVaddr := readUInt64 image (address + 16)
  pPaddr := readUInt64 image (address + 24)
  pFilesz := readUInt64 image (address + 32)
  pMemsz := readUInt64 image (address + 40)
  pAlign := readUInt64 image (address + 48)

def readShdr (address : ℕ) : Shdr where
  shName := readUInt32 image address
  shType := readUInt32 image (address + 4)
  shFlags := readUInt64 image (address + 8)
  shAddr := readUInt64 image (address + 16)
  shOffset := readUInt64 image (address + 24)
  shSize := readUInt64 image (address + 32)
  shLink := readUInt32 image (address + 40)
  shInfo := readUInt32 image (address + 44)
  shAddralign := readUInt64 image (address + 48)
  shEntsize := readUInt64 image (address + 56)

def readEhdr (address : ℕ) : Ehdr where
  eType := readUInt16 image (address + 16)
  eMachine := readUInt16 image (address + 18)
  eVersion := readUInt32 image (address + 20)
  eEntry := readUInt64 image (address + 24)
  ePhoff := readUInt64 image (address + 32)
  eShoff := readUInt64 image (address + 40)
  eFlags := readUInt32 image (address + 48)
  eEhsize := readUInt16 image (address + 52)
  ePhentsize := readUInt16 image (address + 54)
  ePhnum := readUInt16 image (address + 56)
  eShentsize := readUInt16 image (address + 58)
  eShnum := readUInt16 image (address + 60)
  eShstrndx := readUInt16 image (address + 62)

end Read

/-- `PT_LOAD` and `PF_X`. -/
def Phdr.isCode (phdr : Phdr) : Bool := phdr.pType = 1 && phdr.pFlags &&& 1 ≠ 0

/-- What the loader and the file system answer. The image is the mapped file, by the
distance from its start. -/
structure Loader where
  /-- The load address of the module, if `dlinfo` knows it. -/
  lAddr : Option UInt64
  opens : Bool
  stats : Bool
  maps : Bool
  image : Memory
  fileSize : ℕ

section Walk

variable (image : Memory) (lAddr : UInt64)

/-- The loop over the program headers, from the `i`-th on. -/
def codeSegment (ehdr : Ehdr) : ℕ → ℕ → Option (ℕ × ℕ)
  | 0, _ => none
  | count + 1, i =>
    let phdr := readPhdr image (ehdr.ePhoff.toNat + i * ehdr.ePhentsize.toNat)
    if phdr.isCode then some ((lAddr + phdr.pVaddr).toNat, phdr.pFilesz.toNat)
    else codeSegment ehdr count (i + 1)

/-- The loop over the section headers, from the `i`-th on. `none` if a name has no end in
the file. -/
def collectSections (fileSize : ℕ) (ehdr : Ehdr) (strTab : ℕ) : ℕ → ℕ → Option (List Section)
  | 0, _ => some []
  | count + 1, i =>
    let shdr := readShdr image (ehdr.eShoff.toNat + i * ehdr.eShentsize.toNat)
    if image (strTab + shdr.shName.toNat) = 0 then
      collectSections fileSize ehdr strTab count (i + 1)
    else
      match readTerminated image fileSize (strTab + shdr.shName.toNat) with
      | none => none
      | some szName =>
        (collectSections fileSize ehdr strTab count (i + 1)).map
          (⟨szName, (lAddr + shdr.shAddr).toNat, shdr.shSize.toNat⟩ :: ·)

end Walk

/-- The error code, or the code segment, if it is set, and the sections. The outer `none`
says that the walk leaves the file. -/
def getModuleInformation (loader : Loader) :
    Option (Except ℕ (Option (ℕ × ℕ) × List Section)) :=
  match loader.lAddr with
  | none => some (.error 1)
  | some lAddr =>
    if !loader.opens then some (.error 2)
    else if !loader.stats || !loader.maps then some (.ok (none, []))
    else
      let ehdr := readEhdr loader.image 0
      -- the table is indexed by the size of a header, not by the size that the file gives
      let strTab := (readShdr loader.image
        (ehdr.eShoff.toNat + ehdr.eShstrndx.toNat * 64)).shOffset.toNat
      (collectSections loader.image lAddr loader.fileSize ehdr strTab ehdr.eShnum.toNat 0).map
        fun sections => .ok (codeSegment loader.image lAddr ehdr ehdr.ePhnum.toNat 0, sections)

/-! ## Files -/

def Phdr.bytes (phdr : Phdr) : List UInt8 :=
  wordBytes 4 phdr.pType.toNat ++ wordBytes 4 phdr.pFlags.toNat ++
    wordBytes 8 phdr.pOffset.toNat ++ wordBytes 8 phdr.pVaddr.toNat ++
    wordBytes 8 phdr.pPaddr.toNat ++ wordBytes 8 phdr.pFilesz.toNat ++
    wordBytes 8 phdr.pMemsz.toNat ++ wordBytes 8 phdr.pAlign.toNat

def Shdr.bytes (shdr : Shdr) : List UInt8 :=
  wordBytes 4 shdr.shName.toNat ++ wordBytes 4 shdr.shType.toNat ++
    wordBytes 8 shdr.shFlags.toNat ++ wordBytes 8 shdr.shAddr.toNat ++
    wordBytes 8 shdr.shOffset.toNat ++ wordBytes 8 shdr.shSize.toNat ++
    wordBytes 4 shdr.shLink.toNat ++ wordBytes 4 shdr.shInfo.toNat ++
    wordBytes 8 shdr.shAddralign.toNat ++ wordBytes 8 shdr.shEntsize.toNat

def Ehdr.bytes (ehdr : Ehdr) : List UInt8 :=
  wordBytes 2 ehdr.eType.toNat ++ wordBytes 2 ehdr.eMachine.toNat ++
    wordBytes 4 ehdr.eVersion.toNat ++ wordBytes 8 ehdr.eEntry.toNat ++
    wordBytes 8 ehdr.ePhoff.toNat ++ wordBytes 8 ehdr.eShoff.toNat ++
    wordBytes 4 ehdr.eFlags.toNat ++ wordBytes 2 ehdr.eEhsize.toNat ++
    wordBytes 2 ehdr.ePhentsize.toNat ++ wordBytes 2 ehdr.ePhnum.toNat ++
    wordBytes 2 ehdr.eShentsize.toNat ++ wordBytes 2 ehdr.eShnum.toNat ++
    wordBytes 2 ehdr.eShstrndx.toNat

variable {image : Memory}

theorem readPhdr_of_holdsAt {phdr : Phdr} {address : ℕ} (h : HoldsAt image phdr.bytes address) :
    readPhdr image address = phdr := by
  simp only [Phdr.bytes, holdsAt_append, holdsAt_wordBytes_iff, List.length_append,
    length_wordBytes] at h
  cases phdr
  simp_all [readPhdr, readUInt32, readUInt64]

theorem readShdr_of_holdsAt {shdr : Shdr} {address : ℕ} (h : HoldsAt image shdr.bytes address) :
    readShdr image address = shdr := by
  simp only [Shdr.bytes, holdsAt_append, holdsAt_wordBytes_iff, List.length_append,
    length_wordBytes] at h
  cases shdr
  simp_all [readShdr, readUInt32, readUInt64]

theorem readEhdr_of_holdsAt {ehdr : Ehdr} {address : ℕ}
    (h : HoldsAt image ehdr.bytes (address + 16)) : readEhdr image address = ehdr := by
  simp only [Ehdr.bytes, holdsAt_append, holdsAt_wordBytes_iff, List.length_append,
    length_wordBytes] at h
  cases ehdr
  simp_all [readEhdr, readUInt16, readUInt32, readUInt64, add_assoc]

/-- The contents of the file that the walk reads: the tables, with the names of the
sections. -/
structure ElfFile where
  ident : List UInt8
  ehdr : Ehdr
  programs : List Phdr
  sections : List (CString × Shdr)

namespace ElfFile

variable (elf : ElfFile) (lAddr : UInt64)

def code : Option (ℕ × ℕ) :=
  (elf.programs.find? Phdr.isCode).map fun phdr =>
    ((lAddr + phdr.pVaddr).toNat, phdr.pFilesz.toNat)

def placed (entry : CString × Shdr) : Section :=
  ⟨entry.1, (lAddr + entry.2.shAddr).toNat, entry.2.shSize.toNat⟩

def loaded : List Section :=
  (elf.sections.filter fun entry => entry.1 ≠ []).map (placed lAddr)

/-- The file lies in the image, at any places: the header at the start, the tables where it
says, and the names in the string table. -/
structure LaidOut (image : Memory) (fileSize : ℕ) : Prop where
  ident_length : elf.ident.length = 16
  header : HoldsAt image (elf.ident ++ elf.ehdr.bytes) 0
  ePhnum : elf.programs.length = elf.ehdr.ePhnum.toNat
  ePhentsize : elf.ehdr.ePhentsize = 56
  programs : ∀ i (hi : i < elf.programs.length),
    HoldsAt image elf.programs[i].bytes (elf.ehdr.ePhoff.toNat + i * 56)
  eShnum : elf.sections.length = elf.ehdr.eShnum.toNat
  eShentsize : elf.ehdr.eShentsize = 64
  sections : ∀ i (hi : i < elf.sections.length),
    HoldsAt image elf.sections[i].2.bytes (elf.ehdr.eShoff.toNat + i * 64)
  strTab : ∃ strings, elf.sections[elf.ehdr.eShstrndx.toNat]? = some strings ∧
    ∀ entry ∈ elf.sections, 0 ∉ entry.1 ∧ entry.1.length < fileSize ∧
      HoldsAt image (entry.1 ++ [0]) (strings.2.shOffset.toNat + entry.2.shName.toNat)

variable {elf} {lAddr}

theorem codeSegment_eq {ehdr : Ehdr} : ∀ {programs : List Phdr} {i : ℕ},
    (∀ k phdr, programs[k]? = some phdr →
      readPhdr image (ehdr.ePhoff.toNat + (i + k) * ehdr.ePhentsize.toNat) = phdr) →
    codeSegment image lAddr ehdr programs.length i =
      (programs.find? Phdr.isCode).map fun phdr =>
        ((lAddr + phdr.pVaddr).toNat, phdr.pFilesz.toNat)
  | [], _, _ => rfl
  | phdr :: programs, i, hread => by
    have hhead := hread 0 phdr rfl
    rw [Nat.add_zero] at hhead
    have hrest : codeSegment image lAddr ehdr programs.length (i + 1) =
        (programs.find? Phdr.isCode).map fun phdr =>
          ((lAddr + phdr.pVaddr).toNat, phdr.pFilesz.toNat) := by
      apply codeSegment_eq
      intro k later hlater
      rw [Nat.add_right_comm]
      exact hread (k + 1) later hlater
    rw [List.length_cons, codeSegment, hhead, hrest, List.find?_cons]
    cases phdr.isCode <;> rfl

theorem collectSections_eq {fileSize strTab : ℕ} {ehdr : Ehdr} :
    ∀ {entries : List (CString × Shdr)} {i : ℕ},
    (∀ k entry, entries[k]? = some entry →
      readShdr image (ehdr.eShoff.toNat + (i + k) * ehdr.eShentsize.toNat) = entry.2) →
    (∀ entry ∈ entries, 0 ∉ entry.1 ∧ entry.1.length < fileSize ∧
      HoldsAt image (entry.1 ++ [0]) (strTab + entry.2.shName.toNat)) →
    collectSections image lAddr fileSize ehdr strTab entries.length i =
      some ((entries.filter fun entry => entry.1 ≠ []).map (placed lAddr))
  | [], _, _, _ => rfl
  | (szName, shdr) :: entries, i, hread, hnames => by
    have hhead := hread 0 _ rfl
    rw [Nat.add_zero] at hhead
    obtain ⟨hnul, hsize, hholds⟩ := hnames _ List.mem_cons_self
    have hrest : collectSections image lAddr fileSize ehdr strTab entries.length (i + 1) =
        some ((entries.filter fun entry => entry.1 ≠ []).map (placed lAddr)) := by
      apply collectSections_eq
      · intro k later hlater
        rw [Nat.add_right_comm]
        exact hread (k + 1) later hlater
      · intro entry hentry
        exact hnames entry (List.mem_cons_of_mem _ hentry)
    rw [List.length_cons, collectSections, hhead]
    dsimp only
    cases szName with
    | nil =>
      have hempty : image (strTab + shdr.shName.toNat) = 0 := hholds.1
      rw [if_pos hempty, hrest]
      rfl
    | cons b szName =>
      have hfirst : image (strTab + shdr.shName.toNat) ≠ 0 := by
        intro hzero
        exact hnul (by simp [← hzero, hholds.1])
      rw [if_neg hfirst, readTerminated_of_holdsAt hholds hnul hsize, hrest]
      rfl

theorem getSection_loaded {name : CString} (hname : name ≠ []) :
    CModule.getSection { sections := elf.loaded lAddr } name =
      (elf.sections.find? fun entry => entry.1 = name).map (placed lAddr) := by
  unfold CModule.getSection loaded
  rw [List.find?_map, List.find?_filter]
  congr 2
  funext entry
  simp only [placed, Function.comp_apply, decide_eq_true_eq]
  by_cases hentry : entry.1 = name
  · simp [hentry, hname]
  · simp [hentry]

end ElfFile

def smallElf : ElfFile where
  ident := List.replicate 16 0
  ehdr := {
    eType := 3, eMachine := 62, eVersion := 1, eEntry := 0, ePhoff := 64, eShoff := 120,
    eFlags := 0, eEhsize := 64, ePhentsize := 56, ePhnum := 1, eShentsize := 64, eShnum := 3,
    eShstrndx := 2 }
  programs := [{
    pType := 1, pFlags := 5, pOffset := 0, pVaddr := 4096, pPaddr := 4096, pFilesz := 323,
    pMemsz := 323, pAlign := 4096 }]
  sections := [
    (ascii "", {
      shName := 0, shType := 0, shFlags := 0, shAddr := 0, shOffset := 0, shSize := 0,
      shLink := 0, shInfo := 0, shAddralign := 0, shEntsize := 0 }),
    (ascii ".rodata", {
      shName := 1, shType := 1, shFlags := 2, shAddr := 8192, shOffset := 0, shSize := 64,
      shLink := 0, shInfo := 0, shAddralign := 1, shEntsize := 0 }),
    (ascii "s", {
      shName := 9, shType := 3, shFlags := 0, shAddr := 0, shOffset := 312, shSize := 11,
      shLink := 0, shInfo := 0, shAddralign := 1, shEntsize := 0 })]

def smallElfBytes : List UInt8 :=
  smallElf.ident ++ smallElf.ehdr.bytes ++ smallElf.programs.flatMap Phdr.bytes ++
    smallElf.sections.flatMap (fun entry => entry.2.bytes) ++
    smallElf.sections.flatMap (fun entry => entry.1 ++ [0])

end MultiAddonRss
