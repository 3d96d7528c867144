import Mathlib.Data.List.Find
import MultiAddonRss.Utils.WindowsTables

/-!
# The section headers of a Windows module

`InitializeSections` walks the section headers of a loaded image. The name of a section has
eight bytes and a terminator only if it is shorter, but the walk takes it for a C string:
behind a name of eight bytes it goes on into the size of the section.
-/

namespace MultiAddonRss

open Foundations

/-- `IMAGE_SECTION_HEADER`. -/
structure SectionHeader where
  name : List UInt8
  virtualSize : UInt32
  virtualAddress : UInt32
  sizeOfRawData : UInt32
  pointerToRawData : UInt32
  pointerToRelocations : UInt32
  pointerToLinenumbers : UInt32
  numberOfRelocations : UInt16
  numberOfLinenumbers : UInt16
  characteristics : UInt32
  length_name : name.length = 8

section Initialize

variable (memory : Memory)

/-- `e_lfanew`, which is signed, added to the address of the module. -/
def ntHeader (hModule : ℕ) : ℕ :=
  let lfanew := readWord memory 4 (hModule + 60)
  if lfanew < 2 ^ 31 then hModule + lfanew else hModule + lfanew - 2 ^ 32

/-- The loop, with `count` headers left. `none` if a name does not end within `fuel` bytes. -/
def sectionsFrom (base fuel : ℕ) : ℕ → ℕ → Option (List Section)
  | 0, _ => some []
  | count + 1, header =>
    match readTerminated memory fuel header with
    | none => none
    | some szName =>
      (sectionsFrom base fuel count (header + 40)).map
        (⟨szName, base + readWord memory 4 (header + 12), readWord memory 4 (header + 16)⟩ :: ·)

def initializeSections (hModule base fuel : ℕ) : Option (List Section) :=
  let pNtHeader := ntHeader memory hModule
  let pSectionHeader := pNtHeader + 24 + readWord memory 2 (pNtHeader + 20)
  sectionsFrom memory base fuel (readWord memory 2 (pNtHeader + 6)) pSectionHeader

end Initialize

/-! ## Images -/

namespace SectionHeader

variable (header : SectionHeader)

def fields : List UInt8 :=
  wordBytes 4 header.virtualSize.toNat ++ wordBytes 4 header.virtualAddress.toNat ++
    wordBytes 4 header.sizeOfRawData.toNat ++ wordBytes 4 header.pointerToRawData.toNat ++
    wordBytes 4 header.pointerToRelocations.toNat ++
    wordBytes 4 header.pointerToLinenumbers.toNat ++
    wordBytes 2 header.numberOfRelocations.toNat ++
    wordBytes 2 header.numberOfLinenumbers.toNat ++ wordBytes 4 header.characteristics.toNat

def bytes : List UInt8 := header.name ++ header.fields

def placed (base : ℕ) : Section :=
  ⟨header.bytes.takeWhile (· ≠ 0), base + header.virtualAddress.toNat,
    header.sizeOfRawData.toNat⟩

/-- The header shows where the name ends: a short name is padded with zeros, and one of
eight bytes ends where the size of the section has a zero as its lowest byte. -/
def Shows (name : CString) : Prop :=
  name ++ [0] <+: header.name ∨ header.name = name ∧ header.virtualSize.toNat % 256 = 0

instance (name : CString) : Decidable (header.Shows name) :=
  inferInstanceAs (Decidable (_ ∨ _))

variable {header}

theorem length_bytes : header.bytes.length = 40 := by
  simp [bytes, fields, header.length_name]

theorem isPrefix_append_fields_of_short {name : CString} (hshort : name.length < 8) :
    name ++ [0] <+: header.name ++ header.fields ↔ name ++ [0] <+: header.name := by
  have hlength : (name ++ [0]).length ≤ header.name.length := by
    rw [List.length_append, List.length_singleton, header.length_name]
    exact hshort
  constructor
  · intro h
    exact List.prefix_of_prefix_length_le h (List.prefix_append _ _) hlength
  · intro h
    exact h.trans (List.prefix_append _ _)

theorem isPrefix_append_fields_of_full {name : CString} (hfull : name.length = 8) :
    name ++ [0] <+: header.name ++ header.fields ↔
      header.name = name ∧ header.virtualSize.toNat % 256 = 0 := by
  -- the byte behind the name is the lowest one of the size
  obtain ⟨fields, hfields⟩ : ∃ fields,
      header.fields = UInt8.ofNat header.virtualSize.toNat :: fields := ⟨_, rfl⟩
  have hlow : 0 = UInt8.ofNat header.virtualSize.toNat ↔
      header.virtualSize.toNat % 256 = 0 := by
    rw [eq_ofNat_iff, UInt8.toNat_zero, eq_comm]
  rw [hfields, ← hlow]
  constructor
  · rintro ⟨rest, hrest⟩
    rw [List.append_assoc] at hrest
    obtain ⟨hsame, htail⟩ := List.append_inj hrest (by rw [hfull, header.length_name])
    exact ⟨hsame.symm, (List.cons.inj htail).1⟩
  · rintro ⟨rfl, hhead⟩
    rw [← hhead]
    exact ⟨fields, by simp⟩

theorem szName_placed_eq_iff {base : ℕ} {name : CString} (hzero : 0 ∈ header.bytes)
    (hnul : 0 ∉ name) (hlength : name.length ≤ 8) :
    (header.placed base).szName = name ↔ header.Shows name := by
  have hstarts : (header.placed base).szName = name ↔
      name ++ [0] <+: header.name ++ header.fields :=
    takeWhile_ne_eq_iff hzero hnul
  have hname := header.length_name
  rw [hstarts, Shows]
  rcases Nat.lt_or_eq_of_le hlength with hshort | hfull
  · have hne : header.name ≠ name := by
      rintro rfl
      omega
    rw [isPrefix_append_fields_of_short hshort]
    simp [hne]
  · have hnot : ¬ name ++ [0] <+: header.name := by
      intro h
      have hle := h.length_le
      rw [List.length_append, List.length_singleton] at hle
      omega
    rw [isPrefix_append_fields_of_full hfull]
    simp [hnot]

end SectionHeader

/-- The headers of an image that starts at an address: the offset of the second header,
how long the optional header behind it is, and the section headers. -/
structure PeHeaders where
  lfanew : ℕ
  sizeOfOptionalHeader : ℕ
  sectionHeaders : List SectionHeader

namespace PeHeaders

variable (pe : PeHeaders)

structure LaidOut (memory : Memory) (hModule : ℕ) : Prop where
  lfanew_lt : pe.lfanew < 2 ^ 31
  lfanew : readWord memory 4 (hModule + 60) = pe.lfanew
  numberOfSections : readWord memory 2 (hModule + pe.lfanew + 6) = pe.sectionHeaders.length
  sizeOfOptionalHeader :
    readWord memory 2 (hModule + pe.lfanew + 20) = pe.sizeOfOptionalHeader
  sectionHeaders : ∀ i (hi : i < pe.sectionHeaders.length),
    HoldsAt memory pe.sectionHeaders[i].bytes
      (hModule + pe.lfanew + 24 + pe.sizeOfOptionalHeader + 40 * i)
  zeros : ∀ header ∈ pe.sectionHeaders, 0 ∈ header.bytes

variable {memory : Memory} {pe}

theorem readWord_of_holdsAt {header : SectionHeader} {address : ℕ}
    (h : HoldsAt memory header.bytes address) :
    readWord memory 4 (address + 12) = header.virtualAddress.toNat ∧
      readWord memory 4 (address + 16) = header.sizeOfRawData.toNat := by
  have hrva := header.virtualAddress.toNat_lt
  have hraw := header.sizeOfRawData.toNat_lt
  simp only [SectionHeader.bytes, SectionHeader.fields, holdsAt_append, holdsAt_wordBytes_iff,
    List.length_append, length_wordBytes, header.length_name] at h
  obtain ⟨-, ⟨⟨⟨⟨⟨⟨⟨-, haddress⟩, hsize⟩, -⟩, -⟩, -⟩, -⟩, -⟩, -⟩ := h
  constructor
  · rw [show address + 12 = address + 8 + 4 by omega, haddress]
    exact Nat.mod_eq_of_lt hrva
  · rw [show address + 16 = address + 8 + (4 + 4) by omega, hsize]
    exact Nat.mod_eq_of_lt hraw

theorem sectionsFrom_eq {base fuel : ℕ} (hfuel : 40 ≤ fuel) :
    ∀ {headers : List SectionHeader} {address : ℕ},
    (∀ i (hi : i < headers.length), HoldsAt memory headers[i].bytes (address + 40 * i)) →
    (∀ header ∈ headers, 0 ∈ header.bytes) →
    sectionsFrom memory base fuel headers.length address =
      some (headers.map fun header => header.placed base)
  | [], _, _, _ => rfl
  | header :: headers, address, hholds, hzeros => by
    have hhead : HoldsAt memory header.bytes address := hholds 0 (by simp)
    have hname : readTerminated memory fuel address =
        some (header.bytes.takeWhile (· ≠ 0)) :=
      readTerminated_of_mem hhead (hzeros header List.mem_cons_self)
        (SectionHeader.length_bytes.le.trans hfuel)
    obtain ⟨haddress, hsize⟩ := readWord_of_holdsAt hhead
    have hrest : sectionsFrom memory base fuel headers.length (address + 40) =
        some (headers.map fun header => header.placed base) := by
      apply sectionsFrom_eq hfuel
      · intro i hi
        rw [show address + 40 + 40 * i = address + 40 * (i + 1) by omega]
        exact hholds (i + 1) (by simpa using hi)
      · intro later hlater
        exact hzeros later (List.mem_cons_of_mem _ hlater)
    rw [List.length_cons, sectionsFrom, hname, hrest, haddress, hsize]
    rfl

end PeHeaders

/-- The walk records every section header, at its place behind the base. A lookup finds the
first header that shows the name. -/
theorem initializeSections_pe (memory : Memory) (hModule base fuel : ℕ) (hfuel : 40 ≤ fuel)
    (pe : PeHeaders) (hpe : pe.LaidOut memory hModule) :
    ∃ sections, initializeSections memory hModule base fuel = some sections ∧
      sections = pe.sectionHeaders.map (fun header => header.placed base) ∧
      ∀ name, 0 ∉ name → name.length ≤ 8 →
        CModule.getSection { sections := sections } name =
          (pe.sectionHeaders.find? fun header => header.Shows name).map fun header =>
            header.placed base := by
  refine ⟨pe.sectionHeaders.map fun header => header.placed base, ?_, rfl, ?_⟩
  · have hnt : ntHeader memory hModule = hModule + pe.lfanew := by
      unfold ntHeader
      rw [hpe.lfanew]
      exact if_pos hpe.lfanew_lt
    unfold initializeSections
    simp only [hnt, hpe.numberOfSections, hpe.sizeOfOptionalHeader]
    exact PeHeaders.sectionsFrom_eq hfuel hpe.sectionHeaders hpe.zeros
  · intro name hnul hlength
    unfold CModule.getSection
    rw [List.find?_map]
    congr 1
    apply List.find?_congr
    intro header hheader
    rw [Function.comp_apply, decide_eq_decide]
    exact SectionHeader.szName_placed_eq_iff (hpe.zeros header hheader) hnul hlength

def smallPe : PeHeaders where
  lfanew := 64
  sizeOfOptionalHeader := 0
  sectionHeaders := [
    { name := ascii ".data" ++ [0, 0, 0], virtualSize := 512, virtualAddress := 4096,
      sizeOfRawData := 512, pointerToRawData := 1024, pointerToRelocations := 0,
      pointerToLinenumbers := 0, numberOfRelocations := 0, numberOfLinenumbers := 0,
      characteristics := 0, length_name := by decide },
    { name := ascii "longname", virtualSize := 1, virtualAddress := 8192, sizeOfRawData := 512,
      pointerToRawData := 1536, pointerToRelocations := 0, pointerToLinenumbers := 0,
      numberOfRelocations := 0, numberOfLinenumbers := 0, characteristics := 0,
      length_name := by decide }]

def smallPeBytes : List UInt8 :=
  List.replicate 60 0 ++ wordBytes 4 64 ++ List.replicate 6 0 ++ wordBytes 2 2 ++
    List.replicate 12 0 ++ wordBytes 2 0 ++ List.replicate 2 0 ++
    smallPe.sectionHeaders.flatMap SectionHeader.bytes

theorem initializeSections_pe_smallPe :
    ∃ sections, initializeSections (smallPeBytes.getD · 0) 0 65536 40 = some sections ∧
      CModule.getSection { sections := sections } (ascii ".data") =
        some ⟨ascii ".data", 69632, 512⟩ ∧
      CModule.getSection { sections := sections } (ascii "longname") = none := by
  have hpe : smallPe.LaidOut (smallPeBytes.getD · 0) 0 := by
    refine ⟨by decide, ?_, ?_, ?_, ?_, by decide⟩
    · decide +kernel
    · decide +kernel
    · decide +kernel
    · decide +kernel
  obtain ⟨sections, hsections, -, hfound⟩ :=
    initializeSections_pe (smallPeBytes.getD · 0) 0 65536 40 le_rfl smallPe hpe
  refine ⟨sections, hsections, ?_, ?_⟩
  · rw [hfound _ (by decide) (by decide)]
    decide +kernel
  · rw [hfound _ (by decide) (by decide)]
    decide +kernel

end MultiAddonRss
