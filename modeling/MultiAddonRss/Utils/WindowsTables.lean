import MultiAddonRss.Utils.VirtualTables

/-!
# Virtual tables of a Windows module

On Windows the name stands in the type descriptor, and the complete object locator names
the descriptor by its distance from the base of the module, in 32 bits. The entry before
the functions of a table points to the locator.
-/

namespace MultiAddonRss

open Foundations

namespace CModule

section Windows

variable (memory : Memory)

/-- The loop over the places that hold the distance of the type descriptor. `none` if it
takes more than `fuel` turns. -/
def findLocator (readOnlyData : Section) : ℕ → SignatureIterator → Option (Option ℕ)
  | 0, _ => none
  | fuel + 1, sigIt2 =>
    match sigIt2.findNext memory false with
    | (none, _) => some none
    | (some completeObjectLocator, sigIt2) =>
      let completeObjectLocatorHeader := completeObjectLocator - 0xC
      -- the signature of a locator is always 1
      if readWord memory 4 completeObjectLocatorHeader ≠ 1 then
        findLocator readOnlyData fuel sigIt2
      else if readWord memory 4 (completeObjectLocator - 0x8) ≠ 0 then
        findLocator readOnlyData fuel sigIt2
      else
        let sigIt3 := SignatureIterator.create readOnlyData.base readOnlyData.size
          (pointerBytes completeObjectLocatorHeader)
        match (sigIt3.findNext memory false).1 with
        | none => some none
        | some vtable => some (some (vtable + 0x8))

def decoratedTableNameWin (name : CString) : CString := ascii ".?AV" ++ name ++ ascii "@@"

/-- The distance of an address from the base, cut to an `uint32_t`. -/
def rttiTDRva (module : CModule) (typeDescriptor : ℕ) : ℕ :=
  (typeDescriptor + 2 ^ 64 - module.base) % 2 ^ 64 % 2 ^ 32

/-- The answer, or the outer `none` if the loop takes more than `fuel` turns. -/
def findVirtualTableWin (module : CModule) (name : CString) (fuel : ℕ) : Option (Option ℕ) :=
  match module.getSection (ascii ".data"), module.getSection (ascii ".rdata") with
  | some runTimeData, some readOnlyData =>
    let sigIt := SignatureIterator.create runTimeData.base runTimeData.size
      (decoratedTableNameWin name ++ [0])
    match (sigIt.findNext memory false).1 with
    | none => some none
    | some typeDescriptor =>
      let typeDescriptor := typeDescriptor - 0x10
      findLocator memory readOnlyData fuel (SignatureIterator.create readOnlyData.base
        readOnlyData.size (wordBytes 4 (module.rttiTDRva typeDescriptor)))
  | _, _ => some none

end Windows

/-- The image of the module takes at most 4 GiB, so that distances in it fit into 32 bits.
The headers stand first. -/
structure MappedImage (module : CModule) : Prop where
  base_le : ∀ sec ∈ module.sections, module.base + 0x10 ≤ sec.base
  end_le : ∀ sec ∈ module.sections,
    sec.base + sec.size ≤ module.base + 2 ^ 32

/-- The table belongs to the class: the entry before the functions points to a locator of
the whole object, whose descriptor has the mangled name. -/
structure IsTableOfWin (memory : Memory) (module : CModule) (name : CString) (table : ℕ) :
    Prop where
  signature : readWord memory 4 (readPointer memory (table - 0x8)) = 1
  offset : readWord memory 4 (readPointer memory (table - 0x8) + 0x4) = 0
  typeName : HoldsAt memory (decoratedTableNameWin name ++ [0])
    (module.base + readWord memory 4 (readPointer memory (table - 0x8) + 0xC) + 0x10)

variable {memory : Memory} {name : CString}

def isLocator (memory : Memory) (completeObjectLocator : ℕ) : Bool :=
  readWord memory 4 (completeObjectLocator - 0xC) = 1 ∧
    readWord memory 4 (completeObjectLocator - 0x8) = 0

theorem findLocator_eq_searchUntil {readOnlyData : Section} (fuel : ℕ) :
    ∀ sigIt2 : SignatureIterator, findLocator memory readOnlyData fuel sigIt2 =
      (searchUntil (SignatureIterator.matchesAt memory false sigIt2.signature) sigIt2.size
        (isLocator memory) fuel sigIt2.current).map fun locator =>
          locator.bind fun completeObjectLocator =>
            ((List.range' readOnlyData.base readOnlyData.size).find?
              (SignatureIterator.matchesAt memory false
                (pointerBytes (completeObjectLocator - 0xC)))).map (· + 8) := by
  induction fuel with
  | zero => exact fun _ => rfl
  | succ fuel ih =>
    intro sigIt2
    unfold findLocator searchUntil
    simp only [findNext_create]
    unfold SignatureIterator.findNext
    simp only [SignatureIterator.scan_eq_find?]
    cases (List.range' sigIt2.current sigIt2.size).find? _ with
    | none => rfl
    | some completeObjectLocator =>
      simp only [isLocator, decide_eq_true_eq]
      by_cases hsignature : readWord memory 4 (completeObjectLocator - 0xC) = 1
      · by_cases hoffset : readWord memory 4 (completeObjectLocator - 0x8) = 0
        · rw [if_neg (not_not.2 hsignature), if_neg (not_not.2 hoffset),
            if_pos ⟨hsignature, hoffset⟩]
          simp only [Option.map_some, Option.bind_some]
          cases ((List.range' readOnlyData.base readOnlyData.size).find? _) <;> rfl
        · rw [if_neg (not_not.2 hsignature), if_pos hoffset, if_neg (fun h => hoffset h.2)]
          exact ih _
      · rw [if_pos hsignature, if_neg (fun h => hsignature h.1)]
        exact ih _

theorem decoratedTableNameWin_injective {name' : CString}
    (hsame : decoratedTableNameWin name = decoratedTableNameWin name') : name = name' := by
  unfold decoratedTableNameWin at hsame
  exact List.append_cancel_left (List.append_cancel_right hsame)

theorem IsTableOfWin.name_eq {module : CModule} {name' : CString} {table : ℕ}
    (h : IsTableOfWin memory module name table) (h' : IsTableOfWin memory module name' table)
    (hnul : 0 ∉ name) (hnul' : 0 ∉ name') : name = name' := by
  apply decoratedTableNameWin_injective
  have hplain {n : CString} (hn : 0 ∉ n) : 0 ∉ decoratedTableNameWin n := by
    unfold decoratedTableNameWin
    rw [List.mem_append, List.mem_append, or_assoc]
    rintro (hstart | hmem | hend)
    · exact absurd hstart (by decide)
    · exact hn hmem
    · exact absurd hend (by decide)
  exact h.typeName.eq_of_terminated h'.typeName (hplain hnul) (hplain hnul')

theorem rttiTDRva_lt (module : CModule) (typeDescriptor : ℕ) :
    module.rttiTDRva typeDescriptor < 256 ^ 4 :=
  Nat.mod_lt _ (by norm_num)

/-- In a mapped image the distance is not cut. -/
theorem base_add_rttiTDRva {module : CModule} {typeDescriptor : ℕ}
    (hbase : module.base ≤ typeDescriptor) (hend : typeDescriptor < module.base + 2 ^ 32) :
    module.base + module.rttiTDRva typeDescriptor = typeDescriptor := by
  unfold rttiTDRva
  omega

theorem findVirtualTableWin_cases {module : CModule} {fuel table : ℕ}
    (hfind : findVirtualTableWin memory module name fuel = some (some table)) :
    ∃ runTimeData ∈ module.sections, ∃ readOnlyData ∈ module.sections, ∃ typeName,
      (runTimeData.base ≤ typeName ∧ typeName < runTimeData.base + runTimeData.size) ∧
        HoldsAt memory (decoratedTableNameWin name ++ [0]) typeName ∧
        findLocator memory readOnlyData fuel (SignatureIterator.create readOnlyData.base
          readOnlyData.size (wordBytes 4 (module.rttiTDRva (typeName - 0x10)))) =
            some (some table) := by
  unfold findVirtualTableWin at hfind
  cases hdata : module.getSection (ascii ".data") with
  | none => simp [hdata] at hfind
  | some runTimeData =>
    cases hreadOnly : module.getSection (ascii ".rdata") with
    | none => simp [hdata, hreadOnly] at hfind
    | some readOnlyData =>
      simp only [hdata, hreadOnly] at hfind
      cases hname : ((SignatureIterator.create runTimeData.base runTimeData.size
          (decoratedTableNameWin name ++ [0])).findNext memory false).1 with
      | none => simp [hname] at hfind
      | some typeName =>
        simp only [hname] at hfind
        obtain ⟨hrange, hdecorated, -⟩ := findNext_create_some hname
        exact ⟨runTimeData, List.mem_of_find?_eq_some hdata, readOnlyData,
          List.mem_of_find?_eq_some hreadOnly, typeName, hrange,
          matchesAt_iff_holdsAt.1 hdecorated, hfind⟩

theorem findLocator_some {readOnlyData : Section} {fuel table rva : ℕ} (hrva : rva < 256 ^ 4)
    (hfind : findLocator memory readOnlyData fuel (SignatureIterator.create readOnlyData.base
      readOnlyData.size (wordBytes 4 rva)) = some (some table)) :
    ∃ completeObjectLocator, readOnlyData.base ≤ completeObjectLocator ∧
      readWord memory 4 completeObjectLocator = rva ∧
      readWord memory 4 (completeObjectLocator - 0xC) = 1 ∧
      readWord memory 4 (completeObjectLocator - 0x8) = 0 ∧
      readPointer memory (table - 0x8) = (completeObjectLocator - 0xC) % 2 ^ 64 := by
  rw [findLocator_eq_searchUntil, Option.map_eq_some_iff] at hfind
  obtain ⟨answer, hsearch, hanswer⟩ := hfind
  obtain ⟨completeObjectLocator, rfl, hlookup⟩ := Option.bind_eq_some_iff.1 hanswer
  obtain ⟨vtable, hvtable, rfl⟩ := Option.map_eq_some_iff.1 hlookup
  obtain ⟨⟨hle, hmatch, htest⟩, -⟩ := searchUntil_some hsearch
  obtain ⟨hsignature, hoffset⟩ := of_decide_eq_true htest
  obtain ⟨-, hpoints, -⟩ := find?_range'_some hvtable
  have hdistance := matchesAt_wordBytes.1 hmatch
  rw [Nat.mod_eq_of_lt hrva] at hdistance
  rw [pointerBytes, matchesAt_wordBytes] at hpoints
  exact ⟨completeObjectLocator, hle, hdistance, hsignature, hoffset, hpoints⟩

/-- What the lookup returns is a table of the class, and of no other class. -/
theorem findVirtualTableWin_sound (memory : Memory)
    (hmemory : ∀ a, memory (a % 2 ^ 64) = memory a) (module : CModule)
    (hmapped : module.MappedImage) (name : CString) (fuel table : ℕ)
    (hfind : findVirtualTableWin memory module name fuel = some (some table)) :
    IsTableOfWin memory module name table ∧
      ∀ name', IsTableOfWin memory module name' table → 0 ∉ name → 0 ∉ name' →
        name' = name := by
  obtain ⟨runTimeData, hdata, readOnlyData, hreadOnly, typeName, ⟨htypeBase, htypeEnd⟩,
    hdecorated, hlocator⟩ := findVirtualTableWin_cases hfind
  obtain ⟨completeObjectLocator, hle, hdistance, hsignature, hoffset, hpoints⟩ :=
    findLocator_some (rttiTDRva_lt module _) hlocator
  have hdataBase := hmapped.base_le _ hdata
  have hdataEnd := hmapped.end_le _ hdata
  have hreadOnlyBase := hmapped.base_le _ hreadOnly
  have hread (offset : ℕ) : readWord memory 4 (readPointer memory (table - 0x8) + offset) =
      readWord memory 4 (completeObjectLocator - 0xC + offset) := by
    rw [hpoints]
    exact readWord_mod hmemory 4 _ offset
  have htable : IsTableOfWin memory module name table := by
    refine ⟨?_, ?_, ?_⟩
    · rw [← Nat.add_zero (readPointer _ _), hread, Nat.add_zero, hsignature]
    · rw [hread, show completeObjectLocator - 0xC + 0x4 = completeObjectLocator - 0x8 by omega,
        hoffset]
    · rw [hread, Nat.sub_add_cancel (by omega), hdistance,
        base_add_rttiTDRva (by omega) (by omega), Nat.sub_add_cancel (by omega)]
      exact hdecorated
  refine ⟨htable, ?_⟩
  intro name' htable' hnul hnul'
  exact htable'.name_eq htable hnul' hnul

def oneClassWin : CModule where
  sections := [⟨ascii ".data", 32, 8⟩, ⟨ascii ".rdata", 64, 32⟩]

def oneClassMemoryWin (address : ℕ) : UInt8 :=
  match address % 2 ^ 64 with
  | 32 => 46
  | 33 => 63
  | 34 => 65
  | 35 => 86
  | 36 => 65
  | 37 => 64
  | 38 => 64
  | 64 => 1
  | 76 => 16
  | 88 => 64
  | _ => 0

theorem findVirtualTableWin_sound_oneClass :
    findVirtualTableWin oneClassMemoryWin oneClassWin (ascii "A") 32 = some (some 96) ∧
      IsTableOfWin oneClassMemoryWin oneClassWin (ascii "A") 96 := by
  have hmemory (a : ℕ) : oneClassMemoryWin (a % 2 ^ 64) = oneClassMemoryWin a := by
    unfold oneClassMemoryWin
    rw [Nat.mod_mod]
  have hmapped : oneClassWin.MappedImage := by
    constructor
    · decide
    · decide
  have hfind : findVirtualTableWin oneClassMemoryWin oneClassWin (ascii "A") 32 =
      some (some 96) := by
    decide +kernel
  exact ⟨hfind, (findVirtualTableWin_sound oneClassMemoryWin hmemory oneClassWin hmapped _ 32 96
    hfind).1⟩

end CModule
end MultiAddonRss
