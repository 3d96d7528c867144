import MultiAddonRss.Foundations.LittleEndian
import MultiAddonRss.Preferences.Writer
import MultiAddonRss.Utils.SignatureIterator

/-!
# Virtual tables of a Linux module

`FindVirtualTable` goes from the mangled name of a class to the string in `.rodata`, from
there to the type information that points to the string, and then to the table whose
second entry points to the type information and whose first one is zero. What it returns
therefore leads back to the name.
-/

namespace MultiAddonRss

open Foundations

structure Section where
  szName : CString
  base : ℕ
  size : ℕ
deriving DecidableEq

/-- The first address of the section with a property. -/
structure Section.FirstAt (sec : Section) (p : ℕ → Prop) (address : ℕ) : Prop where
  base_le : sec.base ≤ address
  lt_end : address < sec.base + sec.size
  holds : p address
  first : ∀ b, sec.base ≤ b → b < address → ¬ p b

structure CModule where
  base : ℕ := 0
  sections : List Section

/-- `std::to_string` of a `size_t`. -/
def toStringSize (n : ℕ) : CString := RssPrefs.numBuf (UInt64.ofNat n)

def pointerBytes (pointer : ℕ) : List UInt8 := wordBytes 8 pointer

def readPointer (memory : Memory) (address : ℕ) : ℕ := readWord memory 8 address

namespace CModule

def getSection (module : CModule) (name : CString) : Option Section :=
  module.sections.find? fun sec => sec.szName = name

section Linux

variable (memory : Memory)

/-- The loop over the places that point to the type information. `none` if it takes more
than `fuel` turns. -/
def findTable : ℕ → SignatureIterator → Option (Option ℕ)
  | 0, _ => none
  | fuel + 1, sigIt =>
    match sigIt.findNext memory false with
    | (none, _) => some none
    | (some vtable, sigIt) =>
      if readPointer memory (vtable - 8) = 0 then some (some (vtable + 8))
      else findTable fuel sigIt

def findTableIn (module : CModule) (typeInfo fuel : ℕ) : List CString → Option (Option ℕ)
  | [] => some none
  | sectionName :: names =>
    match module.getSection sectionName with
    | none => findTableIn module typeInfo fuel names
    | some sec =>
      match findTable memory fuel
          (SignatureIterator.create sec.base sec.size (pointerBytes typeInfo)) with
      | none => none
      | some (some vtable) => some (some vtable)
      | some none => findTableIn module typeInfo fuel names

/-- The name as the compiler mangles it, with its terminator. -/
def decoratedTableName (name : CString) : CString := toStringSize name.length ++ name

/-- The answer, or the outer `none` if the last loop takes more than `fuel` turns. -/
def findVirtualTable (module : CModule) (name : CString) (fuel : ℕ) : Option (Option ℕ) :=
  match module.getSection (ascii ".rodata"), module.getSection (ascii ".data.rel.ro") with
  | some readOnlyData, some readOnlyRelocations =>
    let sigIt := SignatureIterator.create readOnlyData.base readOnlyData.size
      (decoratedTableName name ++ [0])
    match (sigIt.findNext memory false).1 with
    | none => some none
    | some classNameString =>
      let sigIt2 := SignatureIterator.create readOnlyRelocations.base readOnlyRelocations.size
        (pointerBytes classNameString)
      match (sigIt2.findNext memory false).1 with
      | none => some none
      | some typeName =>
        findTableIn memory module (typeName - 8) fuel
          [ascii ".data.rel.ro", ascii ".data.rel.ro.local"]
  | _, _ => some none

end Linux

/-! ## What a table tells -/

/-- The sections lie in the address space, and not in its first bytes. -/
def Addressable (module : CModule) : Prop :=
  ∀ sec ∈ module.sections, 16 ≤ sec.base ∧ sec.base + sec.size ≤ 2 ^ 64

/-- The table belongs to the class: the entry before the functions points to type
information whose second word points to the mangled name, and the entry before that one,
the offset of the subobject, is zero. -/
structure IsTableOf (memory : Memory) (name : CString) (table : ℕ) : Prop where
  offsetToTop : readPointer memory (table - 16) = 0
  typeName : HoldsAt memory (decoratedTableName name ++ [0])
    (readPointer memory (readPointer memory (table - 8) + 8))

variable {memory : Memory} {name : CString}

theorem matchesAt_iff_holdsAt : ∀ {signature : List UInt8} {address : ℕ},
    SignatureIterator.matchesAt memory false signature address = true ↔
      HoldsAt memory signature address
  | [], _ => by simp [SignatureIterator.matchesAt, HoldsAt]
  | c :: signature, address => by
    rw [SignatureIterator.matchesAt, HoldsAt, Bool.and_eq_true, matchesAt_iff_holdsAt]
    simp

theorem matchesAt_wordBytes {width n address : ℕ} :
    SignatureIterator.matchesAt memory false (wordBytes width n) address = true ↔
      readWord memory width address = n % 256 ^ width := by
  rw [matchesAt_iff_holdsAt, holdsAt_wordBytes_iff]

theorem matchesAt_pointerBytes {pointer address : ℕ} (hpointer : pointer < 2 ^ 64) :
    SignatureIterator.matchesAt memory false (pointerBytes pointer) address = true ↔
      readPointer memory address = pointer := by
  have hword : pointer % 256 ^ 8 = pointer := Nat.mod_eq_of_lt (by simpa using hpointer)
  rw [pointerBytes, matchesAt_wordBytes, hword, readPointer]

theorem findTable_eq_searchUntil (fuel : ℕ) : ∀ sigIt : SignatureIterator,
    findTable memory fuel sigIt =
      (searchUntil (SignatureIterator.matchesAt memory false sigIt.signature) sigIt.size
        (fun vtable => readPointer memory (vtable - 8) = 0) fuel sigIt.current).map
          (Option.map (· + 8)) := by
  induction fuel with
  | zero => exact fun _ => rfl
  | succ fuel ih =>
    intro sigIt
    simp only [findTable, SignatureIterator.findNext, searchUntil, SignatureIterator.scan_eq_find?]
    cases (List.range' sigIt.current sigIt.size).find? _ with
    | none => rfl
    | some vtable =>
      simp only [decide_eq_true_eq]
      split_ifs
      · rfl
      · exact ih _

theorem findNext_create {base size : ℕ} {signature : List UInt8} :
    ((SignatureIterator.create base size signature).findNext memory false).1 =
      (List.range' base size).find? (SignatureIterator.matchesAt memory false signature) := by
  simp only [SignatureIterator.findNext, SignatureIterator.create, SignatureIterator.scan_eq_find?]
  cases (List.range' base size).find? _ <;> rfl

theorem findNext_create_some {base size address : ℕ} {signature : List UInt8}
    (hfind : ((SignatureIterator.create base size signature).findNext memory false).1 =
      some address) :
    (base ≤ address ∧ address < base + size) ∧
      SignatureIterator.matchesAt memory false signature address = true ∧
      ∀ b, base ≤ b → b < address →
        SignatureIterator.matchesAt memory false signature b = false := by
  rw [findNext_create] at hfind
  exact find?_range'_some hfind

theorem findTable_some {sec : Section} {typeInfo fuel table : ℕ} (hinfo : typeInfo < 2 ^ 64)
    (hfind : findTable memory fuel (SignatureIterator.create sec.base sec.size
      (pointerBytes typeInfo)) = some (some table)) :
    ∃ vtable, table = vtable + 8 ∧ sec.base ≤ vtable ∧
      readPointer memory vtable = typeInfo ∧ readPointer memory (vtable - 8) = 0 := by
  rw [findTable_eq_searchUntil, Option.map_eq_some_iff] at hfind
  obtain ⟨answer, hsearch, hanswer⟩ := hfind
  obtain ⟨vtable, rfl, rfl⟩ := Option.map_eq_some_iff.1 hanswer
  obtain ⟨⟨hle, hmatch, hzero⟩, -⟩ := searchUntil_some hsearch
  exact ⟨vtable, rfl, hle, (matchesAt_pointerBytes hinfo).1 hmatch, by simpa using hzero⟩

theorem findTableIn_some {module : CModule} {typeInfo fuel table : ℕ} :
    ∀ {names : List CString}, findTableIn memory module typeInfo fuel names = some (some table) →
      ∃ sec ∈ module.sections, findTable memory fuel (SignatureIterator.create
        sec.base sec.size (pointerBytes typeInfo)) = some (some table)
  | [], hfind => by simp [findTableIn] at hfind
  | sectionName :: names, hfind => by
    unfold findTableIn at hfind
    cases hsection : module.getSection sectionName with
    | none =>
      rw [hsection] at hfind
      exact findTableIn_some hfind
    | some sec =>
      have hmem : sec ∈ module.sections := List.mem_of_find?_eq_some hsection
      rw [hsection] at hfind
      dsimp only at hfind
      cases htable : findTable memory fuel (SignatureIterator.create sec.base sec.size
          (pointerBytes typeInfo)) with
      | none => simp [htable] at hfind
      | some answer =>
        cases answer with
        | none =>
          rw [htable] at hfind
          exact findTableIn_some hfind
        | some vtable =>
          obtain rfl : vtable = table := by simpa [htable] using hfind
          exact ⟨sec, hmem, htable⟩

/-! ## What is found -/

theorem firstAt_iff_find? {sec : Section} {p : ℕ → Prop} [DecidablePred p] {address : ℕ} :
    sec.FirstAt p address ↔
      (List.range' sec.base sec.size).find? (fun a => p a) = some address := by
  rw [List.find?_range'_eq_some, List.mem_range'_1]
  constructor
  · intro h
    exact ⟨decide_eq_true h.holds, ⟨h.base_le, h.lt_end⟩, by simpa using h.first⟩
  · rintro ⟨hp, ⟨hbase, hend⟩, hfirst⟩
    exact ⟨hbase, hend, of_decide_eq_true hp, by simpa using hfirst⟩

theorem findNext_create_of_first {sec : Section} {signature : List UInt8} {address : ℕ}
    (hfirst : sec.FirstAt (HoldsAt memory signature) address) :
    ((SignatureIterator.create sec.base sec.size signature).findNext memory false).1 =
      some address := by
  rw [findNext_create, ← firstAt_iff_find?.1 hfirst]
  congr 1
  funext a
  rw [Bool.eq_iff_iff, decide_eq_true_iff, matchesAt_iff_holdsAt]

theorem findTable_of_first {sec : Section} {typeInfo vtable fuel : ℕ}
    (hinfo : typeInfo < 2 ^ 64) (hfuel : sec.size ≤ fuel)
    (hfirst : sec.FirstAt (fun a => readPointer memory a = typeInfo ∧
      readPointer memory (a - 8) = 0) vtable) :
    findTable memory fuel (SignatureIterator.create sec.base sec.size
      (pointerBytes typeInfo)) = some (some (vtable + 8)) := by
  obtain ⟨hbase, hend, ⟨hpoints, hzero⟩, hbefore⟩ := hfirst
  rw [findTable_eq_searchUntil]
  have hsearch : searchUntil (SignatureIterator.matchesAt memory false (pointerBytes typeInfo))
      sec.size (fun a => readPointer memory (a - 8) = 0) fuel sec.base =
        some (some vtable) := by
    apply searchUntil_of_first (by omega) hbase hend
    · exact (matchesAt_pointerBytes hinfo).2 hpoints
    · simpa using hzero
    · intro b hb hlt hmatch
      simp only [decide_eq_false_iff_not]
      intro hb0
      exact hbefore b hb hlt ⟨(matchesAt_pointerBytes hinfo).1 hmatch, hb0⟩
  simp only [SignatureIterator.create, hsearch, Option.map_some]

/-! ## One table, one name -/

theorem lt_pow_length_revDigits (fuel : ℕ) : ∀ {v : RssPrefs.RssSteamId}, v.toNat < 10 ^ fuel →
    v.toNat < 10 ^ (RssPrefs.revDigits fuel v).length := by
  induction fuel with
  | zero =>
    intro v hv
    simpa [RssPrefs.revDigits] using hv
  | succ fuel ih =>
    intro v hv
    unfold RssPrefs.revDigits
    split_ifs with hpos
    · have hdiv : (v / 10).toNat < 10 ^ (RssPrefs.revDigits fuel (v / 10)).length := by
        apply ih
        rw [RssPrefs.toNat_div_ten]
        rw [pow_succ] at hv
        omega
      rw [RssPrefs.toNat_div_ten] at hdiv
      rw [List.length_cons, pow_succ]
      omega
    · have hzero : ¬ 0 < v.toNat := fun h => hpos (UInt64.lt_iff_toNat_lt.2 h)
      rw [List.length_nil]
      omega

theorem length_toStringSize {n : ℕ} (hn : n < 2 ^ 64) :
    n < 10 ^ (toStringSize n).length ∧
      ∀ digits, 0 < digits → n < 10 ^ digits → (toStringSize n).length ≤ digits := by
  have hvalue : (UInt64.ofNat n).toNat = n := UInt64.toNat_ofNat_of_lt' hn
  unfold toStringSize RssPrefs.numBuf
  split_ifs with hzero
  · have hn0 : n = 0 := by
      rw [← hvalue, hzero]
      rfl
    subst hn0
    refine ⟨by decide, ?_⟩
    intro digits hdigits _
    exact hdigits
  · rw [List.length_reverse]
    constructor
    · have hlt := lt_pow_length_revDigits 24 (v := UInt64.ofNat n) (by omega)
      rwa [hvalue] at hlt
    · intro digits _ hlt
      apply RssPrefs.revDigits_length_le
      rwa [hvalue]

theorem decoratedTableName_injective {name' : CString} (hname : name.length < 2 ^ 64)
    (hname' : name'.length < 2 ^ 64)
    (hsame : decoratedTableName name = decoratedTableName name') : name = name' := by
  -- the shorter numeral would belong to the longer name
  have hshorter {n n' : CString} (hn : n.length < 2 ^ 64) (hn' : n'.length < 2 ^ 64)
      (hlength : (decoratedTableName n).length = (decoratedTableName n').length) :
      (toStringSize n'.length).length ≤ (toStringSize n.length).length := by
    obtain ⟨hlt, -⟩ := length_toStringSize hn
    obtain ⟨-, hleast⟩ := length_toStringSize hn'
    simp only [decoratedTableName, List.length_append] at hlength
    by_contra hgt
    have hpos : 0 < (toStringSize n.length).length := by
      by_contra hzero
      rw [Nat.eq_zero_of_not_pos hzero, pow_zero] at hlt
      have hdigits := hleast 1 one_pos
      omega
    have hdigits := hleast _ hpos (by omega)
    omega
  have hlength := congrArg List.length hsame
  have hdigits : (toStringSize name.length).length = (toStringSize name'.length).length :=
    le_antisymm (hshorter hname' hname hlength.symm) (hshorter hname hname' hlength)
  exact (List.append_inj hsame hdigits).2

theorem IsTableOf.name_eq {name' : CString} {table : ℕ} (h : IsTableOf memory name table)
    (h' : IsTableOf memory name' table) (hnul : 0 ∉ name) (hnul' : 0 ∉ name')
    (hname : name.length < 2 ^ 64) (hname' : name'.length < 2 ^ 64) : name = name' := by
  apply decoratedTableName_injective hname hname'
  have hplain {n : CString} (hn : 0 ∉ n) : 0 ∉ decoratedTableName n := by
    intro hmem
    rcases List.mem_append.1 hmem with hdigits | hrest
    · exact RssPrefs.nulFree_numBuf _ hdigits
    · exact hn hrest
  exact h.typeName.eq_of_terminated h'.typeName (hplain hnul) (hplain hnul')

theorem findVirtualTable_cases {module : CModule} {fuel table : ℕ}
    (hfind : findVirtualTable memory module name fuel = some (some table)) :
    ∃ readOnlyData ∈ module.sections, ∃ readOnlyRelocations ∈ module.sections,
      ∃ classNameString typeName,
        (classNameString < readOnlyData.base + readOnlyData.size ∧
          HoldsAt memory (decoratedTableName name ++ [0]) classNameString) ∧
        (readOnlyRelocations.base ≤ typeName ∧
          typeName < readOnlyRelocations.base + readOnlyRelocations.size ∧
          readPointer memory typeName = classNameString % 2 ^ 64) ∧
        findTableIn memory module (typeName - 8) fuel
          [ascii ".data.rel.ro", ascii ".data.rel.ro.local"] = some (some table) := by
  unfold findVirtualTable at hfind
  cases hdata : module.getSection (ascii ".rodata") with
  | none => simp [hdata] at hfind
  | some readOnlyData =>
    cases hrelocations : module.getSection (ascii ".data.rel.ro") with
    | none => simp [hdata, hrelocations] at hfind
    | some readOnlyRelocations =>
      simp only [hdata, hrelocations] at hfind
      cases hname : ((SignatureIterator.create readOnlyData.base readOnlyData.size
          (decoratedTableName name ++ [0])).findNext memory false).1 with
      | none => simp [hname] at hfind
      | some classNameString =>
        simp only [hname] at hfind
        cases htype : ((SignatureIterator.create readOnlyRelocations.base
            readOnlyRelocations.size (pointerBytes classNameString)).findNext memory false).1 with
        | none => simp [htype] at hfind
        | some typeName =>
          simp only [htype] at hfind
          obtain ⟨⟨-, hstring⟩, hdecorated, -⟩ := findNext_create_some hname
          obtain ⟨⟨hbase, hend⟩, hpoints, -⟩ := findNext_create_some htype
          rw [pointerBytes, matchesAt_wordBytes] at hpoints
          exact ⟨readOnlyData, List.mem_of_find?_eq_some hdata, readOnlyRelocations,
            List.mem_of_find?_eq_some hrelocations, classNameString, typeName,
            ⟨hstring, matchesAt_iff_holdsAt.1 hdecorated⟩, ⟨hbase, hend, hpoints⟩, hfind⟩

/-- What the lookup returns is a table of the class, and of no other class: a lookup of
another name never returns it. -/
theorem findVirtualTable_sound (memory : Memory) (module : CModule)
    (haddressable : module.Addressable) (name : CString) (fuel table : ℕ)
    (hfind : findVirtualTable memory module name fuel = some (some table)) :
    IsTableOf memory name table ∧
      ∀ name', IsTableOf memory name' table → 0 ∉ name → 0 ∉ name' →
        name.length < 2 ^ 64 → name'.length < 2 ^ 64 → name' = name := by
  obtain ⟨readOnlyData, hdata, readOnlyRelocations, hrelocations, classNameString, typeName,
    ⟨hstring, hdecorated⟩, ⟨htypeBase, htypeEnd, hpoints⟩, htables⟩ :=
      findVirtualTable_cases hfind
  obtain ⟨sec, hmem, hsection⟩ := findTableIn_some htables
  obtain ⟨-, hdataEnd⟩ := haddressable _ hdata
  obtain ⟨hrelBase, hrelEnd⟩ := haddressable _ hrelocations
  obtain ⟨hbase, -⟩ := haddressable _ hmem
  have hrange : typeName - 8 < 2 ^ 64 := by omega
  obtain ⟨vtable, rfl, hvtable, hinfo, hzero⟩ := findTable_some hrange hsection
  rw [Nat.mod_eq_of_lt (by omega)] at hpoints
  have htable : IsTableOf memory name (vtable + 8) := by
    constructor
    · rwa [show vtable + 8 - 16 = vtable - 8 by omega]
    · rwa [show vtable + 8 - 8 = vtable by omega, hinfo,
        show typeName - 8 + 8 = typeName by omega, hpoints]
  refine ⟨htable, ?_⟩
  intro name' htable' hnul hnul' hname hname'
  exact htable'.name_eq htable hnul' hnul hname' hname

/-- A module with one class: its name at 16, its type information at 32 and its table,
without functions, at 64. -/
def oneClass : CModule where
  sections := [⟨ascii ".rodata", 16, 8⟩, ⟨ascii ".data.rel.ro", 32, 40⟩]

def oneClassMemory (address : ℕ) : UInt8 :=
  match address with
  | 16 => 49
  | 17 => 65
  | 40 => 16
  | 56 => 32
  | _ => 0

theorem findVirtualTable_sound_oneClass :
    findVirtualTable oneClassMemory oneClass (ascii "A") 40 = some (some 64) ∧
      IsTableOf oneClassMemory (ascii "A") 64 := by
  have haddressable : oneClass.Addressable := by
    unfold Addressable
    decide
  have hfind : findVirtualTable oneClassMemory oneClass (ascii "A") 40 = some (some 64) := by
    decide +kernel
  exact ⟨hfind, (findVirtualTable_sound oneClassMemory oneClass haddressable _ 40 64 hfind).1⟩

/-- A table of `.data.rel.ro` is found, the first one if there are several. -/
theorem findVirtualTable_complete (memory : Memory) (module : CModule)
    (haddressable : module.Addressable) (name : CString)
    (readOnlyData readOnlyRelocations : Section)
    (hdata : module.getSection (ascii ".rodata") = some readOnlyData)
    (hrelocations : module.getSection (ascii ".data.rel.ro") = some readOnlyRelocations)
    (classNameString typeName vtable : ℕ)
    (hname : readOnlyData.FirstAt (HoldsAt memory (decoratedTableName name ++ [0]))
      classNameString)
    (htype : readOnlyRelocations.FirstAt (fun a => readPointer memory a = classNameString)
      typeName)
    (hvtable : readOnlyRelocations.FirstAt (fun a => readPointer memory a = typeName - 8 ∧
      readPointer memory (a - 8) = 0) vtable)
    (fuel : ℕ) (hfuel : readOnlyRelocations.size ≤ fuel) :
    findVirtualTable memory module name fuel = some (some (vtable + 8)) := by
  obtain ⟨-, hdataEnd⟩ := haddressable _ (List.mem_of_find?_eq_some hdata)
  obtain ⟨-, hrelEnd⟩ := haddressable _ (List.mem_of_find?_eq_some hrelocations)
  have hstring := hname.lt_end
  have htypeEnd := htype.lt_end
  have hpoints : readOnlyRelocations.FirstAt (HoldsAt memory (pointerBytes classNameString))
      typeName := by
    refine ⟨htype.base_le, htypeEnd, ?_, ?_⟩
    · exact (matchesAt_iff_holdsAt.1 ((matchesAt_pointerBytes (by omega)).2 htype.holds))
    · intro b hb hlt hmatch
      rw [← matchesAt_iff_holdsAt, matchesAt_pointerBytes (by omega)] at hmatch
      exact htype.first b hb hlt hmatch
  have htable := findTable_of_first (by omega) hfuel hvtable
  unfold findVirtualTable
  simp only [hdata, hrelocations, findNext_create_of_first hname,
    findNext_create_of_first hpoints]
  unfold findTableIn
  simp only [hrelocations, htable]

theorem findVirtualTable_complete_oneClass :
    findVirtualTable oneClassMemory oneClass (ascii "A") 40 = some (some (56 + 8)) := by
  have haddressable : oneClass.Addressable := by
    unfold Addressable
    decide
  apply findVirtualTable_complete oneClassMemory oneClass haddressable (ascii "A")
    ⟨ascii ".rodata", 16, 8⟩ ⟨ascii ".data.rel.ro", 32, 40⟩ (by decide) (by decide) 16 40 56
  · rw [firstAt_iff_find?]
    decide +kernel
  · rw [firstAt_iff_find?]
    decide +kernel
  · rw [firstAt_iff_find?]
    decide +kernel
  · decide

end CModule
end MultiAddonRss
