import Concord.Module.Basic
import Concord.Proofs.GeneratedNames

/-!
# Which names look renamed

`RenameTest.capitals` looks at the bytes of a name. A character beyond the first 128 is written with
bytes that all lie beyond 127 (`le_of_mem_utf8EncodeChar`), so bytes that are all capital letters
are those of capital letters, one byte for each: the name has as many characters as bytes
(`RenameTest.capitals_iff`).

Hence a name with any other character does not look renamed. Generated names have a bracket and the
names of constructors have a dot, so a name is never both renamed and generated, nor renamed and a
constructor (`RenameTest.capitals_exactly`).
-/

set_option autoImplicit false

namespace Concord

/-! ## Capital letters as bytes -/

/-- The capital letters from `A` to `Z`. -/
def IsCapital (c : Char) : Prop := 'A' ≤ c ∧ c ≤ 'Z'

theorem isCapital_iff {c : Char} : IsCapital c ↔ 65 ≤ c.toNat ∧ c.toNat ≤ 90 := by
  rw [IsCapital, Char.le_def, Char.le_def, UInt32.le_iff_toNat_le, UInt32.le_iff_toNat_le]
  rfl

instance (c : Char) : Decidable (IsCapital c) := decidable_of_iff' _ isCapital_iff

/-- The byte of a capital letter. -/
def isCapitalByte (b : UInt8) : Bool := 'A'.toUInt8 ≤ b && b ≤ 'Z'.toUInt8

theorem isCapitalByte_iff {b : UInt8} : isCapitalByte b = true ↔ 65 ≤ b.toNat ∧ b.toNat ≤ 90 := by
  rw [isCapitalByte, Bool.and_eq_true, decide_eq_true_iff, decide_eq_true_iff,
    UInt8.le_iff_toNat_le, UInt8.le_iff_toNat_le]
  rfl

/-- **The bytes of a character beyond the first 128** lie beyond 127, the lead byte and those
behind it. -/
theorem le_of_mem_utf8EncodeChar {c : Char} (hc : 127 < c.toNat) :
    ∀ b ∈ String.utf8EncodeChar c, 128 ≤ b.toNat := by
  have hlarge : ∀ n, 128 ≤ n → n < 256 → 128 ≤ (UInt8.ofNat n).toNat := by
    intro n hn hlt
    rwa [UInt8.toNat_ofNat_of_lt' hlt]
  have hc' : ¬ c.val.toNat ≤ 127 := Nat.not_le.2 hc
  simp only [String.utf8EncodeChar, if_neg hc']
  split
  · simp only [List.forall_mem_cons, List.not_mem_nil, false_implies, implies_true, and_true]
    exact ⟨hlarge _ (by omega) (by omega), hlarge _ (by omega) (by omega)⟩
  · split
    · simp only [List.forall_mem_cons, List.not_mem_nil, false_implies, implies_true, and_true]
      exact ⟨hlarge _ (by omega) (by omega), hlarge _ (by omega) (by omega),
        hlarge _ (by omega) (by omega)⟩
    · simp only [List.forall_mem_cons, List.not_mem_nil, false_implies, implies_true, and_true]
      exact ⟨hlarge _ (by omega) (by omega), hlarge _ (by omega) (by omega),
        hlarge _ (by omega) (by omega), hlarge _ (by omega) (by omega)⟩

theorem utf8EncodeChar_of_le {c : Char} (hc : c.toNat ≤ 127) :
    String.utf8EncodeChar c = [UInt8.ofNat c.toNat] :=
  if_pos hc

/-- The bytes of a character are capital letters just if it is one. -/
theorem all_isCapitalByte_iff {c : Char} :
    (∀ b ∈ String.utf8EncodeChar c, isCapitalByte b = true) ↔ IsCapital c := by
  rw [isCapital_iff]
  rcases Nat.lt_or_ge 127 c.toNat with hc | hc
  · refine ⟨fun h => ?_, fun h => by omega⟩
    obtain ⟨b, bytes, hbytes⟩ := List.exists_cons_of_ne_nil (String.utf8EncodeChar_ne_nil (c := c))
    have hb : b ∈ String.utf8EncodeChar c := hbytes ▸ List.mem_cons_self
    have hlarge := le_of_mem_utf8EncodeChar hc b hb
    have hcapital := isCapitalByte_iff.1 (h b hb)
    omega
  · rw [utf8EncodeChar_of_le hc]
    simp only [List.mem_singleton, forall_eq, isCapitalByte_iff]
    rw [UInt8.toNat_ofNat_of_lt' (by show c.toNat < 256; omega)]

/-- The bytes of a text are those of its characters, one after another. -/
theorem bytes_eq_flatMap (s : String) :
    s.toUTF8.data.toList = s.toList.flatMap String.utf8EncodeChar := by
  have hbytes : s.toByteArray = s.toList.utf8Encode := by
    rw [← String.toByteArray_ofList, String.ofList_toList]
  rw [String.toUTF8_eq_toByteArray, hbytes]
  exact List.toList_data_toByteArray

theorem utf8ByteSize_eq_length (s : String) :
    s.utf8ByteSize = (s.toList.flatMap String.utf8EncodeChar).length := by
  rw [← bytes_eq_flatMap, String.toUTF8_eq_toByteArray, ← String.size_toByteArray]
  rfl

/-- Capital letters take one byte each. -/
theorem length_flatMap_of_capitals {cs : List Char} (h : ∀ c ∈ cs, IsCapital c) :
    (cs.flatMap String.utf8EncodeChar).length = cs.length := by
  induction cs with
  | nil => rfl
  | cons c cs ih =>
    obtain ⟨hc, hcs⟩ := List.forall_mem_cons.1 h
    have hbyte := utf8EncodeChar_of_le (c := c) (by have := isCapital_iff.1 hc; omega)
    rw [List.flatMap_cons, List.length_append, ih hcs, hbyte, List.length_singleton,
      List.length_cons, Nat.add_comm]

/-! ## Names -/

namespace RenameTest

/-- **A name looks renamed** just if it consists of that many capital letters. -/
theorem capitals_iff {length : Nat} {name : String} : capitals length name = true ↔
    name.length = length ∧ ∀ c ∈ name.toList, IsCapital c := by
  have htest : capitals length name = true ↔ (name.toList.flatMap String.utf8EncodeChar).length =
      length ∧ ∀ b ∈ name.toList.flatMap String.utf8EncodeChar, isCapitalByte b = true := by
    rw [← utf8ByteSize_eq_length, ← bytes_eq_flatMap, ← List.all_eq_true, capitals,
      Bool.and_eq_true, decide_eq_true_iff]
    rfl
  have hcharacters : (∀ b ∈ name.toList.flatMap String.utf8EncodeChar, isCapitalByte b = true) ↔
      ∀ c ∈ name.toList, IsCapital c := by
    simp only [List.forall_mem_flatMap, all_isCapitalByte_iff]
  rw [htest, hcharacters]
  refine and_congr_left fun h => ?_
  rw [length_flatMap_of_capitals h, String.length_toList]

/-- A name with any other character does not look renamed. -/
theorem capitals_eq_false {length : Nat} {name : String} {c : Char} (hc : c ∈ name.toList)
    (hother : ¬ IsCapital c) : capitals length name = false :=
  Bool.eq_false_iff.2 fun h => hother ((capitals_iff.1 h).2 c hc)

end RenameTest

/-- No constructor has a name that looks renamed. -/
theorem isConstructor_of_capitals {length : Nat} {method : MethodDecl}
    (h : RenameTest.capitals length method.name = true) : method.isConstructor = false := by
  refine Bool.eq_false_iff.2 fun hc => ?_
  rw [MethodDecl.isConstructor, Bool.or_eq_true, decide_eq_true_iff, decide_eq_true_iff] at hc
  have hdot : '.' ∈ method.name.toList := by
    rcases hc with hc | hc <;> rw [hc] <;> decide
  exact absurd ((RenameTest.capitals_iff.1 h).2 '.' hdot) (by decide)

/-- **The test for renamed names** accepts exactly the names of that many characters that are all
capital letters. So no name that the conventions of C# compilers recognize, and no name of a
constructor, looks renamed. -/
theorem RenameTest.capitals_exactly (length : Nat) (name : String) :
    (capitals length name = true ↔
      name.length = length ∧ ∀ c ∈ name.toList, 'A' ≤ c ∧ c ≤ 'Z') ∧
    ((Conventions.csharp.hostOf? name).isSome ∨ (Conventions.csharp.typeNameOf? name).isSome ∨
      (Conventions.csharp.fixedField? name).isSome → capitals length name = false) ∧
    ∀ method : MethodDecl, method.isConstructor = true →
      capitals length method.name = false := by
  refine ⟨capitals_iff, fun h => ?_, fun method h => ?_⟩
  · have hbracket : '<' ∈ name.toList := by
      have hhost : ∀ host, Conventions.csharp.hostOf? name = some host → '<' ∈ name.toList :=
        fun host hhost => (Conventions.hostOf?_csharp_eq_some_iff.1 hhost).mem_lt
      rcases h with h | h | h
      · obtain ⟨host, h⟩ := Option.isSome_iff_exists.1 h
        exact hhost host h
      · rw [Conventions.typeNameOf?_csharp, Option.isSome_map] at h
        obtain ⟨host, h⟩ := Option.isSome_iff_exists.1 h
        exact hhost host h
      · obtain ⟨recovered, h⟩ := Option.isSome_iff_exists.1 h
        exact Conventions.mem_lt_of_fixedField? h
    exact capitals_eq_false hbracket (by decide)
  · refine Bool.eq_false_iff.2 fun hcapitals => ?_
    rw [isConstructor_of_capitals hcapitals] at h
    cases h

/-- Letters with accents take two bytes each, so that neither number is the right one. -/
theorem RenameTest.capitals_exactly_sample :
    capitals 11 "KMGFBENDNFO" = true ∧ "KMGFBENDNFO".length = 11 ∧
      capitals 4 "ÀÉ" = false ∧ capitals 2 "ÀÉ" = false ∧
      Conventions.csharp.hostOf? "<Run>d__4" = some "Run" ∧ capitals 9 "<Run>d__4" = false ∧
      Conventions.csharp.fixedField? "<>1__state" = some "__state" ∧
      capitals 10 "<>1__state" = false ∧
      ∀ method : MethodDecl, method.name = ".ctor" → capitals 5 method.name = false := by
  have hcapitals : ∀ c ∈ "KMGFBENDNFO".toList, IsCapital c := by
    have hall : "KMGFBENDNFO".toList.all (IsCapital ·) = true := by decide +kernel
    simpa only [List.all_eq_true, decide_eq_true_eq] using hall
  have hhost : Conventions.csharp.hostOf? "<Run>d__4" = some "Run" := by decide +kernel
  have hfield : Conventions.csharp.fixedField? "<>1__state" = some "__state" := by decide +kernel
  refine ⟨(capitals_exactly _ _).1.2 ⟨by decide +kernel, hcapitals⟩, by decide +kernel,
    Bool.eq_false_iff.2 fun h => ?_, Bool.eq_false_iff.2 fun h => ?_, hhost,
    (capitals_exactly _ _).2.1 (.inl (by simp [hhost])), hfield,
    (capitals_exactly _ _).2.1 (.inr (.inr (by simp [hfield]))), fun method hname => ?_⟩
  · exact absurd ((capitals_exactly _ _).1.1 h).1 (by decide +kernel)
  · have haccent : IsCapital 'À' := ((capitals_exactly _ _).1.1 h).2 'À' (by decide +kernel)
    exact absurd haccent (by decide)
  · exact (capitals_exactly 5 ".ctor").2.2 method (by simp [MethodDecl.isConstructor, hname])

end Concord
