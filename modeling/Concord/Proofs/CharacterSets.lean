import Concord.Text.Classes
import Concord.Text.Property
import Mathlib.Data.List.Chain

/-!
# Sets of characters

A set of characters is a list of ranges. `Ranges.has_union`: the union of two sets has the
characters of both, if their ranges ascend. `has_categoryRanges`: the set of some categories has the
characters whose run is of one of them.

The word characters have a table of their own. It agrees with the tables of categories and
properties (`isWord_iff`): a word character is alphabetic, a mark, a decimal digit, connecting
punctuation or a join control. So does the table of decimal digits, which are a category
(`isDecimalDigit_iff`). Both are found by reading the tables through, for which their lines are
taken apart into characters (`map_toList_cons`) and runs are read from the front
(`Runs.ofLines_eq`).
-/

set_option autoImplicit false

namespace Concord.Text

/-- The code point of a character lies below the surrogates or above them. -/
theorem code_cases (c : Char) : c.toNat < 0xd800 ∨ 0xdfff < c.toNat ∧ c.toNat ≤ lastCode := by
  have hvalid : c.toNat.isValidChar := c.valid
  unfold Nat.isValidChar at hvalid
  unfold lastCode
  omega

namespace Ranges

variable {a b : Ranges}

/-! ## Unions -/

theorem has_iff {c : Char} : a.has c = true ↔ ∃ x ∈ a, x.1 ≤ c.toNat ∧ c.toNat ≤ x.2 := by
  simp [has, hasCode]

/-- The ranges ascend by where they start. -/
def Ascending (a : Ranges) : Prop := a.Pairwise fun x y => x.1 ≤ y.1

instance : Decidable a.Ascending :=
  have : Trans (fun x y : Nat × Nat => x.1 ≤ y.1) (fun x y : Nat × Nat => x.1 ≤ y.1)
      (fun x y : Nat × Nat => x.1 ≤ y.1) := ⟨Nat.le_trans⟩
  -- neighbours are enough, and there are fewer of them
  decidable_of_iff (a.IsChain fun x y => x.1 ≤ y.1) List.isChain_iff_pairwise

theorem has_cons {first last : Nat} {c : Char} :
    has ((first, last) :: a) c = true ↔ first ≤ c.toNat ∧ c.toNat ≤ last ∨ a.has c = true := by
  simp [has, hasCode]

theorem mem_interleave {x : Nat × Nat} : x ∈ interleave a b ↔ x ∈ a ∨ x ∈ b := by
  induction a generalizing b with
  | nil => simp [interleave]
  | cons y a ih =>
    obtain ⟨first, last⟩ := y
    have hb : x ∈ b ↔ x ∈ b.takeWhile (·.1 < first) ∨ x ∈ b.dropWhile (·.1 < first) := by
      rw [← List.mem_append, List.takeWhile_append_dropWhile]
    simp only [interleave, List.mem_append, List.mem_cons, ih, hb]
    grind

/-- What is left of ascending ranges starts where they stop being below. -/
theorem le_of_mem_dropWhile (hb : b.Ascending) {first : Nat} {x : Nat × Nat}
    (hx : x ∈ b.dropWhile (·.1 < first)) : first ≤ x.1 := by
  induction b with
  | nil => cases hx
  | cons y b ih =>
    obtain ⟨hy, hb⟩ := List.pairwise_cons.1 hb
    rw [List.dropWhile_cons] at hx
    split at hx
    · exact ih hb hx
    · rename_i hle
      have hfirst : first ≤ y.1 := by simpa using hle
      rcases List.mem_cons.1 hx with rfl | hx
      · exact hfirst
      · exact Nat.le_trans hfirst (hy x hx)

theorem ascending_interleave (ha : a.Ascending) (hb : b.Ascending) :
    Ascending (interleave a b) := by
  induction a generalizing b with
  | nil => exact hb
  | cons y a ih =>
    obtain ⟨first, last⟩ := y
    obtain ⟨hy, ha⟩ := List.pairwise_cons.1 ha
    have hrest : Ascending (b.dropWhile (·.1 < first)) := hb.sublist (List.dropWhile_sublist _)
    -- everything from the new range on starts there or later
    have hfrom : ∀ x ∈ (first, last) :: interleave a (b.dropWhile (·.1 < first)), first ≤ x.1 := by
      intro x hx
      rcases List.mem_cons.1 hx with rfl | hx
      · exact Nat.le_refl _
      · rcases mem_interleave.1 hx with hx | hx
        · exact hy x hx
        · exact le_of_mem_dropWhile hb hx
    refine List.pairwise_append.2 ⟨hb.sublist (List.takeWhile_sublist _), ?_, ?_⟩
    · exact List.pairwise_cons.2 ⟨fun x hx => hfrom x (List.mem_cons_of_mem _ hx), ih ha hrest⟩
    · intro x hx y hy
      have hlt : x.1 < first := by simpa using List.all_eq_true.1 List.all_takeWhile x hx
      exact Nat.le_trans (Nat.le_of_lt hlt) (hfrom y hy)

theorem has_joinFrom {first last : Nat} (h : Ascending ((first, last) :: a)) {c : Char} :
    (joinFrom first last a).has c = true ↔ has ((first, last) :: a) c = true := by
  induction a generalizing first last with
  | nil => rfl
  | cons x a ih =>
    obtain ⟨start, finish⟩ := x
    obtain ⟨hfirst, hrest⟩ := List.pairwise_cons.1 h
    rw [joinFrom]
    split
    · rename_i htouch
      have hjoined : Ascending ((first, max last finish) :: a) :=
        List.pairwise_cons.2 ⟨fun y hy => hfirst y (List.mem_cons_of_mem _ hy), hrest.tail⟩
      -- no character lies between ranges that touch
      have hboth : first ≤ c.toNat ∧ c.toNat ≤ max last finish ↔
          first ≤ c.toNat ∧ c.toNat ≤ last ∨ start ≤ c.toNat ∧ c.toNat ≤ finish := by
        have hstart : first ≤ start := hfirst _ List.mem_cons_self
        have hcode := code_cases c
        unfold codeAfter at htouch
        split at htouch <;> omega
      rw [ih hjoined, has_cons, has_cons, has_cons, hboth, or_assoc]
    · rw [has_cons, has_cons, ih hrest]

theorem ascending_joinFrom {first last : Nat} (h : Ascending ((first, last) :: a)) :
    Ascending (joinFrom first last a) ∧ ∀ x ∈ joinFrom first last a, first ≤ x.1 := by
  induction a generalizing first last with
  | nil => exact ⟨h, by simp [joinFrom]⟩
  | cons x a ih =>
    obtain ⟨start, finish⟩ := x
    obtain ⟨hfirst, hrest⟩ := List.pairwise_cons.1 h
    have hstart : first ≤ start := hfirst _ List.mem_cons_self
    rw [joinFrom]
    split
    · exact ih (List.pairwise_cons.2 ⟨fun y hy => hfirst y (List.mem_cons_of_mem _ hy), hrest.tail⟩)
    · obtain ⟨hascending, hfrom⟩ := ih hrest
      have hlater : ∀ x ∈ joinFrom start finish a, first ≤ x.1 :=
        fun x hx => Nat.le_trans hstart (hfrom x hx)
      exact ⟨List.pairwise_cons.2 ⟨hlater, hascending⟩,
        List.forall_mem_cons.2 ⟨Nat.le_refl _, hlater⟩⟩

/-- **Unions have the characters of both sets.** -/
theorem has_union (ha : a.Ascending) (hb : b.Ascending) {c : Char} :
    (a.union b).has c = true ↔ a.has c = true ∨ b.has c = true := by
  have hjoin : (a.union b).has c = true ↔ has (interleave a b) c = true := by
    have hascending := ascending_interleave ha hb
    rw [union]
    cases hranges : interleave a b with
    | nil => rfl
    | cons x rest => exact has_joinFrom (hranges ▸ hascending)
  rw [hjoin, has_iff, has_iff, has_iff]
  simp only [mem_interleave, or_and_right, exists_or]

theorem Ascending.union (ha : a.Ascending) (hb : b.Ascending) : (a.union b).Ascending := by
  have hascending := ascending_interleave ha hb
  rw [Ranges.union]
  cases hranges : interleave a b with
  | nil => exact .nil
  | cons x rest => exact (ascending_joinFrom (hranges ▸ hascending)).1

end Ranges

/-! ## Runs -/

namespace Runs

/-- The ranges of runs ascend, from the one that is open or from where the runs start. -/
theorem ascending_select (p : List Char → Bool) {runs : Runs} {start : Nat} {first : Option Nat}
    (h : ∀ x ∈ first, x ≤ start) : Ranges.Ascending (select p start first runs) ∧
      ∀ x ∈ select p start first runs, first.getD start ≤ x.1 := by
  induction runs generalizing start first with
  | nil =>
    cases first with
    | none => exact ⟨.nil, by simp [select]⟩
    | some first => exact ⟨List.pairwise_singleton _ _, by simp [select]⟩
  | cons run runs ih =>
    obtain ⟨code, n⟩ := run
    have hnext : start ≤ start + n := Nat.le_add_right _ _
    obtain ⟨hclosed, hlater⟩ := @ih (start + n) none nofun
    cases first with
    | none =>
      rw [select]
      split
      · exact ih (by simp)
      · exact ⟨hclosed, fun x hx => Nat.le_trans hnext (hlater x hx)⟩
    | some first =>
      have hfirst : first ≤ start := h first rfl
      rw [select]
      split
      · exact ih (by simpa using Nat.le_trans hfirst hnext)
      · have hfrom : ∀ x ∈ select p (start + n) none runs, first ≤ x.1 :=
          fun x hx => Nat.le_trans (Nat.le_trans hfirst hnext) (hlater x hx)
        exact ⟨List.pairwise_cons.2 ⟨hfrom, hclosed⟩,
          List.forall_mem_cons.2 ⟨Nat.le_refl _, hfrom⟩⟩

theorem ascending_ranges (runs : Runs) (p : List Char → Bool) : (runs.ranges p).Ascending :=
  (@ascending_select p runs 0 none nofun).1

/-- The code of the run that a code point lies in. -/
def codeAt? : Runs → Nat → Option (List Char)
  | [], _ => none
  | (code, k) :: runs, n => if n < k then some code else codeAt? runs (n - k)

theorem exists_codeAt?_cons {p : List Char → Bool} {runs : Runs} {code : List Char}
    {k start n : Nat} :
    (start ≤ n ∧ ∃ kind ∈ codeAt? ((code, k) :: runs) (n - start), p kind = true) ↔
      (start ≤ n ∧ n < start + k ∧ p code = true) ∨
        start + k ≤ n ∧ ∃ kind ∈ codeAt? runs (n - (start + k)), p kind = true := by
  rw [codeAt?, Nat.sub_sub]
  by_cases hlt : n - start < k
  · rw [if_pos hlt]
    simp only [Option.mem_some_iff, exists_eq_left']
    constructor
    · rintro ⟨hle, hp⟩
      exact .inl ⟨hle, by omega, hp⟩
    · rintro (⟨hle, -, hp⟩ | ⟨hle, -⟩)
      · exact ⟨hle, hp⟩
      · omega
  · rw [if_neg hlt]
    constructor
    · rintro ⟨hle, hkind⟩
      exact .inr ⟨by omega, hkind⟩
    · rintro (⟨hle, hlt', -⟩ | ⟨hle, hkind⟩)
      · omega
      · exact ⟨by omega, hkind⟩

/-- A code point is selected with the range that is open or with the run that it lies in. -/
theorem hasCode_select (p : List Char → Bool) {runs : Runs} (hruns : ∀ run ∈ runs, 0 < run.2)
    {start n : Nat} {first : Option Nat} (h : ∀ x ∈ first, x < start) :
    (select p start first runs).hasCode n = true ↔ (∃ x ∈ first, x ≤ n ∧ n < start) ∨
      start ≤ n ∧ ∃ kind ∈ codeAt? runs (n - start), p kind = true := by
  induction runs generalizing start first with
  | nil =>
    cases first with
    | none => simp [select, codeAt?, Ranges.hasCode]
    | some first =>
      have hfirst : first < start := h first rfl
      simp [select, codeAt?, Ranges.hasCode]
      omega
  | cons run runs ih =>
    obtain ⟨code, k⟩ := run
    obtain ⟨hk, hruns⟩ := List.forall_mem_cons.1 hruns
    have hopen : ∀ {x : Nat}, x ≤ start → ∀ y ∈ some x, y < start + k := by
      rintro x hx _ ⟨⟩
      exact Nat.lt_of_le_of_lt hx (Nat.lt_add_of_pos_right hk)
    rw [exists_codeAt?_cons]
    cases first with
    | none =>
      rw [select]
      split
      · rename_i hp
        rw [ih hruns (hopen (Nat.le_refl _))]
        simp [hp]
      · rename_i hp
        rw [ih hruns (by simp)]
        simp [hp]
    | some first =>
      have hfirst : first < start := h first rfl
      rw [select]
      split
      · rename_i hp
        have hboth : first ≤ n ∧ n < start + k ↔
            (first ≤ n ∧ n < start) ∨ start ≤ n ∧ n < start + k := by omega
        rw [ih hruns (hopen (Nat.le_of_lt hfirst))]
        simp [hp, hboth, or_assoc]
      · rename_i hp
        have hclosed : first ≤ n ∧ n ≤ start - 1 ↔ first ≤ n ∧ n < start := by omega
        have hrest := @ih hruns (start + k) none (by simp)
        simp only [Ranges.hasCode, List.any_cons, Bool.or_eq_true] at hrest ⊢
        rw [hrest]
        simp [hp, hclosed]

/-- Runs read from the front, beginning with one of which the code and the number are known so
far. -/
def readFrom (code : List Char) (n : Nat) : List Char → Runs
  | [] => [(code, max n 1)]
  | c :: cs =>
    if c.isUpper then (code, max n 1) :: readFrom [c] 0 cs
    else if c.isDigit then readFrom code (10 * n + (c.toNat - '0'.toNat)) cs
    else readFrom (code ++ [c]) n cs

/-- Runs read from the front. -/
def read : List Char → Runs
  | [] => []
  | c :: cs => readFrom [c] 0 cs

theorem foldl_push (code : List Char) (n : Nat) (runs : Runs) (cs : List Char) :
    (cs.foldl push ((code, n) :: runs)).reverse.map (fun (code, n) => (code, max n 1)) =
      runs.reverse.map (fun (code, n) => (code, max n 1)) ++ readFrom code n cs := by
  induction cs generalizing code n runs with
  | nil => simp [readFrom]
  | cons c cs ih =>
    rw [List.foldl_cons, push, readFrom]
    split
    · rw [ih]
      simp
    · split <;> rw [ih]

theorem ofLines_eq (lines : List String) :
    ofLines lines = read (lines.map String.toList).flatten := by
  rw [ofLines, List.flatMap_def]
  cases (lines.map String.toList).flatten with
  | nil => rfl
  | cons c cs => exact foldl_push [c] 0 [] cs

end Runs

/-! ## Categories -/

theorem has_categoryRanges {codes : List String} {c : Char} :
    (categoryRanges codes).has c = true ↔
      ∃ kind ∈ categoryRuns.codeAt? c.toNat, kind ∈ codes.map String.toList := by
  have hruns : ∀ run ∈ categoryRuns, 0 < run.2 := by
    intro run hrun
    obtain ⟨_, _, rfl⟩ := List.mem_map.1 hrun
    exact Nat.lt_of_lt_of_le Nat.zero_lt_one (Nat.le_max_right _ _)
  rw [Ranges.has, categoryRanges, Runs.ranges, Runs.hasCode_select _ hruns (by simp)]
  simp

theorem has_categoryRanges_append {codes codes' : List String} {c : Char} :
    (categoryRanges (codes ++ codes')).has c = true ↔
      (categoryRanges codes).has c = true ∨ (categoryRanges codes').has c = true := by
  simp only [has_categoryRanges, List.map_append, List.mem_append, and_or_left, exists_or]

theorem ascending_categoryRanges (codes : List String) : (categoryRanges codes).Ascending :=
  Runs.ascending_ranges _ _

/-! ## Tables -/

/-- The characters of a line that is written out. -/
theorem map_toList_cons (cs : List Char) {lines : List String} {table : List (List Char)}
    (h : lines.map String.toList = table) :
    (String.ofList cs :: lines).map String.toList = cs :: table := by
  rw [List.map_cons, String.toList_ofList, h]

/-- The ranges of some categories, from the characters of the table. -/
def categoriesIn (table : List (List Char)) (codes : List String) : Ranges :=
  (Runs.read table.flatten).ranges (codes.map String.toList).contains

/-- Listed ranges, from the characters of the list. -/
def rangesIn (table : List (List Char)) : Ranges := table.flatMap (readRanges · [] none 0)

theorem categoryRanges_eq {table : List (List Char)} (h : categoryLines.map String.toList = table)
    (codes : List String) : categoryRanges codes = categoriesIn table codes := by
  rw [categoryRanges, categoryRuns, Runs.ofLines_eq, h]
  rfl

theorem ofLines_eq {lines : List String} {table : List (List Char)}
    (h : lines.map String.toList = table) : Ranges.ofLines lines = rangesIn table := by
  rw [Ranges.ofLines, rangesIn, ← h, List.flatMap_map]

/-! ## Decimal digits -/

/-- The character belongs to the category of decimal digits. -/
def DecimalDigit (c : Char) : Prop := (categoryRanges ["Nd"]).has c = true

theorem isDecimalDigit_of_table {categories : List (List Char)}
    (hcategories : categoryLines.map String.toList = categories)
    (hdigits : categoriesIn categories ["Nd"] = decimalDigitRanges) (c : Char) :
    isDecimalDigit c = true ↔ DecimalDigit c := by
  rw [isDecimalDigit, ← hdigits, ← categoryRanges_eq hcategories, DecimalDigit]

/-- **The table of decimal digits is a category.** -/
theorem isDecimalDigit_iff (c : Char) : isDecimalDigit c = true ↔ DecimalDigit c := by
  apply isDecimalDigit_of_table
  · unfold categoryLines
    repeat apply map_toList_cons
    exact List.map_nil
  · decide +kernel

/-! ## Word characters -/

/-- The character is alphabetic, a mark, a decimal digit, connecting punctuation or a join
control. -/
def WordCharacter (c : Char) : Prop :=
  isAlphabetic c = true ∨ (categoryRanges ["Mc", "Me", "Mn"]).has c = true ∨ DecimalDigit c ∨
    (categoryRanges ["Pc"]).has c = true ∨ (listed "joincontrol").has c = true

/-- The categories of word characters. -/
def wordCategories : List String :=
  ["Ll", "Lm", "Lo", "Lt", "Lu", "Nl"] ++ (["Mc", "Me", "Mn"] ++ (["Nd"] ++ ["Pc"]))

theorem listed_joinControl : listed "joincontrol" = [(0x200c, 0x200d)] := by decide +kernel

theorem isWord_of_tables {categories lower upper other : List (List Char)}
    (hcategories : categoryLines.map String.toList = categories)
    (hlower : otherLowercase.map String.toList = lower)
    (hupper : otherUppercase.map String.toList = upper)
    (hother : otherAlphabetic.map String.toList = other)
    (hascending : (rangesIn lower).Ascending ∧ (rangesIn upper).Ascending ∧
      (rangesIn other).Ascending)
    (hwords : ((categoriesIn categories wordCategories).union (((rangesIn lower).union
      (rangesIn upper)).union (rangesIn other))).union [(0x200c, 0x200d)] = wordRanges)
    (c : Char) : isWord c = true ↔ WordCharacter c := by
  rw [← ofLines_eq hlower, ← ofLines_eq hupper, ← ofLines_eq hother] at hascending hwords
  rw [← categoryRanges_eq hcategories] at hwords
  obtain ⟨hlo, hup, hot⟩ := hascending
  have hcat := ascending_categoryRanges
  have hjoin : Ranges.Ascending [(0x200c, 0x200d)] := List.pairwise_singleton _ _
  have halphabetic : isAlphabetic c = true ↔
      ((categoryRanges ["Ll", "Lm", "Lo", "Lt", "Lu", "Nl"]).has c = true ∨
        (Ranges.ofLines otherLowercase).has c = true ∨
          (Ranges.ofLines otherUppercase).has c = true) ∨
        (Ranges.ofLines otherAlphabetic).has c = true := by
    rw [isAlphabetic, alphabeticRanges, Ranges.has_union ((hcat _).union (hlo.union hup)) hot,
      Ranges.has_union (hcat _) (hlo.union hup), Ranges.has_union hlo hup]
  rw [isWord, ← hwords, Ranges.has_union ((hcat _).union ((hlo.union hup).union hot)) hjoin,
    Ranges.has_union (hcat _) ((hlo.union hup).union hot), Ranges.has_union (hlo.union hup) hot,
    Ranges.has_union hlo hup, wordCategories, has_categoryRanges_append,
    has_categoryRanges_append, has_categoryRanges_append, WordCharacter, DecimalDigit,
    listed_joinControl, halphabetic]
  grind

/-- **The table of word characters agrees with the categories and properties.** -/
theorem isWord_iff (c : Char) : isWord c = true ↔ WordCharacter c := by
  apply isWord_of_tables
  · unfold categoryLines
    repeat apply map_toList_cons
    exact List.map_nil
  · unfold otherLowercase
    repeat apply map_toList_cons
    exact List.map_nil
  · unfold otherUppercase
    repeat apply map_toList_cons
    exact List.map_nil
  · unfold otherAlphabetic
    repeat apply map_toList_cons
    exact List.map_nil
  · decide +kernel
  · decide +kernel

theorem isWord_gt : isWord '>' = false := by decide +kernel

/-! ## All but one -/

theorem has_complement_newline {c : Char} :
    (Ranges.single '\n').complement.has c = true ↔ c ≠ '\n' := by
  have hranges : (Ranges.single '\n').complement = [(0, 9), (11, lastCode)] := by decide
  have hne : c ≠ '\n' ↔ c.toNat ≠ 10 := by
    rw [ne_eq, ne_eq, ← Char.toNat_inj]
    rfl
  have hcode := code_cases c
  rw [hranges, hne, Ranges.has_cons, Ranges.has_cons]
  simp only [Ranges.has, Ranges.hasCode, List.any_nil, Bool.false_eq_true, or_false]
  unfold lastCode at hcode ⊢
  omega

end Concord.Text
