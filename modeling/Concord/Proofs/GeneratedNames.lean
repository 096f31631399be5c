import Concord.Convention
import Concord.Proofs.CharacterSets
import Concord.Proofs.ConventionTables
import Concord.Proofs.PatternSearch

/-!
# Which names count as generated

`GeneratedFor name host`: the name is written `<host>X__N`, with a host of word characters, any
character `X` that does not end a line and a number `N` of decimal digits. The bracketed pattern
finds the host of exactly these names (`captured?_bracketedHost`), so the conventions of C#
compilers recognize them and no others (`Conventions.csharp_recognizes`).

A match of the pattern is read off its parts: each of them passes some characters and leaves what
was remembered as it is (`Pattern.Passes`), so the two places that the group remembers enclose the
host. A host holds no `>`, and so a name has one host only (`GeneratedFor.unique`).
-/

set_option autoImplicit false

namespace Concord

/-! ## Taking characters -/

namespace Pattern

/-- The characters lie between two trails, and nothing was remembered on the way. -/
structure Passes (cs : List Char) (a b : Trail) : Prop where
  rest : a.place.rest = cs ++ b.place.rest
  marks : b.marks = a.marks

variable {a b : Trail} {cs rest : List Char} {set : Text.Ranges}

theorem Takes.passes (h : Takes cs a b) : Passes cs a b := by
  induction cs generalizing a with
  | nil =>
    obtain rfl : b = a := h
    exact ⟨rfl, rfl⟩
  | cons c cs ih =>
    obtain ⟨rest, hrest, h⟩ := h
    obtain ⟨hrest', hmarks⟩ := ih h
    exact ⟨by rw [hrest, List.cons_append, ← hrest']; rfl, hmarks⟩

theorem exists_takes (h : a.place.rest = cs ++ rest) : ∃ b, Takes cs a b ∧ b.place.rest = rest := by
  induction cs generalizing a with
  | nil => exact ⟨a, rfl, h⟩
  | cons c cs ih =>
    obtain ⟨b, hb, hrest⟩ := ih (a := a.after c (cs ++ rest)) rfl
    exact ⟨b, ⟨_, h, hb⟩, hrest⟩

theorem Rounds.passes {n : Nat} (h : Rounds (TakesOne set) n a b) :
    ∃ cs, cs.length = n ∧ (∀ c ∈ cs, set.has c = true) ∧ Passes cs a b := by
  induction n generalizing a with
  | zero =>
    obtain rfl : b = a := h
    exact ⟨[], rfl, by simp, rfl, rfl⟩
  | succ n ih =>
    obtain ⟨_, ⟨c, rest, hrest, hc, rfl⟩, h⟩ := h
    obtain ⟨cs, hlength, hcs, hrest', hmarks⟩ := ih h
    have hall : ∀ d ∈ c :: cs, set.has d = true := List.forall_mem_cons.2 ⟨hc, hcs⟩
    refine ⟨c :: cs, by rw [List.length_cons, hlength], hall, ?_, hmarks⟩
    rw [hrest, List.cons_append, ← hrest']
    rfl

theorem exists_rounds (hcs : ∀ c ∈ cs, set.has c = true) (h : a.place.rest = cs ++ rest) :
    ∃ b, Rounds (TakesOne set) cs.length a b ∧ b.place.rest = rest := by
  induction cs generalizing a with
  | nil => exact ⟨a, rfl, h⟩
  | cons c cs ih =>
    obtain ⟨hc, hcs⟩ := List.forall_mem_cons.1 hcs
    obtain ⟨b, hb, hrest⟩ := ih hcs (a := a.after c (cs ++ rest)) rfl
    exact ⟨b, ⟨_, ⟨c, _, h, hc, rfl⟩, hb⟩, hrest⟩

/-- One character of a set or more. -/
def oneOrMore (set : Text.Ranges) : Pattern := .times 1 none true (.chars set)

theorem passes_oneOrMore (h : (oneOrMore set).Matches a b) :
    ∃ cs, cs ≠ [] ∧ (∀ c ∈ cs, set.has c = true) ∧ Passes cs a b := by
  obtain ⟨n, hn, -, hrounds⟩ := h
  obtain ⟨cs, rfl, hcs, hpasses⟩ := Rounds.passes hrounds
  exact ⟨cs, List.ne_nil_of_length_pos hn, hcs, hpasses⟩

theorem exists_oneOrMore (hne : cs ≠ []) (hcs : ∀ c ∈ cs, set.has c = true)
    (h : a.place.rest = cs ++ rest) : ∃ b, (oneOrMore set).Matches a b ∧ b.place.rest = rest := by
  obtain ⟨b, hb, hrest⟩ := exists_rounds hcs h
  exact ⟨b, ⟨cs.length, List.length_pos_of_ne_nil hne, by simp, hb⟩, hrest⟩

end Pattern

open Pattern

/-! ## The bracketed pattern -/

/-- The name is one that compilers generate for the host (module doc). -/
def GeneratedFor (name host : String) : Prop :=
  host ≠ "" ∧ (∀ c ∈ host.toList, Text.WordCharacter c) ∧ ∃ mark digits,
    name.toList = '<' :: host.toList ++ '>' :: mark :: '_' :: '_' :: digits ∧ mark ≠ '\n' ∧
      digits ≠ [] ∧ ∀ d ∈ digits, Text.DecimalDigit d

/-- The tables of the pattern tell which names are generated. -/
theorem generatedFor_iff {name host : String} : GeneratedFor name host ↔
    host ≠ "" ∧ (∀ c ∈ host.toList, Text.isWord c = true) ∧ ∃ mark digits,
      name.toList = '<' :: host.toList ++ '>' :: mark :: '_' :: '_' :: digits ∧ mark ≠ '\n' ∧
        digits ≠ [] ∧ ∀ d ∈ digits, Text.isDecimalDigit d = true := by
  simp only [GeneratedFor, Text.isWord_iff, Text.isDecimalDigit_iff]

/-- A text starts where nothing stands before it. -/
theorem eq_of_textStart {text rest : List Char} {n : Nat} {c : Char}
    (h : Look.textStart.holds (placeAt text n) = true) (hrest : text.drop n = c :: rest) :
    text = c :: rest := by
  have htake : text.take n = [] := by simpa [Look.holds, placeAt] using h
  rw [← List.take_append_drop n text, htake, hrest, List.nil_append]

theorem eq_nil_of_textFinish {place : Pattern.Place} (h : Look.textFinish.holds place = true) :
    place.rest = [] := by
  simpa [Look.holds] using h

/-- **What the bracketed pattern matches**, and what it remembers of the host. -/
theorem matches_bracketedHost {text : List Char} {n : Nat} {b : Trail}
    (h : Conventions.bracketedHost.Matches (.start text n) b) :
    ∃ host mark digits, text = '<' :: (host ++ '>' :: mark :: '_' :: '_' :: digits) ∧ host ≠ [] ∧
      (∀ c ∈ host, Text.isWord c = true) ∧ mark ≠ '\n' ∧ digits ≠ [] ∧
      (∀ d ∈ digits, Text.isDecimalDigit d = true) ∧ b.marks =
        [(Program.finishSlot 1, '>' :: mark :: '_' :: '_' :: digits),
          (Program.startSlot 1, host ++ '>' :: mark :: '_' :: '_' :: digits)] := by
  obtain ⟨_, ⟨hstart, rfl⟩, a1, hopen, _, ⟨a2, hhost, rfl⟩, a3, hclose, _,
    ⟨mark, rest, hmark, hline, rfl⟩, a4, hscores, _, hdigits, hfinish, rfl⟩ := h
  obtain ⟨hrest1, hmarks1⟩ := Takes.passes hopen
  obtain ⟨host, hne, hword, hrest2, hmarks2⟩ := passes_oneOrMore hhost
  obtain ⟨hrest3, hmarks3⟩ := Takes.passes hclose
  obtain ⟨hrest4, hmarks4⟩ := Takes.passes hscores
  obtain ⟨digits, hne', hdigit, hrest5, hmarks5⟩ := passes_oneOrMore hdigits
  -- what is left at each place, from the end on
  have hleft4 : a4.place.rest = digits := by
    rw [hrest5, eq_nil_of_textFinish hfinish, List.append_nil]
  have hleft3 : a3.place.rest = mark :: '_' :: '_' :: digits := by
    rw [hmark, show rest = ['_', '_'] ++ a4.place.rest from hrest4, hleft4]
    rfl
  have hleft2 : a2.place.rest = '>' :: mark :: '_' :: '_' :: digits := by
    rw [show a2.place.rest = ['>'] ++ a3.place.rest from hrest3, hleft3]
    rfl
  have hleft1 : a1.place.rest = host ++ '>' :: mark :: '_' :: '_' :: digits := by
    rw [show a1.place.rest = host ++ a2.place.rest from hrest2, hleft2]
  refine ⟨host, mark, digits, ?_, hne, hword, Text.has_complement_newline.1 hline, hne', hdigit, ?_⟩
  · rw [← hleft1]
    exact eq_of_textStart hstart hrest1
  · rw [hmarks5, hmarks4]
    show a3.marks = _
    rw [hmarks3]
    show (_, a2.place.rest) :: a2.marks = _
    rw [hmarks2, hleft2]
    show _ :: (_, a1.place.rest) :: a1.marks = _
    rw [hmarks1, hleft1]
    rfl

theorem exists_matches_bracketedHost {host digits : List Char} {mark : Char} (hne : host ≠ [])
    (hword : ∀ c ∈ host, Text.isWord c = true) (hmark : mark ≠ '\n') (hne' : digits ≠ [])
    (hdigits : ∀ d ∈ digits, Text.isDecimalDigit d = true) :
    ∃ b, Conventions.bracketedHost.Matches
      (.start ('<' :: (host ++ '>' :: mark :: '_' :: '_' :: digits)) 0) b := by
  have hrest0 : (Trail.start ('<' :: (host ++ '>' :: mark :: '_' :: '_' :: digits)) 0).place.rest =
      ['<'] ++ _ := rfl
  obtain ⟨a1, hopen, hrest1⟩ := exists_takes hrest0
  obtain ⟨a2, hhost, hrest2⟩ :=
    exists_oneOrMore (a := a1.mark (Program.startSlot 1)) hne hword hrest1
  have hrest2' : (a2.mark (Program.finishSlot 1)).place.rest = ['>'] ++ _ := hrest2
  obtain ⟨a3, hclose, hrest3⟩ := exists_takes hrest2'
  have hrest3' : (a3.after mark ('_' :: '_' :: digits)).place.rest = ['_', '_'] ++ _ := rfl
  obtain ⟨a4, hscores, hrest4⟩ := exists_takes hrest3'
  rw [← List.append_nil digits] at hrest4
  obtain ⟨b, hnumber, hrest5⟩ := exists_oneOrMore hne' hdigits hrest4
  exact ⟨b, _, ⟨rfl, rfl⟩, a1, hopen, _, ⟨a2, hhost, rfl⟩, a3, hclose, _,
    ⟨mark, _, hrest3, Text.has_complement_newline.2 hmark, rfl⟩, a4, hscores, b, hnumber,
    by simp [Look.holds, hrest5], rfl⟩

/-- A name has one host only: the host ends at the first `>`. -/
theorem GeneratedFor.unique {name host host' : String} (h : GeneratedFor name host)
    (h' : GeneratedFor name host') : host = host' := by
  have hfirst : ∀ {host : String}, GeneratedFor name host →
      name.toList.tail.takeWhile (· ≠ '>') = host.toList := by
    intro host hfor
    obtain ⟨-, hword, mark, digits, hname, -⟩ := generatedFor_iff.1 hfor
    have hnot : ∀ c ∈ host.toList, (decide (c ≠ '>')) = true := by
      intro c hc
      refine decide_eq_true fun heq => ?_
      have := hword c hc
      rw [heq, Text.isWord_gt] at this
      cases this
    rw [hname, List.cons_append, List.tail_cons, List.takeWhile_append_of_pos hnot]
    simp
  exact String.toList_inj.1 ((hfirst h).symm.trans (hfirst h'))

theorem GeneratedFor.mem_lt {name host : String} (h : GeneratedFor name host) :
    '<' ∈ name.toList := by
  obtain ⟨-, -, mark, digits, hname, -⟩ := h
  rw [hname]
  exact List.mem_cons_self

/-- **The bracketed pattern finds the host** of the names that are generated for one. -/
theorem captured?_bracketedHost (name : String) :
    (∃ host, GeneratedFor name host ∧
      Conventions.bracketedHost.captured? 1 name.toList = some host.toList) ∨
    (∀ host, ¬ GeneratedFor name host) ∧
      Conventions.bracketedHost.captured? 1 name.toList = none := by
  rcases captured?_spec Conventions.bracketedHost 1 name.toList with
    ⟨n, -, b, hb, hcaptured, -⟩ | ⟨hnone, hno⟩
  · obtain ⟨host, mark, digits, hname, hne, hword, hmark, hne', hdigits, hmarks⟩ :=
      matches_bracketedHost hb
    refine .inl ⟨String.ofList host, generatedFor_iff.2 ⟨by simpa using hne,
      by simpa using hword, mark, digits, by simpa using hname, hmark, hne', hdigits⟩, ?_⟩
    rw [hcaptured, Thread.captured?, Trail.thread, hmarks]
    simp [List.lookup_cons, Program.startSlot, Program.finishSlot]
  · refine .inr ⟨fun host h => ?_, hnone⟩
    obtain ⟨hne, hword, mark, digits, hname, hmark, hne', hdigits⟩ := generatedFor_iff.1 h
    obtain ⟨b, hb⟩ := exists_matches_bracketedHost
      (by simpa using hne : host.toList ≠ []) hword hmark hne' hdigits
    exact hno 0 (Nat.zero_le _) b (by rw [hname]; exact hb)

namespace Conventions

theorem hostOf?_csharp_eq_some_iff {name host : String} :
    csharp.hostOf? name = some host ↔ GeneratedFor name host := by
  have hrule : csharp.hostOf? name =
      Convention.host? { name := "bracketed-host", pattern := bracketedHost, typeSuffix := "__d" }
        name := by
    simp only [hostOf?, csharp, List.findSome?_cons, List.findSome?_nil]
    cases Convention.host? _ name <;> rfl
  rw [hrule, Convention.host?_eq_some_iff]
  rcases captured?_bracketedHost name with ⟨host', hfor, hcaptured⟩ | ⟨hno, hcaptured⟩
  · refine ⟨fun h => ?_, fun h => ⟨hfor.unique h ▸ hcaptured, h.1⟩⟩
    have hhost : host' = host :=
      String.toList_inj.1 (Option.some.inj (hcaptured.symm.trans h.captured))
    exact hhost ▸ hfor
  · refine ⟨fun h => ?_, fun h => absurd h (hno host)⟩
    cases hcaptured.symm.trans h.captured

theorem typeNameOf?_csharp (name : String) :
    csharp.typeNameOf? name = (csharp.hostOf? name).map (· ++ "__d") := by
  simp only [typeNameOf?, hostOf?, csharp, List.findSome?_cons, List.findSome?_nil]
  cases Convention.host? _ name <;> rfl

theorem hostOf?_csharp_eq_none {name : String} (h : ∀ host, ¬ GeneratedFor name host) :
    csharp.hostOf? name = none :=
  Option.eq_none_iff_forall_ne_some.2 fun host heq => h host (hostOf?_csharp_eq_some_iff.1 heq)

theorem mem_lt_of_fixedField? {name recovered : String}
    (h : csharp.fixedField? name = some recovered) : '<' ∈ name.toList := by
  obtain ⟨entry, hfind, -⟩ := Option.map_eq_some_iff.1 h
  have hname : entry.1 = name := by simpa using List.find?_some hfind
  have hbracketed : ∀ entry ∈ csharp.fixedFields, '<' ∈ entry.1.toList := by decide
  exact hname ▸ hbracketed entry (List.mem_of_find?_eq_some hfind)

/-- **The conventions recognize exactly the bracketed names**: they tell the host of a name that is
generated for one, the only host it has, and nothing of any other name. -/
theorem csharp_recognizes (name : String) :
    (∀ host, csharp.hostOf? name = some host ↔ GeneratedFor name host) ∧
    (∀ host host', GeneratedFor name host → GeneratedFor name host' → host = host') ∧
    (∀ host, GeneratedFor name host → csharp.typeNameOf? name = some (host ++ "__d")) ∧
    ((∀ host, ¬ GeneratedFor name host) →
      csharp.hostOf? name = none ∧ csharp.typeNameOf? name = none) := by
  refine ⟨fun host => hostOf?_csharp_eq_some_iff, fun host host' h h' => h.unique h',
    fun host h => ?_, fun h => ?_⟩
  · rw [typeNameOf?_csharp, hostOf?_csharp_eq_some_iff.2 h]
    rfl
  · rw [typeNameOf?_csharp, hostOf?_csharp_eq_none h]
    exact ⟨rfl, rfl⟩

/-- A number cannot be followed by the end of a line; the mark may be a bracket or a score. -/
theorem csharp_recognizes_sample :
    GeneratedFor "<é_1>>__40" "é_1" ∧ csharp.hostOf? "<é_1>>__40" = some "é_1" ∧
      csharp.typeNameOf? "<é_1>>__40" = some "é_1__d" ∧
      (∀ host, ¬ GeneratedFor "<Compute>d__4\n" host) ∧
      csharp.hostOf? "<Compute>d__4\n" = none ∧ csharp.typeNameOf? "<Compute>d__4\n" = none := by
  have hfor : GeneratedFor "<é_1>>__40" "é_1" :=
    generatedFor_iff.2 ⟨by decide, List.all_eq_true.1 (by decide +kernel), '>', ['4', '0'],
      by decide, by decide, by decide, List.all_eq_true.1 (by decide +kernel)⟩
  have hno : ∀ host, ¬ GeneratedFor "<Compute>d__4\n" host := by
    intro host hfor'
    have hnone : csharp.hostOf? "<Compute>d__4\n" = none := by decide +kernel
    cases hnone.symm.trans (hostOf?_csharp_eq_some_iff.2 hfor')
  exact ⟨hfor, ((csharp_recognizes _).1 _).2 hfor, (csharp_recognizes _).2.2.1 _ hfor, hno,
    (csharp_recognizes _).2.2.2 hno⟩

end Conventions

end Concord
