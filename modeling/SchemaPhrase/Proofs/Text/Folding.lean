import SchemaPhrase.Proofs.Text.Casing
import SchemaPhrase.Proofs.Text.Runs

/-!
# Texts up to letter case

The lower case of a text depends on what is quoted and on where its words end. `foldCase` forgets
both: every letter is in lower case, and the sigma that ends a word is like any other. All readings
of a text in lower case agree once they are folded (`foldCase_lowercaseUnquoted`,
`map_unfinal_lowerText`), because a letter that came from a capital is not a capital itself
(`lowerChar_idem`).

Letters move among letters and never to or from a blank (`isBlank_of_mem_lowerChar`), so folding
keeps the words of a text: `collapse_foldCase`.
-/

set_option autoImplicit false

namespace SchemaPhrase.Text

/-! ## Where letters move to -/

/-- The code points from where the first letter of a run lands to where the last one does. -/
def CaseRun.landing (run : CaseRun) : CodeRange :=
  ((run.first + run.shift).toNat, (run.last + run.shift).toNat)

/-- Whether no letter of `run` lands where `other` moves one: the landing places lie outside the
other run, or between its letters. -/
def CaseRun.clears (run other : CaseRun) : Bool :=
  Nat.blt run.landing.2 other.first || Nat.blt other.last run.landing.1 ||
    (Nat.beq run.step 2 || Nat.beq run.first run.last) && Nat.beq other.step 2 &&
      Nat.beq ((run.landing.1 + other.first) % 2) 1

theorem lowerTable_clears : lowerTable.all (fun run => lowerTable.all run.clears) = true := by
  decide +kernel

/-- Letters land on characters other than the dotted I. -/
theorem lowerTable_landing : ∀ run ∈ lowerTable,
    0 < run.first + run.shift ∧
      (run.landing.2 < 0xD800 ∨ 0xDFFF < run.landing.1 ∧ run.landing.2 < 0x110000) ∧
      (run.landing.2 < 0x130 ∨ 0x130 < run.landing.1) := by
  decide +kernel

/-- No run meets a blank, neither where it starts nor where it lands. -/
theorem lowerTable_solid : ∀ run ∈ lowerTable, ∀ range ∈ blankTable,
    (run.last < range.1 ∨ range.2 < run.first) ∧
      (run.landing.2 < range.1 ∨ range.2 < run.landing.1) := by
  decide +kernel

theorem CaseRun.moves_iff {run : CaseRun} {n : Nat} :
    run.moves n = true ↔ run.first ≤ n ∧ n ≤ run.last ∧ (n - run.first) % run.step = 0 := by
  simp [CaseRun.moves, and_assoc]

/-- `lowerChar` moves `c` to `d`. -/
structure CaseRun.Takes (run : CaseRun) (c d : Char) : Prop where
  mem : run ∈ lowerTable
  moves : run.moves c.toNat = true
  shift : (d.toNat : Int) = c.toNat + run.shift

theorem CaseRun.Takes.mem_landing {run : CaseRun} {c d : Char} (h : run.Takes c d) :
    run.landing.1 ≤ d.toNat ∧ d.toNat ≤ run.landing.2 := by
  have hrange := moves_iff.1 h.moves
  have hshift := h.shift
  rw [landing]
  omega

/-- The lower case of a character is the dotted I with its dot apart, the character itself, or
where a run takes it. -/
theorem lowerChar_cases (c : Char) :
    c = dottedCapitalI ∨ lowerChar c = [c] ∨
      ∃ (run : CaseRun) (d : Char), lowerChar c = [d] ∧ run.Takes c d := by
  by_cases hdot : c = dottedCapitalI
  · exact .inl hdot
  cases hfind : lowerTable.find? (CaseRun.moves · c.toNat) with
  | none =>
    refine .inr (.inl (lowerChar_of_unmoved hdot fun run hrun => ?_))
    simpa using List.find?_eq_none.1 hfind run hrun
  | some run =>
    have hrun := List.mem_of_find?_eq_some hfind
    have hmoves : run.moves c.toNat = true :=
      List.find?_some (p := (CaseRun.moves · c.toNat)) hfind
    have hrange := CaseRun.moves_iff.1 hmoves
    obtain ⟨hpos, hsides, -⟩ := lowerTable_landing run hrun
    have hvalid : ((c.toNat : Int) + run.shift).toNat.isValidChar := by
      rw [CaseRun.landing] at hsides
      rw [Nat.isValidChar]
      omega
    refine .inr (.inr ⟨run, Char.ofNat ((c.toNat : Int) + run.shift).toNat, ?_, hrun, hmoves, ?_⟩)
    · rw [lowerChar, if_neg hdot, lowerCode, hfind]
    · rw [Char.ofNat, dif_pos hvalid]
      show ((((c.toNat : Int) + run.shift).toNat : Nat) : Int) = _
      omega

/-- No run moves a letter on from where another one took it. -/
theorem CaseRun.Takes.moves_eq_false {run other : CaseRun} {c d : Char} (h : run.Takes c d)
    (ho : other ∈ lowerTable) : other.moves d.toNat = false := by
  have hclears := List.all_eq_true.1 (List.all_eq_true.1 lowerTable_clears run h.mem) other ho
  simp only [clears, Bool.or_eq_true, Bool.and_eq_true, Nat.beq_eq, Nat.blt_eq] at hclears
  have hrange := moves_iff.1 h.moves
  have hlanding := h.mem_landing
  have hpos := (lowerTable_landing run h.mem).1
  have hshift := h.shift
  rw [Bool.eq_false_iff, ne_eq, moves_iff]
  rintro ⟨hfirst, hlast, hstep⟩
  rcases hclears with (hbelow | habove) | ⟨⟨hrun, htwo⟩, hodd⟩
  · omega
  · omega
  · -- `c` and `d` both lie an even number of places behind the start of their runs
    rw [landing] at hodd
    rw [htwo] at hstep
    rcases hrun with hrun | hrun
    · rw [hrun] at hrange
      omega
    · omega

theorem lowerChar_idem {c d : Char} (h : d ∈ lowerChar c) : lowerChar d = [d] := by
  rcases lowerChar_cases c with rfl | hc | ⟨run, e, hc, htakes⟩
  · exact forall_mem_of_all (p := fun d => lowerChar d = [d]) (by decide +kernel) d h
  · rw [hc, List.mem_singleton] at h
    rw [h, hc]
  · obtain rfl : d = e := by simpa [hc] using h
    have hdot := (lowerTable_landing run htakes.mem).2.2
    have hlanding := htakes.mem_landing
    refine lowerChar_of_unmoved ?_ fun other => htakes.moves_eq_false
    rintro rfl
    have hcode : dottedCapitalI.toNat = 0x130 := rfl
    omega

/-- **Letters are not blank**, before they are moved or after. -/
theorem CaseRun.Takes.solid {run : CaseRun} {c d : Char} (h : run.Takes c d) :
    isBlank c = false ∧ isBlank d = false := by
  have hrange := moves_iff.1 h.moves
  have hlanding := h.mem_landing
  constructor
  · rw [isBlank, inTable_eq_false_iff]
    intro range hr
    have := (lowerTable_solid run h.mem range hr).1
    omega
  · rw [isBlank, inTable_eq_false_iff]
    intro range hr
    have := (lowerTable_solid run h.mem range hr).2
    omega

/-! ## Folding -/

/-- The sigma that ends a word, as it is elsewhere. -/
def unfinal (c : Char) : Char :=
  if c = '\u03C2' then '\u03C3' else c

/-- A character without its case. -/
def foldChar (c : Char) : List Char :=
  (lowerChar c).map unfinal

/-- A text without its case. -/
def foldCase (text : List Char) : List Char :=
  text.flatMap foldChar

theorem foldCase_cons (c : Char) (text : List Char) :
    foldCase (c :: text) = foldChar c ++ foldCase text :=
  List.flatMap_cons

theorem foldCase_append (text rest : List Char) :
    foldCase (text ++ rest) = foldCase text ++ foldCase rest :=
  List.flatMap_append

theorem isBlank_unfinal (c : Char) : isBlank (unfinal c) = isBlank c := by
  unfold unfinal
  split
  · next h =>
    rw [h]
    decide
  · rfl

theorem unfinal_of_blank {c : Char} (h : isBlank c = true) : unfinal c = c := by
  have hfinal : isBlank '\u03C2' = false := by decide
  refine if_neg ?_
  rintro rfl
  exact absurd h (by simp [hfinal])

theorem lowerChar_of_blank {c : Char} (h : isBlank c = true) : lowerChar c = [c] := by
  rcases lowerChar_cases c with rfl | hc | ⟨run, d, -, htakes⟩
  · exact absurd h (by decide)
  · exact hc
  · rw [htakes.solid.1] at h
    cases h

theorem isBlank_of_mem_lowerChar {c d : Char} (h : d ∈ lowerChar c) : isBlank d = isBlank c := by
  rcases lowerChar_cases c with rfl | hc | ⟨run, e, hc, htakes⟩
  · exact forall_mem_of_all (p := fun d => isBlank d = isBlank dottedCapitalI)
      (by decide +kernel) d h
  · rw [hc, List.mem_singleton] at h
    rw [h]
  · rw [hc, List.mem_singleton] at h
    rw [h, htakes.solid.1, htakes.solid.2]

theorem lowerChar_ne_nil (c : Char) : lowerChar c ≠ [] := by
  unfold lowerChar
  split <;> simp

theorem foldChar_of_blank {c : Char} (h : isBlank c = true) : foldChar c = [c] := by
  rw [foldChar, lowerChar_of_blank h, List.map_singleton, unfinal_of_blank h]

theorem keepsBlanks_foldChar : KeepsBlanks foldChar where
  blank _ h := foldChar_of_blank h
  ne_nil c := by simpa [foldChar] using lowerChar_ne_nil c
  solid c hc d hd := by
    obtain ⟨e, he, rfl⟩ := List.mem_map.1 hd
    rw [isBlank_unfinal, isBlank_of_mem_lowerChar he, hc]

theorem collapse_foldCase (text : List Char) : collapse (foldCase text) = foldCase (collapse text) :=
  collapse_flatMap keepsBlanks_foldChar text

theorem foldCase_of_blank {blanks : List Char} (h : ∀ c ∈ blanks, isBlank c = true) :
    foldCase blanks = blanks := by
  have hfold : ∀ c ∈ blanks, foldChar c = [c] := fun c hc => foldChar_of_blank (h c hc)
  rw [foldCase, List.flatMap_congr hfold, List.flatMap_singleton']

theorem map_spaceBlank_foldCase (text : List Char) :
    (foldCase text).map spaceBlank = foldCase (text.map spaceBlank) := by
  induction text with
  | nil => rfl
  | cons c text ih =>
    rw [foldCase_cons, List.map_append, ih, List.map_cons, foldCase_cons]
    refine congrArg (· ++ foldCase (text.map spaceBlank)) ?_
    by_cases hc : isBlank c = true
    · rw [foldChar_of_blank hc, spaceBlank, if_pos hc, foldChar_of_blank isBlank_space,
        List.map_singleton, spaceBlank, if_pos hc]
    · have hsolid := keepsBlanks_foldChar.solid c (by simpa using hc)
      have hsame : ∀ d ∈ foldChar c, spaceBlank d = id d := fun d hd => by
        rw [spaceBlank, hsolid d hd]
        rfl
      rw [List.map_congr_left hsame, List.map_id, spaceBlank, if_neg hc]

theorem flatMap_foldChar_lowerChar (c : Char) : (lowerChar c).flatMap foldChar = foldChar c := by
  have hfold : ∀ d ∈ lowerChar c, foldChar d = [unfinal d] := fun d hd => by
    rw [foldChar, lowerChar_idem hd, List.map_singleton]
  rw [List.flatMap_congr hfold, ← List.map_eq_flatMap, foldChar]

theorem foldChar_sigma :
    foldChar capitalSigma = ['\u03C3'] ∧ foldChar '\u03C2' = ['\u03C3'] ∧
      foldChar '\u03C3' = ['\u03C3'] := by
  decide +kernel

theorem foldCase_lowerOutside (quoted : Bool) (text : List Char) :
    foldCase (lowerOutside quoted text) = foldCase text := by
  induction text generalizing quoted with
  | nil => rfl
  | cons c text ih =>
    rw [lowerOutside, foldCase_cons]
    split
    · rw [foldCase_cons, ih]
    · split
      · rw [foldCase_cons, ih]
      · rw [foldCase_append, ih, ← flatMap_foldChar_lowerChar c]
        rfl

theorem foldCase_lowerAfter (before text : List Char) :
    foldCase (lowerAfter before text) = foldCase text := by
  obtain ⟨hcapital, hfinal, hsmall⟩ := foldChar_sigma
  induction text generalizing before with
  | nil => rfl
  | cons c text ih =>
    rw [lowerAfter, foldCase_append, ih, foldCase_cons]
    refine congrArg (· ++ foldCase text) ?_
    split
    · next hc =>
      rw [hc, hcapital]
      split
      · rw [foldCase, List.flatMap_singleton, hfinal]
      · rw [foldCase, List.flatMap_singleton, hsmall]
    · exact flatMap_foldChar_lowerChar c

/-- **Which letters are quoted does not matter** for the folded text. -/
theorem foldCase_lowercaseUnquoted (text : List Char) :
    foldCase (lowercaseUnquoted text) = foldCase text := by
  unfold lowercaseUnquoted
  split
  · exact foldCase_lowerOutside false text
  · exact foldCase_lowerAfter [] text

theorem map_unfinal_lowerAfter (before text : List Char) :
    (lowerAfter before text).map unfinal = foldCase text := by
  obtain ⟨hcapital, -, -⟩ := foldChar_sigma
  induction text generalizing before with
  | nil => rfl
  | cons c text ih =>
    rw [lowerAfter, List.map_append, ih, foldCase_cons]
    refine congrArg (· ++ foldCase text) ?_
    split
    · next hc =>
      rw [hc, hcapital]
      split <;> rfl
    · rfl

/-- **A text in lower case is its folded text**, but for the sigmas that end its words. -/
theorem map_unfinal_lowerText (text : List Char) : (lowerText text).map unfinal = foldCase text :=
  map_unfinal_lowerAfter [] text

end SchemaPhrase.Text
