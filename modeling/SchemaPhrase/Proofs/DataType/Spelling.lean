import Mathlib.Data.List.DropRight
import SchemaPhrase.Proofs.DataType.Resolve
import SchemaPhrase.Proofs.Text.Folding
import SchemaPhrase.Proofs.Text.Occurrence
import SchemaPhrase.Proofs.TypePhrase

/-!
# Spellings of a type phrase

A type phrase counts by its name, if that is known, its arguments and whether it says `with time
zone`: `TypePhrase.known?` and `resolve_phraseMapping_congr`. Texts that are `Alike`, character by
character, have the same parts (`Alike.known?_eq`), and so has a text with blanks at its ends
(`known?_append_blanks`). Hence the letter case of a phrase does not matter
(`DataType.parse_eq_of_foldCase`), and neither does how its blanks are written, as long as there is
one where there was one (`DataType.parse_collapseWhitespace`).
-/

set_option autoImplicit false

namespace SchemaPhrase

open Text

namespace TypeKind

/-- A letter of ASCII. -/
def AsciiLetter (c : Char) : Prop :=
  0x41 ≤ c.toNat ∧ c.toNat ≤ 0x5A ∨ 0x61 ≤ c.toNat ∧ c.toNat ≤ 0x7A

/-- The tags of the known types, in lower case, hold something and only small letters. -/
theorem table_letters : ∀ entry ∈ table, ∀ known ∈ entry.1,
    known.toList.map Char.toLower ≠ [] ∧ (known.toList.map Char.toLower).all
      (fun c => decide (0x61 ≤ c.toNat ∧ c.toNat ≤ 0x7A)) = true := by
  decide +kernel

theorem asciiLetter_of_toLower {c : Char} (h : 0x61 ≤ c.toLower.toNat ∧ c.toLower.toNat ≤ 0x7A) :
    AsciiLetter c := by
  unfold Char.toLower at h
  split at h
  · next hcapital =>
    rw [ge_iff_le, UInt32.le_iff_toNat_le, UInt32.le_iff_toNat_le] at hcapital
    exact .inl hcapital
  · exact .inr h

/-- **The tag of a known type** holds something, and only ASCII letters. -/
theorem letters_of_ofTag? {tag : String} (h : ofTag? tag ≠ none) :
    tag.toList ≠ [] ∧ ∀ c ∈ tag.toList, AsciiLetter c := by
  rw [ne_eq, DataType.ofTag?_eq_none_iff] at h
  simp only [not_forall, not_not] at h
  obtain ⟨entry, hentry, known, hknown, heq⟩ := h
  obtain ⟨hne, hletters⟩ := table_letters entry hentry known hknown
  rw [heq] at hne hletters
  refine ⟨by simpa using hne, fun c hc => ?_⟩
  exact asciiLetter_of_toLower (forall_mem_of_all hletters _ (List.mem_map_of_mem hc))

theorem ofTag?_of_beyond {name : List Char} (h : ∃ c ∈ name, 0x80 ≤ c.toNat) :
    ofTag? (String.ofList name) = none := by
  by_contra hknown
  obtain ⟨c, hc, hbeyond⟩ := h
  have hletter := (letters_of_ofTag? hknown).2 c (by simpa using hc)
  rw [AsciiLetter] at hletter
  omega

end TypeKind

/-! ## Characters that make no difference -/

namespace TypePhrase

/-- A letter of a name that no known type has. -/
structure Foreign (c : Char) : Prop where
  word : isWordChar c = true
  not_decimal : isDecimal c = false
  beyond : 0x80 ≤ c.toNat

/-- Characters that make no difference to a type phrase: two blanks or two foreign letters. -/
def Similar (c d : Char) : Prop :=
  c = d ∨ (isBlank c = true ∧ isBlank d = true) ∨ Foreign c ∧ Foreign d

theorem blankTable_disjoint : ∀ range ∈ blankTable, ∀ other ∈ wordTable ++ decimalTable,
    range.2 < other.1 ∨ other.2 < range.1 := by
  decide +kernel

theorem not_word_of_blank {c : Char} (h : isBlank c = true) :
    isWordChar c = false ∧ isDecimal c = false := by
  obtain ⟨range, hr, hlow, hhigh⟩ := inTable_iff.1 h
  have hout : ∀ other ∈ wordTable ++ decimalTable, c.toNat < other.1 ∨ other.2 < c.toNat := by
    intro other ho
    have := blankTable_disjoint range hr other ho
    omega
  rw [isWordChar, isDecimal, inTable_eq_false_iff, inTable_eq_false_iff]
  exact ⟨fun other ho => hout other (List.mem_append_left _ ho),
    fun other ho => hout other (List.mem_append_right _ ho)⟩

theorem Foreign.not_blank {c : Char} (h : Foreign c) : isBlank c = false := by
  rw [Bool.eq_false_iff]
  intro hb
  have hw := h.word
  rw [(not_word_of_blank hb).1] at hw
  cases hw

namespace Similar

variable {c d : Char} (h : Similar c d)
include h

theorem isBlank_eq : isBlank c = isBlank d := by
  rcases h with rfl | ⟨hc, hd⟩ | ⟨hc, hd⟩
  · rfl
  · rw [hc, hd]
  · rw [hc.not_blank, hd.not_blank]

theorem isWordChar_eq : isWordChar c = isWordChar d := by
  rcases h with rfl | ⟨hc, hd⟩ | ⟨hc, hd⟩
  · rfl
  · rw [(not_word_of_blank hc).1, (not_word_of_blank hd).1]
  · rw [hc.word, hd.word]

theorem isDecimal_eq : isDecimal c = isDecimal d := by
  rcases h with rfl | ⟨hc, hd⟩ | ⟨hc, hd⟩
  · rfl
  · rw [(not_word_of_blank hc).2, (not_word_of_blank hd).2]
  · rw [hc.not_decimal, hd.not_decimal]

theorem eq_of_decimal (hdec : isDecimal c = true) : c = d := by
  rcases h with rfl | ⟨hc, -⟩ | ⟨hc, -⟩
  · rfl
  · rw [(not_word_of_blank hc).2] at hdec
    cases hdec
  · rw [hc.not_decimal] at hdec
    cases hdec

theorem eq_or_foreign (hword : isWordChar c = true) : c = d ∨ Foreign c ∧ Foreign d := by
  rcases h with rfl | ⟨hc, -⟩ | hforeign
  · exact .inl rfl
  · rw [(not_word_of_blank hc).1] at hword
    cases hword
  · exact .inr hforeign

/-- The marks of the arguments are neither blank nor foreign. -/
theorem eq_mark_iff {mark : Char} (hb : isBlank mark = false) (hlow : mark.toNat < 0x80) :
    c = mark ↔ d = mark := by
  rcases h with rfl | ⟨hc, hd⟩ | ⟨hc, hd⟩
  · rfl
  · constructor
    · rintro rfl
      simp [hb] at hc
    · rintro rfl
      simp [hb] at hd
  · have hcb := hc.beyond
    have hdb := hd.beyond
    constructor
    · rintro rfl
      omega
    · rintro rfl
      omega

end Similar

/-! ## Texts that are read alike -/

/-- Texts of similar characters, up to the blanks at their ends. -/
inductive Alike : List Char → List Char → Prop
  | blanks {text other : List Char} (ht : ∀ c ∈ text, isBlank c = true)
      (ho : ∀ c ∈ other, isBlank c = true) : Alike text other
  | cons {c d : Char} {text other : List Char} (h : Similar c d) (ht : Alike text other) :
      Alike (c :: text) (d :: other)

namespace Alike

variable {text other : List Char}

theorem of_append_blanks {blanks : List Char} (text : List Char)
    (h : ∀ c ∈ blanks, isBlank c = true) : Alike (text ++ blanks) text := by
  induction text with
  | nil => exact .blanks h (by simp)
  | cons c text ih => exact .cons (.inl rfl) ih

theorem of_map {f : Char → Char} (h : ∀ c, Similar c (f c)) (text : List Char) :
    Alike text (text.map f) := by
  induction text with
  | nil => exact .blanks (by simp) (by simp)
  | cons c text ih => exact .cons (h c) ih

theorem dropWhile {p : Char → Bool} (hp : ∀ c d, Similar c d → p c = p d)
    (h : Alike text other) : Alike (text.dropWhile p) (other.dropWhile p) := by
  induction h with
  | blanks ht ho =>
    exact .blanks (fun c hc => ht c ((List.dropWhile_sublist p).subset hc)) fun c hc =>
      ho c ((List.dropWhile_sublist p).subset hc)
  | @cons c d text other hcd hrest ih =>
    rw [List.dropWhile_cons, List.dropWhile_cons, ← hp c d hcd]
    split
    · exact ih
    · exact .cons hcd hrest

theorem dropBlank (h : Alike text other) :
    Alike (TypePhrase.dropBlank text) (TypePhrase.dropBlank other) := by
  have hblanks : ∀ text : List Char, (∀ c ∈ text, isBlank c = true) →
      ∀ c ∈ TypePhrase.dropBlank text, isBlank c = true := by
    intro text ht c hc
    unfold TypePhrase.dropBlank at hc
    split at hc
    · exact ht c hc
    · split at hc
      · exact ht c (List.mem_cons_of_mem _ hc)
      · exact ht c hc
  cases h with
  | blanks ht ho => exact .blanks (hblanks text ht) (hblanks other ho)
  | cons hcd hrest =>
    rw [TypePhrase.dropBlank, TypePhrase.dropBlank, ← hcd.isBlank_eq]
    split
    · exact hrest
    · exact .cons hcd hrest

/-- A mark in front of one text is in front of both. -/
theorem mark_cases (mark : Char) (hb : isBlank mark = false) (hlow : mark.toNat < 0x80)
    (h : Alike text other) :
    (∃ rest rest', text = mark :: rest ∧ other = mark :: rest' ∧ Alike rest rest') ∨
      text.head? ≠ some mark ∧ other.head? ≠ some mark := by
  have hhead : ∀ text : List Char, (∀ c ∈ text, isBlank c = true) → text.head? ≠ some mark := by
    intro text ht hmark
    have := ht mark (List.mem_of_head? hmark)
    simp [hb] at this
  cases h with
  | blanks ht ho => exact .inr ⟨hhead text ht, hhead other ho⟩
  | @cons c d rest rest' hcd hrest =>
    have hiff := hcd.eq_mark_iff hb hlow
    by_cases hc : c = mark
    · obtain rfl := hiff.1 hc
      exact .inl ⟨rest, rest', hc ▸ rfl, rfl, hrest⟩
    · exact .inr ⟨by simpa using hc, by simpa using fun hd => hc (hiff.2 hd)⟩

end Alike

/-! ## Arguments -/

/-- Readings that give the same and leave texts alike. -/
def SameReading : Option (List Char × List Char) → Option (List Char × List Char) → Prop :=
  Option.Rel fun reading other => reading.1 = other.1 ∧ Alike reading.2 other.2

theorem takeWhile_of_blanks {p : Char → Bool} (hp : ∀ c, isBlank c = true → p c = false)
    {blanks : List Char} (h : ∀ c ∈ blanks, isBlank c = true) : blanks.takeWhile p = [] := by
  cases blanks with
  | nil => rfl
  | cons c blanks =>
    rw [List.takeWhile_cons_of_neg]
    simp [hp c (h c List.mem_cons_self)]

theorem Alike.takeWhile_isDecimal {text other : List Char} (h : Alike text other) :
    text.takeWhile isDecimal = other.takeWhile isDecimal := by
  have hno : ∀ c, isBlank c = true → isDecimal c = false := fun _ hc => (not_word_of_blank hc).2
  induction h with
  | blanks ht ho => rw [takeWhile_of_blanks hno ht, takeWhile_of_blanks hno ho]
  | @cons c d text other hcd hrest ih =>
    rw [List.takeWhile_cons, List.takeWhile_cons, ← hcd.isDecimal_eq, ih]
    split
    · next hdec => rw [hcd.eq_of_decimal hdec]
    · rfl

theorem second?_of_head? {text : List Char} (h : text.head? ≠ some ',') : second? text = none := by
  unfold second?
  split
  · simp at h
  · rfl

theorem arguments?_of_head? {text : List Char} (h : (dropBlank text).head? ≠ some '(') :
    arguments? text = none := by
  unfold arguments?
  split
  · next hopen => simp [hopen] at h
  · rfl

section
variable {text other : List Char} (h : Alike text other)
include h

theorem sameReading_digits? : SameReading (digits? text) (digits? other) := by
  rw [digits?, digits?, ← h.takeWhile_isDecimal]
  split
  · exact .none
  · exact .some ⟨rfl, h.dropWhile fun _ _ hcd => hcd.isDecimal_eq⟩

theorem sameReading_second? : SameReading (second? text) (second? other) := by
  rcases h.mark_cases ',' (by decide) (by decide) with
    ⟨rest, rest', rfl, rfl, hrest⟩ | ⟨ht, ho⟩
  · exact sameReading_digits? hrest.dropBlank
  · rw [second?_of_head? ht, second?_of_head? ho]
    exact .none

theorem closes_eq : closes text = closes other := by
  unfold closes
  rcases h.dropBlank.mark_cases ')' (by decide) (by decide) with
    ⟨rest, rest', ht, ho, -⟩ | ⟨ht, ho⟩
  · rw [ht, ho]
    rfl
  · rw [beq_false_of_ne ht, beq_false_of_ne ho]

/-- **Alike texts have the same arguments.** -/
theorem arguments?_eq : arguments? text = arguments? other := by
  rcases h.dropBlank.mark_cases '(' (by decide) (by decide) with
    ⟨rest, rest', ht, ho, hrest⟩ | ⟨ht, ho⟩
  · have hfirst := sameReading_digits? hrest.dropBlank
    unfold arguments?
    simp only [ht, ho]
    generalize digits? (dropBlank rest) = reading at hfirst
    generalize digits? (dropBlank rest') = reading' at hfirst
    cases hfirst with
    | none => rfl
    | @some first first' hfirst =>
      obtain ⟨digits, behind⟩ := first
      obtain ⟨digits', behind'⟩ := first'
      obtain ⟨rfl, hbehind⟩ : digits = digits' ∧ Alike behind behind' := hfirst
      have hsecond := sameReading_second? hbehind
      simp only [closes_eq hbehind]
      generalize second? behind = reading at hsecond
      generalize second? behind' = reading' at hsecond
      cases hsecond with
      | none => rfl
      | some hsecond => simp only [hsecond.1, closes_eq hsecond.2]
  · rw [arguments?_of_head? ht, arguments?_of_head? ho]

/-- **Alike texts begin with the same word**, or both words have a letter beyond ASCII. -/
theorem takeWhile_isWordChar_cases :
    text.takeWhile isWordChar = other.takeWhile isWordChar ∨
      (∃ c ∈ text.takeWhile isWordChar, 0x80 ≤ c.toNat) ∧
        ∃ c ∈ other.takeWhile isWordChar, 0x80 ≤ c.toNat := by
  have hno : ∀ c, isBlank c = true → isWordChar c = false := fun _ hc => (not_word_of_blank hc).1
  induction h with
  | blanks ht ho =>
    rw [takeWhile_of_blanks hno ht, takeWhile_of_blanks hno ho]
    exact .inl rfl
  | @cons c d text other hcd hrest ih =>
    rw [List.takeWhile_cons, List.takeWhile_cons, ← hcd.isWordChar_eq]
    split
    · next hword =>
      rcases hcd.eq_or_foreign hword with rfl | ⟨hc, hd⟩
      · rcases ih with heq | ⟨⟨a, ha, hab⟩, b, hb, hbb⟩
        · exact .inl (congrArg _ heq)
        · exact .inr ⟨⟨a, List.mem_cons_of_mem _ ha, hab⟩, b, List.mem_cons_of_mem _ hb, hbb⟩
      · exact .inr ⟨⟨c, List.mem_cons_self, hc.beyond⟩, d, List.mem_cons_self, hd.beyond⟩
    · exact .inl rfl

end

/-! ## Known names -/

/-- The parts of a phrase, if its name is that of a known type. -/
def known? (text : List Char) : Option TypePhrase :=
  if (TypeKind.ofTag? (ofPhrase text).name).isSome then some (ofPhrase text) else none

theorem known?_eq_none {text : List Char} (h : TypeKind.ofTag? (ofPhrase text).name = none) :
    known? text = none := by
  rw [known?, h]
  rfl

theorem isWordChar_of_letter {c : Char} (h : TypeKind.AsciiLetter c) : isWordChar c = true := by
  rw [isWordChar, inTable_iff]
  rcases h with h | h
  · exact ⟨(0x41, 0x5A), by decide, h⟩
  · exact ⟨(0x61, 0x7A), by decide, h⟩

theorem known?_of_wordless {text : List Char} (h : ∀ c ∈ text, isWordChar c = false) :
    known? text = none := by
  refine known?_eq_none ?_
  rw [ofPhrase_of_wordless h]
  by_contra hknown
  obtain ⟨hne, hletters⟩ := TypeKind.letters_of_ofTag? hknown
  obtain ⟨c, hc⟩ := List.exists_mem_of_ne_nil _ hne
  have hword := isWordChar_of_letter (hletters c hc)
  rw [h c (by simpa using hc)] at hword
  cases hword

theorem ofPhrase_of_word {c : Char} (rest : List Char) (hc : isWordChar c = true) :
    ofPhrase (c :: rest) =
      match arguments? ((c :: rest).dropWhile isWordChar) with
      | none => ofParts (String.ofList ((c :: rest).takeWhile isWordChar)) none none
      | some (first, second) =>
        ofParts (String.ofList ((c :: rest).takeWhile isWordChar)) (some (String.ofList first))
          (second.map String.ofList) := by
  have hne : (c :: rest).takeWhile isWordChar ≠ [] := by
    rw [List.takeWhile_cons_of_pos hc]
    exact List.cons_ne_nil _ _
  have hword : ∀ d ∈ (c :: rest).takeWhile isWordChar, isWordChar d = true :=
    List.all_eq_true.1 List.all_takeWhile
  have hstop : ∀ d, ((c :: rest).dropWhile isWordChar).head? = some d → isWordChar d = false :=
    fun _ => head?_dropWhile_eq_false
  have happend := ofPhrase_append hne hword hstop
  rw [List.takeWhile_append_dropWhile] at happend
  exact happend

theorem name_ofPhrase_of_word {c : Char} (rest : List Char) (hc : isWordChar c = true) :
    (ofPhrase (c :: rest)).name = String.ofList ((c :: rest).takeWhile isWordChar) := by
  rw [ofPhrase_of_word rest hc]
  split <;> exact name_ofParts _ _ _

/-- **What stands in front of the first word** does not matter. -/
theorem known?_dropWhile (text : List Char) :
    known? (text.dropWhile (!isWordChar ·)) = known? text := by
  cases hstart : text.dropWhile (!isWordChar ·) with
  | nil =>
    have hwordless : ∀ c ∈ text, isWordChar c = false := by
      simpa using List.dropWhile_eq_nil_iff.1 hstart
    rw [known?_of_wordless hwordless, known?_of_wordless (by simp)]
  | cons c rest =>
    have hsame : ofPhrase (c :: rest) = ofPhrase text := by
      have hagain : (c :: rest).dropWhile (!isWordChar ·) = c :: rest := by
        rw [← hstart]
        exact List.dropWhile_idempotent _ _
      unfold ofPhrase
      rw [hagain, hstart]
      rfl
    rw [known?, known?, hsame]

/-- **Alike texts have the same known parts.** -/
theorem Alike.known?_eq {text other : List Char} (h : Alike text other) :
    known? text = known? other := by
  have hblank : ∀ text : List Char, (∀ c ∈ text, isBlank c = true) → known? text = none :=
    fun text ht => known?_of_wordless fun c hc => (not_word_of_blank (ht c hc)).1
  have hstart : Alike (text.dropWhile (!isWordChar ·)) (other.dropWhile (!isWordChar ·)) :=
    h.dropWhile fun c d hcd => congrArg (!·) hcd.isWordChar_eq
  have hword : ∀ c, (text.dropWhile (!isWordChar ·)).head? = some c → isWordChar c = true := by
    intro c hc
    simpa using head?_dropWhile_eq_false hc
  -- both texts begin with their first word now, or have none
  rw [← known?_dropWhile text, ← known?_dropWhile other]
  generalize text.dropWhile (!isWordChar ·) = start at hstart hword
  generalize other.dropWhile (!isWordChar ·) = start' at hstart
  cases hstart with
  | blanks ht ho => rw [hblank start ht, hblank start' ho]
  | @cons c d rest rest' hcd hrest =>
    have hc := hword c rfl
    have hd : isWordChar d = true := hcd.isWordChar_eq ▸ hc
    have hwhole := Alike.cons hcd hrest
    rcases takeWhile_isWordChar_cases hwhole with hname | ⟨htext, hother⟩
    · have hsame : ofPhrase (c :: rest) = ofPhrase (d :: rest') := by
        rw [ofPhrase_of_word rest hc, ofPhrase_of_word rest' hd, hname,
          arguments?_eq (hwhole.dropWhile fun _ _ => Similar.isWordChar_eq)]
      rw [known?, known?, hsame]
    · -- the names differ, but neither is known
      have htag := TypeKind.ofTag?_of_beyond htext
      have htag' := TypeKind.ofTag?_of_beyond hother
      rw [← name_ofPhrase_of_word rest hc] at htag
      rw [← name_ofPhrase_of_word rest' hd] at htag'
      rw [known?_eq_none htag, known?_eq_none htag']

theorem known?_append_blanks {before after : List Char} (text : List Char)
    (hb : ∀ c ∈ before, isBlank c = true) (ha : ∀ c ∈ after, isBlank c = true) :
    known? (before ++ (text ++ after)) = known? text := by
  have hfront : ∀ c ∈ before, (!isWordChar c) = true := fun c hc => by
    rw [(not_word_of_blank (hb c hc)).1]
    rfl
  rw [← known?_dropWhile, List.dropWhile_append_of_pos hfront, known?_dropWhile]
  exact (Alike.of_append_blanks text ha).known?_eq

end TypePhrase

namespace DataType

/-- **The type of a phrase** depends on the known parts and on the time zone. -/
theorem resolve_phraseMapping_congr {text other : List Char}
    (hknown : TypePhrase.known? text = TypePhrase.known? other)
    (hzone : occurs timezoneText text = occurs timezoneText other) :
    resolve (fun _ => generic) (phraseMapping text) =
      resolve (fun _ => generic) (phraseMapping other) := by
  have hunknown : ∀ text : List Char, TypeKind.ofTag? (TypePhrase.ofPhrase text).name = none →
      resolve (fun _ => generic) (phraseMapping text) = .ok generic := by
    intro text htag
    have hget : (phraseMapping text).get? TypeField.type.key =
        some (.string (TypePhrase.ofPhrase text).name) := by
      rw [TypePhrase.get?_phraseMapping, if_neg (fun h => by cases h.1),
        TypePhrase.get?_toMapping]
    rw [resolve, hget]
    simp only [htag]
  unfold TypePhrase.known? at hknown
  cases htext : TypeKind.ofTag? (TypePhrase.ofPhrase text).name with
  | none =>
    cases hother : TypeKind.ofTag? (TypePhrase.ofPhrase other).name with
    | none => rw [hunknown text htext, hunknown other hother]
    | some kind => simp [htext, hother] at hknown
  | some kind =>
    cases hother : TypeKind.ofTag? (TypePhrase.ofPhrase other).name with
    | none => simp [htext, hother] at hknown
    | some kind' =>
      simp only [htext, hother, Option.isSome_some, if_true, Option.some.injEq] at hknown
      unfold phraseMapping
      rw [hknown, hzone]

/-! ## Letter case and blanks -/

theorem similar_unfinal (c : Char) : TypePhrase.Similar c (unfinal c) := by
  have hfinal : TypePhrase.Foreign '\u03C2' ∧ TypePhrase.Foreign '\u03C3' :=
    ⟨⟨by decide +kernel, by decide +kernel, by decide⟩, by decide +kernel, by decide +kernel,
      by decide⟩
  unfold unfinal
  split
  · next hc =>
    rw [hc]
    exact .inr (.inr hfinal)
  · exact .inl rfl

theorem known?_lowerText (text : List Char) :
    TypePhrase.known? (lowerText text) = TypePhrase.known? (foldCase text) := by
  rw [← map_unfinal_lowerText]
  exact (TypePhrase.Alike.of_map similar_unfinal _).known?_eq

theorem occurs_timezoneText_lowerText (text : List Char) :
    occurs timezoneText (lowerText text) = occurs timezoneText (foldCase text) := by
  have hkey : ∀ k ∈ timezoneText, k ≠ '\u03C2' ∧ k ≠ '\u03C3' := forall_mem_of_all (by decide)
  rw [← map_unfinal_lowerText]
  refine (occurs_map (fun k hk c => ?_) _).symm
  obtain ⟨hfinal, hsmall⟩ := hkey k hk
  unfold unfinal
  split
  · next hc =>
    rw [hc]
    exact iff_of_false hsmall hfinal
  · rfl

/-- **Letter case does not matter** for the type of a phrase. -/
theorem parse_eq_of_foldCase {phrase other : String}
    (h : foldCase phrase.toList = foldCase other.toList) : parse phrase = parse other := by
  rw [parse, parse]
  refine resolve_phraseMapping_congr ?_ ?_
  · rw [known?_lowerText, known?_lowerText, h]
  · rw [occurs_timezoneText_lowerText, occurs_timezoneText_lowerText, h]

theorem similar_spaceBlank (c : Char) : TypePhrase.Similar c (spaceBlank c) := by
  unfold spaceBlank
  split
  · next hc => exact .inr (.inl ⟨hc, isBlank_space⟩)
  · exact .inl rfl

/-- **Single blanks may be written in any way** if that does not touch the time zone. -/
theorem parse_collapseWhitespace {phrase : String} (h : SinglySpaced phrase.toList)
    (hzone : occurs timezoneText (lowerText phrase.toList) =
      occurs timezoneText (lowerText (collapse phrase.toList))) :
    parse (collapseWhitespace phrase) = parse phrase := by
  obtain ⟨before, after, hbefore, hafter, htext⟩ := eq_append_trim phrase.toList
  have hfold : foldCase phrase.toList = before ++ (foldCase (trim phrase.toList) ++ after) := by
    rw [congrArg foldCase htext, foldCase_append, foldCase_append, foldCase_of_blank hbefore,
      foldCase_of_blank hafter]
  rw [parse, parse, collapseWhitespace, String.toList_ofList]
  refine resolve_phraseMapping_congr ?_ hzone.symm
  calc
    TypePhrase.known? (lowerText (collapse phrase.toList))
      = TypePhrase.known? (foldCase ((trim phrase.toList).map spaceBlank)) := by
        rw [known?_lowerText, h.collapse_eq]
    _ = TypePhrase.known? ((foldCase (trim phrase.toList)).map spaceBlank) := by
        rw [map_spaceBlank_foldCase]
    _ = TypePhrase.known? (foldCase (trim phrase.toList)) :=
        (TypePhrase.Alike.of_map similar_spaceBlank _).known?_eq.symm
    _ = TypePhrase.known? (foldCase phrase.toList) := by
        rw [hfold, TypePhrase.known?_append_blanks _ hbefore hafter]
    _ = TypePhrase.known? (lowerText phrase.toList) := (known?_lowerText _).symm

end DataType

end SchemaPhrase
