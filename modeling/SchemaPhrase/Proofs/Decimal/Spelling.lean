import SchemaPhrase.Proofs.Decimal
import SchemaPhrase.Proofs.Text.Respaced

/-!
# The spellings of an integer

An integer can be written with a sign or without one, with zeros in front of its digits, and with
blanks around all that (`Spells`). `readInt64?_trim_iff`: these are exactly the texts that are read
as it. A text of digits is zeros and the digits of its value (`readNat?_eq_some_iff`), and a number
that needs more than 64 bits has no spelling.
-/

set_option autoImplicit false

namespace SchemaPhrase.Decimal

open Text

/-- The signs that can stand in front of the digits of an integer; zero has all three. -/
inductive Sign (n : Int) : List Char → Prop
  | minus : n ≤ 0 → Sign n ['-']
  | plus : 0 ≤ n → Sign n ['+']
  | unsigned : 0 ≤ n → Sign n []

/-- An integer without blanks around it: a sign, zeros, and the digits of its size. -/
inductive Written (n : Int) : List Char → Prop
  | intro {sign : List Char} (zeros : Nat) : Sign n sign →
    Written n (sign ++ (List.replicate zeros '0' ++ natText n.natAbs))

/-- **A spelling of a 64-bit integer**, blanks around it included. -/
inductive Spells (text : String) (n : Int64) : Prop
  | intro {before body after : List Char} : Blanks before → Written n.toInt body → Blanks after →
    text.toList = before ++ (body ++ after) → Spells text n

theorem digitValue_lt {d : Char} (h : d.isDigit = true) : d.toNat - '0'.toNat < 10 := by
  have hdigit := (Char.isDigit_iff_toNat.1 h).2
  have hnine : '9'.toNat = '0'.toNat + 9 := rfl
  omega

theorem natText_digitValue {d : Char} (h : d.isDigit = true) :
    natText (d.toNat - '0'.toNat) = [d] := by
  have hchar : ∀ k < 10, Nat.digitChar k = Char.ofNat ('0'.toNat + k) := by decide
  rw [natText, Nat.toDigits_of_lt_base (digitValue_lt h), hchar _ (digitValue_lt h),
    Nat.add_sub_cancel' (Char.isDigit_iff_toNat.1 h).1, Char.ofNat_toNat]

/-- One digit more behind a number. Behind zero it makes another zero of it. -/
theorem exists_zeros_concat (zeros n : Nat) {d : Char} (h : d.isDigit = true) :
    ∃ more, List.replicate zeros '0' ++ natText n ++ [d] =
      List.replicate more '0' ++ natText (10 * n + (d.toNat - '0'.toNat)) := by
  rw [← natText_digitValue h]
  cases Nat.eq_zero_or_pos n with
  | inl hzero =>
    subst hzero
    refine ⟨zeros + 1, ?_⟩
    rw [List.replicate_succ', Nat.mul_zero, Nat.zero_add]
    rfl
  | inr hpos =>
    refine ⟨zeros, ?_⟩
    rw [List.append_assoc]
    exact congrArg _ (Nat.toDigits_append_toDigits (by decide) hpos (digitValue_lt h))

/-- **Digits are zeros and the digits of their value.** -/
theorem exists_zeros_append {digits : List Char} (hne : digits ≠ [])
    (h : ∀ c ∈ digits, c.isDigit = true) :
    ∃ zeros, digits = List.replicate zeros '0' ++ natText (Nat.ofDigitChars 10 digits 0) := by
  induction digits using List.reverseRecOn with
  | nil => exact absurd rfl hne
  | append_singleton front d ih =>
    rw [List.forall_mem_append, List.forall_mem_singleton] at h
    rw [Nat.ofDigitChars_append, Nat.ofDigitChars_cons, Nat.ofDigitChars_nil]
    by_cases hfront : front = []
    · subst hfront
      refine ⟨0, ?_⟩
      rw [Nat.ofDigitChars_nil, Nat.mul_zero, Nat.zero_add, natText_digitValue h.2]
      rfl
    · obtain ⟨zeros, hzeros⟩ := ih hfront h.1
      obtain ⟨more, hmore⟩ :=
        exists_zeros_concat zeros (Nat.ofDigitChars 10 front 0) h.2
      exact ⟨more, by rw [← hmore, ← hzeros]⟩

theorem isDigit_of_mem_zeros_append {zeros n : Nat} {c : Char}
    (h : c ∈ List.replicate zeros '0' ++ natText n) : c.isDigit = true := by
  rcases List.mem_append.1 h with hzero | hdigit
  · rw [List.eq_of_mem_replicate hzero]
    rfl
  · exact isDigit_of_mem_natText hdigit

theorem readNat?_eq_some_iff {digits : List Char} {n : Nat} :
    readNat? digits = some n ↔ ∃ zeros, digits = List.replicate zeros '0' ++ natText n := by
  constructor
  · intro h
    unfold readNat? at h
    split at h
    · next hdigits =>
      cases h
      exact exists_zeros_append hdigits.1 (List.all_eq_true.1 hdigits.2)
    · cases h
  · rintro ⟨zeros, rfl⟩
    have hne : List.replicate zeros '0' ++ natText n ≠ [] :=
      List.append_ne_nil_of_right_ne_nil _ (natText_ne_nil n)
    have hdigits : (List.replicate zeros '0' ++ natText n).all Char.isDigit = true :=
      List.all_eq_true.2 fun _ => isDigit_of_mem_zeros_append
    rw [readNat?, if_pos ⟨hne, hdigits⟩, Nat.ofDigitChars_append,
      Nat.ofDigitChars_replicate_zero, Nat.mul_zero, natText, Nat.ofDigitChars_ten_toDigits]

theorem readInt?_minus (digits : List Char) :
    readInt? ('-' :: digits) = (readNat? digits).map fun size : Nat => -(size : Int) := by
  rw [readInt?]
  cases readNat? digits <;> rfl

theorem readInt?_eq_some_iff {text : List Char} {n : Int} :
    readInt? text = some n ↔ Written n text := by
  constructor
  · intro h
    unfold readInt? at h
    split at h
    · next digits =>
      obtain ⟨size, hsize, rfl⟩ :=
        Option.map_eq_some_iff.1 ((readInt?_minus digits).symm.trans h)
      obtain ⟨zeros, rfl⟩ := readNat?_eq_some_iff.1 hsize
      have hwritten := @Written.intro (-(size : Int)) ['-'] zeros (.minus (by omega))
      rwa [Int.natAbs_neg, Int.natAbs_natCast] at hwritten
    · obtain ⟨size, hsize, rfl⟩ := Option.map_eq_some_iff.1 h
      obtain ⟨zeros, rfl⟩ := readNat?_eq_some_iff.1 hsize
      exact .intro zeros (.plus (Int.natCast_nonneg size))
    · obtain ⟨size, hsize, rfl⟩ := Option.map_eq_some_iff.1 h
      obtain ⟨zeros, rfl⟩ := readNat?_eq_some_iff.1 hsize
      exact .intro zeros (.unsigned (Int.natCast_nonneg size))
  · rintro ⟨zeros, hsign⟩
    have hsize := readNat?_eq_some_iff.2 ⟨zeros, @rfl _ (_ ++ natText n.natAbs)⟩
    cases hsign with
    | minus hneg =>
      rw [List.singleton_append, readInt?_minus, hsize, Option.map_some,
        Int.ofNat_natAbs_of_nonpos hneg, Int.neg_neg]
    | plus hpos =>
      rw [List.singleton_append, readInt?, hsize, Option.map_some, Int.ofNat_eq_natCast, Int.natAbs_of_nonneg hpos]
    | unsigned hpos =>
      have hnot : ∀ c, c.isDigit = false →
          c ∉ List.replicate zeros '0' ++ natText n.natAbs := by
        intro c hc hmem
        rw [isDigit_of_mem_zeros_append hmem] at hc
        cases hc
      rw [List.nil_append, readInt?_of_unsigned (hnot _ rfl) (hnot _ rfl), hsize, Option.map_some,
        Int.ofNat_eq_natCast, Int.natAbs_of_nonneg hpos]

theorem toInt64?_eq_some_iff {n : Int} {value : Int64} :
    toInt64? n = some value ↔ n = value.toInt := by
  constructor
  · intro h
    unfold toInt64? at h
    split at h
    · next hrange =>
      have hmin : Int64.minValue.toInt = -2 ^ 63 := by decide
      have hmax : Int64.maxValue.toInt = 2 ^ 63 - 1 := by decide
      cases h
      exact (Int64.toInt_ofInt_of_le (by omega) (by omega)).symm
    · cases h
  · rintro rfl
    exact toInt64?_toInt value

theorem readInt64?_eq_some_iff {text : List Char} {n : Int64} :
    readInt64? text = some n ↔ Written n.toInt text := by
  simp only [readInt64?, Option.bind_eq_some_iff, readInt?_eq_some_iff, toInt64?_eq_some_iff,
    exists_eq_right]

theorem Written.tidy {n : Int} {text : List Char} (h : Written n text) : Tidy text := by
  obtain ⟨zeros, hsign⟩ := h
  have hdigits : Tidy (List.replicate zeros '0' ++ natText n.natAbs) := by
    refine .of_word (List.append_ne_nil_of_right_ne_nil _ (natText_ne_nil _)) fun c hc => ?_
    have hdigit := Char.isDigit_iff_toNat.1 (isDigit_of_mem_zeros_append hc)
    have hends : 0x20 < '0'.toNat ∧ '9'.toNat < 0x85 := by decide
    exact isBlank_of_lt (by omega)
  refine hdigits.prepend ?_
  cases hsign with
  | minus _ => exact List.forall_mem_singleton.2 (isBlank_of_lt (by decide))
  | plus _ => exact List.forall_mem_singleton.2 (isBlank_of_lt (by decide))
  | unsigned _ => exact nofun

/-- **The texts that are read as an integer** between blanks are its spellings. -/
theorem readInt64?_trim_iff {text : String} {n : Int64} :
    readInt64? (trim text.toList) = some n ↔ Spells text n := by
  rw [readInt64?_eq_some_iff]
  constructor
  · intro h
    obtain ⟨before, after, hbefore, hafter, htext⟩ := eq_append_trim text.toList
    exact .intro hbefore h hafter htext
  · rintro ⟨hbefore, hbody, hafter, htext⟩
    rwa [htext, hbody.tidy.trim_between hbefore hafter]

end SchemaPhrase.Decimal
