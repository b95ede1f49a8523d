import SchemaPhrase.TypePhrase
import SchemaPhrase.DataType.Parse
import SchemaPhrase.Proofs.Decimal
import SchemaPhrase.Proofs.Json.Mapping

/-!
# Type phrases in canonical spacing

How a phrase that is written `name( a )` or `name( a, b )` is decomposed: a run of word characters
or of digits is taken whole if what follows it stops the run (`takeWhile_append_of_stop`), so the
name ends where the arguments begin (`ofPhrase_append`) and each argument is the digits that stand
there (`arguments?_one`, `arguments?_two`). `get?_toMapping` and `get?_phraseMapping` say what the
mapping of a phrase holds under each field.
-/

set_option autoImplicit false

namespace SchemaPhrase

open Text

section
variable {p : Char → Bool} {run rest : List Char} (hrun : ∀ c ∈ run, p c = true)
  (hstop : ∀ c, rest.head? = some c → p c = false)
include hrun hstop

theorem takeWhile_append_of_stop : (run ++ rest).takeWhile p = run := by
  rw [List.takeWhile_append_of_pos hrun]
  cases rest with
  | nil => simp
  | cons c rest => simp [hstop c rfl]

theorem dropWhile_append_of_stop : (run ++ rest).dropWhile p = rest := by
  rw [List.dropWhile_append_of_pos hrun]
  cases rest with
  | nil => rfl
  | cons c rest => simp [hstop c rfl]

end

namespace TypePhrase

theorem isDecimal_of_isDigit {c : Char} (h : c.isDigit = true) : isDecimal c = true := by
  have hdigit := Char.isDigit_iff_toNat.1 h
  rw [isDecimal, inTable_iff]
  exact ⟨(0x30, 0x39), by simp [decimalTable], hdigit⟩

@[simp] theorem dropBlank_space (text : List Char) : dropBlank (' ' :: text) = text := by
  simp [dropBlank]

/-! ## Arguments -/

/-- The digits of an argument. -/
def IsArgument (text : List Char) : Prop :=
  text ≠ [] ∧ ∀ c ∈ text, isDecimal c = true

theorem isArgument_natText (n : Nat) : IsArgument (Decimal.natText n) :=
  ⟨Decimal.natText_ne_nil n, fun _ hc => isDecimal_of_isDigit (Decimal.isDigit_of_mem_natText hc)⟩

/-- The digits of an argument stop where a blank or a comma stands. -/
theorem stop_of_separator {sep : Char} (h : sep = ' ' ∨ sep = ',') (rest : List Char) :
    ∀ c, (sep :: rest).head? = some c → isDecimal c = false := by
  rintro c ⟨⟩
  rcases h with rfl | rfl
  · decide
  · decide

section
variable {first second rest : List Char} (hfirst : IsArgument first)
include hfirst

theorem digits?_append (hstop : ∀ c, rest.head? = some c → isDecimal c = false) :
    digits? (first ++ rest) = some (first, rest) := by
  have htake := takeWhile_append_of_stop hfirst.2 hstop
  have hdrop := dropWhile_append_of_stop hfirst.2 hstop
  rw [digits?, htake, hdrop, if_neg (by simpa using hfirst.1)]

/-- One argument between spaces is that argument, whatever follows. -/
theorem arguments?_one :
    arguments? ('(' :: ' ' :: (first ++ ' ' :: ')' :: rest)) = some (first, none) := by
  have hdigits := digits?_append hfirst (stop_of_separator (.inl rfl) (')' :: rest))
  have hopen : dropBlank ('(' :: ' ' :: (first ++ ' ' :: ')' :: rest)) =
      '(' :: ' ' :: (first ++ ' ' :: ')' :: rest) := rfl
  have hsecond : second? (' ' :: ')' :: rest) = none := rfl
  have hcloses : closes (' ' :: ')' :: rest) = true := rfl
  simp only [arguments?, hopen, dropBlank_space, hdigits, hsecond, hcloses, if_true]

theorem arguments?_two (hsecond : IsArgument second) :
    arguments? ('(' :: ' ' :: (first ++ ',' :: ' ' :: (second ++ ' ' :: ')' :: rest))) =
      some (first, some second) := by
  have hcomma := stop_of_separator (.inr rfl) (' ' :: (second ++ ' ' :: ')' :: rest))
  have hspace := stop_of_separator (.inl rfl) (')' :: rest)
  have hopen : dropBlank ('(' :: ' ' :: (first ++ ',' :: ' ' :: (second ++ ' ' :: ')' :: rest))) =
      '(' :: ' ' :: (first ++ ',' :: ' ' :: (second ++ ' ' :: ')' :: rest)) := rfl
  have hnext : second? (',' :: ' ' :: (second ++ ' ' :: ')' :: rest)) =
      some (second, ' ' :: ')' :: rest) := by
    rw [second?, dropBlank_space, digits?_append hsecond hspace]
  have hcloses : closes (' ' :: ')' :: rest) = true := rfl
  simp only [arguments?, hopen, dropBlank_space, digits?_append hfirst hcomma, hnext, hcloses,
    if_true]

end

/-! ## Decomposition -/

/-- **The name ends where the arguments begin.** -/
theorem ofPhrase_append {name rest : List Char} (hne : name ≠ [])
    (hname : ∀ c ∈ name, isWordChar c = true)
    (hstop : ∀ c, rest.head? = some c → isWordChar c = false) :
    ofPhrase (name ++ rest) =
      match arguments? rest with
      | none => ofParts (String.ofList name) none none
      | some (first, second) =>
        ofParts (String.ofList name) (some (String.ofList first)) (second.map String.ofList) := by
  have hstart : (name ++ rest).dropWhile (!isWordChar ·) = name ++ rest := by
    obtain ⟨c, tail, rfl⟩ := List.exists_cons_of_ne_nil hne
    rw [List.cons_append, List.dropWhile_cons_of_neg]
    simp [hname c List.mem_cons_self]
  have hsome : (name ++ rest).isEmpty = false := by simpa using fun h => absurd h hne
  have htake := takeWhile_append_of_stop hname hstop
  have hdrop := dropWhile_append_of_stop hname hstop
  cases harguments : arguments? rest with
  | none => simp [ofPhrase, hstart, hsome, htake, hdrop, harguments]
  | some parts => simp [ofPhrase, hstart, hsome, htake, hdrop, harguments]

theorem ofPhrase_of_wordless {phrase : List Char} (h : ∀ c ∈ phrase, isWordChar c = false) :
    ofPhrase phrase = ⟨String.ofList phrase, none, none, none⟩ := by
  have hstart : (phrase ++ []).dropWhile (!isWordChar ·) = [] :=
    dropWhile_append_of_stop (by simpa using h) fun _ hc => nomatch hc
  rw [List.append_nil] at hstart
  simp [ofPhrase, hstart]

theorem name_ofParts (name : String) (first second : Option String) :
    (ofParts name first second).name = name := by
  unfold ofParts
  split
  · rfl
  · split <;> rfl

theorem get?_toMapping (parts : TypePhrase) (field : TypeField) :
    parts.toMapping.get? field.key =
      match field with
      | .type => some (.string parts.name)
      | .maxLength => parts.maxLength.map argumentJson
      | .precision => parts.precision.map argumentJson
      | .scale =>
        if parts.precision.isSome && isExactNumeric parts.name then
          some ((parts.scale.map argumentJson).getD (.int (-1)))
        else none
      | .timezone => none := by
  obtain ⟨name, maxLength, precision, scale⟩ := parts
  rw [toMapping, Mapping.get?_ofFields]
  · cases hexact : isExactNumeric name <;> cases maxLength <;> cases precision <;> cases field <;>
      rfl
  · cases hexact : isExactNumeric name <;> cases maxLength <;> cases precision <;>
      simp [Mapping.keys]

theorem key_injective {field other : TypeField} (h : field.key = other.key) : field = other := by
  cases field <;> cases other <;> simp_all [TypeField.key]

/-- **What the mapping of a phrase in lower case holds**: that of its parts, and the time zone of
a timestamp that names one. -/
theorem get?_phraseMapping (lowered : List Char) (field : TypeField) :
    (DataType.phraseMapping lowered).get? field.key =
      if field = .timezone ∧ (ofPhrase lowered).name = "timestamp" ∧
          occurs DataType.timezoneText lowered = true then some (.bool true)
      else (ofPhrase lowered).toMapping.get? field.key := by
  have hkey : TypeField.timezone.key = field.key ↔ field = .timezone :=
    ⟨fun h => (key_injective h).symm, fun h => congrArg TypeField.key h.symm⟩
  unfold DataType.phraseMapping
  by_cases hzone : (ofPhrase lowered).name = "timestamp" ∧
      occurs DataType.timezoneText lowered = true
  · simp only [hzone, and_self, if_true, Mapping.get?_insert, hkey, and_true]
  · simp only [hzone, and_false, if_false]

end TypePhrase

end SchemaPhrase
