import SchemaPhrase.Proofs.Phrase.ClauseExtent
import SchemaPhrase.Proofs.Text.NormalSpacing

/-!
# White space in what is recorded

Each pass hands on a text in white-space normal form if it got one, whether it finds its keyword or
not: what is left of a keyword is collapsed, a check clause is a part of the text with marks at its
ends, and the two sides of a default are trimmed parts. The first pass makes the normal form, so
that all that is recorded of a phrase has it (`parsePhrase_normalSpacing`).
-/

set_option autoImplicit false

namespace SchemaPhrase

/-- The texts that a phrase is taken apart into. -/
def ParsedPhrase.texts (parsed : ParsedPhrase) : List String :=
  parsed.dtype :: (parsed.default.toList ++ parsed.check.toList)

namespace Phrase

open Text

theorem normalSpacing_takeModifiers (phrase : List Char) :
    NormalSpacing (takeModifiers phrase).rest :=
  collapse_eq_self_iff.1 (collapse_takeModifiers phrase)

theorem eq_append_of_findCheck? {text clause : List Char} (h : findCheck? text = some clause) :
    ∃ inner, clause = checkKey ++ inner ++ [')'] := by
  obtain ⟨-, -, gap, through, -, -, rfl, -, hlast, -⟩ := findCheck?_eq_some h
  obtain ⟨inner, rfl⟩ := List.getLast?_eq_some_iff.1 hlast
  exact ⟨gap ++ '(' :: inner, by simp⟩

section
variable {text : List Char} (ht : NormalSpacing text)
include ht

theorem normalSpacing_extractKeyword (key new : List Char) :
    NormalSpacing (extractKeyword key new text).rest :=
  collapse_eq_self_iff.1 (collapse_extractKeyword key new ht.collapse_eq)

theorem normalSpacing_of_findCheck? {clause : List Char} (h : findCheck? text = some clause) :
    NormalSpacing clause := by
  have hpart := (infix_of_findCheck? h).1
  obtain ⟨inner, rfl⟩ := eq_append_of_findCheck? h
  refine ht.of_infix hpart (fun c hc => ?_) fun c hc => ?_
  · rw [List.append_assoc] at hc
    cases hc
    decide
  · rw [List.getLast?_concat, Option.some.injEq] at hc
    rw [← hc]
    decide

theorem normalSpacing_of_takeCheck? {rest : List Char} {check : Option (List Char)}
    (h : takeCheck? text = some (rest, check)) :
    NormalSpacing rest ∧ ∀ clause ∈ check,
      NormalSpacing clause ∧ ∃ inner, clause = checkKey ++ inner ++ [')'] := by
  unfold takeCheck? at h
  split at h
  · obtain ⟨clause, hclause, hpair⟩ := Option.map_eq_some_iff.1 h
    cases hpair
    refine ⟨normalSpacing_extractKeyword ht clause [], fun found hfound => ?_⟩
    cases hfound
    exact ⟨normalSpacing_of_findCheck? ht hclause, eq_append_of_findCheck? hclause⟩
  · cases h
    exact ⟨ht, nofun⟩

theorem normalSpacing_takeDefault :
    NormalSpacing (takeDefault text).1 ∧ ∀ value ∈ (takeDefault text).2, NormalSpacing value := by
  unfold takeDefault
  split
  · next before after hsplit =>
    have htext := eq_of_splitAt? hsplit
    have hbefore : before <:+: text :=
      ⟨[], "default".toList ++ after, by rw [htext, List.nil_append, List.append_assoc]⟩
    have hafter : after <:+: text := htext ▸ (List.suffix_append _ _).isInfix
    refine ⟨ht.trim hbefore, fun value hvalue => ?_⟩
    cases hvalue
    exact ht.trim hafter
  · exact ⟨ht, nofun⟩

theorem normalSpacing_default_assemble {modifiers : Modifiers} {check : Option (List Char)}
    {value : String} (h : (assemble modifiers check text).default = some value) :
    NormalSpacing value.toList := by
  have hserial : NormalSpacing serialDefault.toList := collapse_eq_self_iff.1 (by decide)
  rw [← String.ofList_toList (s := value)] at h
  rcases default_assemble h with hfound | hvalue
  · exact (normalSpacing_takeDefault ht).2 _ hfound
  · exact hvalue ▸ hserial

end

/-- **Every text that is recorded is in white-space normal form**, and a check clause is recorded
from its keyword through a parenthesis. -/
theorem parsePhrase_normalSpacing {phrase : String} {parsed : ParsedPhrase}
    (h : (parsePhrase phrase).result = .ok parsed) :
    (∀ text ∈ parsed.texts, collapseWhitespace text = text ∧ NormalSpacing text.toList) ∧
      ∀ clause ∈ parsed.check, ∃ inner, clause = "check" ++ inner ++ ")" := by
  obtain ⟨rest, check, htake, rfl⟩ := eq_assemble_of_takeApart? (result_parsePhrase_eq_ok.1 h)
  obtain ⟨hrest, hcheck⟩ :=
    normalSpacing_of_takeCheck? (normalSpacing_takeModifiers phrase.toList) htake
  constructor
  · intro text htext
    have hnormal : NormalSpacing text.toList := by
      rw [ParsedPhrase.texts, List.mem_cons, List.mem_append, Option.mem_toList,
        Option.mem_toList] at htext
      rcases htext with rfl | hdefault | hrecorded
      · show NormalSpacing (String.ofList (takeDefault rest).1).toList
        rw [String.toList_ofList]
        exact (normalSpacing_takeDefault hrest).1
      · exact normalSpacing_default_assemble hrest hdefault
      · obtain ⟨found, hfound, rfl⟩ := Option.map_eq_some_iff.1 hrecorded
        rw [String.toList_ofList]
        exact (hcheck found hfound).1
    refine ⟨?_, hnormal⟩
    rw [collapseWhitespace, hnormal.collapse_eq, String.ofList_toList]
  · intro clause hrecorded
    obtain ⟨found, hfound, rfl⟩ := Option.map_eq_some_iff.1 hrecorded
    obtain ⟨inner, rfl⟩ := (hcheck found hfound).2
    exact ⟨String.ofList inner, by rw [String.ofList_append, String.ofList_append]; rfl⟩

/-- Blanks of other kinds and runs of them are written between words, and inside of a clause. -/
theorem parsePhrase_normalSpacing_blanks :
    ∃ parsed, (parsePhrase
        "\tNUMERIC(\u00a010,\n2 )  UNIQUE default\u2003 now( )  check  (a >\t0)").result =
          .ok parsed ∧
      parsed.texts = ["numeric( 10, 2 )", "now( )", "check (a > 0)"] ∧
      (∀ text ∈ parsed.texts, collapseWhitespace text = text ∧ NormalSpacing text.toList) ∧
      ∀ clause ∈ parsed.check, ∃ inner, clause = "check" ++ inner ++ ")" := by
  have hresult : (parsePhrase
      "\tNUMERIC(\u00a010,\n2 )  UNIQUE default\u2003 now( )  check  (a >\t0)").result =
        .ok { dtype := "numeric( 10, 2 )", nullability := .null, nullable := false, unique := true,
              pk := false, default := some "now( )", check := some "check (a > 0)" } := by
    decide +kernel
  exact ⟨_, hresult, rfl, parsePhrase_normalSpacing hresult⟩

end Phrase

end SchemaPhrase
