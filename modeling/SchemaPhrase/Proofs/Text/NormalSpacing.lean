import SchemaPhrase.Proofs.Text.Respaced

/-!
# White-space normal form

A text has `NormalSpacing` if its only blanks are single spaces between words. These are the texts
that a collapse leaves alone (`collapse_eq_self_iff`). A part of such a text has blanks to lose at
its ends only, so that it is enough to trim it (`NormalSpacing.trim`).
-/

set_option autoImplicit false

namespace SchemaPhrase.Text

/-- No blank stands at an end of the text, every blank is a space, and no two are neighbours. -/
structure NormalSpacing (text : List Char) : Prop where
  head : ∀ c, text.head? = some c → isBlank c = false
  last : ∀ c, text.getLast? = some c → isBlank c = false
  space : ∀ c ∈ text, isBlank c = true → c = ' '
  single : text.IsChain fun c d => ¬ (isBlank c = true ∧ isBlank d = true)

theorem normalSpacing_nil : NormalSpacing [] := ⟨nofun, nofun, nofun, .nil⟩

theorem normalSpacing_collapse (text : List Char) : NormalSpacing (collapse text) := by
  have hwords : ∀ word ∈ words text, word ≠ [] ∧ ∀ c ∈ word, isBlank c = false := fun _ => mem_words
  by_cases hne : words text = []
  · rw [collapse, hne]
    exact normalSpacing_nil
  obtain ⟨first, rest, hfirst, hfirstSolid⟩ := joinWords_head hne hwords
  obtain ⟨front, last, hlast, hlastSolid⟩ := joinWords_last hne hwords
  refine ⟨fun c hc => ?_, fun c hc => ?_, fun c hc hblank => ?_, isChain_joinWords hwords⟩
  · rw [collapse, hfirst, List.head?_cons, Option.some.injEq] at hc
    exact hc ▸ hfirstSolid
  · rw [collapse, hlast, List.getLast?_concat, Option.some.injEq] at hc
    exact hc ▸ hlastSolid
  · by_contra hspace
    exact notMem_collapse hblank hspace text hc

theorem NormalSpacing.collapse_eq {text : List Char} (h : NormalSpacing text) :
    collapse text = text := by
  have hspaces : ∀ c ∈ text, spaceBlank c = c := by
    intro c hc
    by_cases hblank : isBlank c = true
    · rw [h.space c hc hblank]
      rfl
    · rw [spaceBlank, if_neg hblank]
  calc collapse text = text.map spaceBlank := collapse_of_isChain h.single h.head h.last
    _ = text.map id := List.map_congr_left hspaces
    _ = text := List.map_id text

/-- **A collapse leaves a text alone** exactly if its only blanks are single spaces between
words. -/
theorem collapse_eq_self_iff {text : List Char} : collapse text = text ↔ NormalSpacing text :=
  ⟨fun h => h ▸ normalSpacing_collapse text, NormalSpacing.collapse_eq⟩

section
variable {text part : List Char} (h : NormalSpacing text) (hpart : part <:+: text)
include h hpart

theorem NormalSpacing.of_infix (hhead : ∀ c, part.head? = some c → isBlank c = false)
    (hlast : ∀ c, part.getLast? = some c → isBlank c = false) : NormalSpacing part :=
  ⟨hhead, hlast, fun c hc => h.space c (hpart.subset hc), h.single.infix hpart⟩

/-- **A part has only to be trimmed.** -/
theorem NormalSpacing.trim : NormalSpacing (trim part) := by
  obtain ⟨hhead, hlast⟩ := not_blank_ends_trim part
  obtain ⟨before, after, -, -, hsplit⟩ := eq_append_trim part
  have htrim : Text.trim part <:+: part := ⟨before, after, by rw [List.append_assoc, ← hsplit]⟩
  exact h.of_infix (htrim.trans hpart) hhead hlast

end

end SchemaPhrase.Text
