import CodeGrant.Terminal.Plain

/-! # Styled text

A text for a terminal is a list of spans of one style each.  A style is a list of
**renditions**, numbers that a terminal understands: they are switched on in front of
the span, and all of them are switched off behind it.

Without colors the whole is made plain.  That takes out the renditions, and also every
control that the spans themselves hold; spans without controls keep their texts, as the
main statement `StyledText.shown_false` says. -/

namespace CodeGrant.Terminal

/-- What a span is, which decides how it looks. -/
inductive Style where
  /-- Running text. -/
  | body
  /-- The title of a part. -/
  | heading
  /-- What is typed just so. -/
  | literal
  /-- The word that announces a failure. -/
  | failure
  /-- What is wrong. -/
  | invalid
  /-- What would be right. -/
  | valid
  deriving DecidableEq, Repr

/-- The renditions of a style: bold is 1, underlined 4, red 31, green 32 and yellow 33. -/
def Style.renditions : Style → List Nat
  | body => []
  | heading => [1, 4]
  | literal => [1]
  | failure => [1, 31]
  | invalid => [33]
  | valid => [32]

/-- The control sequence that switches a rendition on; zero switches all of them off. -/
def rendition (number : Nat) : String := "\x1b[" ++ Nat.repr number ++ "m"

/-- A piece of text in one style. -/
structure Span where
  style : Style
  text : String
  deriving DecidableEq, Repr

/-- A span with its renditions. -/
def Span.rendered (span : Span) : String :=
  match span.style.renditions with
  | [] => span.text
  | renditions => String.join (renditions.map rendition) ++ span.text ++ rendition 0

/-- A text in several styles. -/
abbrev StyledText := List Span

namespace StyledText

/-- The text with its renditions. -/
def rendered (text : StyledText) : String := String.join (text.map Span.rendered)

/-- The text as it is printed, with or without colors. -/
def shown (text : StyledText) (colored : Bool) : String :=
  if colored then text.rendered else plain text.rendered

end StyledText

/-- The renditions of a style leave nothing behind. -/
theorem Reader.shown_renditions (style : Style) (rest : List Char) :
    Reader.shown {} ((String.join (style.renditions.map rendition)).toList ++ rest)
      = Reader.shown {} rest := by
  cases style <;> rfl

/-- The rendition that ends a span leaves nothing behind. -/
theorem Reader.shown_rendition_zero (rest : List Char) :
    Reader.shown {} ((rendition 0).toList ++ rest) = Reader.shown {} rest := rfl

/-- A span leaves its own text behind. -/
theorem Span.shown_rendered (span : Span) (rest : List Char)
    (h : ∀ c ∈ span.text.toList, isShown c = true) :
    Reader.shown {} (span.rendered.toList ++ rest)
      = span.text.toList ++ Reader.shown {} rest := by
  rw [Span.rendered]
  split
  · exact Reader.shown_append _ _ h
  · rw [String.toList_append, String.toList_append, List.append_assoc, List.append_assoc,
      Reader.shown_renditions, Reader.shown_append _ _ h, Reader.shown_rendition_zero]

/-- **Without colors, spans without controls are their texts.** -/
theorem StyledText.shown_false (text : StyledText)
    (h : ∀ span ∈ text, ∀ c ∈ span.text.toList, isShown c = true) :
    text.shown false = String.join (text.map Span.text) := by
  apply String.toList_injective
  simp only [shown, plain, rendered, Bool.false_eq_true, if_false, String.toList_ofList,
    String.toList_join]
  induction text with
  | nil => rfl
  | cons span text ih =>
    simp only [List.map_cons, List.flatMap_cons]
    rw [Span.shown_rendered span _ (h span (by simp)), ih fun s hs => h s (by simp [hs])]

example : StyledText.shown [⟨.failure, "error:"⟩, ⟨.body, " no"⟩] true
    = "\x1b[1m\x1b[31merror:\x1b[0m no" := by decide +kernel
example : StyledText.shown [⟨.failure, "error:"⟩, ⟨.body, " n\x1bxo"⟩] false = "error: no" := by
  decide +kernel

end CodeGrant.Terminal
