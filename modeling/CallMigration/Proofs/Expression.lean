import CallMigration.Expression
import CallMigration.Proofs.Comment.Grammar

/-!
# Which effects the spelling of an expression hides

Calls, array accesses, assignments, increments and arithmetic cannot be spelled without certain
characters (`Expression.effectChars`), so a text without any outside its literals has no side
effect. An expression that is taken to have none is a keyword, a number, a chain of names or a text
between quotes. In the first three no such character occurs, apart from the sign of a number. But a
text between quotes need not be a literal: what the first quote opens may be closed before the end
(`Expression.HidesEffect`), and this is the only way in which an effect is missed
(`Expression.misjudged_iff`).
-/

namespace CallMigration

namespace Text

variable {c separator : Char} {cs : List Char}

theorem mem_intersperse {part between : List Char} {parts : List (List Char)}
    (h : part ∈ parts.intersperse between) : part ∈ parts ∨ part = between := by
  induction parts with
  | nil => cases h
  | cons first parts ih =>
      cases parts with
      | nil => exact Or.inl h
      | cons second parts =>
          rw [List.intersperse_cons_cons, List.mem_cons, List.mem_cons] at h
          rcases h with rfl | rfl | h
          · exact Or.inl List.mem_cons_self
          · exact Or.inr rfl
          · exact (ih h).imp_left (List.mem_cons_of_mem first)

/-- Splitting loses no character but the separator. -/
theorem exists_mem_splitOn (hmem : c ∈ cs) (hne : c ≠ separator) :
    ∃ part ∈ splitOn separator cs, c ∈ part := by
  rw [← flatten_splitOn separator cs] at hmem
  obtain ⟨part, hpart, hc⟩ := List.mem_flatten.mp hmem
  rcases mem_intersperse hpart with hpart | rfl
  · exact ⟨part, hpart, hc⟩
  · exact absurd (List.mem_singleton.mp hc) hne

theorem mem_dropWhile_isBlank (hmem : c ∈ cs) (hblank : isBlank c = false) :
    c ∈ cs.dropWhile isBlank := by
  rw [← List.takeWhile_append_dropWhile (p := isBlank) (l := cs), List.mem_append] at hmem
  rcases hmem with htaken | hleft
  · exact absurd (List.all_eq_true.mp List.all_takeWhile c htaken) (Bool.eq_false_iff.mp hblank)
  · exact hleft

/-- Trimming loses no character but blanks. -/
theorem mem_trim (hmem : c ∈ cs) (hblank : isBlank c = false) : c ∈ trim cs := by
  rw [trim, List.mem_reverse]
  refine mem_dropWhile_isBlank ?_ hblank
  rw [List.mem_reverse]
  exact mem_dropWhile_isBlank hmem hblank

end Text

namespace Comment

/-- Whether a byte stands in a text outside its literals and text blocks, as the lexemes of the text
delimit them. What a comment holds is outside of them, too. -/
inductive StandsOutside (b : UInt8) : List UInt8 → Prop
  | here {rest : List UInt8} (hquote : ¬ IsQuote b) : StandsOutside b (b :: rest)
  | comment {bytes : List UInt8} (hcomment : OpensComment bytes) (hmem : b ∈ bytes) :
      StandsOutside b bytes
  | behind {lexeme rest : List UInt8} (first : IsLexeme lexeme rest) (h : StandsOutside b rest) :
      StandsOutside b (lexeme ++ rest)

section Outside

variable {b quote : UInt8} {bytes rest : List UInt8}

theorem StandsOutside.mem (h : StandsOutside b bytes) : b ∈ bytes := by
  induction h with
  | here => exact List.mem_cons_self
  | comment _ hmem => exact hmem
  | behind _ _ ih => exact List.mem_append_right _ ih

/-- Nothing stands outside in front of what a quote opens. -/
theorem StandsOutside.exists_behind (h : StandsOutside b (quote :: rest)) (hquote : IsQuote quote) :
    ∃ lexeme after, quote :: rest = lexeme ++ after ∧ IsLexeme lexeme after ∧
      StandsOutside b after := by
  generalize hbytes : quote :: rest = bytes at h
  cases h with
  | here hb =>
      rw [(List.cons.inj hbytes).1] at hquote
      exact absurd hquote hb
  | comment hcomment =>
      rw [← hbytes] at hcomment
      exact absurd hquote hcomment.not_isQuote
  | behind first h => exact ⟨_, _, rfl, first, h⟩

/-- Bytes without quotes and slashes do not matter to what stands outside behind them. -/
theorem StandsOutside.behind_plain (hplain : ∀ c ∈ bytes, ¬ IsQuote c ∧ c ≠ slash)
    (h : StandsOutside b rest) : StandsOutside b (bytes ++ rest) := by
  induction bytes with
  | nil => exact h
  | cons c bytes ih =>
      obtain ⟨⟨hquote, hslash⟩, hplain⟩ := List.forall_mem_cons.mp hplain
      have hbyte : IsLexeme [c] (bytes ++ rest) :=
        .byte hquote fun hcomment => hslash hcomment.eq_slash
      have hbehind := StandsOutside.behind hbyte (ih hplain)
      exact hbehind

end Outside

end Comment

namespace Expression

/-- The characters that calls, array accesses, assignments, increments and arithmetic are spelled
with. -/
def effectChars : List Char := ['(', '[', '=', '+', '-']

/-- The text without a minus sign in front. -/
def withoutSign : List Char → List Char
  | '-' :: rest => rest
  | text => text

/-- Whether a character stands in a text outside its literals and text blocks. -/
def StandsOutside (c : Char) (bytes : List UInt8) : Prop :=
  Comment.StandsOutside (UInt8.ofNat c.toNat) bytes

/-- Whether a text spells an effect outside its literals and text blocks; a sign in front is
none. -/
def ShowsEffect (text : List Char) : Prop :=
  ∃ c ∈ effectChars, StandsOutside c (Text.bytesOf (withoutSign text))

section Chars

variable {c : Char} {text : List Char} {rest : List UInt8}

theorem forall_mem_effectChars {p : Char → Prop} :
    (∀ c ∈ effectChars, p c) ↔ p '(' ∧ p '[' ∧ p '=' ∧ p '+' ∧ p '-' := by
  simp [effectChars]

/-- Text without quotes and slashes does not matter to what stands outside behind it. -/
theorem StandsOutside.behind_text (hslash : '/' ∉ text) (hdouble : '"' ∉ text)
    (hsingle : '\'' ∉ text) (h : StandsOutside c rest) :
    StandsOutside c (Text.bytesOf text ++ rest) := by
  refine Comment.StandsOutside.behind_plain (fun b hb => ⟨?_, ?_⟩) h
  · rintro (rfl | rfl)
    · exact hdouble (Text.mem_of_mem_bytesOf (by decide : '"'.toNat < 128) hb)
    · exact hsingle (Text.mem_of_mem_bytesOf (by decide : '\''.toNat < 128) hb)
  · rintro rfl
    exact hslash (Text.mem_of_mem_bytesOf (by decide : '/'.toNat < 128) hb)

theorem mem_of_standsOutside (hc : c ∈ effectChars)
    (h : StandsOutside c (Text.bytesOf text)) : c ∈ text := by
  have hsmall : ∀ c ∈ effectChars, c.toNat < 128 := forall_mem_effectChars.mpr (by decide)
  exact Text.mem_of_mem_bytesOf (hsmall c hc) (Comment.StandsOutside.mem h)

theorem mem_of_mem_withoutSign (h : c ∈ withoutSign text) : c ∈ text := by
  unfold withoutSign at h
  split at h
  · exact List.mem_cons_of_mem _ h
  · exact h

theorem isUnsignedNumber_withoutSign (h : isNumber text = true) :
    isUnsignedNumber (withoutSign text) = true := by
  unfold isNumber at h
  unfold withoutSign
  split
  · exact h
  · next hsign =>
      split at h
      · exact absurd rfl (hsign _)
      · exact h

theorem not_mem_of_isUnsignedNumber (hc : c ∈ effectChars) (h : isUnsignedNumber text = true) :
    c ∉ text := by
  have hchar : ∀ c ∈ effectChars,
      c.isDigit = false ∧ (c.isAlphanum || c == '.' || c == '_') = false :=
    forall_mem_effectChars.mpr (by decide)
  obtain ⟨hdigit, hpart⟩ := hchar c hc
  intro hmem
  cases text with
  | nil => cases hmem
  | cons first rest =>
      rw [isUnsignedNumber, Bool.and_eq_true, List.all_eq_true] at h
      rcases List.mem_cons.mp hmem with rfl | hmem
      · exact Bool.eq_false_iff.mp hdigit h.1
      · exact Bool.eq_false_iff.mp hpart (h.2 c hmem)

theorem not_mem_of_isName (hc : c ∈ effectChars) (h : isName text = true) : c ∉ text := by
  have hchar : ∀ c ∈ effectChars, isNameStart c = false ∧ isNamePart c = false :=
    forall_mem_effectChars.mpr (by decide)
  obtain ⟨hstart, hpart⟩ := hchar c hc
  intro hmem
  cases text with
  | nil => cases hmem
  | cons first rest =>
      rw [isName, Bool.and_eq_true, List.all_eq_true] at h
      rcases List.mem_cons.mp hmem with rfl | hmem
      · exact Bool.eq_false_iff.mp hstart h.1
      · exact Bool.eq_false_iff.mp hpart (h.2 c hmem)

theorem not_mem_of_isNameChain (hc : c ∈ effectChars) (h : isNameChain text = true) :
    c ∉ text := by
  have hchar : ∀ c ∈ effectChars, c ≠ '.' ∧ Text.isBlank c = false :=
    forall_mem_effectChars.mpr (by decide)
  obtain ⟨hdot, hblank⟩ := hchar c hc
  intro hmem
  obtain ⟨part, hpart, hmem⟩ := Text.exists_mem_splitOn hmem hdot
  rw [isNameChain, Bool.and_eq_true, List.all_eq_true] at h
  exact not_mem_of_isName hc (h.1 part hpart) (Text.mem_trim hmem hblank)

/-- What is taken to have no side effect shows none, unless it stands between quotes. -/
theorem isQuotedBy_of_showsEffect (hpure : (isLiteral text || isNameChain text) = true)
    (h : ShowsEffect text) : isQuotedBy '"' text = true ∨ isQuotedBy '\'' text = true := by
  have hkeywords : ∀ c ∈ effectChars,
      ∀ word ∈ ["true".toList, "false".toList, "null".toList], c ∉ word :=
    forall_mem_effectChars.mpr (by decide)
  obtain ⟨c, hc, houtside⟩ := h
  have hmem := mem_of_standsOutside hc houtside
  simp only [isLiteral, Bool.or_eq_true, List.contains_iff_mem] at hpure
  rcases hpure with (((hkeyword | hdouble) | hsingle) | hnumber) | hchain
  · exact absurd (mem_of_mem_withoutSign hmem) (hkeywords c hc text hkeyword)
  · exact Or.inl hdouble
  · exact Or.inr hsingle
  · exact absurd hmem (not_mem_of_isUnsignedNumber hc (isUnsignedNumber_withoutSign hnumber))
  · exact absurd (mem_of_mem_withoutSign hmem) (not_mem_of_isNameChain hc hchain)

/-- A text between quotes begins with a byte that opens a literal. -/
theorem exists_quote_of_isQuotedBy {quote : Char} (hquote : quote = '"' ∨ quote = '\'')
    (h : isQuotedBy quote text = true) :
    withoutSign text = text ∧ ∃ b rest, Comment.IsQuote b ∧ Text.bytesOf text = b :: rest := by
  simp only [isQuotedBy, Bool.and_eq_true, beq_iff_eq] at h
  cases text with
  | nil => cases h.1.2
  | cons first rest =>
      obtain rfl : first = quote := Option.some.inj h.1.2
      rcases hquote with rfl | rfl
      · exact ⟨rfl, _, _, Or.inl rfl, rfl⟩
      · exact ⟨rfl, _, _, Or.inr rfl, rfl⟩

end Chars

/-- Whether a text begins and ends with the same quote though the literal or text block that it
begins with is closed before the end, and an effect shows behind that. -/
structure HidesEffect (text : List Char) : Prop where
  quoted : isQuotedBy '"' text = true ∨ isQuotedBy '\'' text = true
  behind : ∃ literal after, Text.bytesOf text = literal ++ after ∧
    Comment.IsLexeme literal after ∧ ∃ c ∈ effectChars, StandsOutside c after

/-- Between quotes everything counts as a literal, so an effect that shows there is hidden. -/
theorem hidesEffect_iff {text : List Char}
    (hquoted : isQuotedBy '"' text = true ∨ isQuotedBy '\'' text = true) :
    HidesEffect text ↔ ShowsEffect text := by
  obtain ⟨hsign, b, rest, hquote, hbytes⟩ :
      withoutSign text = text ∧ ∃ b rest, Comment.IsQuote b ∧ Text.bytesOf text = b :: rest :=
    hquoted.elim (exists_quote_of_isQuotedBy (Or.inl rfl))
      (exists_quote_of_isQuotedBy (Or.inr rfl))
  rw [ShowsEffect, hsign]
  constructor
  · rintro ⟨-, literal, after, hsplit, hliteral, c, hc, hafter⟩
    refine ⟨c, hc, ?_⟩
    rw [hsplit]
    exact .behind hliteral hafter
  · rintro ⟨c, hc, houtside⟩
    rw [hbytes] at houtside
    obtain ⟨literal, after, hsplit, hliteral, hafter⟩ := houtside.exists_behind hquote
    exact ⟨hquoted, literal, after, hbytes.trans hsplit, hliteral, c, hc, hafter⟩

theorem mayHaveSideEffect_eq_false_iff {e : Expression} :
    e.mayHaveSideEffect = false ↔
      (isLiteral (Text.trim e.text.toList) || isNameChain (Text.trim e.text.toList)) = true := by
  rw [mayHaveSideEffect, Bool.not_eq_false']

/-- **Which effects are missed.** An expression is taken to have no side effect, though its text
shows one, exactly if it hides it. -/
theorem misjudged_iff {e : Expression} :
    e.mayHaveSideEffect = false ∧ ShowsEffect (Text.trim e.text.toList) ↔
      HidesEffect (Text.trim e.text.toList) := by
  rw [mayHaveSideEffect_eq_false_iff]
  constructor
  · rintro ⟨hpure, hshows⟩
    exact (hidesEffect_iff (isQuotedBy_of_showsEffect hpure hshows)).mpr hshows
  · intro hhides
    refine ⟨?_, (hidesEffect_iff hhides.quoted).mp hhides⟩
    rcases hhides.quoted with h | h <;> simp [isLiteral, h]

end Expression

end CallMigration
