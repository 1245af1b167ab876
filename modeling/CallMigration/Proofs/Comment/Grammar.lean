import CallMigration.Proofs.Comment
import Mathlib.Logic.ExistsUnique

/-!
# The grammar of source text

Source text is made of lexemes: text blocks, literals and single bytes of program text. The bytes of
a lexeme depend on what follows it, since two double quotes are an empty literal only where no third
one comes behind them, and a slash is a byte of program text only where it opens no comment. So
being a lexeme is a relation between bytes and those behind them (`Comment.IsLexeme`).

* `exists_lexemes`: every text is a sequence of lexemes up to where it ends, a comment opens or
  something opens that is never closed;
* `Lexemes.unique`: there is one such sequence only;
* `hasComment_iff_lexemes`: a text holds a comment exactly if that sequence leads to one.
-/

namespace CallMigration.Comment

/-- The three double quotes around a text block. -/
def blockQuotes : List UInt8 := [doubleQuote, doubleQuote, doubleQuote]

/-- What a text block holds: backslashes, each with the byte behind it, and other bytes, at none of
which three double quotes begin. -/
inductive BlockBody : List UInt8 → Prop
  | nil : BlockBody []
  | escape (b : UInt8) {body : List UInt8} (rest : BlockBody body) :
      BlockBody (backslash :: b :: body)
  | plain {b : UInt8} {body : List UInt8} (hback : b ≠ backslash)
      (hopen : ¬ blockQuotes <+: b :: (body ++ blockQuotes)) (rest : BlockBody body) :
      BlockBody (b :: body)

/-- What a literal holds: backslashes, each with the byte behind it, and bytes other than the quote
and the line feed. -/
inductive LiteralBody (quote : UInt8) : List UInt8 → Prop
  | nil : LiteralBody quote []
  | escape (b : UInt8) {body : List UInt8} (rest : LiteralBody quote body) :
      LiteralBody quote (backslash :: b :: body)
  | plain {b : UInt8} {body : List UInt8} (hback : b ≠ backslash)
      (hopen : b ≠ quote ∧ b ≠ lineFeed) (rest : LiteralBody quote body) :
      LiteralBody quote (b :: body)

/-- Whether a byte opens a literal. -/
def IsQuote (b : UInt8) : Prop := b = doubleQuote ∨ b = singleQuote

instance : DecidablePred IsQuote := fun b =>
  inferInstanceAs (Decidable (b = doubleQuote ∨ b = singleQuote))

/-- Whether a byte closes a literal that the given quote opens. -/
def Closes (quote b : UInt8) : Prop := b = quote ∨ b = lineFeed

/-- Whether a comment opens where the bytes begin. -/
def OpensComment (bytes : List UInt8) : Prop := [slash, slash] <+: bytes ∨ [slash, star] <+: bytes

instance : DecidablePred OpensComment := fun bytes =>
  inferInstanceAs (Decidable ([slash, slash] <+: bytes ∨ [slash, star] <+: bytes))

/-- Whether bytes are a lexeme when the others follow them. -/
inductive IsLexeme : List UInt8 → List UInt8 → Prop
  | block {body after : List UInt8} (hbody : BlockBody body) :
      IsLexeme (blockQuotes ++ (body ++ blockQuotes)) after
  | literal {quote closing : UInt8} {body after : List UInt8} (hquote : IsQuote quote)
      (hopen : ¬ blockQuotes <+: quote :: (body ++ closing :: after))
      (hbody : LiteralBody quote body) (hclosing : Closes quote closing) :
      IsLexeme (quote :: (body ++ [closing])) after
  | byte {b : UInt8} {after : List UInt8} (hquote : ¬ IsQuote b)
      (hcomment : ¬ OpensComment (b :: after)) : IsLexeme [b] after

/-- Whether bytes are a sequence of lexemes when the others follow them. -/
inductive Lexemes : List UInt8 → List UInt8 → Prop
  | nil {after : List UInt8} : Lexemes [] after
  | cons {lexeme rest after : List UInt8} (first : IsLexeme lexeme (rest ++ after))
      (others : Lexemes rest after) : Lexemes (lexeme ++ rest) after

/-- Whether bytes begin with a text block or a literal that is never closed. -/
inductive Unclosed : List UInt8 → Prop
  | block {rest : List UInt8}
      (hopen : ∀ body after, BlockBody body → rest ≠ body ++ (blockQuotes ++ after)) :
      Unclosed (blockQuotes ++ rest)
  | literal {quote : UInt8} {rest : List UInt8} (hquote : IsQuote quote)
      (hblock : ¬ blockQuotes <+: quote :: rest)
      (hopen : ∀ body closing after, LiteralBody quote body → Closes quote closing →
        rest ≠ body ++ closing :: after) : Unclosed (quote :: rest)

/-- Where a sequence of lexemes comes to an end. -/
inductive Ends (bytes : List UInt8) : Prop
  | text (h : bytes = [])
  | comment (h : OpensComment bytes)
  | unclosed (h : Unclosed bytes)

section Reading

variable {b quote closing : UInt8} {body rest after : List UInt8}

theorem IsQuote.ne_backslash (h : IsQuote quote) : quote ≠ backslash := by
  rcases h with rfl | rfl <;> decide

theorem Closes.ne_backslash (hquote : IsQuote quote) (h : Closes quote b) : b ≠ backslash := by
  rcases h with rfl | rfl
  · exact hquote.ne_backslash
  · decide

theorem OpensComment.opensIn (h : OpensComment rest) : opensIn .code rest = true := by
  rcases h with ⟨after, rfl⟩ | ⟨after, rfl⟩ <;> rfl

theorem OpensComment.eq_slash (h : OpensComment (b :: rest)) : b = slash := by
  rcases h with ⟨after, hafter⟩ | ⟨after, hafter⟩ <;> exact (List.cons.inj hafter).1.symm

theorem OpensComment.not_isQuote (h : OpensComment (b :: rest)) : ¬ IsQuote b := by
  rw [h.eq_slash]
  decide

theorem opensIn_literal (hquote : IsQuote quote) (hblock : ¬ blockQuotes <+: quote :: rest) :
    opensIn .code (quote :: rest) = opensIn (.quoted quote) rest := by
  rcases hquote with rfl | rfl
  · match rest with
    | [] => rfl
    | b :: rest =>
        by_cases hb : b = doubleQuote
        · subst hb
          match rest with
          | [] => rfl
          | b :: rest =>
              have hne : b ≠ doubleQuote := by
                rintro rfl
                exact hblock ⟨rest, rfl⟩
              rw [opensIn_code_quotes hne, opensIn_quoted_of_ne (by decide), if_pos (Or.inl rfl)]
        · exact opensIn_code_quote hb
  · rw [opensIn_code_of_ne (by decide) (by decide), if_pos rfl]

theorem opensIn_byte (hquote : ¬ IsQuote b) (hcomment : ¬ OpensComment (b :: rest)) :
    opensIn .code (b :: rest) = opensIn .code rest := by
  obtain ⟨hdouble, hsingle⟩ := not_or.mp hquote
  by_cases hslash : b = slash
  · subst hslash
    match rest with
    | [] => rfl
    | b :: rest =>
        rw [opensIn_code_slash, if_neg]
        rintro (rfl | rfl)
        · exact hcomment (Or.inl ⟨rest, rfl⟩)
        · exact hcomment (Or.inr ⟨rest, rfl⟩)
  · rw [opensIn_code_of_ne hslash hdouble, if_neg hsingle]

theorem opensIn_block_plain (hback : b ≠ backslash) (hopen : ¬ blockQuotes <+: b :: rest) :
    opensIn .textBlock (b :: rest) = opensIn .textBlock rest := by
  by_cases hb : b = doubleQuote
  · subst hb
    match rest with
    | [] => rfl
    | b :: rest =>
        by_cases hb : b = doubleQuote
        · subst hb
          match rest with
          | [] => rfl
          | b :: rest =>
              have hne : b ≠ doubleQuote := by
                rintro rfl
                exact hopen ⟨rest, rfl⟩
              rw [opensIn_block_quotes hne, opensIn_block_quote hne]
        · exact opensIn_block_quote hb
  · exact opensIn_block_of_ne hback hb

/-- Three double quotes that begin in front of a closed text block begin in it. -/
theorem prefix_of_prefix_append (h : blockQuotes <+: b :: (body ++ (blockQuotes ++ after))) :
    blockQuotes <+: b :: (body ++ blockQuotes) := by
  apply List.prefix_of_prefix_length_le h
  · exact ⟨after, by simp⟩
  · rw [List.length_cons, List.length_append]
    omega

/-- A literal is read up to the byte that closes it. -/
theorem LiteralBody.opensIn (hbody : LiteralBody quote body) (hquote : IsQuote quote)
    (hclosing : Closes quote closing) :
    opensIn (.quoted quote) (body ++ closing :: after) = opensIn .code after := by
  induction hbody with
  | nil =>
      rw [List.nil_append, opensIn_quoted_of_ne (hclosing.ne_backslash hquote)]
      exact if_pos hclosing
  | escape b _ ih => exact ih
  | plain hback hopen _ ih =>
      rw [List.cons_append, opensIn_quoted_of_ne hback, if_neg (not_or.mpr hopen), ih]

/-- A text block is read up to the three double quotes that close it. -/
theorem BlockBody.opensIn (hbody : BlockBody body) :
    opensIn .textBlock (body ++ (blockQuotes ++ after)) = opensIn .code after := by
  induction hbody with
  | nil => rfl
  | escape b _ ih => exact ih
  | plain hback hopen _ ih =>
      rw [List.cons_append, opensIn_block_plain hback (mt prefix_of_prefix_append hopen), ih]

/-- A lexeme opens no comment. -/
theorem IsLexeme.opensIn {lexeme : List UInt8} (h : IsLexeme lexeme after) :
    opensIn .code (lexeme ++ after) = opensIn .code after := by
  cases h with
  | @block body _ hbody =>
      rw [List.append_assoc, List.append_assoc]
      exact hbody.opensIn
  | @literal quote closing body _ hquote hopen hbody hclosing =>
      rw [List.cons_append, List.append_assoc, List.singleton_append, opensIn_literal hquote hopen]
      exact hbody.opensIn hquote hclosing
  | byte hquote hcomment => exact opensIn_byte hquote hcomment

theorem Lexemes.opensIn {p q : List UInt8} (h : Lexemes p q) :
    opensIn .code (p ++ q) = opensIn .code q := by
  induction h with
  | nil => rfl
  | cons first _ ih => rw [List.append_assoc, first.opensIn, ih]

/-- What a literal or a text block holds is read backslash by backslash, each with the byte behind
it, and otherwise byte by byte. -/
theorem body_induction {motive : List UInt8 → Prop} (nil : motive [])
    (lone : motive [backslash])
    (escape : ∀ b rest, motive rest → motive (backslash :: b :: rest))
    (plain : ∀ b rest, b ≠ backslash → motive rest → motive (b :: rest)) :
    ∀ bytes, motive bytes
  | [] => nil
  | [b] => by
      by_cases hb : b = backslash
      · exact hb ▸ lone
      · exact plain b [] hb nil
  | b :: c :: rest => by
      by_cases hb : b = backslash
      · exact hb ▸ escape c rest (body_induction nil lone escape plain rest)
      · exact plain b (c :: rest) hb (body_induction nil lone escape plain (c :: rest))

/-- A literal that is never closed hides the rest. -/
theorem opensIn_quoted_eq_false (h : ∀ body closing after, LiteralBody quote body →
    Closes quote closing → rest ≠ body ++ closing :: after) :
    opensIn (.quoted quote) rest = false := by
  induction rest using body_induction with
  | nil => rfl
  | lone => rfl
  | escape b rest ih =>
      apply ih
      intro body closing after hbody hclosing hrest
      exact h _ closing after (hbody.escape b) hclosing (by rw [hrest]; rfl)
  | plain b rest hback ih =>
      have hopen : ¬ Closes quote b := fun hclosing => h [] b rest .nil hclosing rfl
      rw [opensIn_quoted_of_ne hback]
      refine (if_neg hopen).trans (ih ?_)
      intro body closing after hbody hclosing hrest
      exact h _ closing after (hbody.plain hback (not_or.mp hopen)) hclosing (by rw [hrest]; rfl)

/-- A text block that is never closed hides the rest. -/
theorem opensIn_block_eq_false
    (h : ∀ body after, BlockBody body → rest ≠ body ++ (blockQuotes ++ after)) :
    opensIn .textBlock rest = false := by
  induction rest using body_induction with
  | nil => rfl
  | lone => rfl
  | escape b rest ih =>
      apply ih
      intro body after hbody hrest
      exact h _ after (hbody.escape b) (by rw [hrest]; rfl)
  | plain b rest hback ih =>
      have hopen : ¬ blockQuotes <+: b :: rest := by
        rintro ⟨after, hafter⟩
        exact h [] after .nil hafter.symm
      rw [opensIn_block_plain hback hopen]
      apply ih
      intro body after hbody hrest
      have hopen' : ¬ blockQuotes <+: b :: (body ++ blockQuotes) := by
        intro hprefix
        apply hopen
        rw [hrest, ← List.append_assoc]
        exact hprefix.trans ⟨after, rfl⟩
      exact h _ after (hbody.plain hback hopen') (by rw [hrest]; rfl)

theorem Unclosed.opensIn (h : Unclosed rest) : opensIn .code rest = false := by
  cases h with
  | block hopen => exact opensIn_block_eq_false hopen
  | literal hquote hblock hopen =>
      rw [opensIn_literal hquote hblock]
      exact opensIn_quoted_eq_false hopen

end Reading

section Sequences

variable {lexeme lexeme' rest after after' p q p' q' : List UInt8}

theorem IsLexeme.ne_nil (h : IsLexeme lexeme after) : lexeme ≠ [] := by
  cases h <;> simp [blockQuotes]

/-- A text begins with a lexeme, unless it comes to an end. -/
theorem ends_or_exists_lexeme (bytes : List UInt8) :
    Ends bytes ∨ ∃ lexeme after, bytes = lexeme ++ after ∧ IsLexeme lexeme after := by
  by_cases hblock : blockQuotes <+: bytes
  · obtain ⟨rest, rfl⟩ := hblock
    by_cases hclosed : ∃ body after, BlockBody body ∧ rest = body ++ (blockQuotes ++ after)
    · obtain ⟨body, after, hbody, rfl⟩ := hclosed
      exact Or.inr ⟨_, after, by simp only [List.append_assoc], .block hbody⟩
    · refine Or.inl (.unclosed (.block ?_))
      exact fun body after hbody hrest => hclosed ⟨body, after, hbody, hrest⟩
  · match bytes with
    | [] => exact Or.inl (.text rfl)
    | b :: rest =>
        by_cases hquote : IsQuote b
        · by_cases hclosed : ∃ body closing after, LiteralBody b body ∧ Closes b closing ∧
              rest = body ++ closing :: after
          · obtain ⟨body, closing, after, hbody, hclosing, rfl⟩ := hclosed
            exact Or.inr ⟨_, after, by simp, .literal hquote hblock hbody hclosing⟩
          · refine Or.inl (.unclosed (.literal hquote hblock ?_))
            exact fun body closing after hbody hclosing hrest =>
              hclosed ⟨body, closing, after, hbody, hclosing, hrest⟩
        · by_cases hcomment : OpensComment (b :: rest)
          · exact Or.inl (.comment hcomment)
          · exact Or.inr ⟨[b], rest, rfl, .byte hquote hcomment⟩

theorem Ends.opensIn_eq_true_iff (h : Ends rest) :
    opensIn .code rest = true ↔ OpensComment rest := by
  refine ⟨fun hopens => ?_, OpensComment.opensIn⟩
  cases h with
  | comment hcomment => exact hcomment
  | text hnil =>
      rw [hnil] at hopens
      cases hopens
  | unclosed hunclosed =>
      rw [hunclosed.opensIn] at hopens
      cases hopens

theorem Ends.opensIn_eq_false_iff (h : Ends rest) :
    opensIn .code rest = false ↔ rest = [] ∨ Unclosed rest := by
  constructor
  · intro hopens
    cases h with
    | comment hcomment =>
        rw [hcomment.opensIn] at hopens
        cases hopens
    | text hnil => exact Or.inl hnil
    | unclosed hunclosed => exact Or.inr hunclosed
  · rintro (rfl | hunclosed)
    · rfl
    · exact hunclosed.opensIn

/-- **Every text is read to an end.** A text is a sequence of lexemes up to where it comes to an
end. -/
theorem exists_lexemes (bytes : List UInt8) :
    ∃ p q, bytes = p ++ q ∧ Lexemes p q ∧ Ends q := by
  induction hlength : bytes.length using Nat.strongRecOn generalizing bytes with
  | ind length ih =>
      rcases ends_or_exists_lexeme bytes with hends | ⟨lexeme, after, rfl, hlexeme⟩
      · exact ⟨[], bytes, rfl, .nil, hends⟩
      · have hshorter : after.length < length := by
          have := List.length_pos_iff.mpr hlexeme.ne_nil
          rw [← hlength, List.length_append]
          omega
        obtain ⟨p, q, rfl, hlexemes, hends⟩ := ih after.length hshorter after rfl
        exact ⟨lexeme ++ p, q, (List.append_assoc _ _ _).symm, .cons hlexeme hlexemes, hends⟩

/-- A text block is closed by the first three double quotes that it does not hold itself. -/
theorem BlockBody.unique {body body' : List UInt8} (h : BlockBody body) (h' : BlockBody body')
    (heq : body ++ (blockQuotes ++ after) = body' ++ (blockQuotes ++ after')) : body = body' := by
  induction h generalizing body' with
  | nil =>
      cases h' with
      | nil => rfl
      | escape => cases heq
      | plain hback hopen => exact absurd (prefix_of_prefix_append ⟨after, heq⟩) hopen
  | escape b _ ih =>
      cases h' with
      | nil => cases heq
      | escape b' rest' =>
          obtain ⟨-, hescape⟩ := List.cons.inj heq
          obtain ⟨rfl, hrest⟩ := List.cons.inj hescape
          rw [ih rest' hrest]
      | plain hback => exact absurd (List.cons.inj heq).1.symm hback
  | plain hback hopen _ ih =>
      cases h' with
      | nil => exact absurd (prefix_of_prefix_append ⟨after', heq.symm⟩) hopen
      | escape => exact absurd (List.cons.inj heq).1 hback
      | plain _ _ rest' =>
          obtain ⟨rfl, hrest⟩ := List.cons.inj heq
          rw [ih rest' hrest]

/-- A literal is closed by the first byte that closes it and is not escaped. -/
theorem LiteralBody.unique {quote closing closing' : UInt8} {body body' : List UInt8}
    (hquote : IsQuote quote) (h : LiteralBody quote body) (h' : LiteralBody quote body')
    (hclosing : Closes quote closing) (hclosing' : Closes quote closing')
    (heq : body ++ closing :: after = body' ++ closing' :: after') :
    body = body' ∧ closing = closing' := by
  induction h generalizing body' with
  | nil =>
      cases h' with
      | nil => exact ⟨rfl, (List.cons.inj heq).1⟩
      | escape => exact absurd (List.cons.inj heq).1 (hclosing.ne_backslash hquote)
      | plain _ hopen =>
          rw [← (List.cons.inj heq).1] at hopen
          exact absurd hclosing (not_or.mpr hopen)
  | escape b _ ih =>
      cases h' with
      | nil => exact absurd (List.cons.inj heq).1.symm (hclosing'.ne_backslash hquote)
      | escape b' rest' =>
          obtain ⟨-, hescape⟩ := List.cons.inj heq
          obtain ⟨rfl, hrest⟩ := List.cons.inj hescape
          obtain ⟨rfl, hsame⟩ := ih rest' hrest
          exact ⟨rfl, hsame⟩
      | plain hback => exact absurd (List.cons.inj heq).1.symm hback
  | plain hback hopen _ ih =>
      cases h' with
      | nil =>
          rw [(List.cons.inj heq).1] at hopen
          exact absurd hclosing' (not_or.mpr hopen)
      | escape => exact absurd (List.cons.inj heq).1 hback
      | plain _ _ rest' =>
          obtain ⟨rfl, hrest⟩ := List.cons.inj heq
          obtain ⟨rfl, hsame⟩ := ih rest' hrest
          exact ⟨rfl, hsame⟩

/-- Three double quotes begin a text block and nothing else. -/
theorem IsLexeme.of_blockQuotes (h : IsLexeme lexeme after)
    (hblock : blockQuotes <+: lexeme ++ after) :
    ∃ body, BlockBody body ∧ lexeme = blockQuotes ++ (body ++ blockQuotes) := by
  cases h with
  | @block body _ hbody => exact ⟨body, hbody, rfl⟩
  | literal _ hopen =>
      rw [List.cons_append, List.append_assoc, List.singleton_append] at hblock
      exact absurd hblock hopen
  | byte hquote =>
      obtain ⟨rest, hrest⟩ := hblock
      exact absurd (Or.inl (List.cons.inj hrest).1.symm) hquote

/-- A quote that is not the first of three begins a literal and nothing else. -/
theorem IsLexeme.of_quote {quote : UInt8} (h : IsLexeme lexeme after)
    (heq : lexeme ++ after = quote :: rest) (hquote : IsQuote quote)
    (hblock : ¬ blockQuotes <+: quote :: rest) :
    ∃ body closing, LiteralBody quote body ∧ Closes quote closing ∧
      lexeme = quote :: (body ++ [closing]) := by
  cases h with
  | block =>
      rw [← heq, List.append_assoc] at hblock
      exact absurd (List.prefix_append _ _) hblock
  | @literal quote' closing body _ _ _ hbody hclosing =>
      obtain ⟨rfl, -⟩ := List.cons.inj heq
      exact ⟨body, closing, hbody, hclosing, rfl⟩
  | byte hquote' =>
      rw [← (List.cons.inj heq).1] at hquote
      exact absurd hquote hquote'

/-- Any other byte is a lexeme of its own. -/
theorem IsLexeme.of_not_isQuote {b : UInt8} (h : IsLexeme lexeme after)
    (heq : lexeme ++ after = b :: rest) (hquote : ¬ IsQuote b) :
    lexeme = [b] ∧ ¬ OpensComment (b :: rest) := by
  cases h with
  | block => exact absurd (Or.inl (List.cons.inj heq).1.symm) hquote
  | literal hquote' =>
      rw [(List.cons.inj heq).1] at hquote'
      exact absurd hquote' hquote
  | byte _ hcomment =>
      obtain ⟨rfl, rfl⟩ := List.cons.inj heq
      exact ⟨rfl, hcomment⟩

/-- Where a text comes to an end it does not go on with a lexeme. -/
theorem Ends.not_isLexeme (h : Ends (lexeme ++ after)) : ¬ IsLexeme lexeme after := by
  intro hlexeme
  generalize hbytes : lexeme ++ after = bytes at h
  cases h with
  | text h => exact hlexeme.ne_nil (List.append_eq_nil_iff.mp (hbytes.trans h)).1
  | comment h =>
      match bytes with
      | [] => exact absurd h (by decide)
      | b :: rest => exact (hlexeme.of_not_isQuote hbytes h.not_isQuote).2 h
  | unclosed h =>
      cases h with
      | block hopen =>
          obtain ⟨body, hbody, rfl⟩ := hlexeme.of_blockQuotes ⟨_, hbytes.symm⟩
          simp only [List.append_assoc, List.append_cancel_left_eq] at hbytes
          exact hopen body after hbody hbytes.symm
      | literal hquote hblock hopen =>
          obtain ⟨body, closing, hbody, hclosing, rfl⟩ := hlexeme.of_quote hbytes hquote hblock
          refine hopen body closing after hbody hclosing ?_
          simpa using (List.cons.inj hbytes).2.symm

/-- A text begins with one lexeme at most. -/
theorem IsLexeme.unique (h : IsLexeme lexeme after) (h' : IsLexeme lexeme' after')
    (heq : lexeme ++ after = lexeme' ++ after') : lexeme = lexeme' := by
  cases h with
  | @block body _ hbody =>
      obtain ⟨body', hbody', rfl⟩ := h'.of_blockQuotes (by simp [← heq])
      simp only [List.append_assoc, List.append_cancel_left_eq] at heq
      rw [hbody.unique hbody' heq]
  | @literal quote closing body _ hquote hopen hbody hclosing =>
      rw [List.cons_append, List.append_assoc, List.singleton_append] at heq
      obtain ⟨body', closing', hbody', hclosing', rfl⟩ := h'.of_quote heq.symm hquote hopen
      rw [List.cons_append, List.append_assoc, List.singleton_append] at heq
      obtain ⟨rfl, rfl⟩ := hbody.unique hquote hbody' hclosing hclosing' (List.cons.inj heq).2
      rfl
  | byte hquote => exact (h'.of_not_isQuote heq.symm hquote).1.symm

/-- **A text is read in one way only.** -/
theorem Lexemes.unique (h : Lexemes p q) (h' : Lexemes p' q') (hends : Ends q) (hends' : Ends q')
    (heq : p ++ q = p' ++ q') : p = p' := by
  induction h generalizing p' with
  | nil =>
      cases h' with
      | nil => rfl
      | cons first others =>
          rw [List.nil_append] at heq
          rw [heq, List.append_assoc] at hends
          exact absurd first hends.not_isLexeme
  | @cons lexeme rest after first _ ih =>
      rw [List.append_assoc] at heq
      cases h' with
      | nil =>
          rw [List.nil_append] at heq
          rw [← heq] at hends'
          exact absurd first hends'.not_isLexeme
      | @cons lexeme' rest' _ first' others' =>
          rw [List.append_assoc] at heq
          obtain rfl := first.unique first' heq
          rw [ih others' hends (List.append_cancel_left heq)]

end Sequences

/-- **The grammar of comments.** A text holds a comment exactly if one opens behind a sequence of
lexemes, and it holds none exactly if it is a sequence of lexemes up to its end or up to a text
block or a literal that is never closed. For every text one of the two is so, with one sequence
only. -/
theorem hasComment_iff_lexemes (text : String) :
    (hasComment text = true ↔
      ∃ p q, text.toUTF8.toList = p ++ q ∧ Lexemes p q ∧ OpensComment q) ∧
    (hasComment text = false ↔
      ∃ p q, text.toUTF8.toList = p ++ q ∧ Lexemes p q ∧ (q = [] ∨ Unclosed q)) ∧
    ∃! p, ∃ q, text.toUTF8.toList = p ++ q ∧ Lexemes p q ∧ Ends q := by
  obtain ⟨p, q, hbytes, hlexemes, hends⟩ := exists_lexemes text.toUTF8.toList
  -- Behind lexemes the reader stands as at the beginning of a text.
  have hread : ∀ p q, text.toUTF8.toList = p ++ q → Lexemes p q →
      hasComment text = opensIn .code q := by
    intro p q hbytes hlexemes
    rw [hasComment, hbytes, hlexemes.opensIn]
  refine ⟨⟨?found, ?holds⟩, ⟨?missed, ?free⟩, ?unique⟩
  case found =>
    intro h
    rw [hread p q hbytes hlexemes, hends.opensIn_eq_true_iff] at h
    exact ⟨p, q, hbytes, hlexemes, h⟩
  case holds =>
    rintro ⟨p, q, hbytes, hlexemes, hcomment⟩
    rw [hread p q hbytes hlexemes, hcomment.opensIn]
  case missed =>
    intro h
    rw [hread p q hbytes hlexemes, hends.opensIn_eq_false_iff] at h
    exact ⟨p, q, hbytes, hlexemes, h⟩
  case free =>
    rintro ⟨p, q, hbytes, hlexemes, hend⟩
    have hends : Ends q := hend.elim .text .unclosed
    rw [hread p q hbytes hlexemes, hends.opensIn_eq_false_iff]
    exact hend
  case unique =>
    refine ⟨p, ⟨q, hbytes, hlexemes, hends⟩, ?_⟩
    rintro p' ⟨q', hbytes', hlexemes', hends'⟩
    exact hlexemes'.unique hlexemes hends' hends (hbytes'.symm.trans hbytes)

end CallMigration.Comment
