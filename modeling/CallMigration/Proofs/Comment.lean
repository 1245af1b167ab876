import CallMigration.Comment
import CallMigration.Proofs.Text.Utf8

/-!
# Comments around a piece of text

Looking for a comment looks ahead by up to three bytes. Read byte by byte, it is a walk over places
(`Comment.Place`): each byte leads from one place to the next, and a comment is found when the walk
comes to the place `comment` (`Comment.hasComment_iff`). So a piece of a longer text is read from
the place to which the text before it leads. Text without slashes and quotes leads nowhere, and text
without slashes opens no comment, unless it begins with the star of one. So a comment that is not in
a text itself comes from a slash, a quote or a star around it (`Comment.hasComment_surrounded`).
-/

namespace CallMigration.Comment

section Lookahead

-- Every lemma of this section opens the reader, whose equations are made once, here.
attribute [local simp] opensIn

variable {b quote : UInt8} {rest : List UInt8}

theorem opensIn_code_of_ne (hslash : b ≠ slash) (hquote : b ≠ doubleQuote) :
    opensIn .code (b :: rest) =
      if b = singleQuote then opensIn (.quoted b) rest else opensIn .code rest := by
  rw [opensIn]
  · simp only [hquote, false_or]
  · exact fun _ heq _ => hslash heq
  · exact fun _ heq _ => hslash heq
  · exact fun _ heq _ => hquote heq

theorem opensIn_code_slash :
    opensIn .code (slash :: b :: rest) =
      if b = slash ∨ b = star then true else opensIn .code (b :: rest) := by
  split
  · next h => rcases h with rfl | rfl <;> rfl
  · next h =>
      rw [opensIn]
      · rfl
      · exact fun _ _ heq => h (Or.inl (List.cons.inj heq).1)
      · exact fun _ _ heq => h (Or.inr (List.cons.inj heq).1)
      · exact fun _ heq _ => absurd heq (by decide)

theorem opensIn_quoted_of_ne (h : b ≠ backslash) :
    opensIn (.quoted quote) (b :: rest) =
      if b = quote ∨ b = lineFeed then opensIn .code rest else opensIn (.quoted quote) rest := by
  rw [opensIn]
  · exact fun heq _ => h heq
  · exact fun _ _ heq _ => h heq

theorem opensIn_code_quote (h : b ≠ doubleQuote) :
    opensIn .code (doubleQuote :: b :: rest) = opensIn (.quoted doubleQuote) (b :: rest) := by
  rw [opensIn]
  · rfl
  · exact fun _ heq _ => absurd heq (by decide)
  · exact fun _ heq _ => absurd heq (by decide)
  · exact fun _ _ heq => h (List.cons.inj heq).1

/-- Two double quotes that a third does not follow are an empty literal. -/
theorem opensIn_code_quotes (h : b ≠ doubleQuote) :
    opensIn .code (doubleQuote :: doubleQuote :: b :: rest) = opensIn .code (b :: rest) := by
  rw [opensIn]
  · rw [if_pos (Or.inl rfl), opensIn_quoted_of_ne (by decide), if_pos (Or.inl rfl)]
  · exact fun _ heq _ => absurd heq (by decide)
  · exact fun _ heq _ => absurd heq (by decide)
  · exact fun _ _ heq => h (List.cons.inj (List.cons.inj heq).2).1

theorem opensIn_block_of_ne (hback : b ≠ backslash) (hquote : b ≠ doubleQuote) :
    opensIn .textBlock (b :: rest) = opensIn .textBlock rest := by
  rw [opensIn]
  · exact fun heq _ => hback heq
  · exact fun _ _ heq _ => hback heq
  · exact fun _ heq _ => hquote heq

theorem opensIn_block_quote (h : b ≠ doubleQuote) :
    opensIn .textBlock (doubleQuote :: b :: rest) = opensIn .textBlock (b :: rest) := by
  rw [opensIn]
  · exact fun heq _ => absurd heq (by decide)
  · exact fun _ _ heq _ => absurd heq (by decide)
  · exact fun _ _ heq => h (List.cons.inj heq).1

theorem opensIn_block_quotes (h : b ≠ doubleQuote) :
    opensIn .textBlock (doubleQuote :: doubleQuote :: b :: rest) =
      opensIn .textBlock (b :: rest) := by
  rw [opensIn, opensIn_block_quote h]
  · exact fun heq _ => absurd heq (by decide)
  · exact fun _ _ heq _ => absurd heq (by decide)
  · exact fun _ _ heq => h (List.cons.inj (List.cons.inj heq).2).1

end Lookahead

/-- Where a reader stands who has read source text up to some byte and does not look ahead. -/
inductive Place where
  /-- Program text, outside any literal. -/
  | code
  /-- Program text, behind a slash. -/
  | slash
  /-- Behind a double quote that opens a literal or is the first of the three of a text block. -/
  | oneQuote
  /-- Behind two double quotes, which are an empty literal unless a third one follows. -/
  | twoQuotes
  /-- A literal opened by the given quote. -/
  | quoted (quote : UInt8)
  /-- A literal opened by the given quote, behind a backslash. -/
  | quotedEscape (quote : UInt8)
  | block
  /-- A text block, behind a backslash. -/
  | blockEscape
  /-- A text block, behind a double quote. -/
  | blockQuote
  /-- A text block, behind two double quotes. -/
  | blockQuotes
  /-- Behind the opening of a comment. -/
  | comment
deriving DecidableEq

namespace Place

/-- The place behind a byte of program text. -/
def inCode (b : UInt8) : Place :=
  if b = Comment.slash then .slash
  else if b = doubleQuote then .oneQuote
  else if b = singleQuote then .quoted b
  else .code

/-- The place behind a byte of a literal. -/
def inQuoted (quote b : UInt8) : Place :=
  if b = backslash then .quotedEscape quote
  else if b = quote ∨ b = lineFeed then .code
  else .quoted quote

/-- The place behind a byte of a text block, where a double quote leads to the given one. -/
def inBlock (behindQuote : Place) (b : UInt8) : Place :=
  if b = backslash then .blockEscape
  else if b = doubleQuote then behindQuote
  else .block

/-- The place behind one more byte. -/
def step : Place → UInt8 → Place
  | code, b => inCode b
  | slash, b => if b = Comment.slash ∨ b = star then .comment else inCode b
  | oneQuote, b => if b = doubleQuote then .twoQuotes else inQuoted doubleQuote b
  | twoQuotes, b => if b = doubleQuote then .block else inCode b
  | quoted quote, b => inQuoted quote b
  | quotedEscape quote, _ => .quoted quote
  | block, b => inBlock .blockQuote b
  | blockEscape, _ => .block
  | blockQuote, b => inBlock .blockQuotes b
  | blockQuotes, b => inBlock .code b
  | comment, _ => .comment

/-- The place behind further bytes. -/
def walk (p : Place) (bytes : List UInt8) : Place := bytes.foldl step p

/-- Whether a comment opens in the bytes that follow a place. -/
def opens : Place → List UInt8 → Bool
  | code, rest => opensIn .code rest
  | slash, rest => opensIn .code (Comment.slash :: rest)
  | oneQuote, rest => opensIn .code (doubleQuote :: rest)
  | twoQuotes, rest => opensIn .code (doubleQuote :: doubleQuote :: rest)
  | quoted quote, rest => opensIn (.quoted quote) rest
  | quotedEscape quote, rest => opensIn (.quoted quote) (backslash :: rest)
  | block, rest => opensIn .textBlock rest
  | blockEscape, rest => opensIn .textBlock (backslash :: rest)
  | blockQuote, rest => opensIn .textBlock (doubleQuote :: rest)
  | blockQuotes, rest => opensIn .textBlock (doubleQuote :: doubleQuote :: rest)
  | comment, _ => true

section Walk

variable {p : Place} {b quote : UInt8} {rest : List UInt8}

theorem opens_inCode : (inCode b).opens rest = opensIn .code (b :: rest) := by
  unfold inCode
  split
  · next h =>
      rw [h]
      rfl
  · next hslash =>
      split
      · next h =>
          rw [h]
          rfl
      · next hquote =>
          rw [opensIn_code_of_ne hslash hquote]
          split
          · rfl
          · rfl

theorem opens_inQuoted : (inQuoted quote b).opens rest = opensIn (.quoted quote) (b :: rest) := by
  unfold inQuoted
  split
  · next h =>
      rw [h]
      rfl
  · next hback =>
      rw [opensIn_quoted_of_ne hback]
      split
      · rfl
      · rfl

/-- Double quotes before a byte of a text block matter only if the byte is another one. -/
theorem opens_inBlock {behindQuote : Place} {whole : List UInt8}
    (hquote : b = doubleQuote → behindQuote.opens rest = opensIn .textBlock whole)
    (hother : b ≠ doubleQuote → opensIn .textBlock whole = opensIn .textBlock (b :: rest)) :
    (inBlock behindQuote b).opens rest = opensIn .textBlock whole := by
  unfold inBlock
  split
  · next h =>
      subst h
      exact (hother (by decide)).symm
  · next hback =>
      split
      · next h => exact hquote h
      · next h =>
          rw [hother h, opensIn_block_of_ne hback h]
          rfl

/-- One byte more on the way, one byte less ahead. -/
theorem opens_cons (p : Place) (b : UInt8) (rest : List UInt8) :
    p.opens (b :: rest) = (p.step b).opens rest := by
  cases p with
  | code => exact opens_inCode.symm
  | slash =>
      rw [opens, opensIn_code_slash, step]
      split
      · rfl
      · exact opens_inCode.symm
  | oneQuote =>
      rw [opens, step]
      split
      · next h =>
          rw [h]
          rfl
      · next h => rw [opensIn_code_quote h, opens_inQuoted]
  | twoQuotes =>
      rw [opens, step]
      split
      · next h =>
          rw [h]
          rfl
      · next h => rw [opensIn_code_quotes h, opens_inCode]
  | quoted quote => exact opens_inQuoted.symm
  | quotedEscape quote => rfl
  | block =>
      refine (opens_inBlock (fun h => ?_) fun _ => rfl).symm
      rw [h]
      rfl
  | blockEscape => rfl
  | blockQuote =>
      refine (opens_inBlock (fun h => ?_) opensIn_block_quote).symm
      rw [h]
      rfl
  | blockQuotes =>
      refine (opens_inBlock (fun h => ?_) opensIn_block_quotes).symm
      rw [h]
      rfl
  | comment => rfl

theorem opens_nil (p : Place) : p.opens [] = decide (p = .comment) := by
  cases p <;> rfl

/-- A comment opens exactly if the walk over the bytes comes to one. -/
theorem opens_eq (p : Place) (bytes : List UInt8) :
    p.opens bytes = decide (p.walk bytes = .comment) := by
  induction bytes generalizing p with
  | nil => exact opens_nil p
  | cons b rest ih => rw [opens_cons, ih, walk, walk, List.foldl_cons]

theorem walk_append (p : Place) (bytes more : List UInt8) :
    p.walk (bytes ++ more) = (p.walk bytes).walk more := List.foldl_append

/-- Bytes that begin neither a comment nor a literal leave a reader in program text. -/
theorem walk_code_of_plain {bytes : List UInt8}
    (h : ∀ b ∈ bytes, b ≠ Comment.slash ∧ b ≠ doubleQuote ∧ b ≠ singleQuote) :
    code.walk bytes = .code := by
  induction bytes with
  | nil => rfl
  | cons b rest ih =>
      obtain ⟨hslash, hdouble, hsingle⟩ := h b List.mem_cons_self
      have hstep : code.step b = .code := by
        rw [step, inCode, if_neg hslash, if_neg hdouble, if_neg hsingle]
      rw [walk, List.foldl_cons, hstep]
      exact ih fun b hb => h b (List.mem_cons_of_mem _ hb)

/-- Only a slash leads behind a slash, and only a slash or a star leads on to a comment. -/
theorem step_of_ne_slash (hp : p ≠ .comment) (hslash : b ≠ Comment.slash)
    (hstar : p = .slash → b ≠ star) : p.step b ≠ .comment ∧ p.step b ≠ .slash := by
  have hcode : inCode b ≠ .comment ∧ inCode b ≠ .slash := by
    unfold inCode
    rw [if_neg hslash]
    split
    · simp
    · split <;> simp
  have hquoted : ∀ quote, inQuoted quote b ≠ .comment ∧ inQuoted quote b ≠ .slash := by
    intro quote
    unfold inQuoted
    split
    · simp
    · split <;> simp
  have hblock : ∀ behind : Place, behind ≠ .comment ∧ behind ≠ .slash →
      inBlock behind b ≠ .comment ∧ inBlock behind b ≠ .slash := by
    intro behind hbehind
    unfold inBlock
    split
    · simp
    · split
      · exact hbehind
      · simp
  cases p with
  | code => exact hcode
  | slash =>
      rw [step, if_neg (not_or.mpr ⟨hslash, hstar rfl⟩)]
      exact hcode
  | oneQuote =>
      rw [step]
      split
      · simp
      · exact hquoted _
  | twoQuotes =>
      rw [step]
      split
      · simp
      · exact hcode
  | quoted quote => exact hquoted quote
  | quotedEscape quote => simp [step]
  | block => exact hblock _ (by simp)
  | blockEscape => simp [step]
  | blockQuote => exact hblock _ (by simp)
  | blockQuotes => exact hblock _ (by simp)
  | comment => exact absurd rfl hp

/-- Bytes without a slash open no comment, unless they begin with a star behind a slash. -/
theorem walk_ne_comment {bytes : List UInt8} (hp : p ≠ .comment)
    (hslash : Comment.slash ∉ bytes) (hstar : p = .slash → bytes.head? ≠ some star) :
    p.walk bytes ≠ .comment := by
  induction bytes generalizing p with
  | nil => exact hp
  | cons b rest ih =>
      have hne : b ≠ Comment.slash := fun h => hslash (h ▸ List.mem_cons_self)
      obtain ⟨hcomment, hbehind⟩ := step_of_ne_slash hp hne
        fun h heq => hstar h (congrArg some heq)
      rw [walk, List.foldl_cons]
      exact ih hcomment (fun h => hslash (List.mem_cons_of_mem _ h)) fun h => absurd h hbehind

end Walk

end Place

/-- A text holds a comment exactly if the walk over its bytes comes to one. -/
theorem hasComment_iff {text : String} :
    hasComment text = true ↔ Place.code.walk (Text.bytesOf text.toList) = .comment := by
  rw [hasComment, Text.toList_toUTF8]
  show Place.code.opens _ = true ↔ _
  rw [Place.opens_eq, decide_eq_true_iff]

/-- Whether the text before and the text behind another one open no comment around it: before it no
slash and no quote stands, behind it no slash and directly behind it no star. -/
structure Harmless (before after : String) : Prop where
  plain : ∀ c ∈ before.toList, c ≠ '/' ∧ c ≠ '"' ∧ c ≠ '\''
  noSlash : '/' ∉ after.toList
  noStar : after.toList.head? ≠ some '*'

/-- **Where a comment around a text can open.** A text without comments has none in harmless
surroundings. -/
theorem hasComment_surrounded {before text after : String} (h : Harmless before after)
    (htext : hasComment text = false) : hasComment (before ++ text ++ after) = false := by
  rw [Bool.eq_false_iff, ne_eq, hasComment_iff] at htext ⊢
  rw [String.toList_append, String.toList_append, Text.bytesOf_append, Text.bytesOf_append,
    Place.walk_append, Place.walk_append]
  have hplain : Place.code.walk (Text.bytesOf before.toList) = .code := by
    apply Place.walk_code_of_plain
    intro b hb
    refine ⟨?_, ?_, ?_⟩ <;> rintro rfl
    · exact (h.plain _ (Text.mem_of_mem_bytesOf (by decide : '/'.toNat < 128) hb)).1 rfl
    · exact (h.plain _ (Text.mem_of_mem_bytesOf (by decide : '"'.toNat < 128) hb)).2.1 rfl
    · exact (h.plain _ (Text.mem_of_mem_bytesOf (by decide : '\''.toNat < 128) hb)).2.2 rfl
  rw [hplain]
  refine Place.walk_ne_comment htext ?_ fun _ => ?_
  · exact mt (Text.mem_of_mem_bytesOf (by decide : '/'.toNat < 128)) h.noSlash
  · exact mt (Text.head?_of_head?_bytesOf (by decide : '*'.toNat < 128)) h.noStar

end CallMigration.Comment
