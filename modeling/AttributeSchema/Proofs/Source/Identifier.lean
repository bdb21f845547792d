import Mathlib
import AttributeSchema.Proofs.Text.Blank
import AttributeSchema.Source.Parser
/-!
# Identifiers are read as they are spelled

A word is spelled as an identifier character after the other, with or without the mark of raw words. Reading
an identifier gives a word, and reading the spelling of a word gives nothing else than that word.
-/

namespace AttributeSchema.Source

open Text (startsIdentifier continuesIdentifier isBlank)

/-! ## Characters of identifiers -/

theorem ne_of_startsIdentifier {c d : Char} (hc : startsIdentifier c = true)
    (hd : startsIdentifier d = false) : c ≠ d := by
  rintro rfl
  rw [hc] at hd
  exact Bool.noConfusion hd

theorem ne_of_continuesIdentifier {c d : Char} (hc : continuesIdentifier c = true)
    (hd : continuesIdentifier d = false) : c ≠ d := by
  rintro rfl
  rw [hc] at hd
  exact Bool.noConfusion hd

def spacesBeyond : Text.Ranges :=
  [(0x85, 0x85), (0xA0, 0xA0), (0x1680, 0x1680), (0x2000, 0x200F), (0x2028, 0x2029),
    (0x202F, 0x202F), (0x205F, 0x205F), (0x3000, 0x3000), (0xFEFF, 0xFEFF)]

theorem identifierStart_disjoint :
    ∀ r ∈ Text.identifierStart, ∀ b ∈ spacesBeyond, r.2 < b.1 ∨ b.2 < r.1 := by
  decide +kernel

/-- An identifier starts with an underscore, a letter of ASCII or a letter beyond it. -/
theorem startsIdentifier_cases {c : Char} (h : startsIdentifier c = true) :
    c = '_' ∨ c.isAlpha = true ∨
      ∃ r ∈ Text.identifierStart, r.1 ≤ c.toNat ∧ c.toNat ≤ r.2 := by
  rw [startsIdentifier, Bool.or_eq_true, beq_iff_eq] at h
  rcases h with h | h
  · exact .inl h
  · split at h
    · exact .inr (.inl h)
    · exact .inr (.inr ((Text.Ranges.contains_iff _ _).1 h))

/-- No letter is a blank, a direction mark or the mark of the order of bytes. -/
theorem not_mem_spacesBeyond {c : Char} (h : startsIdentifier c = true) :
    ∀ b ∈ spacesBeyond, ¬ (b.1 ≤ c.toNat ∧ c.toNat ≤ b.2) := by
  intro b hb hc
  rcases startsIdentifier_cases h with rfl | halpha | ⟨r, hr, hlow, hhigh⟩
  · have hbeyond : ∀ b ∈ spacesBeyond, ¬ (b.1 ≤ '_'.toNat) := by decide
    exact hbeyond b hb hc.1
  · have hbeyond : ∀ b ∈ spacesBeyond, 128 ≤ b.1 := by decide
    have hlow := hbeyond b hb
    have hascii : c.toNat < 128 := by
      simp only [Char.isAlpha, Char.isUpper, Char.isLower, Bool.or_eq_true, Bool.and_eq_true,
        decide_eq_true_eq, UInt32.le_iff_toNat_le] at halpha
      change c.val.toNat < 128
      rcases halpha with ⟨_, hhigh⟩ | ⟨_, hhigh⟩
      · exact Nat.lt_of_le_of_lt hhigh (by decide)
      · exact Nat.lt_of_le_of_lt hhigh (by decide)
    omega
  · rcases identifierStart_disjoint r hr b hb with hlt | hlt
    · omega
    · omega

theorem isSpace_of_startsIdentifier {c : Char} (h : startsIdentifier c = true) :
    Lexer.isSpace c = false := by
  have hbeyond := not_mem_spacesBeyond h
  simp only [spacesBeyond, List.forall_mem_cons, List.not_mem_nil, false_implies, implies_true,
    and_true] at hbeyond
  have hne {d : Char} (hd : startsIdentifier d = false) : c.toNat ≠ d.toNat := by
    intro heq
    exact ne_of_startsIdentifier h hd (Char.toNat_inj.1 heq)
  have htab := hne (d := '\t') (by decide)
  have hfeed := hne (d := '\n') (by decide)
  have hvertical := hne (d := '\x0b') (by decide)
  have hform := hne (d := '\x0c') (by decide)
  have hreturn := hne (d := '\r') (by decide)
  have hblank := hne (d := ' ') (by decide)
  have hleft := hne (d := '\u200e') (by decide +kernel)
  have hright := hne (d := '\u200f') (by decide +kernel)
  simp only [Char.reduceToNat] at *
  simp only [Lexer.isSpace, isBlank, Bool.or_eq_false_iff, Bool.and_eq_false_iff, beq_eq_false_iff_ne,
    decide_eq_false_iff_not, ← Char.toNat_inj, ne_eq, Char.reduceToNat]
  omega

/-! ## Words -/

def IsPlainWord (s : List Char) : Prop :=
  ∃ c rest, s = c :: rest ∧ startsIdentifier c = true ∧ ∀ d ∈ rest, continuesIdentifier d = true

def IsWord (s : List Char) : Prop :=
  IsPlainWord s ∨ ∃ rest, s = 'r' :: '#' :: rest ∧ IsPlainWord rest

theorem IsWord.startsIdentifier {s : List Char} (h : IsWord s) :
    ∃ c rest, s = c :: rest ∧ startsIdentifier c = true := by
  rcases h with ⟨c, rest, rfl, hc, -⟩ | ⟨rest, rfl, -⟩
  · exact ⟨c, rest, rfl, hc⟩
  · exact ⟨'r', '#' :: rest, rfl, by decide⟩

namespace Lexer

/-- A reader of words that takes a whole text takes it for a word. -/
theorem isPlainWord_of_plainWord? {s word rest : List Char} (h : plainWord? s = some (word, rest)) :
    IsPlainWord word := by
  cases s with
  | nil => exact absurd h (by simp [plainWord?])
  | cons c s =>
      rw [plainWord?] at h
      split at h
      · rename_i hc
        simp only [Option.some.injEq, Prod.mk.injEq] at h
        obtain ⟨rfl, -⟩ := h
        exact ⟨c, _, rfl, hc, fun d hd => List.mem_takeWhile_imp hd⟩
      · exact absurd h (by simp)

theorem plainWord?_of_isPlainWord {s : List Char} (h : IsPlainWord s) :
    plainWord? s = some (s, []) := by
  obtain ⟨c, rest, rfl, hc, hrest⟩ := h
  rw [plainWord?, if_pos hc, List.takeWhile_eq_self_iff.2 hrest, List.dropWhile_eq_nil_iff.2 hrest]

theorem isWord_of_anyWord? {s word rest : List Char} (h : anyWord? s = some (word, rest)) :
    IsWord word := by
  unfold anyWord? at h
  split at h
  · split at h
    · rename_i hplain
      split at h
      · exact absurd h (by simp)
      · simp only [Option.some.injEq, Prod.mk.injEq] at h
        obtain ⟨rfl, -⟩ := h
        exact .inr ⟨_, rfl, isPlainWord_of_plainWord? hplain⟩
    · exact absurd h (by simp)
  · exact .inl (isPlainWord_of_plainWord? h)

theorem isWord_of_word? {s word rest : List Char} (h : word? s = some (word, rest)) :
    IsWord word := by
  rw [word?] at h
  split at h
  · exact absurd h (by simp)
  · exact isWord_of_anyWord? h

/-- The only tokens that are words are those that the reader of words gives. -/
theorem isWord_of_leaf? {s rest : List Char} {w : String} (h : leaf? s = some (.word w, rest)) :
    IsWord w.toList := by
  unfold leaf? at h
  split at h
  · exact absurd h (by simp)
  · split at h
    · rename_i found hmark
      rw [h] at hmark
      unfold markToken? at hmark
      split at hmark
      · exact absurd hmark (by simp)
      · split at hmark
        · split at hmark
          · exact absurd hmark (by simp)
          · split at hmark
            · exact absurd hmark (by simp)
            · split at hmark
              · exact absurd hmark (by simp)
              · exact absurd hmark (by simp)
        · exact absurd hmark (by simp)
    · rw [Option.map_eq_some_iff] at h
      obtain ⟨⟨word, after⟩, hword, heq⟩ := h
      simp only [Prod.mk.injEq, Token.word.injEq] at heq
      obtain ⟨rfl, -⟩ := heq
      rw [String.toList_ofList]
      exact isWord_of_word? hword

theorem isWord_of_sequence {fuel : Nat} {s rest : List Char} {w : String} {more : List Token}
    (h : sequence fuel s = some (.word w :: more, rest)) : IsWord w.toList := by
  cases fuel with
  | zero => exact absurd h (by simp [sequence])
  | succ fuel =>
      unfold sequence at h
      simp only [] at h
      split at h
      · rename_i inner text after _
        split at h
        · rw [Option.map_eq_some_iff] at h
          obtain ⟨⟨tokens, final⟩, -, heq⟩ := h
          cases inner <;> exact absurd heq (by simp [docAttribute])
        · exact absurd h (by simp)
      · split at h
        · exact absurd h (by simp)
        · split at h
          · split at h
            · split at h
              · rw [Option.map_eq_some_iff] at h
                obtain ⟨⟨tokens, final⟩, -, heq⟩ := h
                exact absurd heq (by simp)
              · exact absurd h (by simp)
            · exact absurd h (by simp)
          · split at h
            · exact absurd h (by simp)
            · split at h
              · rename_i token after hleaf
                rw [Option.map_eq_some_iff] at h
                obtain ⟨⟨tokens, final⟩, -, heq⟩ := h
                simp only [Prod.mk.injEq, List.cons.injEq] at heq
                obtain ⟨⟨rfl, -⟩, -⟩ := heq
                exact isWord_of_leaf? hleaf
              · exact absurd h (by simp)

/-! ### A word at the front of a text -/

section Front

variable {c : Char} {rest : List Char} (hc : startsIdentifier c = true)

include hc

theorem afterBlank?_of_startsIdentifier : afterBlank? (c :: rest) = none := by
  have hslash : c ≠ '/' := ne_of_startsIdentifier hc (by decide)
  have hspace : isSpace c = false := isSpace_of_startsIdentifier hc
  unfold afterBlank?
  split <;> simp_all

theorem skipBlanks_of_startsIdentifier (fuel : Nat) : skipBlanks fuel (c :: rest) = c :: rest := by
  cases fuel with
  | zero => rfl
  | succ fuel => rw [skipBlanks, afterBlank?_of_startsIdentifier hc]

theorem docComment?_of_startsIdentifier : docComment? (c :: rest) = none := by
  have hslash : c ≠ '/' := ne_of_startsIdentifier hc (by decide)
  unfold docComment?
  split <;> simp_all

theorem afterErrorLiteral?_of_startsIdentifier : afterErrorLiteral? (c :: rest) = none := by
  have hparenthesis : '(' ≠ c := (ne_of_startsIdentifier hc (by decide)).symm
  have htext : errorLiteral.toList = '(' :: "/*ERROR*/)".toList := rfl
  rw [afterErrorLiteral?, htext, List.isPrefixOf, if_neg (by simp [hparenthesis])]

theorem opening?_of_startsIdentifier : opening? (c :: rest) = none := by
  have hparenthesis : c ≠ '(' := ne_of_startsIdentifier hc (by decide)
  have hbrace : c ≠ '\x7b' := ne_of_startsIdentifier hc (by decide)
  have hbracket : c ≠ '[' := ne_of_startsIdentifier hc (by decide)
  rw [opening?, afterErrorLiteral?_of_startsIdentifier hc]
  simp only [Option.isSome_none, Bool.false_eq_true, if_false, List.head?_cons, Option.bind_some]
  unfold Delimiter.ofOpening?
  split <;> simp_all

theorem ofClosing?_of_startsIdentifier : Delimiter.ofClosing? c = none := by
  have hparenthesis : c ≠ ')' := ne_of_startsIdentifier hc (by decide)
  have hbrace : c ≠ '\x7d' := ne_of_startsIdentifier hc (by decide)
  have hbracket : c ≠ ']' := ne_of_startsIdentifier hc (by decide)
  unfold Delimiter.ofClosing?
  split <;> simp_all

theorem markToken?_of_startsIdentifier : markToken? (c :: rest) = none := by
  have hmarks : "~!@#$%^&*-=+|;:,<.>/?'".toList.all (fun d => !startsIdentifier d) = true := by
    decide
  have hmark : isMark c = false := by
    rw [isMark, decide_eq_false_iff_not]
    intro hmem
    have hfalse := List.all_eq_true.1 hmarks c hmem
    rw [hc] at hfalse
    exact absurd hfalse (by decide)
  have hnone : mark? (c :: rest) = none := by
    unfold mark?
    split <;> simp_all
  rw [markToken?, hnone]

theorem isDigit_of_startsIdentifier : c.isDigit = false := by
  have hdigits : ∀ n < 58, 48 ≤ n → startsIdentifier (Char.ofNat n) = false := by decide
  cases hdigit : c.isDigit with
  | false => rfl
  | true =>
      have hrange : 48 ≤ c.toNat ∧ c.toNat ≤ 57 := Char.isDigit_iff_toNat.1 hdigit
      have hfalse := hdigits c.toNat (by omega) hrange.1
      rw [Char.ofNat_toNat, hc] at hfalse
      exact absurd hfalse (by decide)

theorem afterFloatDigits?_of_startsIdentifier : afterFloatDigits? (c :: rest) = none := by
  rw [afterFloatDigits?, isDigit_of_startsIdentifier hc]
  rfl

theorem afterIntegerDigits?_of_startsIdentifier : afterIntegerDigits? (c :: rest) = none := by
  have hzero : c ≠ '0' := ne_of_startsIdentifier hc (by decide)
  have hdigit : c.isDigit = false := isDigit_of_startsIdentifier hc
  by_cases hgap : c = '_'
  · subst hgap
    rfl
  · simp [afterIntegerDigits?, hzero, hgap, hdigit]

end Front

theorem not_mem_of_isPlainWord {s : List Char} (h : IsPlainWord s) {d : Char}
    (hstart : startsIdentifier d = false) (hnext : continuesIdentifier d = false) : d ∉ s := by
  obtain ⟨c, rest, rfl, hc, hrest⟩ := h
  intro hd
  rcases List.mem_cons.1 hd with rfl | hd
  · exact ne_of_startsIdentifier hc hstart rfl
  · exact ne_of_continuesIdentifier (hrest d hd) hnext rfl

/-- A word has no characters that end it or that a literal begins with. -/
theorem quotes_not_mem_of_isPlainWord {s : List Char} (h : IsPlainWord s) :
    '"' ∉ s ∧ '#' ∉ s ∧ '\'' ∉ s :=
  ⟨not_mem_of_isPlainWord h (by decide) (by decide), not_mem_of_isPlainWord h (by decide) (by decide),
    not_mem_of_isPlainWord h (by decide) (by decide)⟩

/-- A raw literal needs a quote behind its number signs. -/
theorem afterRaw?_eq_none {quoting : Quoting} {s : List Char} (signs : Nat) (hquote : '"' ∉ s)
    (hsign : '#' ∉ s) : afterRaw? quoting (List.replicate signs '#' ++ s) = none := by
  have hsigns : ∀ d ∈ List.replicate signs '#', (d == '#') = true := by
    intro d hd
    rw [List.eq_of_mem_replicate hd]
    rfl
  have hrest : s.takeWhile (· == '#') = [] := by
    cases s with
    | nil => rfl
    | cons d s =>
        rw [List.takeWhile_cons_of_neg]
        rw [beq_iff_eq]
        rintro rfl
        exact hsign List.mem_cons_self
  have hlength : ((List.replicate signs '#' ++ s).takeWhile (· == '#')).length = signs := by
    rw [List.takeWhile_append_of_pos hsigns, hrest, List.append_nil, List.length_replicate]
  have hdrop : (List.replicate signs '#' ++ s).drop signs = s := List.drop_left' (by simp)
  rw [afterRaw?, hlength]
  simp only [hdrop]
  split
  · exact absurd List.mem_cons_self hquote
  · rfl

theorem afterQuotes?_of_isPlainWord {s : List Char} (h : IsPlainWord s) : afterQuotes? s = none := by
  obtain ⟨hquote, hsign, hmark⟩ := quotes_not_mem_of_isPlainWord h
  have hraw {quoting : Quoting} {rest : List Char} (hrest : ∀ d ∈ rest, d ∈ s) :
      afterRaw? quoting rest = none :=
    afterRaw?_eq_none 0 (fun hd => hquote (hrest _ hd)) (fun hd => hsign (hrest _ hd))
  unfold afterQuotes?
  split
  · exact absurd List.mem_cons_self hquote
  · exact hraw (by simp +contextual)
  · exact absurd (by simp) hquote
  · exact hraw (by simp +contextual)
  · exact absurd (by simp) hquote
  · exact hraw (by simp +contextual)
  · exact absurd (by simp) hmark
  · exact absurd (by simp) hmark
  · rfl

theorem afterLiteral?_of_isWord {s : List Char} (h : IsWord s) : afterLiteral? s = none := by
  obtain ⟨c, rest, hs, hc⟩ := h.startsIdentifier
  have hquotes : afterQuotes? s = none := by
    rcases h with h | ⟨word, rfl, hword⟩
    · exact afterQuotes?_of_isPlainWord h
    · obtain ⟨hquote, hsign, -⟩ := quotes_not_mem_of_isPlainWord hword
      exact afterRaw?_eq_none 1 hquote hsign
  rw [afterLiteral?, hquotes, hs, afterFloatDigits?_of_startsIdentifier hc,
    afterIntegerDigits?_of_startsIdentifier hc]
  rfl

theorem startsPrefixedLiteral_of_isWord {s : List Char} (h : IsWord s) :
    startsPrefixedLiteral s = false := by
  rcases h with h | ⟨word, rfl, hword⟩
  · obtain ⟨hquote, hsign, hmark⟩ := quotes_not_mem_of_isPlainWord h
    unfold startsPrefixedLiteral
    split <;> simp_all
  · obtain ⟨hquote, hsign, hmark⟩ := quotes_not_mem_of_isPlainWord hword
    unfold startsPrefixedLiteral
    split <;> simp_all

theorem word?_of_isPlainWord {s : List Char} (h : IsPlainWord s) : word? s = some (s, []) := by
  obtain ⟨-, hsign, -⟩ := quotes_not_mem_of_isPlainWord h
  have hplain : anyWord? s = plainWord? s := by
    unfold anyWord?
    split
    · exact absurd (by simp) hsign
    · rfl
  rw [word?, startsPrefixedLiteral_of_isWord (.inl h), if_neg (by simp), hplain,
    plainWord?_of_isPlainWord h]

/-- A word is read as a whole, unless it is the raw form of a word that has none. -/
theorem word?_of_isWord {s : List Char} (h : IsWord s) : word? s = none ∨ word? s = some (s, []) := by
  rcases h with h | ⟨word, rfl, hword⟩
  · exact .inr (word?_of_isPlainWord h)
  · rw [word?, startsPrefixedLiteral_of_isWord (.inr ⟨word, rfl, hword⟩), if_neg (by simp), anyWord?,
      plainWord?_of_isPlainWord hword]
    simp only []
    split
    · exact .inl rfl
    · exact .inr rfl

theorem leaf?_of_isWord {s : List Char} (h : IsWord s) :
    leaf? s = (word? s).map fun _ => (.word (String.ofList s), []) := by
  have hword := word?_of_isWord h
  obtain ⟨c, rest, rfl, hc⟩ := h.startsIdentifier
  have hleaf : leaf? (c :: rest) =
      (word? (c :: rest)).map fun p => (.word (String.ofList p.1), p.2) := by
    rw [leaf?, afterErrorLiteral?_of_startsIdentifier hc, afterLiteral?_of_isWord h,
      markToken?_of_startsIdentifier hc]
    rfl
  rcases hword with hword | hword <;> rw [hleaf, hword] <;> rfl

/-- A word is the only token of its spelling, if it is one at all. -/
theorem tokens?_of_isWord {text : String} (h : IsWord text.toList) :
    tokens? text = (word? text.toList).map fun _ => [.word text] := by
  obtain ⟨c, rest, htext, hc⟩ := h.startsIdentifier
  have hmark : c ≠ '\ufeff' := ne_of_startsIdentifier hc (by decide +kernel)
  have hwithout : withoutOrderMark (c :: rest) = c :: rest := by
    unfold withoutOrderMark
    split <;> simp_all
  have hleaf := leaf?_of_isWord h
  rw [String.ofList_toList, htext] at hleaf
  have hend (fuel : Nat) : sequence (fuel + 1) [] = some ([], []) := by
    simp [sequence, skipBlanks, docComment?]
  have hsequence (fuel : Nat) : sequence (fuel + 2) (c :: rest) =
      (leaf? (c :: rest)).bind fun p =>
        (sequence (fuel + 1) p.2).map fun q => (p.1 :: q.1, q.2) := by
    rw [sequence, skipBlanks_of_startsIdentifier hc, docComment?_of_startsIdentifier hc]
    simp only [opening?_of_startsIdentifier hc, ofClosing?_of_startsIdentifier hc]
    cases leaf? (c :: rest) with
    | none => rfl
    | some leaf => rfl
  rw [tokens?, htext, hwithout]
  simp only [List.length_cons]
  rw [hsequence, hleaf]
  cases word? (c :: rest) with
  | none => rfl
  | some p => simp only [Option.map_some, Option.bind_some, hend]

end Lexer

/-- An identifier that was read is spelled as a word. -/
theorem isWord_of_ident? {text w : String} (h : Parser.ident? text = some w) : IsWord w.toList := by
  unfold Parser.ident? at h
  split at h
  · rename_i word htokens
    split at h
    · obtain rfl : word = w := Option.some.inj h
      unfold Lexer.tokens? at htokens
      simp only [] at htokens
      split at htokens
      · rename_i tokens hsequence
        obtain rfl : tokens = [.word word] := Option.some.inj htokens
        exact Lexer.isWord_of_sequence hsequence
      · exact absurd htokens (by simp)
    · exact absurd h (by simp)
  · exact absurd h (by simp)

/-- The spelling of a word is read as nothing else than that word. -/
theorem eq_of_ident?_of_isWord {text w : String} (hword : IsWord text.toList)
    (h : Parser.ident? text = some w) : w = text := by
  rw [Parser.ident?, Lexer.tokens?_of_isWord hword] at h
  cases hread : Lexer.word? text.toList with
  | none =>
      rw [hread] at h
      exact absurd h (by simp)
  | some p =>
      rw [hread] at h
      exact (Option.some.inj (Option.ite_none_right_eq_some.1 h).2).symm

/-- A word without a mark is read as an identifier, unless it is a keyword. -/
theorem ident?_of_isPlainWord {text : String} (h : IsPlainWord text.toList)
    (hname : Ahead.isName text = true) : Parser.ident? text = some text := by
  rw [Parser.ident?, Lexer.tokens?_of_isWord (.inl h), Lexer.word?_of_isPlainWord h]
  exact if_pos hname

end AttributeSchema.Source
