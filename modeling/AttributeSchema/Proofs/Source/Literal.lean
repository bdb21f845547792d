import AttributeSchema.Source.Lexer
import Mathlib.Data.List.TakeWhile
/-!
# What literals denote

The inside of a literal is a sequence of characters and escapes, each of which stands for one character,
and of escaped line ends, which stand for nothing. It denotes one text at most. A text is denoted by its
literal, which is read as one token.
-/

namespace AttributeSchema.Source.Literal

open Lexer (hexValue? afterCodePoint afterEscape? afterQuoted afterSuffix returnsArePaired isLineBlank
  plainWord? afterLiteral? afterQuotes? afterErrorLiteral? leaf? tokens? skipBlanks docComment? opening? withoutOrderMark)

/-! ## The grammar of literals -/

def letters : List (Char × Char) :=
  [('n', '\n'), ('r', '\r'), ('t', '\t'), ('\\', '\\'), ('0', '\x00'), ('\'', '\''), ('"', '"')]

/-- Hexadecimal digits behind others that make up a number: how many there are, and what number they make
up in the end. Underscores do not count. -/
inductive AreHex : Nat → List Char → Nat → Nat → Prop
  | nil (n : Nat) : AreHex n [] 0 n
  | gap {n count m : Nat} {ds : List Char} (h : AreHex n ds count m) : AreHex n ('_' :: ds) count m
  | digit {n d count m : Nat} {c : Char} {ds : List Char} (hc : hexValue? c = some d)
      (h : AreHex (n * 16 + d) ds count m) : AreHex n (c :: ds) (count + 1) m

inductive Stands : List Char → Char → Prop
  | plain {c : Char} (h : c ∉ ['"', '\\', '\r']) : Stands [c] c
  | letter {l c : Char} (h : (l, c) ∈ letters) : Stands ['\\', l] c
  | byte {a b : Char} {high low : Nat} (ha : hexValue? a = some high) (hb : hexValue? b = some low)
      (hhigh : high < 8) : Stands ['\\', 'x', a, b] (Char.ofNat (high * 16 + low))
  | codePoint {ds : List Char} {count n : Nat} (hds : AreHex 0 ds count n) (hhead : ds.head? ≠ some '_')
      (hcount : 1 ≤ count ∧ count ≤ 6) (hn : n.isValidChar) :
      Stands ('\\' :: 'u' :: '{' :: (ds ++ ['}'])) (Char.ofNat n)

def lineBlanks : List Char := [' ', '\t', '\n']

inductive Spells : List Char → List Char → Prop
  | nil : Spells [] []
  | cons {e inside s : List Char} {c : Char} (hc : Stands e c) (h : Spells inside s) :
      Spells (e ++ inside) (c :: s)
  | lineEnd {blanks inside s : List Char} (hblanks : ∀ c ∈ blanks, c ∈ lineBlanks)
      (hnext : ∀ c ∈ inside.head?, c ∉ lineBlanks) (h : Spells inside s) :
      Spells ('\\' :: '\n' :: (blanks ++ inside)) s

def Denotes (literal text : String) : Prop :=
  ∃ inside, literal.toList = '"' :: (inside ++ ['"']) ∧ Spells inside text.toList

/-! ## One text for each literal -/

theorem letters_spec : ∀ p ∈ letters, p.1 ≠ 'x' ∧ p.1 ≠ 'u' ∧ (p.1 ≠ '\n' ∧ p.1 ≠ '\r') ∧
    ∀ q ∈ letters, p.1 = q.1 → p.2 = q.2 := by
  decide

theorem hexValue?_gap : hexValue? '_' = none := rfl

theorem hexValue?_brace : hexValue? '}' = none := rfl

theorem AreHex.ne_brace {n count m : Nat} {ds : List Char} (h : AreHex n ds count m) :
    ∀ c ∈ ds, (c != '}') = true := by
  induction h with
  | nil n => simp
  | gap _ ih => exact List.forall_mem_cons.2 ⟨by decide, ih⟩
  | @digit n d count m c ds hc _ ih =>
      refine List.forall_mem_cons.2 ⟨?_, ih⟩
      rw [bne_iff_ne]
      rintro rfl
      rw [hexValue?_brace] at hc
      cases hc

theorem AreHex.count_le {n count m : Nat} {ds : List Char} (h : AreHex n ds count m) :
    count ≤ ds.length := by
  induction h with
  | nil n => exact Nat.zero_le _
  | gap _ ih => exact Nat.le_succ_of_le ih
  | digit _ _ ih => exact Nat.succ_le_succ ih

theorem AreHex.unique {n count m count' m' : Nat} {ds : List Char} (h : AreHex n ds count m)
    (h' : AreHex n ds count' m') : m = m' := by
  induction h generalizing count' with
  | nil n =>
      cases h'
      rfl
  | gap _ ih =>
      cases h' with
      | gap h' => exact ih h'
      | digit hc _ =>
          rw [hexValue?_gap] at hc
          cases hc
  | digit hc _ ih =>
      cases h' with
      | gap _ =>
          rw [hexValue?_gap] at hc
          cases hc
      | digit hc' h' =>
          rw [hc] at hc'
          obtain rfl := Option.some.inj hc'
          exact ih h'

/-- What stands for a character begins with a backslash, or it is that character. -/
theorem Stands.cases_head {e : List Char} {c : Char} (h : Stands e c) :
    (c ∉ ['"', '\\', '\r'] ∧ e = [c]) ∨ ∃ l tail, e = '\\' :: l :: tail ∧ l ≠ '\n' ∧ l ≠ '\r' := by
  cases h with
  | plain h => exact .inl ⟨h, rfl⟩
  | letter h => exact .inr ⟨_, _, rfl, (letters_spec _ h).2.2.1⟩
  | byte => exact .inr ⟨_, _, rfl, by decide, by decide⟩
  | codePoint => exact .inr ⟨_, _, rfl, by decide, by decide⟩

/-- Where two escapes begin alike, they are the same one. -/
theorem Stands.append_inj {e e' r r' : List Char} {c c' : Char} (h : Stands e c) (h' : Stands e' c')
    (heq : e ++ r = e' ++ r') : c = c' ∧ r = r' := by
  cases h with
  | plain h =>
      rcases h'.cases_head with ⟨-, rfl⟩ | ⟨l, tail, rfl, -⟩
      · exact List.cons.inj heq
      · obtain rfl := (List.cons.inj heq).1
        exact absurd h (by decide)
  | @letter l c h =>
      obtain ⟨hx, hu, -, hsame⟩ := letters_spec _ h
      cases h' with
      | plain h' =>
          obtain rfl := (List.cons.inj heq).1
          exact absurd h' (by decide)
      | letter h' =>
          obtain ⟨hletter, hrest⟩ := List.cons.inj (List.cons.inj heq).2
          exact ⟨hsame _ h' hletter, hrest⟩
      | byte => exact absurd (List.cons.inj (List.cons.inj heq).2).1 hx
      | codePoint => exact absurd (List.cons.inj (List.cons.inj heq).2).1 hu
  | byte ha hb hhigh =>
      cases h' with
      | plain h' =>
          obtain rfl := (List.cons.inj heq).1
          exact absurd h' (by decide)
      | letter h' => exact absurd (List.cons.inj (List.cons.inj heq).2).1.symm (letters_spec _ h').1
      | byte ha' hb' hhigh' =>
          simp only [List.cons_append, List.nil_append, List.cons.injEq, true_and] at heq
          obtain ⟨rfl, rfl, rfl⟩ := heq
          rw [ha] at ha'
          rw [hb] at hb'
          rw [Option.some.inj ha', Option.some.inj hb']
          exact ⟨rfl, rfl⟩
      | codePoint => exact absurd (List.cons.inj (List.cons.inj heq).2).1 (by decide)
  | @codePoint ds count n hds hhead hcount hn =>
      cases h' with
      | plain h' =>
          obtain rfl := (List.cons.inj heq).1
          exact absurd h' (by decide)
      | letter h' =>
          exact absurd (List.cons.inj (List.cons.inj heq).2).1.symm (letters_spec _ h').2.1
      | byte => exact absurd (List.cons.inj (List.cons.inj heq).2).1 (by decide)
      | @codePoint ds' count' n' hds' hhead' hcount' hn' =>
          have hdigits : ds ++ '}' :: r = ds' ++ '}' :: r' := by simpa using heq
          have htake := congrArg (List.takeWhile (· != '}')) hdigits
          have hdrop := congrArg (List.dropWhile (· != '}')) hdigits
          rw [List.takeWhile_append_of_pos hds.ne_brace, List.takeWhile_append_of_pos hds'.ne_brace]
            at htake
          rw [List.dropWhile_append_of_pos hds.ne_brace, List.dropWhile_append_of_pos hds'.ne_brace]
            at hdrop
          obtain rfl : ds = ds' := by simpa using htake
          rw [hds.unique hds']
          exact ⟨rfl, by simpa using hdrop⟩

theorem Stands.ne_nil {e : List Char} {c : Char} (h : Stands e c) : e ≠ [] := by
  rcases h.cases_head with ⟨-, rfl⟩ | ⟨l, tail, rfl, -⟩ <;> exact List.cons_ne_nil _ _

theorem Stands.append_ne_lineEnd {e : List Char} {c : Char} (h : Stands e c) (r r' : List Char) :
    e ++ r ≠ '\\' :: '\n' :: r' := by
  intro heq
  rcases h.cases_head with ⟨hc, rfl⟩ | ⟨l, tail, rfl, hl, -⟩
  · obtain rfl := (List.cons.inj heq).1
    exact absurd hc (by decide)
  · exact hl (List.cons.inj (List.cons.inj heq).2).1

/-- Behind the blanks that go with a line end comes what is left. -/
theorem dropWhile_lineBlanks {blanks inside : List Char} (hblanks : ∀ c ∈ blanks, c ∈ lineBlanks)
    (hnext : ∀ c ∈ inside.head?, c ∉ lineBlanks) :
    (blanks ++ inside).dropWhile (· ∈ lineBlanks) = inside := by
  rw [List.dropWhile_append_of_pos (by simpa using hblanks)]
  cases inside with
  | nil => rfl
  | cons c inside =>
      have hc : c ∉ lineBlanks := hnext c rfl
      rw [List.dropWhile_cons_of_neg (by simpa using hc)]

/-- The inside of a literal stands for one text at most. -/
theorem Spells.unique {inside s t : List Char} (hs : Spells inside s) (ht : Spells inside t) : s = t := by
  induction hs generalizing t with
  | nil =>
      generalize hx : ([] : List Char) = x at ht
      cases ht with
      | nil => rfl
      | cons hc _ => exact absurd (List.append_eq_nil_iff.1 hx.symm).1 hc.ne_nil
      | lineEnd => cases hx
  | @cons e inside s c hc _ ih =>
      generalize hx : e ++ inside = x at ht
      cases ht with
      | nil => exact absurd (List.append_eq_nil_iff.1 hx).1 hc.ne_nil
      | cons hc' h' =>
          obtain ⟨rfl, rfl⟩ := hc.append_inj hc' hx
          rw [ih h']
      | lineEnd => exact absurd hx (hc.append_ne_lineEnd _ _)
  | @lineEnd blanks inside s hblanks hnext _ ih =>
      generalize hx : '\\' :: '\n' :: (blanks ++ inside) = x at ht
      cases ht with
      | nil => cases hx
      | cons hc _ => exact absurd hx.symm (hc.append_ne_lineEnd _ _)
      | @lineEnd blanks' inside' _ hblanks' hnext' h' =>
          have hrest : blanks ++ inside = blanks' ++ inside' := (List.cons.inj (List.cons.inj hx).2).2
          have hinside := congrArg (List.dropWhile (· ∈ lineBlanks)) hrest
          rw [dropWhile_lineBlanks hblanks hnext, dropWhile_lineBlanks hblanks' hnext'] at hinside
          subst hinside
          exact ih h'

theorem Denotes.unique {literal s t : String} (hs : Denotes literal s) (ht : Denotes literal t) :
    s = t := by
  obtain ⟨inside, hinside, hs⟩ := hs
  obtain ⟨inside', hinside', ht⟩ := ht
  rw [hinside] at hinside'
  obtain rfl : inside = inside' := List.append_cancel_right (List.cons.inj hinside').2
  exact String.toList_inj.1 (hs.unique ht)

/-! ## The literal of a text -/

theorem AreHex.append_digit {n d count m : Nat} {ds : List Char} {c : Char} (h : AreHex n ds count m)
    (hc : hexValue? c = some d) : AreHex n (ds ++ [c]) (count + 1) (m * 16 + d) := by
  induction h with
  | nil n => exact .digit hc (.nil _)
  | gap _ ih => exact .gap ih
  | digit hc' _ ih => exact .digit hc' ih

theorem hexValue?_digitChar : ∀ n < 16, hexValue? (Nat.digitChar n) = some n := by decide

theorem areHex_hexDigits (n : Nat) : AreHex 0 (Text.hexDigits n) (Text.hexDigits n).length n := by
  induction n using Nat.strongRecOn with
  | ind n ih =>
      by_cases hn : n < 16
      · have hdigit := AreHex.digit (hexValue?_digitChar n hn) (.nil (0 * 16 + n))
        have hvalue : 0 * 16 + n = n := by omega
        rw [hvalue] at hdigit
        rw [Text.hexDigits, Nat.toDigits_of_lt_base hn]
        exact hdigit
      · have hlast : hexValue? (Nat.digitChar (n % 16)) = some (n % 16) :=
          hexValue?_digitChar _ (Nat.mod_lt n (by decide))
        have hall := (ih (n / 16) (by omega)).append_digit hlast
        rw [Nat.mul_comm, Nat.div_add_mod] at hall
        rw [Text.hexDigits, Nat.toDigits_of_base_le (by decide) (by omega), List.length_append]
        exact hall

theorem head?_hexDigits (n : Nat) : (Text.hexDigits n).head? ≠ some '_' := by
  intro hhead
  have hds := areHex_hexDigits n
  obtain ⟨ds, heq⟩ := List.head?_eq_some_iff.1 hhead
  rw [heq] at hds
  -- An underscore would not count as a digit.
  cases hds with
  | gap hds => exact absurd hds.count_le (Nat.not_succ_le_self _)
  | digit hc _ =>
      rw [hexValue?_gap] at hc
      cases hc

theorem stands_byCodePoint (c : Char) : Stands (Text.byCodePoint c) c := by
  have hlength : (Text.hexDigits c.toNat).length ≤ 6 := by
    have hbound : c.toNat < 16 ^ 6 := by
      have hvalid : c.toNat.isValidChar := c.valid
      unfold Nat.isValidChar at hvalid
      omega
    exact (Nat.length_toDigits_le_iff (by decide) (by decide)).2 hbound
  have hpos : 1 ≤ (Text.hexDigits c.toNat).length := List.length_pos_iff.2 Nat.toDigits_ne_nil
  have hhead : (Text.hexDigits c.toNat).head? ≠ some '_' := head?_hexDigits c.toNat
  have hstands := Stands.codePoint (areHex_hexDigits c.toNat) hhead ⟨hpos, hlength⟩ c.valid
  rwa [Char.ofNat_toNat] at hstands

theorem stands_escapeChar (c : Char) : Stands (Text.escapeChar c) c := by
  have hletter {l c : Char} (h : (l, c) ∈ letters) : Stands ['\\', l] c := .letter h
  unfold Text.escapeChar
  split_ifs with htab hreturn hline hbackslash hquote hinvisible
  · subst htab
    exact hletter (by decide)
  · subst hreturn
    exact hletter (by decide)
  · subst hline
    exact hletter (by decide)
  · subst hbackslash
    exact hletter (by decide)
  · subst hquote
    exact hletter (by decide)
  · exact stands_byCodePoint c
  · exact .plain (by simp [hquote, hbackslash, hreturn])

theorem spells_escape (s : List Char) : Spells (escape s) s := by
  induction s with
  | nil => exact .nil
  | cons c s ih =>
      rw [escape]
      -- A null character has two forms.
      split_ifs with hnull hoctal
      · subst hnull
        have hzero : hexValue? '0' = some 0 := rfl
        exact .cons (.byte hzero hzero (by decide)) ih
      · subst hnull
        exact .cons (.letter (by decide)) ih
      · exact .cons (stands_escapeChar c) ih

/-- The literal of a text denotes that text and no other. -/
theorem denotes_ofText_iff {s t : String} : Denotes (ofText s) t ↔ t = s := by
  have hself : Denotes (ofText s) s := by
    refine ⟨escape s.toList, ?_, spells_escape s.toList⟩
    rw [ofText, String.toList_ofList, List.cons_append]
  constructor
  · intro h
    exact h.unique hself
  · rintro rfl
    exact hself

theorem ofText_injective : Function.Injective ofText := by
  intro s t h
  exact denotes_ofText_iff.1 (h ▸ denotes_ofText_iff.2 rfl)

/-! ## Literals as tokens -/

theorem afterCodePoint_of_areHex {n count m : Nat} {ds : List Char} (h : AreHex n ds count m)
    (hm : m.isValidChar) (rest : List Char) {k : Nat} (hfirst : k = 0 → ds.head? ≠ some '_')
    (hpos : 1 ≤ k + count) (hbound : k + count ≤ 6) :
    afterCodePoint .text n k (ds ++ '}' :: rest) = some rest := by
  induction h generalizing k with
  | nil n =>
      rw [List.nil_append, afterCodePoint]
      exact if_pos ⟨hpos, decide_eq_true hm⟩
  | @gap n count m ds _ ih =>
      have hk : 0 < k := by
        by_contra hzero
        exact hfirst (by omega) rfl
      rw [List.cons_append, afterCodePoint, if_pos hk]
      exact ih hm (fun hzero => absurd hzero (by omega)) hpos hbound
  | @digit n d count m c ds hc _ ih =>
      have hbrace : c ≠ '}' := by
        rintro rfl
        rw [hexValue?_brace] at hc
        cases hc
      have hgap : c ≠ '_' := by
        rintro rfl
        rw [hexValue?_gap] at hc
        cases hc
      rw [List.cons_append, afterCodePoint]
      · simp only [hc]
        rw [if_neg (by omega)]
        exact ih hm (fun hzero => absurd hzero (by omega)) (by omega) (by omega)
      · exact hbrace
      · exact hgap

theorem afterEscape?_of_stands {l c : Char} {tail : List Char} (h : Stands ('\\' :: l :: tail) c)
    (rest : List Char) : afterEscape? .text (l :: (tail ++ rest)) = some rest := by
  cases h with
  | letter h =>
      simp only [letters, List.mem_cons, Prod.mk.injEq, List.not_mem_nil, or_false] at h
      rcases h with ⟨rfl, -⟩ | ⟨rfl, -⟩ | ⟨rfl, -⟩ | ⟨rfl, -⟩ | ⟨rfl, -⟩ | ⟨rfl, -⟩ | ⟨rfl, -⟩ <;> rfl
  | @byte a b high low ha hb hhigh =>
      change afterEscape? .text ('x' :: a :: b :: rest) = some rest
      rw [afterEscape?]
      simp only [ha, hb]
      exact if_pos (decide_eq_true hhigh)
  | @codePoint ds count n hds hhead hcount hn =>
      have hshape : (('{' :: (ds ++ ['}'])) ++ rest) = '{' :: (ds ++ '}' :: rest) := by simp
      rw [hshape, afterEscape?]
      exact afterCodePoint_of_areHex hds hn rest (fun _ => hhead) (by omega) (by omega)

theorem returnsArePaired_of_lineBlanks {blanks : List Char} (h : ∀ c ∈ blanks, c ∈ lineBlanks) :
    returnsArePaired blanks = true := by
  induction blanks with
  | nil => rfl
  | cons c blanks ih =>
      obtain ⟨hc, hblanks⟩ := List.forall_mem_cons.1 h
      have hreturn : c ≠ '\r' := by
        rintro rfl
        exact absurd hc (by decide)
      rw [returnsArePaired]
      · exact ih hblanks
      · simp [hreturn]
      · simp [hreturn]

/-- No carriage return stands for itself. -/
theorem Spells.head?_ne_return {inside s : List Char} (h : Spells inside s) :
    ∀ c ∈ inside.head?, c ≠ '\r' := by
  cases h with
  | nil => simp
  | @cons e inside s c hc h =>
      rcases hc.cases_head with ⟨hplain, rfl⟩ | ⟨l, tail, rfl, -⟩
      · simp_all
      · simp
  | lineEnd => simp

/-- An escaped line end takes with it what is blank, up to what stands for a character or the quote. -/
theorem takeWhile_isLineBlank {blanks inside s : List Char} (hblanks : ∀ c ∈ blanks, c ∈ lineBlanks)
    (hnext : ∀ c ∈ inside.head?, c ∉ lineBlanks) (h : Spells inside s) (rest : List Char) :
    ('\n' :: (blanks ++ (inside ++ '"' :: rest))).takeWhile isLineBlank = '\n' :: blanks ∧
      ('\n' :: (blanks ++ (inside ++ '"' :: rest))).dropWhile isLineBlank = inside ++ '"' :: rest := by
  have hline : ∀ c ∈ blanks, isLineBlank c = true := by
    intro c hc
    have hmem := hblanks c hc
    simp only [lineBlanks, List.mem_cons, List.not_mem_nil, or_false] at hmem
    rcases hmem with rfl | rfl | rfl <;> rfl
  obtain ⟨d, more, heq, hd⟩ : ∃ d more, inside ++ '"' :: rest = d :: more ∧ isLineBlank d = false := by
    cases inside with
    | nil => exact ⟨'"', rest, rfl, rfl⟩
    | cons d inside =>
        have hreturn := h.head?_ne_return d rfl
        have hmem := hnext d rfl
        simp only [lineBlanks, List.mem_cons, List.not_mem_nil, or_false, not_or] at hmem
        exact ⟨d, _, rfl, by simp [isLineBlank, hreturn, hmem]⟩
  rw [heq, List.takeWhile_cons_of_pos rfl, List.dropWhile_cons_of_pos rfl,
    List.takeWhile_append_of_pos hline, List.dropWhile_append_of_pos hline,
    List.takeWhile_cons_of_neg (by simp [hd]), List.dropWhile_cons_of_neg (by simp [hd]),
    List.append_nil]
  exact ⟨rfl, rfl⟩

/-- With fuel for each of its characters, the inside of a literal is passed over up to the quote. -/
theorem afterQuoted_of_spells {inside s : List Char} (h : Spells inside s) (rest : List Char)
    {fuel : Nat} (hfuel : inside.length < fuel) :
    afterQuoted .text fuel (inside ++ '"' :: rest) = some (afterSuffix rest) := by
  induction h generalizing fuel with
  | nil =>
      obtain ⟨fuel, rfl⟩ := Nat.exists_eq_add_one_of_ne_zero (Nat.ne_zero_of_lt hfuel)
      rfl
  | @cons e inside s c hc _ ih =>
      obtain ⟨fuel, rfl⟩ := Nat.exists_eq_add_one_of_ne_zero (Nat.ne_zero_of_lt hfuel)
      rw [List.length_append] at hfuel
      have hpos : 0 < e.length := List.length_pos_iff.2 hc.ne_nil
      have hfewer : inside.length < fuel := by omega
      have hmore := ih hfewer
      rcases hc.cases_head with ⟨hplain, rfl⟩ | ⟨l, tail, rfl, hline, hreturn⟩
      · simp only [List.mem_cons, List.not_mem_nil, or_false, not_or] at hplain
        obtain ⟨hquote, hbackslash, hreturn⟩ := hplain
        rw [List.cons_append, List.cons_append, List.nil_append, afterQuoted]
        · exact hmore
        · exact hquote
        · simp [hreturn]
        · simp [hreturn]
        · simp [hbackslash]
        · simp [hbackslash]
      · have hshape : '\\' :: l :: tail ++ inside ++ '"' :: rest =
            '\\' :: l :: (tail ++ (inside ++ '"' :: rest)) := by simp
        rw [hshape, afterQuoted, if_neg (by simp [hline, hreturn])]
        simp only [afterEscape?_of_stands hc]
        exact hmore
  | @lineEnd blanks inside s hblanks hnext hinside ih =>
      obtain ⟨fuel, rfl⟩ := Nat.exists_eq_add_one_of_ne_zero (Nat.ne_zero_of_lt hfuel)
      simp only [List.length_cons, List.length_append] at hfuel
      have hfewer : inside.length < fuel := by omega
      have hmore := ih hfewer
      obtain ⟨htake, hdrop⟩ := takeWhile_isLineBlank hblanks hnext hinside rest
      have hshape : '\\' :: '\n' :: (blanks ++ inside) ++ '"' :: rest =
          '\\' :: '\n' :: (blanks ++ (inside ++ '"' :: rest)) := by simp
      have hpaired : returnsArePaired ('\n' :: blanks) = true := by
        apply returnsArePaired_of_lineBlanks
        exact List.forall_mem_cons.2 ⟨by decide, hblanks⟩
      rw [hshape, afterQuoted, if_pos (.inl rfl)]
      simp only [htake, hdrop, hpaired, if_true]
      exact hmore

/-- A literal is read as one token, if no suffix follows it. -/
theorem Denotes.leaf?_eq {literal text : String} (h : Denotes literal text) {rest : List Char}
    (hrest : plainWord? rest = none) :
    leaf? (literal.toList ++ rest) = some (.literal literal, rest) := by
  obtain ⟨inside, hinside, hspells⟩ := h
  have hshape : literal.toList ++ rest = '"' :: (inside ++ '"' :: rest) := by
    rw [hinside]
    simp
  have hafter : afterLiteral? (literal.toList ++ rest) = some rest := by
    have hsuffix : afterSuffix rest = rest := by rw [afterSuffix, hrest]
    have hlength : inside.length < (inside ++ '"' :: rest).length + 1 := by
      rw [List.length_append]
      omega
    rw [hshape, afterLiteral?, afterQuotes?, afterQuoted_of_spells hspells rest hlength, hsuffix]
  have herror : afterErrorLiteral? (literal.toList ++ rest) = none := by
    rw [hshape]
    rfl
  have htaken : (literal.toList ++ rest).take ((literal.toList ++ rest).length - rest.length) =
      literal.toList := by
    rw [List.length_append, Nat.add_sub_cancel, List.take_left]
  unfold leaf?
  rw [herror, hafter]
  change some (Token.literal (String.ofList _), rest) = _
  rw [htaken, String.ofList_toList]

/-- The literal of a text is one token. -/
theorem Denotes.tokens?_eq {literal text : String} (h : Denotes literal text) :
    tokens? literal = some [.literal literal] := by
  have hnone : plainWord? [] = none := rfl
  have hleaf := h.leaf?_eq hnone
  obtain ⟨inside, hinside, -⟩ := h
  rw [List.append_nil, hinside] at hleaf
  generalize inside ++ ['"'] = tail at hinside hleaf
  have hblanks (n : Nat) : skipBlanks n ('"' :: tail) = '"' :: tail := by cases n <;> rfl
  have hdoc : docComment? ('"' :: tail) = none := rfl
  have hopening : opening? ('"' :: tail) = none := rfl
  -- Behind the literal comes the end of the text.
  have hend (n : Nat) : Lexer.sequence (n + 1) [] = some ([], []) := rfl
  have hsequence (n : Nat) : Lexer.sequence (n + 1 + 1) ('"' :: tail) = some ([.literal literal], []) := by
    rw [Lexer.sequence, hblanks]
    simp only [hdoc, hopening, hleaf, hend]
    rfl
  have hmark : withoutOrderMark ('"' :: tail) = '"' :: tail := rfl
  unfold tokens?
  simp only [hinside, hmark, List.length_cons, hsequence]

end AttributeSchema.Source.Literal
