import AttributeSchema.Text.Utf8
import Mathlib.Data.List.TakeWhile
/-!
# Writing and reading UTF-8

The bytes of a text are read as that text, strictly and lossily, and strict reading takes no other bytes.
So bytes encode a text exactly when lossy reading and writing gives them back.
-/

namespace AttributeSchema.Text.Utf8

/-! ## One character -/

theorem toNat_valid (c : Char) :
    c.toNat < 0xD800 ∨ (0xDFFF < c.toNat ∧ c.toNat < 0x110000) := c.valid

theorem extent_one {a : UInt8} (ha : a.toNat < 0x80) (rest : List UInt8) :
    extent a rest = (1, true) := by
  have hshape : shape? a = some (0, 0, 0) := by
    rw [shape?, if_pos (UInt8.lt_iff_toNat_lt.2 ha)]
  rw [extent, hshape]

/-- A first byte, a second one within its bounds and the remaining tails are one character. -/
theorem extent_of_shape {a b low high : UInt8} (tails : List UInt8)
    (hshape : shape? a = some (tails.length + 1, low, high)) (hlow : low.toNat ≤ b.toNat)
    (hhigh : b.toNat ≤ high.toNat) (htails : ∀ t ∈ tails, isTail t = true) (rest : List UInt8) :
    extent a (b :: (tails ++ rest)) = (tails.length + 2, true) := by
  have htake : ((tails ++ rest).take tails.length).takeWhile isTail = tails := by
    rw [List.take_left, List.takeWhile_eq_self_iff.2 htails]
  have hb : (decide (low ≤ b) && decide (b ≤ high)) = true := by
    simp [UInt8.le_iff_toNat_le, hlow, hhigh]
  rw [extent, hshape]
  simp only [hb, if_true, htake, Nat.add_comm 2, beq_self_eq_true]

theorem isTail_of_toNat {b : UInt8} (hlow : 0x80 ≤ b.toNat) (hhigh : b.toNat ≤ 0xBF) :
    isTail b = true := by
  simp [isTail, UInt8.le_iff_toNat_le, hlow, hhigh]

theorem shape?_two {a : UInt8} (hlow : 0xC2 ≤ a.toNat) (hhigh : a.toNat < 0xE0) :
    shape? a = some (1, 0x80, 0xBF) := by
  simp only [shape?, UInt8.lt_iff_toNat_lt, UInt8.reduceToNat]
  rw [if_neg (by omega), if_neg (by omega), if_pos hhigh]

/-- Three bytes start with one that rules out longer forms than needed and surrogates. -/
theorem shape?_three {a : UInt8} (hlow : 0xE0 ≤ a.toNat) (hhigh : a.toNat < 0xF0) :
    shape? a = some (2, if a.toNat = 0xE0 then 0xA0 else 0x80,
      if a.toNat = 0xED then 0x9F else 0xBF) := by
  simp only [shape?, UInt8.lt_iff_toNat_lt, ← UInt8.toNat_inj, UInt8.reduceToNat]
  rw [if_neg (by omega), if_neg (by omega), if_neg (by omega)]
  split
  · rename_i h
    rw [if_neg (by omega)]
  · split
    · rfl
    · rfl

/-- Four bytes start with one that rules out longer forms than needed and numbers of no character. -/
theorem shape?_four {a : UInt8} (hlow : 0xF0 ≤ a.toNat) (hhigh : a.toNat ≤ 0xF4) :
    shape? a = some (3, if a.toNat = 0xF0 then 0x90 else 0x80,
      if a.toNat = 0xF4 then 0x8F else 0xBF) := by
  simp only [shape?, UInt8.lt_iff_toNat_lt, ← UInt8.toNat_inj, UInt8.reduceToNat]
  rw [if_neg (by omega), if_neg (by omega), if_neg (by omega), if_neg (by omega),
    if_neg (by omega), if_neg (by omega)]
  split
  · rename_i h
    rw [if_neg (by omega)]
  · split
    · rw [if_neg (by omega)]
    · rw [if_pos (by omega), if_pos (by omega)]

/-- Bytes that stand for a number and announce how many they are, whatever follows. -/
def Spells (n : Nat) (bytes : List UInt8) : Prop :=
  ∃ a tails, bytes = a :: tails ∧ codePoint (a :: tails) = n ∧
    ∀ rest, extent a (tails ++ rest) = (tails.length + 1, true)

theorem toNat_ofNat_byte {n : Nat} (h : n < 256) : (UInt8.ofNat n).toNat = n := by
  rw [UInt8.toNat_ofNat', Nat.mod_eq_of_lt h]

theorem isTail_ofNat (n : Nat) : isTail (UInt8.ofNat (n % 0x40 + 0x80)) = true := by
  have htoNat := toNat_ofNat_byte (n := n % 0x40 + 0x80) (by omega)
  exact isTail_of_toNat (by omega) (by omega)

theorem spells_one {n : Nat} (h : n < 0x80) : Spells n [UInt8.ofNat n] := by
  have ha := toNat_ofNat_byte (n := n) (by omega)
  refine ⟨_, _, rfl, ?_, ?_⟩
  · rw [codePoint, ha]
  · intro rest
    exact extent_one (by omega) _

theorem spells_two {n : Nat} (hlow : 0x80 ≤ n) (hhigh : n < 0x800) :
    Spells n [UInt8.ofNat (n / 64 % 0x20 + 0xC0), UInt8.ofNat (n % 0x40 + 0x80)] := by
  have ha := toNat_ofNat_byte (n := n / 64 % 0x20 + 0xC0) (by omega)
  have hb := toNat_ofNat_byte (n := n % 0x40 + 0x80) (by omega)
  refine ⟨_, _, rfl, ?_, ?_⟩
  · rw [codePoint, ha, hb]
    omega
  · have hshape := shape?_two (a := UInt8.ofNat (n / 64 % 0x20 + 0xC0)) (by omega) (by omega)
    refine extent_of_shape [] hshape ?_ ?_ (by simp)
    · simp only [hb, UInt8.reduceToNat]
      omega
    · simp only [hb, UInt8.reduceToNat]
      omega

/-- The second of three bytes keeps clear of the surrogates. -/
theorem spells_three {n : Nat} (hlow : 0x800 ≤ n) (hhigh : n < 0x10000)
    (hscalar : n < 0xD800 ∨ 0xDFFF < n) :
    Spells n [UInt8.ofNat (n / 4096 % 0x10 + 0xE0), UInt8.ofNat (n / 64 % 0x40 + 0x80),
      UInt8.ofNat (n % 0x40 + 0x80)] := by
  have ha := toNat_ofNat_byte (n := n / 4096 % 0x10 + 0xE0) (by omega)
  have hb := toNat_ofNat_byte (n := n / 64 % 0x40 + 0x80) (by omega)
  have hd := toNat_ofNat_byte (n := n % 0x40 + 0x80) (by omega)
  refine ⟨_, _, rfl, ?_, ?_⟩
  · rw [codePoint, ha, hb, hd]
    omega
  · have hshape := shape?_three (a := UInt8.ofNat (n / 4096 % 0x10 + 0xE0)) (by omega) (by omega)
    refine extent_of_shape [_] hshape ?_ ?_ ?_
    · rw [ha, hb]
      split
      · simp only [UInt8.reduceToNat]
        omega
      · simp only [UInt8.reduceToNat]
        omega
    · rw [ha, hb]
      split
      · simp only [UInt8.reduceToNat]
        omega
      · simp only [UInt8.reduceToNat]
        omega
    · intro t ht
      rw [List.mem_singleton.1 ht]
      exact isTail_ofNat n

theorem spells_four {n : Nat} (hlow : 0x10000 ≤ n) (hhigh : n < 0x110000) :
    Spells n [UInt8.ofNat (n / 262144 % 0x08 + 0xF0), UInt8.ofNat (n / 4096 % 0x40 + 0x80),
      UInt8.ofNat (n / 64 % 0x40 + 0x80), UInt8.ofNat (n % 0x40 + 0x80)] := by
  have ha := toNat_ofNat_byte (n := n / 262144 % 0x08 + 0xF0) (by omega)
  have hb := toNat_ofNat_byte (n := n / 4096 % 0x40 + 0x80) (by omega)
  have hd := toNat_ofNat_byte (n := n / 64 % 0x40 + 0x80) (by omega)
  have he := toNat_ofNat_byte (n := n % 0x40 + 0x80) (by omega)
  refine ⟨_, _, rfl, ?_, ?_⟩
  · rw [codePoint, ha, hb, hd, he]
    omega
  · have hshape := shape?_four (a := UInt8.ofNat (n / 262144 % 0x08 + 0xF0)) (by omega) (by omega)
    refine extent_of_shape [_, _] hshape ?_ ?_ ?_
    · rw [ha, hb]
      split
      · simp only [UInt8.reduceToNat]
        omega
      · simp only [UInt8.reduceToNat]
        omega
    · rw [ha, hb]
      split
      · simp only [UInt8.reduceToNat]
        omega
      · simp only [UInt8.reduceToNat]
        omega
    · intro t ht
      rcases List.mem_cons.1 ht with rfl | ht
      · exact isTail_ofNat (n / 64)
      · rw [List.mem_singleton.1 ht]
        exact isTail_ofNat n

/-- The bytes of a character are read as that character. -/
theorem spells_encodeChar (c : Char) : Spells c.toNat (encodeChar c) := by
  have hvalid := toNat_valid c
  have hval : c.val.toNat = c.toNat := rfl
  unfold encodeChar String.utf8EncodeChar
  simp only [hval]
  split
  · exact spells_one (by omega)
  split
  · exact spells_two (by omega) (by omega)
  split
  · exact spells_three (by omega) (by omega) (by omega)
  · exact spells_four (by omega) (by omega)

/-! ## Texts -/

/-- Whatever stands for malformed pieces, the bytes of a text have none. -/
theorem decodeWith_encode (replace : Option Char) {fuel : Nat} {s : List Char}
    (h : (encode s).length ≤ fuel) : decodeWith replace fuel (encode s) = some s := by
  induction s generalizing fuel with
  | nil => cases fuel <;> rfl
  | cons c s ih =>
      obtain ⟨a, tails, hbytes, hcode, hextent⟩ := spells_encodeChar c
      have hencode : encode (c :: s) = a :: (tails ++ encode s) := by
        rw [encode, List.flatMap_cons, hbytes, List.cons_append, encode]
      rw [hencode] at h ⊢
      cases fuel with
      | zero => simp at h
      | succ fuel =>
          have hrest : (encode s).length ≤ fuel := by
            simp only [List.length_cons, List.length_append] at h
            omega
          have hdrop : (tails ++ encode s).drop (tails.length + 1 - 1) = encode s := by
            rw [Nat.add_sub_cancel, List.drop_left]
          have htake : (a :: (tails ++ encode s)).take (tails.length + 1) = a :: tails := by
            rw [List.take_succ_cons, List.take_left]
          rw [decodeWith, hextent]
          simp only [hdrop, htake, hcode, Char.ofNat_toNat, ih hrest, if_true, Option.map_some]

@[simp] theorem decode?_encode (s : List Char) : decode? (encode s) = some s :=
  decodeWith_encode none (Nat.le_refl _)

@[simp] theorem decodeLossy_encode (s : List Char) : decodeLossy (encode s) = s := by
  rw [decodeLossy, decodeWith_encode _ (Nat.le_refl _), Option.getD_some]

/-- Lossy reading loses nothing of bytes exactly when they are the bytes of some text. -/
theorem encode_decodeLossy_eq_iff {bytes : List UInt8} :
    encode (decodeLossy bytes) = bytes ↔ ∃ s, encode s = bytes := by
  constructor
  · intro h
    exact ⟨_, h⟩
  · rintro ⟨s, rfl⟩
    rw [decodeLossy_encode]

/-! ## Reading only what was written -/

theorem encodeChar_ofNat {n : Nat} (h : n.isValidChar) :
    encodeChar (Char.ofNat n) =
      if n ≤ 0x7F then [UInt8.ofNat n]
      else if n ≤ 0x7FF then [UInt8.ofNat (n / 64 % 0x20 + 0xC0), UInt8.ofNat (n % 0x40 + 0x80)]
      else if n ≤ 0xFFFF then
        [UInt8.ofNat (n / 4096 % 0x10 + 0xE0), UInt8.ofNat (n / 64 % 0x40 + 0x80),
          UInt8.ofNat (n % 0x40 + 0x80)]
      else
        [UInt8.ofNat (n / 262144 % 0x08 + 0xF0), UInt8.ofNat (n / 4096 % 0x40 + 0x80),
          UInt8.ofNat (n / 64 % 0x40 + 0x80), UInt8.ofNat (n % 0x40 + 0x80)] := by
  have hval : (Char.ofNat n).val.toNat = n := by
    unfold Char.ofNat
    rw [dif_pos h]
    rfl
  unfold encodeChar String.utf8EncodeChar
  simp only [hval]

theorem ofNat_eq_of_toNat {a : UInt8} {n : Nat} (h : n = a.toNat) : UInt8.ofNat n = a := by
  rw [h, UInt8.ofNat_toNat]

theorem encodeChar_one {a : UInt8} (ha : a.toNat < 0x80) : encodeChar (Char.ofNat (codePoint [a])) = [a] := by
  rw [codePoint, encodeChar_ofNat (.inl (by omega)), if_pos (by omega), UInt8.ofNat_toNat]

theorem encodeChar_two {a b : UInt8} (ha : 0xC2 ≤ a.toNat ∧ a.toNat < 0xE0)
    (hb : 0x80 ≤ b.toNat ∧ b.toNat ≤ 0xBF) : encodeChar (Char.ofNat (codePoint [a, b])) = [a, b] := by
  rw [codePoint, encodeChar_ofNat (.inl (by omega)), if_neg (by omega), if_pos (by omega)]
  congr 1
  · exact ofNat_eq_of_toNat (by omega)
  · congr 1
    exact ofNat_eq_of_toNat (by omega)

/-- The bounds of the second byte rule out shorter forms and surrogates. -/
theorem encodeChar_three {a b d : UInt8} (ha : 0xE0 ≤ a.toNat ∧ a.toNat < 0xF0)
    (hlow : (if a.toNat = 0xE0 then 0xA0 else 0x80) ≤ b.toNat)
    (hhigh : b.toNat ≤ if a.toNat = 0xED then 0x9F else 0xBF)
    (hd : 0x80 ≤ d.toNat ∧ d.toNat ≤ 0xBF) :
    encodeChar (Char.ofNat (codePoint [a, b, d])) = [a, b, d] := by
  have hvalid : (a.toNat % 16 * 4096 + b.toNat % 64 * 64 + d.toNat % 64).isValidChar := by
    unfold Nat.isValidChar
    split at hlow <;> split at hhigh <;> omega
  have hb : 0x80 ≤ b.toNat ∧ b.toNat ≤ 0xBF := by
    split at hlow <;> split at hhigh <;> omega
  have hlong : 0x7FF < a.toNat % 16 * 4096 + b.toNat % 64 * 64 + d.toNat % 64 := by
    split at hlow <;> omega
  clear hlow hhigh
  rw [codePoint, encodeChar_ofNat hvalid, if_neg (by omega), if_neg (by omega), if_pos (by omega)]
  rw [ofNat_eq_of_toNat (a := a) (by omega), ofNat_eq_of_toNat (a := b) (by omega),
    ofNat_eq_of_toNat (a := d) (by omega)]

/-- The bounds of the second byte rule out shorter forms and numbers of no character. -/
theorem encodeChar_four {a b d e : UInt8} (ha : 0xF0 ≤ a.toNat ∧ a.toNat ≤ 0xF4)
    (hlow : (if a.toNat = 0xF0 then 0x90 else 0x80) ≤ b.toNat)
    (hhigh : b.toNat ≤ if a.toNat = 0xF4 then 0x8F else 0xBF)
    (hd : 0x80 ≤ d.toNat ∧ d.toNat ≤ 0xBF) (he : 0x80 ≤ e.toNat ∧ e.toNat ≤ 0xBF) :
    encodeChar (Char.ofNat (codePoint [a, b, d, e])) = [a, b, d, e] := by
  have hb : 0x80 ≤ b.toNat ∧ b.toNat ≤ 0xBF := by
    split at hlow <;> split at hhigh <;> omega
  have hlong : 0xFFFF <
      a.toNat % 8 * 262144 + b.toNat % 64 * 4096 + d.toNat % 64 * 64 + e.toNat % 64 := by
    split at hlow <;> omega
  have hvalid : (a.toNat % 8 * 262144 + b.toNat % 64 * 4096 + d.toNat % 64 * 64 +
      e.toNat % 64).isValidChar := by
    refine .inr ⟨by omega, ?_⟩
    split at hhigh <;> omega
  clear hlow hhigh
  rw [codePoint, encodeChar_ofNat hvalid, if_neg (by omega), if_neg (by omega), if_neg (by omega)]
  rw [ofNat_eq_of_toNat (a := a) (by omega), ofNat_eq_of_toNat (a := b) (by omega),
    ofNat_eq_of_toNat (a := d) (by omega), ofNat_eq_of_toNat (a := e) (by omega)]

/-- A first byte says how many bytes a character has by the range that it is in. -/
theorem shape?_cases (a : UInt8) :
    shape? a = none ∨ a.toNat < 0x80 ∨ (0xC2 ≤ a.toNat ∧ a.toNat < 0xE0) ∨
      (0xE0 ≤ a.toNat ∧ a.toNat < 0xF0) ∨ (0xF0 ≤ a.toNat ∧ a.toNat ≤ 0xF4) := by
  simp only [shape?, UInt8.lt_iff_toNat_lt, ← UInt8.toNat_inj, UInt8.reduceToNat]
  split_ifs <;> simp <;> omega

/-- A complete character is a first byte, a second one within its bounds and tails. -/
theorem exists_of_extent {a low high : UInt8} {rest : List UInt8} {length n : Nat}
    (hshape : shape? a = some (n + 1, low, high)) (h : extent a rest = (length, true)) :
    ∃ b tails more, rest = b :: (tails ++ more) ∧ tails.length = n ∧ length = n + 2 ∧
      low.toNat ≤ b.toNat ∧ b.toNat ≤ high.toNat ∧ ∀ t ∈ tails, 0x80 ≤ t.toNat ∧ t.toNat ≤ 0xBF := by
  rw [extent, hshape] at h
  cases rest with
  | nil => exact absurd (Prod.mk.inj h).2 (by decide)
  | cons b more =>
      simp only at h
      split at h
      · rename_i hbounds
        obtain ⟨rfl, htails⟩ := Prod.mk.inj h
        have hcount : ((more.take n).takeWhile isTail).length = n := beq_iff_eq.1 htails
        have hleading : (more.take n).takeWhile isTail = more.take n := by
          apply (List.takeWhile_prefix _).eq_of_length_le
          rw [hcount]
          exact List.length_take_le _ _
        rw [hleading] at hcount
        rw [Bool.and_eq_true, decide_eq_true_iff, decide_eq_true_iff, UInt8.le_iff_toNat_le,
          UInt8.le_iff_toNat_le] at hbounds
        refine ⟨b, more.take n, more.drop n, ?_, hcount, ?_, hbounds.1, hbounds.2, ?_⟩
        · rw [List.take_append_drop]
        · rw [hleading, hcount, Nat.add_comm]
        · intro t ht
          rw [← hleading] at ht
          have htail := List.mem_takeWhile_imp ht
          simpa [isTail, UInt8.le_iff_toNat_le] using htail
      · exact absurd (Prod.mk.inj h).2 (by decide)

/-- The bytes of a complete character are those that the character has. -/
theorem encodeChar_of_extent {a : UInt8} {rest : List UInt8} {length : Nat}
    (h : extent a rest = (length, true)) :
    encodeChar (Char.ofNat (codePoint ((a :: rest).take length))) = (a :: rest).take length ∧
      1 ≤ length := by
  rcases shape?_cases a with ha | ha | ha | ha | ha
  · rw [extent, ha] at h
    exact absurd (Prod.mk.inj h).2 (by decide)
  · rw [extent_one ha] at h
    obtain ⟨rfl, -⟩ := Prod.mk.inj h
    exact ⟨encodeChar_one ha, Nat.le_refl 1⟩
  · obtain ⟨b, tails, more, rfl, hlength, rfl, hlow, hhigh, -⟩ :=
      exists_of_extent (shape?_two ha.1 ha.2) h
    obtain rfl := List.eq_nil_of_length_eq_zero hlength
    exact ⟨encodeChar_two ha ⟨hlow, hhigh⟩, by omega⟩
  · obtain ⟨b, tails, more, rfl, hlength, rfl, hlow, hhigh, htails⟩ :=
      exists_of_extent (shape?_three ha.1 ha.2) h
    obtain ⟨d, rfl⟩ := List.length_eq_one_iff.1 hlength
    refine ⟨encodeChar_three ha ?_ ?_ (htails d (by simp)), by omega⟩
    · rwa [apply_ite UInt8.toNat] at hlow
    · rwa [apply_ite UInt8.toNat] at hhigh
  · obtain ⟨b, tails, more, rfl, hlength, rfl, hlow, hhigh, htails⟩ :=
      exists_of_extent (shape?_four ha.1 ha.2) h
    obtain ⟨d, tails, rfl⟩ := List.exists_cons_of_length_eq_add_one hlength
    obtain ⟨e, rfl⟩ := List.length_eq_one_iff.1 (Nat.succ.inj hlength)
    refine ⟨encodeChar_four ha ?_ ?_ (htails d (by simp)) (htails e (by simp)), by omega⟩
    · rwa [apply_ite UInt8.toNat] at hlow
    · rwa [apply_ite UInt8.toNat] at hhigh

theorem encode_of_decodeWith {fuel : Nat} {bytes : List UInt8} {s : List Char}
    (h : decodeWith none fuel bytes = some s) : encode s = bytes := by
  induction fuel generalizing bytes s with
  | zero =>
      cases bytes with
      | nil =>
          obtain rfl := Option.some.inj h
          rfl
      | cons a rest => exact absurd h (by simp [decodeWith])
  | succ fuel ih =>
      cases bytes with
      | nil =>
          obtain rfl := Option.some.inj h
          rfl
      | cons a rest =>
          cases hextent : extent a rest with
          | mk length isComplete =>
              rw [decodeWith, hextent] at h
              cases isComplete with
              | false => exact absurd h (by simp)
              | true =>
                  obtain ⟨more, hmore, rfl⟩ := Option.map_eq_some_iff.1 h
                  obtain ⟨hchar, hlength⟩ := encodeChar_of_extent hextent
                  obtain ⟨n, rfl⟩ := Nat.exists_eq_add_of_le' hlength
                  calc encode (Char.ofNat (codePoint ((a :: rest).take (n + 1))) :: more)
                      = encodeChar (Char.ofNat (codePoint ((a :: rest).take (n + 1)))) ++ encode more :=
                        List.flatMap_cons
                    _ = a :: rest.take n ++ rest.drop n := by
                        rw [hchar, ih hmore, List.take_succ_cons, Nat.add_sub_cancel]
                    _ = a :: rest := by rw [List.cons_append, List.take_append_drop]

/-- Bytes are read as a text exactly if they are the bytes of that text. -/
theorem decode?_eq_some_iff {bytes : List UInt8} {s : List Char} :
    decode? bytes = some s ↔ bytes = encode s := by
  constructor
  · intro h
    exact (encode_of_decodeWith h).symm
  · rintro rfl
    exact decode?_encode s

end AttributeSchema.Text.Utf8
