import AmbientBundle.Utf8

/-!
# UTF-8, there and back

Bytes can be read exactly if they are what some text is written as, and then they are read as
that text (`decode_eq_some_iff`).

A character is spelled with one to four bytes (`Spells`).  Which bytes spell one is said with
numbers (`Pair`, `Triple`, `Quadruple`).  Every character is written as bytes that spell it
(`spells_encodeChar`), these bytes are read as the character whatever follows them
(`Spells.decode_append`), and bytes that can be read start with such a spelling
(`spells_of_decode`).
-/

namespace AmbientBundle
namespace Utf8

/-! ## The bytes of a character -/

/-- Whether a byte goes on with a character. -/
def Next (b : UInt8) : Prop := 128 ≤ b.toNat ∧ b.toNat ≤ 191

/-- Two bytes that form a character. -/
structure Pair (a b : UInt8) : Prop where
  /-- The first byte asks for one more. -/
  lead : 194 ≤ a.toNat ∧ a.toNat ≤ 223
  /-- The second byte goes on. -/
  second : Next b

/-- Three bytes that form a character. -/
structure Triple (a b c : UInt8) : Prop where
  /-- The first byte asks for two more. -/
  lead : 224 ≤ a.toNat ∧ a.toNat ≤ 239
  /-- The second byte goes on. -/
  second : Next b
  /-- Two bytes are not enough. -/
  long : a.toNat = 224 → 160 ≤ b.toNat
  /-- The character is no surrogate. -/
  scalar : a.toNat = 237 → b.toNat ≤ 159
  /-- The third byte goes on. -/
  third : Next c

/-- Four bytes that form a character. -/
structure Quadruple (a b c d : UInt8) : Prop where
  /-- The first byte asks for three more. -/
  lead : 240 ≤ a.toNat ∧ a.toNat ≤ 244
  /-- The second byte goes on. -/
  second : Next b
  /-- Three bytes are not enough. -/
  long : a.toNat = 240 → 144 ≤ b.toNat
  /-- The character is not beyond the last one. -/
  scalar : a.toNat = 244 → b.toNat ≤ 143
  /-- The third byte goes on. -/
  third : Next c
  /-- The fourth byte goes on. -/
  fourth : Next d

theorem isNext_iff {b lo hi : UInt8} :
    isNext b lo hi = true ↔ lo.toNat ≤ b.toNat ∧ b.toNat ≤ hi.toNat := by
  rw [isNext, Bool.and_eq_true, decide_eq_true_iff, decide_eq_true_iff, UInt8.le_iff_toNat_le,
    UInt8.le_iff_toNat_le]

theorem isNext_eq_true_iff {b : UInt8} : isNext b 0x80 0xbf = true ↔ Next b := isNext_iff

/-- The bounds of a second byte are narrower after two of the first bytes. -/
theorem isNext_narrowed_iff {a b l u x y : UInt8} (hne : l ≠ u) (hx : 128 ≤ x.toNat)
    (hy : y.toNat ≤ 191) :
    isNext b (if a = l then (x, 0xbf) else if a = u then (0x80, y) else (0x80, 0xbf)).1
        (if a = l then (x, 0xbf) else if a = u then (0x80, y) else (0x80, 0xbf)).2 = true ↔
      Next b ∧ (a.toNat = l.toNat → x.toNat ≤ b.toNat) ∧
        (a.toNat = u.toNat → b.toNat ≤ y.toNat) := by
  rw [UInt8.toNat_inj, UInt8.toNat_inj, isNext_iff, Next]
  by_cases hl : a = l
  · subst hl
    rw [if_pos rfl]
    change x.toNat ≤ b.toNat ∧ b.toNat ≤ 191 ↔ _
    simp only [hne, true_implies, false_implies, and_true]
    omega
  · rw [if_neg hl]
    by_cases hu : a = u
    · subst hu
      rw [if_pos rfl]
      change 128 ≤ b.toNat ∧ b.toNat ≤ y.toNat ↔ _
      simp only [hl, true_implies, false_implies, true_and]
      omega
    · rw [if_neg hu]
      change 128 ≤ b.toNat ∧ b.toNat ≤ 191 ↔ _
      simp only [hl, hu, false_implies, and_true]

theorem leads_iff {a lo hi : UInt8} :
    (lo ≤ a && a ≤ hi) = true ↔ lo.toNat ≤ a.toNat ∧ a.toNat ≤ hi.toNat := isNext_iff

theorem pair_iff {a b : UInt8} :
    Pair a b ↔ (0xc2 ≤ a && a ≤ 0xdf) = true ∧ isNext b 0x80 0xbf = true := by
  rw [leads_iff, isNext_eq_true_iff]
  exact ⟨fun h => ⟨h.lead, h.second⟩, fun h => ⟨h.1, h.2⟩⟩

theorem triple_iff {a b c : UInt8} :
    Triple a b c ↔ (0xe0 ≤ a && a ≤ 0xef) = true ∧
      (isNext b (secondOfThree a).1 (secondOfThree a).2 && isNext c 0x80 0xbf) = true := by
  rw [leads_iff, Bool.and_eq_true, isNext_eq_true_iff, secondOfThree,
    isNext_narrowed_iff (by decide) (by decide) (by decide)]
  exact ⟨fun h => ⟨h.lead, ⟨h.second, h.long, h.scalar⟩, h.third⟩,
    fun h => ⟨h.1, h.2.1.1, h.2.1.2.1, h.2.1.2.2, h.2.2⟩⟩

theorem quadruple_iff {a b c d : UInt8} :
    Quadruple a b c d ↔ (0xf0 ≤ a && a ≤ 0xf4) = true ∧
      (isNext b (secondOfFour a).1 (secondOfFour a).2 && isNext c 0x80 0xbf &&
        isNext d 0x80 0xbf) = true := by
  rw [leads_iff, Bool.and_eq_true, Bool.and_eq_true, isNext_eq_true_iff, isNext_eq_true_iff,
    secondOfFour, isNext_narrowed_iff (by decide) (by decide) (by decide)]
  exact ⟨fun h => ⟨h.lead, ⟨⟨h.second, h.long, h.scalar⟩, h.third⟩, h.fourth⟩,
    fun h => ⟨h.1, h.2.1.1.1, h.2.1.1.2.1, h.2.1.1.2.2, h.2.1.2, h.2.2⟩⟩

/-! ## Reading the bytes of a character -/

section

variable {a b c d : UInt8} (rest : Bytes)

theorem not_lt_of_lead (h : 128 ≤ a.toNat) : ¬ a < 0x80 := fun ha =>
  absurd (UInt8.lt_iff_toNat_lt.1 ha) (Nat.not_lt_of_le h)

/-- A first byte above some bytes is none of them. -/
theorem not_leads_of_lt {hi : UInt8} (lo : UInt8) (h : hi.toNat < a.toNat) :
    ¬ (lo ≤ a && a ≤ hi) = true := fun ha =>
  absurd (leads_iff.1 ha).2 (Nat.not_le_of_lt h)

theorem decode_single (h : a.toNat < 128) :
    decode (a :: rest) = (decode rest).map (Char.ofNat a.toNat :: ·) := by
  have ha : a < 0x80 := UInt8.lt_iff_toNat_lt.2 h
  rw [decode.eq_def]
  dsimp only
  rw [if_pos ha]

theorem decode_pair (h : Pair a b) :
    decode (a :: b :: rest) =
      (decode rest).map (Char.ofNat (a.toNat % 32 * 64 + nextBits b) :: ·) := by
  have hfirst := h.lead.1
  obtain ⟨hlead, hb⟩ := pair_iff.1 h
  rw [decode.eq_def]
  dsimp only
  rw [if_neg (not_lt_of_lead (by omega)), if_pos hlead, if_pos hb]

theorem decode_triple (h : Triple a b c) :
    decode (a :: b :: c :: rest) =
      (decode rest).map
        (Char.ofNat (a.toNat % 16 * 4096 + nextBits b * 64 + nextBits c) :: ·) := by
  have hfirst := h.lead.1
  obtain ⟨hlead, hbc⟩ := triple_iff.1 h
  have hpair : (0xdf : UInt8).toNat < a.toNat := by
    change 223 < a.toNat
    omega
  rw [decode.eq_def]
  dsimp only
  rw [if_neg (not_lt_of_lead (by omega)), if_neg (not_leads_of_lt _ hpair), if_pos hlead,
    if_pos hbc]

theorem decode_quadruple (h : Quadruple a b c d) :
    decode (a :: b :: c :: d :: rest) =
      (decode rest).map
        (Char.ofNat (a.toNat % 8 * 262144 + nextBits b * 4096 + nextBits c * 64 + nextBits d) ::
          ·) := by
  have hfirst := h.lead.1
  obtain ⟨hlead, hbcd⟩ := quadruple_iff.1 h
  have htriple : (0xef : UInt8).toNat < a.toNat := by
    change 239 < a.toNat
    omega
  have hpair : (0xdf : UInt8).toNat < a.toNat := by
    change 223 < a.toNat
    omega
  rw [decode.eq_def]
  dsimp only
  rw [if_neg (not_lt_of_lead (by omega)), if_neg (not_leads_of_lt _ hpair),
    if_neg (not_leads_of_lt _ htriple), if_pos hlead, if_pos hbcd]

end

/-! ## Writing a character -/

/-- The bytes of a character that is given by its number. -/
theorem encodeChar_ofNat {n : Nat} (h : n.isValidChar) :
    String.utf8EncodeChar (Char.ofNat n) =
      if n ≤ 127 then [UInt8.ofNat n]
      else if n ≤ 2047 then [UInt8.ofNat (n / 64 % 32 + 192), UInt8.ofNat (n % 64 + 128)]
      else if n ≤ 65535 then
        [UInt8.ofNat (n / 4096 % 16 + 224), UInt8.ofNat (n / 64 % 64 + 128),
          UInt8.ofNat (n % 64 + 128)]
      else
        [UInt8.ofNat (n / 262144 % 8 + 240), UInt8.ofNat (n / 4096 % 64 + 128),
          UInt8.ofNat (n / 64 % 64 + 128), UInt8.ofNat (n % 64 + 128)] := by
  have hval : (Char.ofNat n).val.toNat = n := by
    rw [Char.ofNat, dif_pos h]
    rfl
  simp only [String.utf8EncodeChar, hval]

theorem ofNat_eq {n : Nat} {b : UInt8} (h : n = b.toNat) : UInt8.ofNat n = b := by
  rw [h, UInt8.ofNat_toNat]

/-- The bytes that a character is written as. -/
inductive Spells : Bytes → Char → Prop where
  /-- One byte. -/
  | single (a : UInt8) (h : a.toNat < 128) : Spells [a] (Char.ofNat a.toNat)
  /-- Two bytes. -/
  | pair (a b : UInt8) (h : Pair a b) :
      Spells [a, b] (Char.ofNat (a.toNat % 32 * 64 + nextBits b))
  /-- Three bytes. -/
  | triple (a b c : UInt8) (h : Triple a b c) :
      Spells [a, b, c] (Char.ofNat (a.toNat % 16 * 4096 + nextBits b * 64 + nextBits c))
  /-- Four bytes. -/
  | quadruple (a b c d : UInt8) (h : Quadruple a b c d) :
      Spells [a, b, c, d]
        (Char.ofNat (a.toNat % 8 * 262144 + nextBits b * 4096 + nextBits c * 64 + nextBits d))

theorem Spells.decode_append {w : Bytes} {c : Char} (h : Spells w c) (rest : Bytes) :
    decode (w ++ rest) = (decode rest).map (c :: ·) := by
  cases h with
  | single a h => exact decode_single rest h
  | pair a b h => exact decode_pair rest h
  | triple a b c h => exact decode_triple rest h
  | quadruple a b c d h => exact decode_quadruple rest h

theorem Spells.encodeChar_eq {w : Bytes} {x : Char} (h : Spells w x) :
    String.utf8EncodeChar x = w := by
  cases h with
  | single a h =>
    rw [encodeChar_ofNat (Or.inl (by omega)), if_pos (by omega), UInt8.ofNat_toNat]
  | pair a b h =>
    obtain ⟨hlead, hb, hb'⟩ := h
    rw [nextBits, encodeChar_ofNat (Or.inl (by omega)), if_neg (by omega), if_pos (by omega),
      ofNat_eq (b := a) (by omega), ofNat_eq (b := b) (by omega)]
  | triple a b c h =>
    obtain ⟨hlead, ⟨hb, hb'⟩, hlong, hscalar, hc, hc'⟩ := h
    have hvalid : (a.toNat % 16 * 4096 + b.toNat % 64 * 64 + c.toNat % 64).isValidChar := by
      rw [Nat.isValidChar]
      omega
    rw [nextBits, nextBits, encodeChar_ofNat hvalid, if_neg (by omega), if_neg (by omega),
      if_pos (by omega), ofNat_eq (b := a) (by omega), ofNat_eq (b := b) (by omega),
      ofNat_eq (b := c) (by omega)]
  | quadruple a b c d h =>
    obtain ⟨hlead, ⟨hb, hb'⟩, hlong, hscalar, ⟨hc, hc'⟩, hd, hd'⟩ := h
    have hvalid : (a.toNat % 8 * 262144 + b.toNat % 64 * 4096 + c.toNat % 64 * 64 +
        d.toNat % 64).isValidChar := by
      rw [Nat.isValidChar]
      omega
    rw [nextBits, nextBits, nextBits, encodeChar_ofNat hvalid, if_neg (by omega),
      if_neg (by omega), if_neg (by omega), ofNat_eq (b := a) (by omega),
      ofNat_eq (b := b) (by omega), ofNat_eq (b := c) (by omega), ofNat_eq (b := d) (by omega)]

theorem toNat_ofNat {n : Nat} (h : n < 256) : (UInt8.ofNat n).toNat = n := by
  rw [UInt8.toNat_ofNat', Nat.mod_eq_of_lt h]

/-- Every character is written in one of these ways. -/
theorem spells_encodeChar (x : Char) : Spells (String.utf8EncodeChar x) x := by
  obtain ⟨n, hvalid, rfl⟩ : ∃ n : Nat, n.isValidChar ∧ Char.ofNat n = x :=
    ⟨x.toNat, x.valid, Char.ofNat_toNat x⟩
  rw [encodeChar_ofNat hvalid]
  rw [Nat.isValidChar] at hvalid
  split
  · have ha := toNat_ofNat (n := n) (by omega)
    have hform := Spells.single (UInt8.ofNat n) (by omega)
    rwa [ha] at hform
  · split
    · have ha := toNat_ofNat (n := n / 64 % 32 + 192) (by omega)
      have hb := toNat_ofNat (n := n % 64 + 128) (by omega)
      have hform := Spells.pair _ _ ⟨by rw [ha]; omega, by rw [Next, hb]; omega⟩
      rwa [nextBits, ha, hb, show (n / 64 % 32 + 192) % 32 * 64 + (n % 64 + 128) % 64 = n by omega]
        at hform
    · split
      · have ha := toNat_ofNat (n := n / 4096 % 16 + 224) (by omega)
        have hb := toNat_ofNat (n := n / 64 % 64 + 128) (by omega)
        have hc := toNat_ofNat (n := n % 64 + 128) (by omega)
        have hform := Spells.triple _ _ _ ⟨by rw [ha]; omega, by rw [Next, hb]; omega,
          by rw [ha, hb]; omega, by rw [ha, hb]; omega, by rw [Next, hc]; omega⟩
        rwa [nextBits, nextBits, ha, hb, hc,
          show (n / 4096 % 16 + 224) % 16 * 4096 + (n / 64 % 64 + 128) % 64 * 64 +
            (n % 64 + 128) % 64 = n by omega] at hform
      · have ha := toNat_ofNat (n := n / 262144 % 8 + 240) (by omega)
        have hb := toNat_ofNat (n := n / 4096 % 64 + 128) (by omega)
        have hc := toNat_ofNat (n := n / 64 % 64 + 128) (by omega)
        have hd := toNat_ofNat (n := n % 64 + 128) (by omega)
        have hform := Spells.quadruple _ _ _ _ ⟨by rw [ha]; omega, by rw [Next, hb]; omega,
          by rw [ha, hb]; omega, by rw [ha, hb]; omega, by rw [Next, hc]; omega,
          by rw [Next, hd]; omega⟩
        rwa [nextBits, nextBits, nextBits, ha, hb, hc, hd,
          show (n / 262144 % 8 + 240) % 8 * 262144 + (n / 4096 % 64 + 128) % 64 * 4096 +
            (n / 64 % 64 + 128) % 64 * 64 + (n % 64 + 128) % 64 = n by omega] at hform

/-! ## Texts -/

/-- Bytes that can be read are none, or start with the bytes of a character. -/
theorem spells_of_decode {a : UInt8} {bs : Bytes} {t : Text} (h : decode (a :: bs) = some t) :
    ∃ w x rest, a :: bs = w ++ rest ∧ Spells w x := by
  rw [decode.eq_def] at h
  dsimp only at h
  split at h
  · next ha => exact ⟨_, _, bs, rfl, .single a (UInt8.lt_iff_toNat_lt.1 ha)⟩
  · split at h
    · next hlead =>
      split at h
      · split at h
        · next hb => exact ⟨_, _, _, rfl, .pair _ _ (pair_iff.2 ⟨hlead, hb⟩)⟩
        · cases h
      · cases h
    · split at h
      · next hlead =>
        split at h
        · split at h
          · next hbc => exact ⟨_, _, _, rfl, .triple _ _ _ (triple_iff.2 ⟨hlead, hbc⟩)⟩
          · cases h
        · cases h
      · split at h
        · next hlead =>
          split at h
          · split at h
            · next hbcd =>
              exact ⟨_, _, _, rfl, .quadruple _ _ _ _ (quadruple_iff.2 ⟨hlead, hbcd⟩)⟩
            · cases h
          · cases h
        · cases h

theorem decode_encode (t : Text) : decode (encode t) = some t := by
  induction t with
  | nil => rfl
  | cons x t ih =>
    rw [encode, List.flatMap_cons, ← encode, (spells_encodeChar x).decode_append, ih,
      Option.map_some]

theorem encode_of_decode {bs : Bytes} {t : Text} (h : decode bs = some t) : encode t = bs := by
  induction hn : bs.length using Nat.strongRecOn generalizing bs t with
  | ind n ih =>
    cases bs with
    | nil =>
      cases h
      rfl
    | cons a bs =>
      obtain ⟨w, x, rest, heq, hspells⟩ := spells_of_decode h
      rw [heq, hspells.decode_append] at h
      obtain ⟨t', ht', rfl⟩ := Option.map_eq_some_iff.1 h
      have hlength : rest.length < n := by
        have hw : 0 < w.length := by cases hspells <;> exact Nat.succ_pos _
        rw [← hn, heq, List.length_append]
        omega
      rw [encode, List.flatMap_cons, ← encode, hspells.encodeChar_eq, ih _ hlength ht' rfl, heq]

theorem encode_injective : Function.Injective encode := fun t u h =>
  Option.some.inj (by rw [← decode_encode t, h, decode_encode])

/-- Bytes can be read exactly if they are what a text is written as. -/
theorem decode_eq_some_iff {bs : Bytes} {t : Text} : decode bs = some t ↔ encode t = bs :=
  ⟨encode_of_decode, fun h => h ▸ decode_encode t⟩

end Utf8
end AmbientBundle
