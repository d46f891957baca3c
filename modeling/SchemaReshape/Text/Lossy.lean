/-!
# Bytes as text

The text that bytes spell in UTF-8. Bytes that begin a character and do not complete it are read as
one replacement character, and so is a byte that begins none. What was encoded is read back
(`lossy_toUTF8`).
-/

namespace SchemaReshape.Text

structure ByteRange where
  low : Nat
  high : Nat

def ByteRange.has (r : ByteRange) (b : Nat) : Bool := r.low ≤ b && b ≤ r.high

def continuation : ByteRange := ⟨0x80, 0xbf⟩

/-- The first byte of a character: its share of the code point, and what may follow it. -/
structure Lead where
  code : Nat
  following : List ByteRange

/-- After some first bytes not every continuation spells a character: it has to be one that no
shorter spelling has, that is no half of a surrogate pair and that is a code point at all. -/
def lead? (b : Nat) : Option Lead :=
  if b < 0x80 then some ⟨b, []⟩
  else if b < 0xc2 then none
  else if b < 0xe0 then some ⟨b - 0xc0, [continuation]⟩
  else if b = 0xe0 then some ⟨0, [⟨0xa0, 0xbf⟩, continuation]⟩
  else if b = 0xed then some ⟨0xd, [⟨0x80, 0x9f⟩, continuation]⟩
  else if b < 0xf0 then some ⟨b - 0xe0, [continuation, continuation]⟩
  else if b = 0xf0 then some ⟨0, [⟨0x90, 0xbf⟩, continuation, continuation]⟩
  else if b < 0xf4 then some ⟨b - 0xf0, [continuation, continuation, continuation]⟩
  else if b = 0xf4 then some ⟨4, [⟨0x80, 0x8f⟩, continuation, continuation]⟩
  else none

def replacement : Char := '\ufffd'

def finishChar (code : Nat) : List ByteRange → List UInt8 → Char × List UInt8
  | [], bytes => (Char.ofNat code, bytes)
  | _ :: _, [] => (replacement, [])
  | r :: following, b :: bytes =>
    if r.has b.toNat then finishChar (64 * code + b.toNat % 64) following bytes
    else (replacement, b :: bytes)

theorem length_finishChar_le (code : Nat) (following : List ByteRange) (bytes : List UInt8) :
    (finishChar code following bytes).2.length ≤ bytes.length := by
  induction following generalizing code bytes with
  | nil => exact Nat.le_refl _
  | cons r following ih =>
    cases bytes with
    | nil => exact Nat.le_refl _
    | cons b bytes =>
      rw [finishChar]
      split
      · exact Nat.le_succ_of_le (ih _ bytes)
      · exact Nat.le_refl _

def lossyChars : List UInt8 → List Char
  | [] => []
  | b :: bytes =>
    match lead? b.toNat with
    | none => replacement :: lossyChars bytes
    | some l =>
      let r := finishChar l.code l.following bytes
      r.1 :: lossyChars r.2
termination_by bytes => bytes.length
decreasing_by
  · exact Nat.lt_succ_self _
  · exact Nat.lt_succ_of_le (length_finishChar_le ..)

def lossy (bytes : List UInt8) : String := String.ofList (lossyChars bytes)

section Encoded

variable {v n : Nat}

theorem toNat_ofNat (h : n < 256) : (UInt8.ofNat n).toNat = n := UInt8.toNat_ofNat_of_lt h

theorem finishChar_cons {code : Nat} {r : ByteRange} (following : List ByteRange)
    (bytes : List UInt8) (hn : n < 256) (hlow : r.low ≤ n) (hhigh : n ≤ r.high) :
    finishChar code (r :: following) (.ofNat n :: bytes) =
      finishChar (64 * code + n % 64) following bytes := by
  have hhas : r.has (UInt8.ofNat n).toNat = true := by
    rw [toNat_ofNat hn, ByteRange.has, decide_eq_true hlow, decide_eq_true hhigh, Bool.and_true]
  rw [finishChar, if_pos hhas, toNat_ofNat hn]

theorem finishChar_continuation {code : Nat} (following : List ByteRange) (bytes : List UInt8)
    (hn : n < 64) :
    finishChar code (continuation :: following) (.ofNat (n + 128) :: bytes) =
      finishChar (64 * code + n) following bytes := by
  have hcode : (n + 128) % 64 = n := by omega
  rw [finishChar_cons following bytes (by omega) (by simp only [continuation]; omega)
    (by simp only [continuation]; omega), hcode]

theorem lossyChars_cons {bytes rest : List UInt8} {l : Lead} {c : Char} (hn : n < 256)
    (hlead : lead? n = some l) (hfinish : finishChar l.code l.following bytes = (c, rest)) :
    lossyChars (.ofNat n :: bytes) = c :: lossyChars rest := by
  rw [lossyChars, toNat_ofNat hn]
  simp only [hlead, hfinish]

/-- The second of three bytes is one that may follow the first one, as half a surrogate pair is no
character. -/
theorem lead?_of_three (hv : v < 0xd800 ∨ 0xdfff < v) (hlow : 0x7ff < v) (hhigh : v ≤ 0xffff) :
    ∃ r : ByteRange, lead? (v / 4096 % 16 + 224) = some ⟨v / 4096, [r, continuation]⟩ ∧
      r.low ≤ v / 64 % 64 + 128 ∧ v / 64 % 64 + 128 ≤ r.high := by
  rw [lead?, if_neg (by omega), if_neg (by omega), if_neg (by omega)]
  by_cases hfirst : v / 4096 % 16 + 224 = 0xe0
  · have hcode : v / 4096 = 0 := by omega
    rw [if_pos hfirst, hcode]
    exact ⟨_, rfl, by dsimp only; omega, by dsimp only; omega⟩
  rw [if_neg hfirst]
  by_cases hlast : v / 4096 % 16 + 224 = 0xed
  · have hcode : v / 4096 = 0xd := by omega
    rw [if_pos hlast, hcode]
    exact ⟨_, rfl, by dsimp only; omega, by dsimp only; omega⟩
  have hcode : v / 4096 % 16 + 224 - 0xe0 = v / 4096 := by omega
  rw [if_neg hlast, if_pos (by omega), hcode]
  exact ⟨_, rfl, by simp only [continuation]; omega, by simp only [continuation]; omega⟩

theorem lead?_of_four (hlow : 0xffff < v) (hhigh : v < 0x110000) :
    ∃ r : ByteRange,
      lead? (v / 262144 % 8 + 240) = some ⟨v / 262144, [r, continuation, continuation]⟩ ∧
        r.low ≤ v / 4096 % 64 + 128 ∧ v / 4096 % 64 + 128 ≤ r.high := by
  rw [lead?, if_neg (by omega), if_neg (by omega), if_neg (by omega), if_neg (by omega),
    if_neg (by omega), if_neg (by omega)]
  by_cases hfirst : v / 262144 % 8 + 240 = 0xf0
  · have hcode : v / 262144 = 0 := by omega
    rw [if_pos hfirst, hcode]
    exact ⟨_, rfl, by dsimp only; omega, by dsimp only; omega⟩
  rw [if_neg hfirst]
  by_cases hlast : v / 262144 % 8 + 240 < 0xf4
  · have hcode : v / 262144 % 8 + 240 - 0xf0 = v / 262144 := by omega
    rw [if_pos hlast, hcode]
    exact ⟨_, rfl, by simp only [continuation]; omega, by simp only [continuation]; omega⟩
  have hcode : v / 262144 = 4 := by omega
  rw [if_neg hlast, if_pos (by omega), hcode]
  exact ⟨_, rfl, by dsimp only; omega, by dsimp only; omega⟩

theorem lossyChars_encodeChar (c : Char) (bytes : List UInt8) :
    lossyChars (String.utf8EncodeChar c ++ bytes) = c :: lossyChars bytes := by
  have hc : Char.ofNat c.val.toNat = c := Char.ofNat_toNat c
  have hvalid : c.val.toNat < 0xd800 ∨ 0xdfff < c.val.toNat ∧ c.val.toNat < 0x110000 := c.valid
  rw [String.utf8EncodeChar]
  generalize c.val.toNat = v at *
  by_cases h₁ : v ≤ 127
  · rw [if_pos h₁]
    refine lossyChars_cons (l := ⟨v, []⟩) (by omega) ?_ ?_
    · rw [lead?, if_pos (by omega)]
    · rw [finishChar, hc]; rfl
  rw [if_neg h₁]
  by_cases h₂ : v ≤ 2047
  · rw [if_pos h₂]
    refine lossyChars_cons (l := ⟨v / 64, [continuation]⟩) (by omega) ?_ ?_
    · have hcode : v / 64 % 32 + 192 - 0xc0 = v / 64 := by omega
      rw [lead?, if_neg (by omega), if_neg (by omega), if_pos (by omega), hcode]
    · have hcode : 64 * (v / 64) + v % 64 = v := by omega
      refine (finishChar_continuation _ _ (by omega)).trans ?_
      rw [finishChar, hcode, hc]; rfl
  rw [if_neg h₂]
  by_cases h₃ : v ≤ 65535
  · rw [if_pos h₃]
    obtain ⟨r, hlead, hlow, hhigh⟩ := lead?_of_three (by omega) (by omega) h₃
    refine lossyChars_cons (by omega) hlead ?_
    have hcode : 64 * (64 * (v / 4096) + (v / 64 % 64 + 128) % 64) + v % 64 = v := by omega
    refine (finishChar_cons _ _ (by omega) hlow hhigh).trans ?_
    refine (finishChar_continuation _ _ (by omega)).trans ?_
    rw [finishChar, hcode, hc]; rfl
  · rw [if_neg h₃]
    obtain ⟨r, hlead, hlow, hhigh⟩ := lead?_of_four (v := v) (by omega) (by omega)
    refine lossyChars_cons (by omega) hlead ?_
    have hcode : 64 * (64 * (64 * (v / 262144) + (v / 4096 % 64 + 128) % 64) + v / 64 % 64) +
        v % 64 = v := by omega
    refine (finishChar_cons _ _ (by omega) hlow hhigh).trans ?_
    refine (finishChar_continuation _ _ (by omega)).trans ?_
    refine (finishChar_continuation _ _ (by omega)).trans ?_
    rw [finishChar, hcode, hc]; rfl

theorem lossyChars_encode (cs : List Char) :
    lossyChars (cs.flatMap String.utf8EncodeChar) = cs := by
  induction cs with
  | nil => rw [List.flatMap_nil, lossyChars]
  | cons c cs ih => rw [List.flatMap_cons, lossyChars_encodeChar, ih]

/-- Bytes that spell a text are read as that text. -/
theorem lossy_toUTF8 (text : String) : lossy text.toUTF8.data.toList = text := by
  have hbytes : text.toUTF8.data.toList = text.toList.flatMap String.utf8EncodeChar := by
    rw [String.toUTF8, ← String.utf8Encode_toList, List.utf8Encode, List.data_toByteArray]
  rw [hbytes, lossy, lossyChars_encode, String.ofList_toList]

end Encoded

end SchemaReshape.Text
