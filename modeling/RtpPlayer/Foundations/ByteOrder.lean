import Mathlib.Data.List.Basic

/-! # Byte order

Fixed-width words as sequences of bytes: how a little-endian host loads one from memory, how it is
sent most significant byte first, and the swap between the two. -/

namespace Foundations.ByteOrder

/-! ## Sixteen bits -/

/-- The word whose bytes are sent in the order `high`, `low`. -/
def ofBigEndian16 (high low : UInt8) : UInt16 := UInt16.ofNat (high.toNat * 256 + low.toNat)

/-- The word a little-endian host loads from two consecutive bytes. -/
def ofLittleEndian16 (first second : UInt8) : UInt16 := ofBigEndian16 second first

def swap16 (word : UInt16) : UInt16 :=
  ofBigEndian16 (UInt8.ofNat word.toNat) (UInt8.ofNat (word.toNat / 256))

/-- The bytes of a word, most significant first. -/
def bigEndian16 (word : UInt16) : List UInt8 :=
  [UInt8.ofNat (word.toNat / 256), UInt8.ofNat word.toNat]

theorem ofBigEndian16_toNat (high low : UInt8) :
    (ofBigEndian16 high low).toNat = high.toNat * 256 + low.toNat := by
  have := high.toNat_lt
  have := low.toNat_lt
  simp only [ofBigEndian16, UInt16.toNat_ofNat']
  omega

theorem swap16_ofLittleEndian16 (first second : UInt8) :
    swap16 (ofLittleEndian16 first second) = ofBigEndian16 first second := by
  have := first.toNat_lt
  have := second.toNat_lt
  apply UInt16.toNat_inj.mp
  simp only [swap16, ofLittleEndian16, ofBigEndian16_toNat, UInt8.toNat_ofNat']
  omega

@[simp] theorem bigEndian16_length (word : UInt16) : (bigEndian16 word).length = 2 := rfl

theorem ofBigEndian16_bigEndian16 (word : UInt16) :
    ofBigEndian16 (UInt8.ofNat (word.toNat / 256)) (UInt8.ofNat word.toNat) = word := by
  have := word.toNat_lt
  apply UInt16.toNat_inj.mp
  simp only [ofBigEndian16_toNat, UInt8.toNat_ofNat']
  omega

theorem bigEndian16_ofBigEndian16 (high low : UInt8) :
    bigEndian16 (ofBigEndian16 high low) = [high, low] := by
  have := low.toNat_lt
  have := high.toNat_lt
  simp only [bigEndian16, ofBigEndian16_toNat, List.cons.injEq, and_true]
  constructor <;> apply UInt8.toNat_inj.mp <;> simp only [UInt8.toNat_ofNat'] <;> omega

/-! ## Thirty-two bits -/

def ofBigEndian32 (first second third fourth : UInt8) : UInt32 :=
  UInt32.ofNat (((first.toNat * 256 + second.toNat) * 256 + third.toNat) * 256 + fourth.toNat)

/-- The word a little-endian host loads from four consecutive bytes. -/
def ofLittleEndian32 (first second third fourth : UInt8) : UInt32 :=
  ofBigEndian32 fourth third second first

def swap32 (word : UInt32) : UInt32 :=
  ofBigEndian32 (UInt8.ofNat word.toNat) (UInt8.ofNat (word.toNat / 256))
    (UInt8.ofNat (word.toNat / 65536)) (UInt8.ofNat (word.toNat / 16777216))

def bigEndian32 (word : UInt32) : List UInt8 :=
  [UInt8.ofNat (word.toNat / 16777216), UInt8.ofNat (word.toNat / 65536),
    UInt8.ofNat (word.toNat / 256), UInt8.ofNat word.toNat]

theorem ofBigEndian32_toNat (first second third fourth : UInt8) :
    (ofBigEndian32 first second third fourth).toNat =
      ((first.toNat * 256 + second.toNat) * 256 + third.toNat) * 256 + fourth.toNat := by
  have := first.toNat_lt
  have := second.toNat_lt
  have := third.toNat_lt
  have := fourth.toNat_lt
  simp only [ofBigEndian32, UInt32.toNat_ofNat']
  omega

theorem swap32_ofLittleEndian32 (first second third fourth : UInt8) :
    swap32 (ofLittleEndian32 first second third fourth) =
      ofBigEndian32 first second third fourth := by
  have := first.toNat_lt
  have := second.toNat_lt
  have := third.toNat_lt
  have := fourth.toNat_lt
  simp only [swap32, ofLittleEndian32, ofBigEndian32_toNat]
  congr 1 <;> apply UInt8.toNat_inj.mp <;> simp only [UInt8.toNat_ofNat'] <;> omega

@[simp] theorem bigEndian32_length (word : UInt32) : (bigEndian32 word).length = 4 := rfl

theorem ofBigEndian32_bigEndian32 (word : UInt32) :
    ofBigEndian32 (UInt8.ofNat (word.toNat / 16777216)) (UInt8.ofNat (word.toNat / 65536))
      (UInt8.ofNat (word.toNat / 256)) (UInt8.ofNat word.toNat) = word := by
  have := word.toNat_lt
  apply UInt32.toNat_inj.mp
  simp only [ofBigEndian32_toNat, UInt8.toNat_ofNat']
  omega

theorem bigEndian32_ofBigEndian32 (first second third fourth : UInt8) :
    bigEndian32 (ofBigEndian32 first second third fourth) = [first, second, third, fourth] := by
  have := first.toNat_lt
  have := second.toNat_lt
  have := third.toNat_lt
  have := fourth.toNat_lt
  simp only [bigEndian32, ofBigEndian32_toNat, List.cons.injEq, and_true]
  refine ⟨?_, ?_, ?_, ?_⟩ <;> apply UInt8.toNat_inj.mp <;> simp only [UInt8.toNat_ofNat'] <;> omega

/-! ## Sequences of words -/

theorem flatMap_bigEndian32_length (words : List UInt32) :
    (words.flatMap bigEndian32).length = 4 * words.length := by
  induction words with
  | nil => rfl
  | cons word words ih => simp only [List.flatMap_cons, List.length_append, ih,
      bigEndian32_length, List.length_cons]; omega

/-- Any whole number of words' worth of bytes is some sequence of words. -/
theorem exists_flatMap_bigEndian32 (count : Nat) (bytes : List UInt8)
    (whole : bytes.length = 4 * count) :
    ∃ words : List UInt32, words.length = count ∧ words.flatMap bigEndian32 = bytes := by
  induction count generalizing bytes with
  | zero => exact ⟨[], rfl, (List.eq_nil_of_length_eq_zero whole).symm⟩
  | succ count ih =>
    match bytes, whole with
    | first :: second :: third :: fourth :: bytes, whole =>
      obtain ⟨words, counted, same⟩ := ih bytes (by simp only [List.length_cons] at whole; omega)
      refine ⟨ofBigEndian32 first second third fourth :: words, by simp [counted], ?_⟩
      rw [List.flatMap_cons, same, bigEndian32_ofBigEndian32]
      rfl

end Foundations.ByteOrder
