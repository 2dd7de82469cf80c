import Mathlib.Data.List.Basic

/-! # Files of records

Records that are written one behind the other, each of which says itself where it ends.  What can be
read from such a file, if it is cut anywhere, are the records that are whole. -/

namespace Foundations

/-- How a record `ρ` is written, and what `δ` is read of it. -/
structure RecordFormat (α ρ δ : Type) where
  encode : ρ → List α
  /-- The first record and what is behind it, `none` where it is not whole. -/
  decode : List α → Option (δ × List α)
  meaning : ρ → δ
  /-- A record that can be read. -/
  Good : ρ → Prop
  decode_encode : ∀ {record} rest, Good record →
    decode (encode record ++ rest) = some (meaning record, rest)
  decode_cut : ∀ {record part}, Good record → part <+: encode record → part ≠ encode record →
    decode part = none
  decode_nil : decode [] = none

namespace RecordFormat

variable {α ρ δ : Type} (format : RecordFormat α ρ δ)

/-- All records one behind the other. -/
def write (records : List ρ) : List α := records.flatMap format.encode

/-- At most so many records, and what is left. -/
def readFrom : Nat → List α → List δ × List α
  | 0, items => ([], items)
  | count + 1, items =>
    match format.decode items with
    | none => ([], items)
    | some (first, rest) =>
      let (others, unread) := readFrom count rest
      (first :: others, unread)

/-- Every record that is whole, and what is left; a record has at least one item. -/
def read (items : List α) : List δ × List α := format.readFrom (items.length + 1) items

variable {format}

theorem encode_ne_nil {record : ρ} (good : format.Good record) : format.encode record ≠ [] := by
  intro empty
  have read := format.decode_encode [] good
  rw [empty, List.nil_append, format.decode_nil] at read
  cases read

theorem length_le_write {records : List ρ} (good : ∀ record ∈ records, format.Good record) :
    records.length ≤ (format.write records).length := by
  induction records with
  | nil => simp
  | cons record records ih =>
    rw [List.forall_mem_cons] at good
    have first := List.length_pos_iff.mpr (encode_ne_nil good.1)
    have rest := ih good.2
    simp only [write, List.flatMap_cons, List.length_append, List.length_cons] at rest ⊢
    omega

theorem readFrom_write {records : List ρ} {tail : List α} {count : Nat}
    (good : ∀ record ∈ records, format.Good record) (ends : format.decode tail = none)
    (enough : records.length < count) :
    format.readFrom count (format.write records ++ tail) =
      (records.map format.meaning, tail) := by
  induction records generalizing count with
  | nil =>
    cases count with
    | zero => cases enough
    | succ count => simp [write, readFrom, ends]
  | cons record records ih =>
    rw [List.forall_mem_cons] at good
    cases count with
    | zero => cases enough
    | succ count =>
      have rest := ih good.2 (Nat.lt_of_succ_lt_succ enough)
      have first := format.decode_encode (format.write records ++ tail) good.1
      rw [write, List.flatMap_cons, List.append_assoc, ← write, readFrom, first]
      simp only [rest, List.map_cons]

/-- What is written can be read. -/
theorem read_write {records : List ρ} (good : ∀ record ∈ records, format.Good record) :
    format.read (format.write records) = (records.map format.meaning, []) := by
  have whole := @readFrom_write _ _ _ format _ [] _ good format.decode_nil
    (Nat.lt_succ_of_le (length_le_write good))
  rwa [List.append_nil] at whole

/-- A beginning of a file is whole records and a beginning of the next one. -/
theorem exists_of_prefix {records : List ρ} {part : List α} (begins : part <+: format.write records)
    (good : ∀ record ∈ records, format.Good record) :
    ∃ whole tail, whole <+: records ∧ part = format.write whole ++ tail ∧
      format.decode tail = none := by
  induction records generalizing part with
  | nil =>
    have empty : part = [] := List.prefix_nil.mp begins
    exact ⟨[], [], List.prefix_rfl, by simp [empty, write], format.decode_nil⟩
  | cons record records ih =>
    rw [List.forall_mem_cons] at good
    rw [write, List.flatMap_cons, ← write] at begins
    rcases List.prefix_or_prefix_of_prefix begins (List.prefix_append (format.encode record) _)
      with inside | ⟨rest, rfl⟩
    · by_cases ended : part = format.encode record
      · exact ⟨[record], [], ⟨records, rfl⟩, by simp [ended, write], format.decode_nil⟩
      · exact ⟨[], part, List.nil_prefix, rfl, format.decode_cut good.1 inside ended⟩
    · rw [List.prefix_append_right_inj] at begins
      obtain ⟨whole, tail, first, rfl, ends⟩ := ih begins good.2
      refine ⟨record :: whole, tail, ?_, ?_, ends⟩
      · exact (List.prefix_cons_inj record).mpr first
      · simp [write]

/-- Of a file that was cut, a beginning of its records can be read. -/
theorem read_cut {records : List ρ} {part : List α} (begins : part <+: format.write records)
    (good : ∀ record ∈ records, format.Good record) :
    ∃ whole tail, whole <+: records ∧ part = format.write whole ++ tail ∧
      format.read part = (whole.map format.meaning, tail) := by
  obtain ⟨whole, tail, first, rfl, ends⟩ := exists_of_prefix begins good
  have goodWhole : ∀ record ∈ whole, format.Good record :=
    fun record member => good record (first.subset member)
  refine ⟨whole, tail, first, rfl, readFrom_write goodWhole ends ?_⟩
  rw [List.length_append]
  have bound := length_le_write goodWhole
  omega

end RecordFormat

end Foundations
