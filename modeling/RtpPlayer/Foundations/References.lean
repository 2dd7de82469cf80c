import Mathlib.Logic.Function.Basic
import Mathlib.Data.List.Count

/-! # Counted references

Objects that keep the number of references to them and are deleted when it falls to zero.  The
counts are right when they can be told from a list of everything that holds a reference: `Balanced`.
An object that is held is then alive, and every release gives back a reference that was there. -/

namespace Foundations

/-- The reference count of every object, 0 where the object does not exist. -/
abbrev References (κ : Type) := κ → Nat

namespace References

variable {κ : Type} [DecidableEq κ]

def addRef (count : References κ) (object : κ) : References κ :=
  Function.update count object (count object + 1)

def release (count : References κ) (object : κ) : References κ :=
  Function.update count object (count object - 1)

@[simp] theorem addRef_self (count : References κ) (object : κ) :
    count.addRef object object = count object + 1 := Function.update_self ..

theorem addRef_of_ne (count : References κ) {object other : κ} (ne : other ≠ object) :
    count.addRef object other = count other := Function.update_of_ne ne ..

@[simp] theorem release_self (count : References κ) (object : κ) :
    count.release object object = count object - 1 := Function.update_self ..

theorem release_of_ne (count : References κ) {object other : κ} (ne : other ≠ object) :
    count.release object other = count other := Function.update_of_ne ne ..

/-- Another reference to an object that exists makes no other exist. -/
theorem addRef_pos_iff {count : References κ} {object : κ} (positive : 0 < count object)
    (other : κ) : 0 < count.addRef object other ↔ 0 < count other := by
  by_cases same : other = object
  · subst same
    simp [positive]
  · rw [addRef_of_ne _ same]

/-- Every object has as many references as holders. -/
def Balanced (count : References κ) (holders : List κ) : Prop :=
  ∀ object, count object = holders.count object

namespace Balanced

variable {count : References κ} {object : κ} {holders others : List κ}

theorem nil : Balanced (fun _ : κ => 0) [] := by
  intro object
  simp

theorem perm (balanced : Balanced count holders) (same : holders.Perm others) :
    Balanced count others := by
  intro object
  rw [balanced object, same.count_eq]

/-- An object that somebody holds is alive. -/
theorem positive (balanced : Balanced count holders) (held : object ∈ holders) :
    0 < count object := by
  rw [balanced object]
  exact List.count_pos_iff.mpr held

theorem addRef (balanced : Balanced count holders) (object : κ) :
    Balanced (count.addRef object) (object :: holders) := by
  intro other
  by_cases same : other = object
  · subst same
    simp [balanced other]
  · simp [addRef_of_ne _ same, balanced other,
      List.count_cons_of_ne (Ne.symm same)]

theorem release (balanced : Balanced count (object :: holders)) :
    Balanced (count.release object) holders := by
  intro other
  by_cases same : other = object
  · subst same
    simp [balanced other]
  · simp [release_of_ne _ same, balanced other,
      List.count_cons_of_ne (Ne.symm same)]

end Balanced

/-! ## Giving back several references -/

def releaseAll (count : References κ) (objects : List κ) : References κ :=
  objects.foldl release count

theorem releaseAll_append (count : References κ) (first second : List κ) :
    count.releaseAll (first ++ second) = (count.releaseAll first).releaseAll second :=
  List.foldl_append

theorem Balanced.releaseAll {count : References κ} {objects holders : List κ}
    (balanced : Balanced count (objects ++ holders)) :
    Balanced (count.releaseAll objects) holders := by
  induction objects generalizing count with
  | nil => exact balanced
  | cons object objects ih => exact ih balanced.release

/-- Each release of a list finds the object alive. -/
theorem Balanced.alive_at_each_release {count : References κ} {objects holders : List κ}
    (balanced : Balanced count (objects ++ holders)) {before after : List κ} {object : κ}
    (split : objects = before ++ object :: after) : 0 < count.releaseAll before object := by
  subst split
  rw [List.append_assoc] at balanced
  exact balanced.releaseAll.positive (List.mem_cons_self ..)

end References

end Foundations
