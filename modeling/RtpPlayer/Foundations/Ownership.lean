import Mathlib.Data.List.Basic

/-! # Ownership of one object

Whoever makes an object holds it, and may write to it, hand it over or release it.  Handed over or
released it is no longer the holder's, who may do nothing more with it.  A sequence of uses settles
the object when it keeps to this and leaves the holder without it. -/

namespace Foundations

namespace Ownership

/-- What the holder of an object does with it. -/
inductive Use where
  | write
  | handOver
  | release
  deriving DecidableEq

inductive Owner where
  | holder
  | receiver
  | nobody
  deriving DecidableEq

/-- Who owns the object after a use, `none` where it is not the holder's to use. -/
def Owner.use : Owner → Use → Option Owner
  | .holder, .write => some .holder
  | .holder, .handOver => some .receiver
  | .holder, .release => some .nobody
  | .receiver, _ => none
  | .nobody, _ => none

/-- Who owns the object after the uses. -/
def ownerAfter : Owner → List Use → Option Owner
  | owner, [] => some owner
  | owner, use :: uses => (owner.use use).bind (ownerAfter · uses)

/-- The object was handed over exactly once or released, and is not used after that. -/
def Settled (uses : List Use) : Prop :=
  ownerAfter .holder uses = some .receiver ∨ ownerAfter .holder uses = some .nobody

instance (uses : List Use) : Decidable (Settled uses) := inferInstanceAs (Decidable (_ ∨ _))

theorem ownerAfter_append (owner : Owner) (first second : List Use) :
    ownerAfter owner (first ++ second) =
      (ownerAfter owner first).bind (ownerAfter · second) := by
  induction first generalizing owner with
  | nil => rfl
  | cons use first ih =>
    show (owner.use use).bind (ownerAfter · (first ++ second)) = _
    cases used : owner.use use with
    | none => simp [ownerAfter, used]
    | some next => simp [ownerAfter, used, ih]

/-- Writing changes nothing about who owns the object. -/
theorem ownerAfter_writes {uses : List Use} (writes : ∀ use ∈ uses, use = .write) :
    ownerAfter .holder uses = some .holder := by
  induction uses with
  | nil => rfl
  | cons use uses ih =>
    rw [List.forall_mem_cons] at writes
    rw [writes.1]
    exact ih writes.2

/-- What the holder still has is not settled. -/
theorem not_settled_of_holder {uses : List Use} (held : ownerAfter .holder uses = some .holder) :
    ¬ Settled uses := by
  simp [Settled, held]

theorem not_settled_of_none {uses : List Use} (misused : ownerAfter .holder uses = none) :
    ¬ Settled uses := by
  simp [Settled, misused]

/-- What is not the holder's stays unused. -/
theorem eq_nil_of_ownerAfter {owner next : Owner} {uses : List Use} (gone : owner ≠ .holder)
    (after : ownerAfter owner uses = some next) : uses = [] := by
  cases uses with
  | nil => rfl
  | cons use uses => cases owner <;> simp_all [ownerAfter, Owner.use]

/-- Settled is what was written to, then handed over or released, and nothing else. -/
theorem settled_iff_exists {uses : List Use} :
    Settled uses ↔ ∃ writes : List Use, (∀ use ∈ writes, use = .write) ∧
      (uses = writes ++ [.handOver] ∨ uses = writes ++ [.release]) := by
  constructor
  · intro settled
    induction uses with
    | nil => cases settled <;> contradiction
    | cons use uses ih =>
      cases use with
      | write =>
        obtain ⟨writes, only, last⟩ := ih settled
        refine ⟨.write :: writes, List.forall_mem_cons.mpr ⟨rfl, only⟩, ?_⟩
        exact last.imp (congrArg _) (congrArg _)
      | handOver =>
        have gone : Owner.receiver ≠ .holder := by simp
        have nothing : uses = [] :=
          settled.elim (eq_nil_of_ownerAfter gone) (eq_nil_of_ownerAfter gone)
        exact ⟨[], by simp, Or.inl (by rw [nothing]; rfl)⟩
      | release =>
        have gone : Owner.nobody ≠ .holder := by simp
        have nothing : uses = [] :=
          settled.elim (eq_nil_of_ownerAfter gone) (eq_nil_of_ownerAfter gone)
        exact ⟨[], by simp, Or.inr (by rw [nothing]; rfl)⟩
  · intro ⟨writes, only, last⟩
    cases last with
    | inl handed =>
      rw [handed, Settled, ownerAfter_append, ownerAfter_writes only]
      exact Or.inl rfl
    | inr released =>
      rw [released, Settled, ownerAfter_append, ownerAfter_writes only]
      exact Or.inr rfl

end Ownership

end Foundations
