import Mathlib.Data.List.Basic

/-! # Singly linked lists

Nodes that point to the next one, `none` at the end.  `Chain` is what a list in memory looks
like. -/

namespace Foundations

universe u

variable {κ : Type u}

/-- From `start` the links lead through `nodes` and end. -/
inductive Chain (next : κ → Option κ) : Option κ → List κ → Prop where
  | nil : Chain next none []
  | cons {node : κ} {nodes : List κ} : Chain next (next node) nodes →
      Chain next (some node) (node :: nodes)

/-- `for (node = start; node && node->next; node = node->next);` in at most `fuel` steps. -/
def lastNode (next : κ → Option κ) : Nat → Option κ → Option (Option κ)
  | 0, _ => none
  | _ + 1, none => some none
  | fuel + 1, some node =>
    if (next node).isSome then lastNode next fuel (next node) else some (some node)

namespace Chain

variable {next next' : κ → Option κ} {start : Option κ} {nodes : List κ}

theorem start_eq_head? (chain : Chain next start nodes) : start = nodes.head? := by
  cases chain <;> rfl

theorem tail {node : κ} (chain : Chain next start (node :: nodes)) :
    Chain next (next node) nodes := by
  cases chain
  assumption

/-- Links outside the chain do not matter. -/
theorem congr (chain : Chain next start nodes)
    (agree : ∀ node ∈ nodes, next' node = next node) : Chain next' start nodes := by
  induction chain with
  | nil => exact .nil
  | cons rest ih =>
    rw [List.forall_mem_cons] at agree
    apply Chain.cons
    rw [agree.1]
    exact ih agree.2

/-- Linking a new node behind the last one. -/
theorem concat {front : List κ} {last new : κ} (chain : Chain next start (front ++ [last]))
    (agree : ∀ node ∈ front, next' node = next node) (links : next' last = some new)
    (ends : next' new = none) : Chain next' start (front ++ [last, new]) := by
  induction front generalizing start with
  | nil =>
    rw [chain.start_eq_head?]
    apply Chain.cons
    rw [links]
    apply Chain.cons
    rw [ends]
    exact .nil
  | cons first front ih =>
    rw [List.forall_mem_cons] at agree
    rw [chain.start_eq_head?]
    apply Chain.cons
    rw [agree.1]
    exact ih chain.tail agree.2

/-- The loop finds the last node, if its steps are more than the nodes. -/
theorem lastNode_eq (chain : Chain next start nodes) {fuel : Nat} (enough : nodes.length < fuel) :
    lastNode next fuel start = some nodes.getLast? := by
  induction chain generalizing fuel with
  | nil =>
    cases fuel with
    | zero => cases enough
    | succ fuel => rfl
  | @cons node nodes rest ih =>
    cases fuel with
    | zero => cases enough
    | succ fuel =>
      have found := ih (Nat.lt_of_succ_lt_succ enough)
      have follows := rest.start_eq_head?
      cases nodes with
      | nil => simp [lastNode, follows]
      | cons second nodes =>
        rw [lastNode, if_pos (by simp [follows]), found, List.getLast?_cons_cons]

end Chain

end Foundations
