import Mathlib.Data.List.Forall2
import RtpPlayer.Foundations.Machine

/-! # Pipelines

A stage is a machine that puts out any number of items for an input.  Stages that run one behind the
other are one stage; a queue between two threads only delays the one behind it, so at any time that
one has done a beginning of what it would have done without the queue. -/

namespace Foundations

namespace Machine

variable {σ τ ι κ ο : Type}

/-- All that the inputs make a stage put out. -/
def emissions (stage : Machine σ ι (List ο)) (state : σ) (inputs : List ι) : List ο :=
  (stage.outputs state inputs).flatten

section Emissions

variable (stage : Machine σ ι (List ο)) (state : σ)

@[simp] theorem emissions_nil : stage.emissions state [] = [] := rfl

@[simp] theorem emissions_cons (input : ι) (inputs : List ι) :
    stage.emissions state (input :: inputs) =
      (stage.step state input).2 ++ stage.emissions (stage.step state input).1 inputs := rfl

theorem emissions_append (first second : List ι) :
    stage.emissions state (first ++ second) =
      stage.emissions state first ++ stage.emissions (stage.run state first) second := by
  induction first generalizing state with
  | nil => rfl
  | cons input first ih => simp [ih]

/-- One input more. -/
theorem emissions_concat (inputs : List ι) (input : ι) :
    stage.emissions state (inputs ++ [input]) =
      stage.emissions state inputs ++ (stage.step (stage.run state inputs) input).2 := by
  simp [emissions_append]

theorem run_concat (inputs : List ι) (input : ι) :
    stage.run state (inputs ++ [input]) = (stage.step (stage.run state inputs) input).1 := by
  simp [run_append]

/-- What is put out is put out at some input. -/
theorem mem_emissions_iff {item : ο} {inputs : List ι} :
    item ∈ stage.emissions state inputs ↔ ∃ past input later, inputs = past ++ input :: later ∧
      item ∈ (stage.step (stage.run state past) input).2 := by
  induction inputs generalizing state with
  | nil => simp
  | cons first inputs ih =>
    rw [emissions_cons, List.mem_append, ih]
    constructor
    · rintro (now | ⟨past, input, later, rfl, member⟩)
      · exact ⟨[], first, inputs, rfl, now⟩
      · exact ⟨first :: past, input, later, rfl, member⟩
    · rintro ⟨past, input, later, split, member⟩
      cases past with
      | nil =>
        obtain ⟨rfl, rfl⟩ := List.cons.inj split
        exact .inl member
      | cons head past =>
        obtain ⟨rfl, rfl⟩ := List.cons.inj split
        exact .inr ⟨past, input, later, rfl, member⟩

/-- What a stage has put out is not taken back. -/
theorem emissions_isPrefix {first second : List ι} (isPrefix : first <+: second) :
    stage.emissions state first <+: stage.emissions state second := by
  obtain ⟨more, rfl⟩ := isPrefix
  rw [emissions_append]
  exact List.prefix_append ..

end Emissions

/-! ## Stages behind each other -/

/-- The second stage gets at once what the first puts out. -/
def andThen (first : Machine σ ι (List κ)) (second : Machine τ κ (List ο)) :
    Machine (σ × τ) ι (List ο) where
  step state input :=
    let (next, items) := first.step state.1 input
    ((next, second.run state.2 items), second.emissions state.2 items)

section AndThen

variable (first : Machine σ ι (List κ)) (second : Machine τ κ (List ο)) (state : σ × τ)

/-- The composition puts out what the second stage makes of all that the first puts out. -/
theorem emissions_andThen (inputs : List ι) :
    (first.andThen second).emissions state inputs =
      second.emissions state.2 (first.emissions state.1 inputs) := by
  induction inputs generalizing state with
  | nil => rfl
  | cons input inputs ih =>
    rw [emissions_cons, ih, emissions_cons, emissions_append]
    rfl

end AndThen

/-! ## Stages beside each other -/

/-- What two stages put out is related where it is at every step, for a relation that appending
keeps.  The inputs of the run may have to be good for that. -/
theorem emissions_related {π : Type} {first : Machine σ ι (List ο)} {second : Machine τ κ (List π)}
    {related : List ο → List π → Prop} {states : σ → τ → Prop} {good : ι → Prop} (convert : ι → κ)
    (nil : related [] [])
    (append : ∀ {items others more others' : List _},
      related items others → related more others' → related (items ++ more) (others ++ others'))
    (step : ∀ {state other} input, states state other → good input →
      states (first.step state input).1 (second.step other (convert input)).1 ∧
        related (first.step state input).2 (second.step other (convert input)).2)
    {state : σ} {other : τ} (together : states state other) {inputs : List ι}
    (allGood : ∀ input ∈ inputs, good input) :
    related (first.emissions state inputs) (second.emissions other (inputs.map convert)) := by
  induction inputs generalizing state other with
  | nil => exact nil
  | cons input inputs ih =>
    rw [List.forall_mem_cons] at allGood
    obtain ⟨next, out⟩ := step input together allGood.1
    exact append out (ih next allGood.2)

end Machine

theorem sublistForall₂_append {α β : Type} {related : α → β → Prop} {items more : List α}
    {others others' : List β} (first : List.SublistForall₂ related items others)
    (second : List.SublistForall₂ related more others') :
    List.SublistForall₂ related (items ++ more) (others ++ others') := by
  obtain ⟨kept, same, sublist⟩ := List.sublistForall₂_iff.mp first
  obtain ⟨kept', same', sublist'⟩ := List.sublistForall₂_iff.mp second
  exact List.sublistForall₂_iff.mpr
    ⟨kept ++ kept', List.rel_append same same', sublist.append sublist'⟩

theorem sublistForall₂_comp {α β γ : Type} {first : α → β → Prop} {second : β → γ → Prop}
    {items : List α} {middle : List β} {others : List γ}
    (kept : List.SublistForall₂ first items middle)
    (keptMore : List.SublistForall₂ second middle others) :
    List.SublistForall₂ (fun item other => ∃ between, first item between ∧ second between other)
      items others := by
  induction keptMore generalizing items with
  | nil =>
    cases kept
    exact .nil
  | cons related _ ih =>
    cases kept with
    | nil => exact .nil
    | cons head tail => exact .cons ⟨_, head, related⟩ (ih tail)
    | cons_right tail => exact .cons_right (ih tail)
  | cons_right _ ih => exact .cons_right (ih kept)

theorem forall₂_comp {α β γ : Type} {first : α → β → Prop} {second : β → γ → Prop}
    {items : List α} {middle : List β} {others : List γ}
    (same : List.Forall₂ first items middle) (sameMore : List.Forall₂ second middle others) :
    List.Forall₂ (fun item other => ∃ between, first item between ∧ second between other)
      items others := by
  induction same generalizing others with
  | nil =>
    cases sameMore
    exact .nil
  | cons related _ ih =>
    cases sameMore with
    | cons head tail => exact .cons ⟨_, related, head⟩ (ih tail)

/-- What is related to a list has a beginning that is related to a beginning of it. -/
theorem forall₂_of_prefix {α β : Type} {related : α → β → Prop} {items more : List α}
    {others : List β} (begins : items <+: more) (same : List.Forall₂ related more others) :
    List.Forall₂ related items (others.take items.length) := by
  obtain ⟨rest, rfl⟩ := begins
  have first := List.forall₂_take items.length same
  rwa [List.take_left] at first

/-- What is related to a beginning of a list is related to a part of the list. -/
theorem sublistForall₂_of_prefix {α β : Type} {related : α → β → Prop} {items more : List α}
    {others : List β} (begins : items <+: more)
    (kept : List.SublistForall₂ related more others) :
    List.SublistForall₂ related items others := by
  obtain ⟨same, forall₂, sublist⟩ := List.sublistForall₂_iff.mp kept
  exact List.sublistForall₂_iff.mpr
    ⟨_, forall₂_of_prefix begins forall₂, (List.take_sublist ..).trans sublist⟩

/-! ## Queues -/

/-- A queue between two threads, beside what was taken from it. -/
structure Channel (α : Type) where
  waiting : List α
  taken : List α

namespace Channel

variable {α σ ι ο : Type}

def empty : Channel α where
  waiting := []
  taken := []

def put (channel : Channel α) (items : List α) : Channel α :=
  { channel with waiting := channel.waiting ++ items }

/-- The first item, `none` where nothing waits. -/
def take (channel : Channel α) : Option (α × Channel α) :=
  match channel.waiting with
  | [] => none
  | item :: rest => some (item, ⟨rest, channel.taken ++ [item]⟩)

/-- All that was put. -/
def sent (channel : Channel α) : List α := channel.taken ++ channel.waiting

@[simp] theorem sent_empty : (empty : Channel α).sent = [] := rfl

@[simp] theorem taken_put (channel : Channel α) (items : List α) :
    (channel.put items).taken = channel.taken := rfl

@[simp] theorem sent_put (channel : Channel α) (items : List α) :
    (channel.put items).sent = channel.sent ++ items := by
  simp [sent, put]

/-- Everything that `take` can do. -/
theorem take_eq_some_iff {channel next : Channel α} {item : α} :
    channel.take = some (item, next) ↔
      ∃ rest, channel.waiting = item :: rest ∧ next = ⟨rest, channel.taken ++ [item]⟩ := by
  unfold take
  cases waiting : channel.waiting with
  | nil => simp
  | cons first rest =>
    simp only [Option.some.injEq, Prod.mk.injEq, List.cons.injEq]
    constructor
    · rintro ⟨rfl, rfl⟩
      exact ⟨rest, ⟨rfl, rfl⟩, rfl⟩
    · rintro ⟨_, ⟨rfl, rfl⟩, rfl⟩
      exact ⟨rfl, rfl⟩

theorem sent_of_take {channel next : Channel α} {item : α}
    (took : channel.take = some (item, next)) : next.sent = channel.sent := by
  obtain ⟨rest, waiting, rfl⟩ := take_eq_some_iff.mp took
  simp [sent, waiting]

theorem taken_prefix_sent (channel : Channel α) : channel.taken <+: channel.sent :=
  List.prefix_append ..

theorem taken_eq_sent_iff (channel : Channel α) :
    channel.taken = channel.sent ↔ channel.waiting = [] := by
  simp [sent]

end Channel

end Foundations
