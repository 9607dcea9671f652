import ClusterCoordination.Proofs.Cluster.Fabric
/-!
# Runs

Moves that nodes and others on their network make one after the other: what holds all the way, and
what is told of each move.
-/

set_option autoImplicit false

namespace ClusterCoordination

namespace Fabric

variable {count : Nat}

/--
The moves can be made one after the other, and the states and the moves are as they should be.
-/
def Along (calm : Fabric count → Prop) (clean : Fabric count → Move count → Prop)
    (fabric : Fabric count) : List (Move count) → Prop
  | [] => calm fabric
  | move :: rest =>
    calm fabric ∧ clean fabric move ∧ ∃ after ∈ fabric.step? move, after.Along calm clean rest

instance decidableAlong (calm : Fabric count → Prop) (clean : Fabric count → Move count → Prop)
    [DecidablePred calm] [∀ fabric, DecidablePred (clean fabric)] :
    ∀ (moves : List (Move count)) (fabric : Fabric count), Decidable (fabric.Along calm clean moves)
  | [], fabric => inferInstanceAs (Decidable (calm fabric))
  | move :: rest, fabric =>
    have _ : DecidablePred fun after : Fabric count => after.Along calm clean rest :=
      decidableAlong calm clean rest
    inferInstanceAs (Decidable (calm fabric ∧ clean fabric move ∧
      ∃ after ∈ fabric.step? move, after.Along calm clean rest))

def trace {Item : Type} (told : Fabric count → Move count → List Item) (fabric : Fabric count) :
    List (Move count) → List Item
  | [] => []
  | move :: rest => told fabric move ++ ((fabric.step? move).map (trace told · rest)).getD []

section

variable {Item : Type} {told : Fabric count → Move count → List Item} {calm : Fabric count → Prop}
  {clean : Fabric count → Move count → Prop} {fabric middle last : Fabric count} {move : Move count}
  {moves more rest : List (Move count)}

theorem trace_cons (made : fabric.step? move = some middle) :
    fabric.trace told (move :: rest) = told fabric move ++ middle.trace told rest := by
  rw [trace, made]
  rfl

theorem along_cons (made : fabric.step? move = some middle) :
    fabric.Along calm clean (move :: rest) ↔
      calm fabric ∧ clean fabric move ∧ middle.Along calm clean rest := by
  simp [Along, made]

theorem Along.begins (along : fabric.Along calm clean moves) : calm fabric := by
  cases moves with
  | nil => exact along
  | cons move rest => exact along.1

theorem steps?_cons (made : fabric.step? move = some middle) :
    fabric.steps? (move :: rest) = middle.steps? rest := by
  rw [steps?, made]
  rfl

theorem steps?_cons_eq_some (made : fabric.steps? (move :: rest) = some last) :
    ∃ middle, fabric.step? move = some middle ∧ middle.steps? rest = some last :=
  Option.bind_eq_some_iff.mp made

theorem Along.ends (along : fabric.Along calm clean moves)
    (made : fabric.steps? moves = some last) :
    calm last := by
  induction moves generalizing fabric with
  | nil =>
    obtain rfl := Option.some.inj made
    exact along
  | cons move rest ih =>
    obtain ⟨next, first, later⟩ := steps?_cons_eq_some made
    exact ih ((along_cons first).mp along).2.2 later

theorem steps?_append (made : fabric.steps? moves = some middle) :
    fabric.steps? (moves ++ more) = middle.steps? more := by
  induction moves generalizing fabric with
  | nil =>
    obtain rfl := Option.some.inj made
    rfl
  | cons move rest ih =>
    obtain ⟨next, first, later⟩ := steps?_cons_eq_some made
    rw [List.cons_append, steps?_cons first, ih later]

theorem trace_append (made : fabric.steps? moves = some middle) :
    fabric.trace told (moves ++ more) = fabric.trace told moves ++ middle.trace told more := by
  induction moves generalizing fabric with
  | nil =>
    obtain rfl := Option.some.inj made
    rfl
  | cons move rest ih =>
    obtain ⟨next, first, later⟩ := steps?_cons_eq_some made
    rw [List.cons_append, trace_cons first, trace_cons first, ih later, List.append_assoc]

theorem Along.append (along : fabric.Along calm clean moves)
    (made : fabric.steps? moves = some middle) (further : middle.Along calm clean more) :
    fabric.Along calm clean (moves ++ more) := by
  induction moves generalizing fabric with
  | nil =>
    obtain rfl := Option.some.inj made
    exact further
  | cons move rest ih =>
    obtain ⟨next, first, later⟩ := steps?_cons_eq_some made
    obtain ⟨calm, clean, along⟩ := (along_cons first).mp along
    exact (along_cons first).mpr ⟨calm, clean, ih along later⟩

end

end Fabric

end ClusterCoordination
