import Mathlib.Data.List.Basic
/-!
# Bindings

Dispatchers are found by the type they serve, and handlers by the scope they take. Both are kept in
a list that binds keys to values, and what a key is bound to was decided by the last change made to
it.
-/

set_option autoImplicit false

namespace ClusterCoordination

variable {Key Value : Type} [DecidableEq Key]

abbrev Bindings (Key Value : Type) := List (Key × Value)

def Bindings.get? (bindings : Bindings Key Value) (key : Key) : Option Value :=
  (bindings.find? fun entry => entry.1 = key).map (·.2)

theorem Bindings.get?_remove (bindings : Bindings Key Value) (removed key : Key) :
    Bindings.get? (bindings.filter fun entry => entry.1 ≠ removed) key =
      if removed = key then none else bindings.get? key := by
  simp only [get?, List.find?_filter, decide_eq_true_eq]
  by_cases same : removed = key
  · have gone :
        (bindings.find? fun entry => decide (entry.1 ≠ removed ∧ entry.1 = key)) = none := by
      simp [same]
    rw [gone, if_pos same, Option.map_none]
  · have kept (entry : Key × Value) : (entry.1 ≠ removed ∧ entry.1 = key) = (entry.1 = key) :=
      propext ⟨And.right, fun found => ⟨fun again => same (again.symm.trans found), found⟩⟩
    simp only [kept, same, if_false]

inductive Rebinding (Key Value : Type) where
  | bind (key : Key) (value : Value)
  | release (key : Key)

namespace Rebinding

def key : Rebinding Key Value → Key
  | .bind key _ => key
  | .release key => key

def value? : Rebinding Key Value → Option Value
  | .bind _ value => some value
  | .release _ => none

def apply (bindings : Bindings Key Value) : Rebinding Key Value → Bindings Key Value
  | .bind key value => (key, value) :: bindings.filter fun entry => entry.1 ≠ key
  | .release key => bindings.filter fun entry => entry.1 ≠ key

/-- What the last of the changes made to a key has left it with. -/
def latest (changes : List (Rebinding Key Value)) (key : Key) : Option Value :=
  (changes.reverse.find? fun change => change.key = key).bind value?

theorem get?_apply (bindings : Bindings Key Value) (change : Rebinding Key Value) (key : Key) :
    (change.apply bindings).get? key =
      if change.key = key then change.value? else bindings.get? key := by
  cases change with
  | release released => exact bindings.get?_remove released key
  | bind target value =>
    by_cases same : target = key
    · simp [apply, Bindings.get?, Rebinding.key, value?, same]
    · have skipped : (apply bindings (.bind target value)).get? key =
          Bindings.get? (bindings.filter fun entry => entry.1 ≠ target) key := by
        simp only [apply, Bindings.get?, List.find?_cons, same, decide_false]
      rw [skipped, bindings.get?_remove]
      simp only [Rebinding.key, same, if_false]

theorem latest_concat (changes : List (Rebinding Key Value)) (change : Rebinding Key Value)
    (key : Key) :
    latest (changes ++ [change]) key =
      if change.key = key then change.value? else latest changes key := by
  simp only [latest, List.reverse_append, List.reverse_singleton, List.singleton_append,
    List.find?_cons]
  by_cases same : change.key = key <;> simp [same]

theorem get?_concat {bindings : Bindings Key Value} {changes : List (Rebinding Key Value)}
    (decided : bindings.get? = latest changes) (change : Rebinding Key Value) :
    (change.apply bindings).get? = latest (changes ++ [change]) := by
  funext key
  rw [get?_apply, latest_concat, decided]

theorem latest_filter (changes : List (Rebinding Key Value)) (key : Key) :
    latest (changes.filter fun change => change.key = key) key = latest changes key := by
  simp only [latest, ← List.filter_reverse, List.find?_filter, decide_eq_true_eq, and_self]

end Rebinding

end ClusterCoordination
