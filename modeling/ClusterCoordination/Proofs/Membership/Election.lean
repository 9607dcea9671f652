import ClusterCoordination.Membership.Elector
/-!
# The elected member

Election gives the least of the alive ids, so it depends on nothing but the set of them.
-/

set_option autoImplicit false

namespace ClusterCoordination

namespace MemberId

theorem bytes_injective {first second : MemberId} (same : first.bytes = second.bytes) :
    first = second := by
  have texts := congrArg Bytes.text? same
  simp only [bytes, text?_textBytes, Option.some.injEq] at texts
  cases first
  cases second
  simpa using texts

instance : Std.IsLinearOrder MemberId := by
  apply Std.IsLinearOrder.of_le
  · constructor
    intro first second ascending descending
    exact bytes_injective (List.le_antisymm ascending descending)
  · constructor
    intro first second third below above
    have ascending : first.bytes ≤ second.bytes := below
    exact List.le_trans ascending above
  · constructor
    intro first second
    exact List.le_total first.bytes second.bytes

instance : Std.LawfulOrderMin MemberId where
  le_min_iff first second third := by
    change first ≤ (if second ≤ third then second else third) ↔ first ≤ second ∧ first ≤ third
    split
    next ascending =>
      constructor
      · intro below
        exact ⟨below, Std.le_trans below ascending⟩
      · intro both
        exact both.1
    next descending =>
      constructor
      · intro below
        have less := (Std.le_total (a := second) (b := third)).resolve_left descending
        exact ⟨Std.le_trans below less, below⟩
      · intro both
        exact both.2
  min_eq_or first second := by
    change (if first ≤ second then first else second) = first ∨
      (if first ≤ second then first else second) = second
    split
    · exact .inl rfl
    · exact .inr rfl

end MemberId

namespace View

def LeastAlive (view : View) (id : MemberId) : Prop :=
  id ∈ view.aliveIds ∧ ∀ other ∈ view.aliveIds, id.bytes ≤ other.bytes

theorem mem_aliveIds {view : View} {id : MemberId} :
    id ∈ view.aliveIds ↔ ∃ member ∈ view.members, member.alive = true ∧ member.id = id := by
  simp only [aliveIds, alive, List.mem_map, List.mem_filter, and_assoc]

theorem elect_eq_some_iff (view : View) (id : MemberId) :
    elect view.members = some id ↔ view.LeastAlive id :=
  List.min?_eq_some_iff

theorem elect_eq_none_iff (view : View) : elect view.members = none ↔ view.aliveIds = [] :=
  List.min?_eq_none_iff

theorem elect_congr {first second : View}
    (same : ∀ id, id ∈ first.aliveIds ↔ id ∈ second.aliveIds) :
    elect first.members = elect second.members := by
  apply Option.ext
  intro id
  rw [elect_eq_some_iff, elect_eq_some_iff, LeastAlive, LeastAlive]
  simp only [same]

theorem flagged_withMaster {view : View} {member : Member}
    (unique : (view.members.map Member.id).Nodup) (present : member ∈ view.members) :
    (view.withMaster (some member.id)).members.filter Member.isMaster =
      [{ member with isMaster := true }] := by
  obtain ⟨version, members⟩ := view
  simp only [withMaster] at *
  -- Ids are unique, so after the member has been met no other is flagged.
  induction members with
  | nil => simp at present
  | cons head tail ih =>
    simp only [List.map_cons, List.nodup_cons] at unique
    simp only [List.map_cons, List.filter_cons]
    rcases List.mem_cons.mp present with first | later
    · subst first
      have others : ∀ other ∈ tail, other.id ≠ member.id := by
        intro other inside same
        exact unique.1 (same ▸ List.mem_map_of_mem inside)
      simpa using others
    · have different : head.id ≠ member.id := by
        intro same
        exact unique.1 (same ▸ List.mem_map_of_mem later)
      simpa [different] using ih unique.2 later

theorem flagged_withMaster_none (view : View) :
    (view.withMaster none).members.filter Member.isMaster = [] := by
  simp [withMaster]

end View

end ClusterCoordination
