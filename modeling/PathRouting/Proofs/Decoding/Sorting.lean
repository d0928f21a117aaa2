import Mathlib.Data.String.Basic
import PathRouting.Json.Basic

/-!
# Sorted documents

Sorting the members of every object makes a document that is sorted, and sorting changes nothing in
such a document.
-/

namespace PathRouting.Json

/-- The keys of some members ascend, and what stands under them is sorted. -/
structure Settled (members : List (String × Json)) : Prop where
  ascending : members.Pairwise (·.1 < ·.1)
  inside : ∀ member ∈ members, member.2.sorted = member.2

variable {members done : List (String × Json)} {member : String × Json} {key : String} {j : Json}

theorem mem_of_mem_insertMember (listed : member ∈ insertMember key j members) :
    member = (key, j) ∨ member ∈ members := by
  induction members with
  | nil => exact .inl (List.mem_singleton.mp listed)
  | cons first rest ih =>
    rw [insertMember] at listed
    split_ifs at listed with before same
    · exact List.mem_cons.mp listed
    · exact (List.mem_cons.mp listed).imp_right (List.mem_cons_of_mem _)
    · obtain rfl | listed := List.mem_cons.mp listed
      · exact .inr List.mem_cons_self
      · exact (ih listed).imp_right (List.mem_cons_of_mem _)

theorem settled_insertMember (settled : Settled members) (inside : j.sorted = j) :
    Settled (insertMember key j members) := by
  refine ⟨?_, fun member listed => ?_⟩
  · obtain ⟨ascending, -⟩ := settled
    induction members with
    | nil => exact List.pairwise_singleton _ _
    | cons first rest ih =>
      obtain ⟨later, ascending⟩ := List.pairwise_cons.mp ascending
      rw [insertMember]
      split_ifs with before same
      · refine .cons (List.forall_mem_cons.mpr ⟨before, fun member listed => ?_⟩)
          (.cons later ascending)
        exact before.trans (later member listed)
      · subst same
        exact .cons later ascending
      · refine .cons (fun member listed => ?_) (ih ascending)
        obtain rfl | listed := mem_of_mem_insertMember listed
        · exact lt_of_le_of_ne (not_lt.mp before) (Ne.symm same)
        · exact later member listed
  · obtain rfl | listed := mem_of_mem_insertMember listed
    · exact inside
    · exact settled.inside member listed

theorem insertMember_last (last : ∀ member ∈ members, member.1 < key) :
    insertMember key j members = members ++ [(key, j)] := by
  induction members with
  | nil => rfl
  | cons first rest ih =>
    obtain ⟨before, later⟩ := List.forall_mem_cons.mp last
    rw [insertMember, if_neg before.asymm, if_neg before.ne', ih later, List.cons_append]

theorem sortedMembers_of_settled (settled : Settled (done ++ members)) :
    sortedMembers done members = done ++ members := by
  induction members generalizing done with
  | nil => simp [sortedMembers]
  | cons member members ih =>
    obtain ⟨key, j⟩ := member
    have before : ∀ member ∈ done, member.1 < key := fun member listed =>
      (List.pairwise_append.mp settled.ascending).2.2 member listed _ List.mem_cons_self
    have inside : j.sorted = j := settled.inside (key, j) (by simp)
    have next := @ih (done ++ [(key, j)]) (by simpa using settled)
    rw [sortedMembers, inside, insertMember_last before, next, List.append_assoc]
    rfl

mutual

theorem sorted_sorted (j : Json) : j.sorted.sorted = j.sorted := by
  cases j with
  | array items => simp only [sorted, sortedItems_sortedItems items]
  | object members =>
    have settled := settled_sortedMembers [] members ⟨.nil, by simp⟩
    simp only [sorted]
    rw [sortedMembers_of_settled settled, List.nil_append]
  | null | bool | number | string => rfl

theorem sortedItems_sortedItems (items : List Json) :
    sortedItems (sortedItems items) = sortedItems items := by
  cases items with
  | nil => rfl
  | cons j items => simp only [sortedItems, sorted_sorted j, sortedItems_sortedItems items]

theorem settled_sortedMembers (done members : List (String × Json)) (settled : Settled done) :
    Settled (sortedMembers done members) := by
  cases members with
  | nil => simpa [sortedMembers] using settled
  | cons member members =>
    obtain ⟨key, j⟩ := member
    rw [sortedMembers]
    exact settled_sortedMembers _ members (settled_insertMember settled (sorted_sorted j))

end

end PathRouting.Json
