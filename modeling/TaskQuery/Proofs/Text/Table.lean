set_option autoImplicit false

namespace TaskQuery

section

variable {α β : Type} {read : α → Option β}

theorem findSome?_of_apart {table : List α} {entry : α}
    {found : β} (member : entry ∈ table) (reads : read entry = some found)
    (apart : table.Pairwise fun earlier later => later = entry → read earlier = none) :
    table.findSome? read = some found := by
  induction table with
  | nil => cases member
  | cons first rest ih =>
    rw [List.pairwise_cons] at apart
    rcases List.mem_cons.mp member with rfl | behind
    · simp [reads]
    · simp [apart.1 entry behind rfl, ih behind apart.2]

theorem findSome?_perm {order table : List α} (perm : order.Perm table)
    (apart : order.Pairwise fun first second => read first = none ∨ read second = none) :
    order.findSome? read = table.findSome? read := by
  induction perm with
  | nil => rfl
  | cons first _ ih => simp only [List.findSome?_cons, ih (List.pairwise_cons.mp apart).2]
  | swap first second rest =>
    have one := (List.pairwise_cons.mp apart).1 first List.mem_cons_self
    rcases one with silent | silent <;> simp [List.findSome?_cons, silent]
  | trans perm _ ih ih' =>
    have apart' := perm.pairwise apart fun one => one.symm
    exact (ih apart).trans (ih' apart')

end

theorem countP_le_one {α : Type} {test : α → Bool} {items : List α}
    (apart : items.Pairwise fun earlier later => test later = true → test earlier = false) :
    items.countP test ≤ 1 := by
  induction items with
  | nil => simp
  | cons item items ih =>
    rw [List.pairwise_cons] at apart
    cases passes : test item with
    | false => simpa [passes] using ih apart.2
    | true =>
      have others : items.countP test = 0 := by
        rw [List.countP_eq_zero]
        intro other member later
        simp [apart.1 other member later] at passes
      simp [passes, others]

end TaskQuery
