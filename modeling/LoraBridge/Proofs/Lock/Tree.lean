import LoraBridge.Lock.Tree

/-! # What is in a tree

  A tree is read by `Tree.get?` alone. The lemmas here say what is found under each key after a
  change, so that nobody has to look at the list of entries again.
-/

namespace LoraBridge.Lock

variable {key k : Bytes}

theorem find?_insertEntry_self (value : Bytes) (entries : List (Bytes × Bytes)) :
    (insertEntry key value entries).find? (·.1 = key) = some (key, value) := by
  induction entries with
  | nil => simp [insertEntry]
  | cons e rest ih =>
    unfold insertEntry
    split
    · simp
    · split
      · simp
      · next hne => rw [List.find?_cons_of_neg (by simpa using Ne.symm hne), ih]

theorem find?_insertEntry_of_ne (value : Bytes) (entries : List (Bytes × Bytes)) (h : k ≠ key) :
    (insertEntry key value entries).find? (·.1 = k) = entries.find? (·.1 = k) := by
  induction entries with
  | nil => simp [insertEntry, Ne.symm h]
  | cons e rest ih =>
    unfold insertEntry
    split
    · rw [List.find?_cons_of_neg (by simpa using Ne.symm h)]
    · split
      · next heq =>
        rw [List.find?_cons_of_neg (by simpa using Ne.symm h),
          List.find?_cons_of_neg (by simpa [← heq] using Ne.symm h)]
      · rw [List.find?_cons, List.find?_cons, ih]

theorem find?_eraseEntry_self (entries : List (Bytes × Bytes)) :
    (eraseEntry key entries).find? (·.1 = key) = none := by
  simp [eraseEntry, List.find?_eq_none]

theorem find?_eraseEntry_of_ne (entries : List (Bytes × Bytes)) (h : k ≠ key) :
    (eraseEntry key entries).find? (·.1 = k) = entries.find? (·.1 = k) := by
  induction entries with
  | nil => rfl
  | cons e rest ih =>
    unfold eraseEntry at ih ⊢
    by_cases he : e.1 = key
    · rw [List.filter_cons_of_neg (by simpa using he),
        List.find?_cons_of_neg (by simpa [he] using Ne.symm h), ih]
    · rw [List.filter_cons_of_pos (by simpa using he), List.find?_cons, List.find?_cons, ih]

namespace Tree

variable (t : Tree)

@[simp] theorem get?_put_self (value? : Option Bytes) : (t.put key value?).get? key = value? := by
  cases value? with
  | none => simp [get?, put, find?_eraseEntry_self]
  | some value => simp [get?, put, find?_insertEntry_self]

theorem get?_put_of_ne (value? : Option Bytes) (h : k ≠ key) :
    (t.put key value?).get? k = t.get? k := by
  cases value? with
  | none => simp only [get?, put, find?_eraseEntry_of_ne _ h]
  | some value => simp only [get?, put, find?_insertEntry_of_ne _ _ h]

end Tree

end LoraBridge.Lock
