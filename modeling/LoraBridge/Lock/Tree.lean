import LoraBridge.Text.Utf8

/-! # Trees of entries

  What the embedded store holds: at most one value for each key, in the order of the keys' bytes.

  `compareAndSwap` is the one way to change a tree. It changes the entry of a key if that is what
  the caller believes it to be, and otherwise does nothing.
-/

namespace LoraBridge.Lock

/-- Puts an entry in its place among others. -/
def insertEntry (key value : Bytes) : List (Bytes × Bytes) → List (Bytes × Bytes)
  | [] => [(key, value)]
  | (k, v) :: rest =>
    if key < k then (key, value) :: (k, v) :: rest
    else if key = k then (key, value) :: rest
    else (k, v) :: insertEntry key value rest

/-- Removes the entry of a key. -/
def eraseEntry (key : Bytes) (entries : List (Bytes × Bytes)) : List (Bytes × Bytes) :=
  entries.filter (·.1 ≠ key)

/-- Whether keys increase. -/
def Ordered (entries : List (Bytes × Bytes)) : Prop := entries.Pairwise fun a b => a.1 < b.1

theorem mem_insertEntry {key value : Bytes} {entries : List (Bytes × Bytes)} {e : Bytes × Bytes}
    (h : e ∈ insertEntry key value entries) : e = (key, value) ∨ e ∈ entries := by
  induction entries with
  | nil => simpa [insertEntry] using h
  | cons f rest ih => grind [insertEntry]

theorem bytes_lt_of_not_lt {a b : Bytes} (h : ¬ a < b) (hne : a ≠ b) : b < a := by
  rcases List.le_iff_lt_or_eq.1 (List.not_lt.1 h) with h | h
  · exact h
  · exact absurd h.symm hne

theorem ordered_insertEntry {key value : Bytes} {entries : List (Bytes × Bytes)}
    (h : Ordered entries) : Ordered (insertEntry key value entries) := by
  induction entries with
  | nil => simp [insertEntry, Ordered]
  | cons e rest ih =>
    obtain ⟨k, v⟩ := e
    have hrest : Ordered rest := (List.pairwise_cons.1 h).2
    have hk : ∀ e ∈ rest, k < e.1 := (List.pairwise_cons.1 h).1
    unfold insertEntry
    split
    · rename_i hlt
      refine List.pairwise_cons.2 ⟨?_, h⟩
      intro e he
      rcases List.mem_cons.1 he with rfl | he
      · exact hlt
      · exact List.lt_trans hlt (hk e he)
    · split
      · rename_i heq
        subst heq
        exact List.pairwise_cons.2 ⟨hk, hrest⟩
      · rename_i hlt hne
        refine List.pairwise_cons.2 ⟨?_, ih hrest⟩
        intro e he
        rcases mem_insertEntry he with rfl | he
        · exact bytes_lt_of_not_lt hlt hne
        · exact hk e he

theorem ordered_eraseEntry {key : Bytes} {entries : List (Bytes × Bytes)} (h : Ordered entries) :
    Ordered (eraseEntry key entries) :=
  List.Pairwise.filter _ h

/-- The entries of a store. -/
structure Tree where
  entries : List (Bytes × Bytes)
  ordered : Ordered entries

namespace Tree

/-- No entries. -/
def empty : Tree := ⟨[], List.Pairwise.nil⟩

instance : Inhabited Tree := ⟨empty⟩

/-- The value of a key. -/
def get? (t : Tree) (key : Bytes) : Option Bytes :=
  (t.entries.find? (·.1 = key)).map (·.2)

/-- Gives a key a value, or none. -/
def put (t : Tree) (key : Bytes) : Option Bytes → Tree
  | some value => ⟨insertEntry key value t.entries, ordered_insertEntry t.ordered⟩
  | none => ⟨eraseEntry key t.entries, ordered_eraseEntry t.ordered⟩

/-- Changes the value of a key, provided that it is `old?` at present. -/
def compareAndSwap? (t : Tree) (key : Bytes) (old? new? : Option Bytes) : Option Tree :=
  if t.get? key = old? then some (t.put key new?) else none

end Tree

end LoraBridge.Lock
