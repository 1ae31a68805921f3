/-!
# Maps in insertion order

A list of entries in which no key occurs twice. Writing to a key that is
there keeps its place; a new key goes to the end. `get?` and `keys` are the
two views of a map, and every operation is described by what it does to them.
-/

namespace FlatQuery

structure OrderMap (α β : Type) where
  entries : List (α × β)
  nodup : (entries.map Prod.fst).Nodup

namespace OrderMap

variable {α β : Type} [DecidableEq α]

/-! ## Entries -/

/-- The value under `k`. -/
def find? (k : α) : List (α × β) → Option β
  | [] => none
  | (a, b) :: r => if a = k then some b else find? k r

/-- Writes `f` of the value under `k`, in its place or at the end. -/
def write (k : α) (f : Option β → β) : List (α × β) → List (α × β)
  | [] => [(k, f none)]
  | (a, b) :: r => if a = k then (a, f (some b)) :: r else (a, b) :: write k f r

theorem map_fst_write (k : α) (f : Option β → β) (l : List (α × β)) :
    (write k f l).map Prod.fst =
      if k ∈ l.map Prod.fst then l.map Prod.fst else l.map Prod.fst ++ [k] := by
  induction l with
  | nil => simp [write]
  | cons e r ih =>
    obtain ⟨a, b⟩ := e
    by_cases h : a = k
    · simp [write, h]
    · have h' : k ≠ a := Ne.symm h
      simp only [write, if_neg h, List.map_cons, ih, List.mem_cons, h', false_or]
      split <;> simp

theorem nodup_write (k : α) (f : Option β → β) {l : List (α × β)}
    (h : (l.map Prod.fst).Nodup) : ((write k f l).map Prod.fst).Nodup := by
  rw [map_fst_write]
  split
  · exact h
  · next hk => exact List.nodup_append.2 ⟨h, by simp, by rintro a ha b hb rfl; simp_all⟩

theorem find?_write (k j : α) (f : Option β → β) (l : List (α × β)) :
    find? j (write k f l) = if k = j then some (f (find? k l)) else find? j l := by
  induction l with
  | nil => simp [write, find?]
  | cons e r ih =>
    obtain ⟨a, b⟩ := e
    by_cases h : a = k
    · subst h
      by_cases hj : a = j <;> simp [write, find?, hj]
    · by_cases hj : k = j
      · subst hj; simp [write, find?, h, ih]
      · simp [write, find?, h, ih, hj]

theorem find?_isSome {k : α} {l : List (α × β)} : (find? k l).isSome ↔ k ∈ l.map Prod.fst := by
  induction l with
  | nil => simp [find?]
  | cons e r ih =>
    obtain ⟨a, b⟩ := e
    by_cases h : a = k
    · simp [find?, h]
    · simp [find?, h, ih, Ne.symm h]

/-! ## Maps -/

def empty : OrderMap α β := ⟨[], by simp⟩

def keys (m : OrderMap α β) : List α := m.entries.map Prod.fst

def size (m : OrderMap α β) : Nat := m.entries.length

def isEmpty (m : OrderMap α β) : Bool := m.entries.isEmpty

def get? (m : OrderMap α β) (k : α) : Option β := find? k m.entries

def contains (m : OrderMap α β) (k : α) : Bool := (m.get? k).isSome

/-- Replaces the value under `k` by `f` of it. -/
def update (m : OrderMap α β) (k : α) (f : Option β → β) : OrderMap α β :=
  ⟨write k f m.entries, nodup_write k f m.nodup⟩

def insert (m : OrderMap α β) (k : α) (v : β) : OrderMap α β := m.update k fun _ => v

/-- Inserts the entries one after the other, so a repeated key keeps its first
place and its last value. -/
def insertAll (m : OrderMap α β) (l : List (α × β)) : OrderMap α β :=
  l.foldl (fun m (k, v) => m.insert k v) m

def ofList (l : List (α × β)) : OrderMap α β := empty.insertAll l

theorem keys_update (m : OrderMap α β) (k : α) (f : Option β → β) :
    (m.update k f).keys = if k ∈ m.keys then m.keys else m.keys ++ [k] :=
  map_fst_write k f m.entries

theorem get?_update (m : OrderMap α β) (k j : α) (f : Option β → β) :
    (m.update k f).get? j = if k = j then some (f (m.get? k)) else m.get? j :=
  find?_write k j f m.entries

theorem get?_insert (m : OrderMap α β) (k j : α) (v : β) :
    (m.insert k v).get? j = if k = j then some v else m.get? j :=
  get?_update m k j _

theorem contains_iff {m : OrderMap α β} {k : α} : m.contains k ↔ k ∈ m.keys := find?_isSome

end OrderMap

end FlatQuery
