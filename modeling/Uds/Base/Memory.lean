import Mathlib.Data.List.Range
import Mathlib.Tactic.SplitIfs
/-!
# Memory as an unbounded array

An object of `n` cells occupies the indices below `n`; the indices from `n` on
are its neighbours.  A store past the end of an object is therefore not an
error of the model but a visible change of a neighbour, and the absence of one
is a theorem.
-/

namespace Uds.Base

/-- Contents of memory, by index from the start of the object looked at. -/
def Mem (β : Type) := Nat → β

namespace Mem

variable {β : Type}

/-- Copy `bs` to the cells from `a` on. -/
def store (m : Mem β) (a : Nat) (bs : List β) : Mem β := fun i =>
  if h : a ≤ i ∧ i - a < bs.length then bs[i - a] else m i

/-- Set the `n` cells from `a` on to `b`. -/
def fill (m : Mem β) (a n : Nat) (b : β) : Mem β := fun i =>
  if a ≤ i ∧ i < a + n then b else m i

/-- The `n` cells from `a` on. -/
def load (m : Mem β) (a n : Nat) : List β := (List.range n).map fun i => m (a + i)

/-- Stores one after the other, each given by its index and its bytes. -/
def storeAll (m : Mem β) (writes : List (Nat × List β)) : Mem β :=
  writes.foldl (fun m w => m.store w.1 w.2) m

variable (m : Mem β) (a b n k : Nat) (bs cs : List β)

theorem store_of_lt {i : Nat} (h : i < a) : m.store a bs i = m i := by
  rw [store, dif_neg (by omega)]

theorem store_of_ge {i : Nat} (h : a + bs.length ≤ i) : m.store a bs i = m i := by
  rw [store, dif_neg (by omega)]

theorem store_add {i : Nat} (h : i < bs.length) : m.store a bs (a + i) = bs[i] := by
  rw [store, dif_pos (by omega)]
  simp

@[simp] theorem store_nil : m.store a [] = m := by
  funext i
  rw [store, dif_neg (by simp)]

theorem fill_of_not_mem {i : Nat} {x : β} (h : i < a ∨ a + n ≤ i) :
    m.fill a n x i = m i := by
  rw [fill, if_neg (by omega)]

@[simp] theorem length_load : (m.load a n).length = n := by
  simp [load]

@[simp] theorem load_zero : m.load a 0 = [] := rfl

theorem getElem_load {i : Nat} (h : i < (m.load a n).length) :
    (m.load a n)[i] = m (a + i) := by
  simp [load]

theorem load_add : m.load a (n + k) = m.load a n ++ m.load (a + n) k := by
  simp only [load, List.range_add, List.map_append, List.map_map]
  congr 1
  apply List.map_congr_left
  intro i _
  simp [Nat.add_assoc]

theorem take_load (h : k ≤ n) : (m.load a n).take k = m.load a k := by
  obtain ⟨rest, rfl⟩ := Nat.exists_eq_add_of_le h
  rw [load_add, List.take_left' (length_load m a k)]

theorem load_congr {m m' : Mem β} (h : ∀ i, a ≤ i → i < a + n → m i = m' i) :
    m.load a n = m'.load a n := by
  unfold load
  apply List.map_congr_left
  intro i hi
  exact h (a + i) (by omega) (by have := List.mem_range.mp hi; omega)

theorem load_store : (m.store a bs).load a bs.length = bs := by
  apply List.ext_getElem
  · simp
  · intro i hi hi'
    rw [getElem_load, store_add m a bs hi']

/-- A store leaves the cells below it alone. -/
theorem load_store_below (h : a + n ≤ b) : (m.store b bs).load a n = m.load a n :=
  load_congr a n fun _ _ hi' => store_of_lt m b bs (by omega)

/-- A store leaves the cells above it alone. -/
theorem load_store_above (h : b + bs.length ≤ a) : (m.store b bs).load a n = m.load a n :=
  load_congr a n fun _ hi _ => store_of_ge m b bs (by omega)

/-- Storing right after `n` known cells extends what is known. -/
theorem load_store_after :
    (m.store (a + n) bs).load a (n + bs.length) = m.load a n ++ bs := by
  rw [load_add, load_store, load_store_below m a (a + n) n bs le_rfl]

theorem load_store_extend :
    (m.store n bs).load 0 (n + bs.length) = m.load 0 n ++ bs := by
  have h := load_store_after m 0 n bs
  rwa [Nat.zero_add] at h

theorem store_store_adjacent :
    (m.store a bs).store (a + bs.length) cs = m.store a (bs ++ cs) := by
  funext i
  simp only [store, List.length_append]
  by_cases h₁ : a + bs.length ≤ i ∧ i - (a + bs.length) < cs.length
  · rw [dif_pos h₁, dif_pos (by omega), List.getElem_append_right (by omega)]
    congr 1
    omega
  · rw [dif_neg h₁]
    by_cases h₂ : a ≤ i ∧ i - a < bs.length
    · rw [dif_pos h₂, dif_pos (by omega), List.getElem_append_left h₂.2]
    · rw [dif_neg h₂, dif_neg (by omega)]

/-- A list is stored piece by piece. -/
theorem store_take_add {i : Nat} {piece : List β} (h : piece <+: bs.drop i) (hi : i ≤ bs.length) :
    (m.store a (bs.take i)).store (a + i) piece = m.store a (bs.take (i + piece.length)) := by
  have hlen : (bs.take i).length = i := List.length_take_of_le hi
  have htake : bs.take i ++ piece = bs.take (i + piece.length) := by
    rw [List.take_add, ← List.prefix_iff_eq_take.mp h]
  have hadjacent := store_store_adjacent m a (bs.take i) piece
  rwa [hlen, htake] at hadjacent

/-- A store hides an earlier one that it covers. -/
theorem store_store_covered (h : bs.length ≤ cs.length) :
    (m.store a bs).store a cs = m.store a cs := by
  funext i
  by_cases hcovered : a ≤ i ∧ i - a < cs.length
  · simp only [store, dif_pos hcovered]
  · have hnot : ¬(a ≤ i ∧ i - a < bs.length) := by omega
    simp only [store, dif_neg hcovered, dif_neg hnot]

/-- Setting cells changes nothing exactly when they are set already. -/
theorem fill_eq_self_iff {x : β} :
    m.fill a n x = m ↔ ∀ i, a ≤ i → i < a + n → m i = x := by
  constructor
  · intro heq i hlow hhigh
    have hi := congrFun heq i
    rw [fill, if_pos ⟨hlow, hhigh⟩] at hi
    exact hi.symm
  · intro hset
    funext i
    by_cases hin : a ≤ i ∧ i < a + n
    · rw [fill, if_pos hin, hset i hin.1 hin.2]
    · rw [fill, if_neg hin]

/-- A store changes nothing exactly when its bytes are there already. -/
theorem store_eq_self_iff : m.store a bs = m ↔ m.load a bs.length = bs := by
  constructor
  · intro heq
    have hload := load_store m a bs
    rwa [heq] at hload
  · intro hload
    funext i
    by_cases hin : a ≤ i ∧ i - a < bs.length
    · have hget : (m.load a bs.length)[i - a]? = bs[i - a]? := by rw [hload]
      rw [List.getElem?_eq_getElem (by simpa using hin.2), List.getElem?_eq_getElem hin.2,
        getElem_load, Nat.add_sub_cancel' hin.1] at hget
      rw [store, dif_pos hin, ← Option.some.inj hget]
    · rw [store, dif_neg hin]

@[simp] theorem storeAll_nil : m.storeAll [] = m := rfl

@[simp] theorem storeAll_cons (w : Nat × List β) (writes : List (Nat × List β)) :
    m.storeAll (w :: writes) = (m.store w.1 w.2).storeAll writes := rfl

theorem storeAll_append (ws writes : List (Nat × List β)) :
    m.storeAll (ws ++ writes) = (m.storeAll ws).storeAll writes :=
  List.foldl_append

end Mem

end Uds.Base
