import Mathlib

namespace ByteMemory

abbrev Memory := ℤ → UInt8

def load (mem : Memory) (a : ℤ) (n : ℕ) : List UInt8 := (List.range n).map fun i : ℕ => mem (a + i)

def store (mem : Memory) (a : ℤ) (bytes : List UInt8) : Memory := fun x =>
  if a ≤ x then bytes.getD (x - a).toNat (mem x) else mem x

/-- `snprintf` of a text to the address `a`, with room for `size` bytes. It returns the length
of the whole text. -/
def snprintf (mem : Memory) (a : ℤ) (size : ℕ) (text : List UInt8) : Memory × ℕ :=
  (if size = 0 then mem else store mem a (text.take (size - 1) ++ [0]), text.length)

variable {mem : Memory} {a : ℤ}

@[simp] theorem length_load (n : ℕ) : (load mem a n).length = n := by simp [load]

theorem getElem?_load (n i : ℕ) :
    (load mem a n)[i]? = if i < n then some (mem (a + i)) else none := by
  rw [load, List.getElem?_map]
  split
  · next h => rw [List.getElem?_range h, Option.map_some]
  · next h => rw [List.getElem?_eq_none (by simpa using h), Option.map_none]

theorem load_add (m n : ℕ) : load mem a (m + n) = load mem a m ++ load mem (a + m) n := by
  simp [load, List.range_add, Int.add_assoc]

theorem take_drop_load (i n k : ℕ) :
    ((load mem a k).drop i).take n = load mem (a + i) (min n (k - i)) := by
  apply List.ext_getElem?
  intro j
  simp only [List.getElem?_take, List.getElem?_drop, getElem?_load]
  by_cases hn : j < n
  · by_cases hk : i + j < k
    · rw [if_pos hn, if_pos hk, if_pos (by omega), Int.add_assoc, Int.natCast_add]
    · rw [if_pos hn, if_neg hk, if_neg (by omega)]
  · rw [if_neg hn, if_neg (by omega)]

theorem load_store_within {bytes : List UInt8} {i n : ℕ} (h : i + n ≤ bytes.length) :
    load (store mem a bytes) (a + i) n = (bytes.drop i).take n := by
  apply List.ext_getElem?
  intro j
  rw [getElem?_load, List.getElem?_take, List.getElem?_drop]
  split
  · next hj =>
    have hdist : (a + i + j - a).toNat = i + j := by omega
    rw [store, if_pos (by omega), hdist, List.getD_eq_getElem?_getD,
      List.getElem?_eq_getElem (by omega), Option.getD_some]
  · rfl

theorem load_store {bytes : List UInt8} {n : ℕ} (h : n ≤ bytes.length) :
    load (store mem a bytes) a n = bytes.take n := by
  have hwithin : load (store mem a bytes) (a + (0 : ℕ)) n = _ := load_store_within (by omega)
  rwa [Int.natCast_zero, Int.add_zero, List.drop_zero] at hwithin

theorem load_store_beside {b : ℤ} {bytes : List UInt8} {n : ℕ}
    (h : a + n ≤ b ∨ b + bytes.length ≤ a) : load (store mem b bytes) a n = load mem a n := by
  apply List.map_congr_left
  intro i hi
  have hlt := List.mem_range.mp hi
  rw [store]
  split
  · rw [List.getD_eq_default _ _ (by omega)]
  · rfl

theorem load_store_eq {bytes : List UInt8} {n : ℕ} (h : bytes.length = n) :
    load (store mem a bytes) a n = bytes := by
  rw [load_store (Nat.le_of_eq h.symm), ← h, List.take_length]

theorem load_snprintf {size : ℕ} {text : List UInt8} (h : text.length < size) :
    load (snprintf mem a size text).1 a text.length = text := by
  have htake : text.take (size - 1) = text := List.take_of_length_le (by omega)
  rw [snprintf]
  dsimp only
  rw [if_neg (by omega), htake, load_store (by simp), List.take_left]

/-- `off += snprintf(buf + off, size - (size_t)off, text)` for a buffer and an offset. The
difference of the sizes is unsigned. -/
def printAt (size : UInt64) (p : Memory × ℕ) (text : List UInt8) : Memory × ℕ :=
  let (mem, n) := snprintf p.1 p.2 (size - .ofNat p.2).toNat text
  (mem, p.2 + n)

/-- The buffer holds the content up to the offset. -/
structure Printed (content : List UInt8) (p : Memory × ℕ) : Prop where
  offset : p.2 = content.length
  loaded : load p.1 0 content.length = content

variable {size : UInt64} {p : Memory × ℕ} {content text : List UInt8}

theorem printAt_offset : (printAt size p text).2 = p.2 + text.length := rfl

theorem room_eq {off : ℕ} (h : off ≤ size.toNat) :
    (size - .ofNat off).toNat = size.toNat - off := by
  have hlt := size.toNat_lt
  have hoff : (UInt64.ofNat off).toNat = off := UInt64.toNat_ofNat_of_lt' (Nat.lt_of_le_of_lt h hlt)
  rw [UInt64.toNat_sub_of_le, hoff]
  rw [UInt64.le_iff_toNat_le, hoff]
  exact h

theorem Printed.nil (mem : Memory) : Printed [] (mem, 0) := ⟨rfl, rfl⟩

theorem Printed.printAt (h : Printed content p)
    (hfits : content.length + text.length < size.toNat) :
    Printed (content ++ text) (printAt size p text) where
  offset := by rw [printAt_offset, h.offset, List.length_append]
  loaded := by
    have hoff := h.offset
    have hroom : (size - .ofNat p.2).toNat = size.toNat - p.2 := room_eq (by omega)
    rw [List.length_append, load_add, ByteMemory.printAt, Int.zero_add, ← hoff, hroom]
    dsimp only
    rw [load_snprintf (by omega)]
    have hkept : load (snprintf p.1 p.2 (size.toNat - p.2) text).1 0 p.2 = content := by
      rw [snprintf]
      dsimp only
      rw [if_neg (by omega), load_store_beside (by omega), hoff, h.loaded]
    rw [hkept]

theorem Printed.foldl (h : Printed content p) {texts : List (List UInt8)}
    (hfits : content.length + texts.flatten.length < size.toNat) :
    Printed (content ++ texts.flatten) (texts.foldl (ByteMemory.printAt size) p) := by
  induction texts generalizing content p with
  | nil => simpa using h
  | cons text texts ih =>
    rw [List.flatten_cons, List.length_append] at hfits
    have hfirst : Printed (content ++ text) (ByteMemory.printAt size p text) :=
      h.printAt (by omega)
    have hnext := ih hfirst (by
      rw [List.length_append]
      omega)
    rwa [List.append_assoc] at hnext

theorem printAt_outside (hoff : p.2 ≤ size.toNat) {x : ℤ} (hx : x < 0 ∨ size.toNat ≤ x) :
    (printAt size p text).1 x = p.1 x := by
  rw [printAt, room_eq hoff, snprintf]
  dsimp only
  split
  · rfl
  · rw [store]
    split
    · apply List.getD_eq_default
      rw [List.length_append, List.length_take, List.length_singleton]
      omega
    · rfl

end ByteMemory
