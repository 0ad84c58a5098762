import Mathlib.Data.List.Basic
import Mathlib.Logic.Function.Basic
import Mathlib.Data.Nat.ModEq

/-!
# Att1.Lib.Ring — FIFO contents of circular slots

A circular queue stores its entries in slots `0 … cap - 1`; entry `i` sits in slot `(head + i) % cap`.
`window slots cap head count` is the list of entries, oldest first.  Appending writes the slot behind the
newest entry and keeps all others as long as `count < cap` (`window_push`); removing moves `head` on
(`window_pop`).  `head` may be a free-running counter: only its residue matters (`window_congr`).
The last section is the arithmetic of counters that are masked by `depth - 1` for a power of two `depth`.
-/

namespace Att1.Lib

variable {α : Type*}

/-- The `count` entries starting at slot `head % cap`, oldest first. -/
def window (slots : ℕ → α) (cap head count : ℕ) : List α :=
  (List.range count).map fun i => slots ((head + i) % cap)

@[simp] theorem length_window (slots : ℕ → α) (cap head count : ℕ) :
    (window slots cap head count).length = count := by
  simp [window]

@[simp] theorem window_zero (slots : ℕ → α) (cap head : ℕ) : window slots cap head 0 = [] := rfl

theorem window_congr {slots : ℕ → α} {cap head head' : ℕ} (h : head % cap = head' % cap) (count : ℕ) :
    window slots cap head count = window slots cap head' count := by
  refine List.map_congr_left fun i _ => ?_
  rw [Nat.add_mod, h, ← Nat.add_mod]

/-- Only the slots below `cap` are read. -/
theorem window_congr_slots {slots slots' : ℕ → α} {cap : ℕ} (hcap : 0 < cap)
    (h : ∀ i < cap, slots i = slots' i) (head count : ℕ) :
    window slots cap head count = window slots' cap head count :=
  List.map_congr_left fun _ _ => h _ (Nat.mod_lt _ hcap)

theorem window_pop (slots : ℕ → α) (cap head count : ℕ) :
    window slots cap head (count + 1) = slots (head % cap) :: window slots cap (head + 1) count := by
  unfold window
  rw [List.range_succ_eq_map, List.map_cons, List.map_map, Nat.add_zero]
  congr 1
  refine List.map_congr_left fun i _ => ?_
  show slots ((head + (i + 1)) % cap) = slots ((head + 1 + i) % cap)
  rw [show head + (i + 1) = head + 1 + i by omega]

/-- Entries less than a turn apart sit in different slots. -/
theorem slot_ne {cap head i j : ℕ} (hij : i < j) (hj : j < cap) :
    (head + i) % cap ≠ (head + j) % cap := by
  intro h
  have h1 : head + i ≡ head + j [MOD cap] := h
  have h2 : i ≡ j [MOD cap] := Nat.ModEq.add_left_cancel' head h1
  have h3 : i % cap = j % cap := h2
  rw [Nat.mod_eq_of_lt (by omega), Nat.mod_eq_of_lt hj] at h3
  omega

/-- Writing the slot behind the newest entry appends to the contents. -/
theorem window_push (slots : ℕ → α) {cap head count : ℕ} (x : α) (h : count < cap) :
    window (Function.update slots ((head + count) % cap) x) cap head (count + 1) =
      window slots cap head count ++ [x] := by
  unfold window
  rw [List.range_succ, List.map_append, List.map_singleton, Function.update_self]
  congr 1
  refine List.map_congr_left fun i hi => ?_
  rw [Function.update_of_ne (slot_ne (List.mem_range.mp hi) h)]

/-! ### Masked counters -/

section Mask

variable {d : UInt64} {k : ℕ}

/-- The usual test for a power of two. -/
theorem pow_two_of_mask (hpos : 1 ≤ d) (hand : d &&& (d - 1) = 0) : ∃ k, d.toNat = 2 ^ k := by
  have h1 : 1 ≤ d.toNat := hpos
  have hsub : (d - 1).toNat = d.toNat - 1 := UInt64.toNat_sub_of_le _ _ hpos
  have h2 : d.toNat &&& (d.toNat - 1) = 0 := by
    rw [← hsub, ← UInt64.toNat_and, hand]
    rfl
  exact Nat.ne_zero_and_sub_one_eq_zero_iff_isPowerOfTwo.mp ⟨by omega, h2⟩

theorem toNat_pow_two_sub_one (hd : d.toNat = 2 ^ k) : (d - 1).toNat = 2 ^ k - 1 := by
  have h1 : (1 : UInt64) ≤ d := by
    rw [UInt64.le_iff_toNat_le, hd]
    exact Nat.one_le_two_pow
  rw [UInt64.toNat_sub_of_le _ _ h1, hd]
  rfl

/-- Masking with `depth - 1` is reduction modulo a power-of-two `depth`. -/
theorem toNat_mask (hd : d.toNat = 2 ^ k) (x : UInt64) : (x &&& (d - 1)).toNat = x.toNat % d.toNat := by
  rw [UInt64.toNat_and, toNat_pow_two_sub_one hd, Nat.and_two_pow_sub_one_eq_mod, hd]

/-- Clearing the low bits rounds to a multiple of a power of two. -/
theorem dvd_clear_low (hd : d.toNat = 2 ^ k) (x : UInt64) : d.toNat ∣ (x &&& ~~~ (d - 1)).toNat := by
  apply Nat.dvd_of_mod_eq_zero
  have hclear : x &&& ~~~ (d - 1) &&& (d - 1) = 0 := by
    rw [UInt64.and_assoc, UInt64.and_comm (~~~ (d - 1)), UInt64.and_not_self, UInt64.and_zero]
  rw [← toNat_mask hd, hclear]
  rfl

/-- Clearing the low bits takes the remainder away. -/
theorem toNat_clear_low (hd : d.toNat = 2 ^ k) (x : UInt64) :
    (x &&& ~~~ (d - 1)).toNat = x.toNat - x.toNat % d.toNat := by
  have hdisjoint : (x &&& ~~~ (d - 1)).toBitVec &&& (x &&& (d - 1)).toBitVec = 0#64 := by
    ext i hi
    simp
    grind
  have hwhole : (x &&& ~~~ (d - 1)).toBitVec + (x &&& (d - 1)).toBitVec = x.toBitVec := by
    rw [BitVec.add_eq_or_of_and_eq_zero _ _ hdisjoint]
    ext i hi
    simp
    grind
  have hsum : (x &&& ~~~ (d - 1)).toNat + (x &&& (d - 1)).toNat = x.toNat := by
    have hadd := BitVec.toNat_add_of_and_eq_zero hdisjoint
    rw [hwhole] at hadd
    exact hadd.symm
  rw [toNat_mask hd] at hsum
  omega

theorem pow_two_dvd (hd : d.toNat = 2 ^ k) : d.toNat ∣ 2 ^ 64 := by
  rw [hd]
  refine pow_dvd_pow 2 ?_
  have h1 : d.toNat < 2 ^ 64 := d.toNat_lt
  rw [hd] at h1
  exact (Nat.pow_lt_pow_iff_right (by omega)).mp h1 |>.le

/-- The masked difference of two free-running counters is the true distance, when that is below `depth`. -/
theorem toNat_mask_sub (hd : d.toNat = 2 ^ k) {head tail : UInt64} {n : ℕ} (hn : n < d.toNat)
    (ht : tail = head + UInt64.ofNat n) : ((tail - head) &&& (d - 1)).toNat = n := by
  have hlt : n < 2 ^ 64 := hn.trans d.toNat_lt
  have h1 : tail - head = UInt64.ofNat n := by
    rw [ht, UInt64.add_comm, UInt64.add_sub_cancel]
  rw [toNat_mask hd, h1, UInt64.toNat_ofNat_of_lt' hlt, Nat.mod_eq_of_lt hn]

/-- Stepping a free-running counter by `n` steps its residue by `n`, also across the 64-bit wrap. -/
theorem toNat_add_mod (hd : d.toNat = 2 ^ k) (x : UInt64) (n : ℕ) :
    (x + UInt64.ofNat n).toNat % d.toNat = (x.toNat + n) % d.toNat := by
  rw [UInt64.toNat_add, Nat.mod_mod_of_dvd _ (pow_two_dvd hd), UInt64.toNat_ofNat', Nat.add_mod,
    Nat.mod_mod_of_dvd _ (pow_two_dvd hd), ← Nat.add_mod]

end Mask

/-! ### Rings between masked counters -/

section Masked

variable {d head tail : UInt64} {k : ℕ}

/-- The fill level the masked difference of two free-running counters gives. -/
def maskedUsed (d head tail : UInt64) : UInt64 := (tail - head) &&& (d - 1)

/-- The contents of the ring between two free-running counters. -/
def maskedWindow (slots : ℕ → α) (d head tail : UInt64) : List α :=
  window slots d.toNat head.toNat (maskedUsed d head tail).toNat

/-- `tail` is less than a turn ahead of `head`. -/
def MaskedOk (d head tail : UInt64) : Prop := tail = head + maskedUsed d head tail

@[simp] theorem length_maskedWindow (slots : ℕ → α) (d head tail : UInt64) :
    (maskedWindow slots d head tail).length = (maskedUsed d head tail).toNat := by
  simp [maskedWindow]

theorem maskedUsed_lt (hd : d.toNat = 2 ^ k) : (maskedUsed d head tail).toNat < d.toNat := by
  have hpos : 0 < d.toNat := by
    rw [hd]
    exact Nat.two_pow_pos k
  unfold maskedUsed
  rw [toNat_mask hd]
  exact Nat.mod_lt _ hpos

theorem maskedOk_of_eq {n : ℕ} (hd : d.toNat = 2 ^ k) (hn : n < d.toNat) (ht : tail = head + UInt64.ofNat n) :
    MaskedOk d head tail ∧ (maskedUsed d head tail).toNat = n := by
  have hused : (maskedUsed d head tail).toNat = n := toNat_mask_sub hd hn ht
  refine ⟨?_, hused⟩
  unfold MaskedOk
  rw [← UInt64.ofNat_toNat (x := maskedUsed d head tail), hused]
  exact ht

theorem MaskedOk.tail_eq (h : MaskedOk d head tail) :
    tail = head + UInt64.ofNat (maskedUsed d head tail).toNat := by
  rw [UInt64.ofNat_toNat]
  exact h

/-- An empty ring starts with equal counters. -/
theorem maskedOk_self (hd : d.toNat = 2 ^ k) (head : UInt64) :
    MaskedOk d head head ∧ (maskedUsed d head head).toNat = 0 :=
  maskedOk_of_eq hd (n := 0) (by rw [hd]; exact Nat.two_pow_pos k) (by simp)

/-- The ring holds one entry less than it has slots: this is the code's test for room. -/
theorem maskedRoom_iff (head tail : UInt64) (hd : d.toNat = 2 ^ k) :
    d ≤ maskedUsed d head tail + 1 ↔ d.toNat ≤ (maskedUsed d head tail).toNat + 1 := by
  have h1 : (maskedUsed d head tail).toNat < d.toNat := maskedUsed_lt hd
  have h2 : d.toNat < 2 ^ 64 := d.toNat_lt
  have h3 : (maskedUsed d head tail + 1).toNat = (maskedUsed d head tail).toNat + 1 := by
    rw [UInt64.toNat_add]
    exact Nat.mod_eq_of_lt (by simp; omega)
  rw [UInt64.le_iff_toNat_le, h3]

/-- Producing an entry appends it. -/
theorem maskedWindow_push (slots : ℕ → α) (hd : d.toNat = 2 ^ k) (h : MaskedOk d head tail) (x : α)
    (hroom : (maskedUsed d head tail).toNat + 1 < d.toNat) :
    MaskedOk d head (tail + 1) ∧
      maskedWindow (Function.update slots (tail &&& (d - 1)).toNat x) d head (tail + 1) =
        maskedWindow slots d head tail ++ [x] := by
  set n := (maskedUsed d head tail).toNat with hn
  have htail : tail = head + UInt64.ofNat n := h.tail_eq
  have hsucc : tail + 1 = head + UInt64.ofNat (n + 1) := by
    rw [htail, UInt64.ofNat_add, UInt64.add_assoc]
    rfl
  obtain ⟨hok, hused⟩ := maskedOk_of_eq hd hroom hsucc
  refine ⟨hok, ?_⟩
  have hslot : (tail &&& (d - 1)).toNat = (head.toNat + n) % d.toNat := by
    rw [toNat_mask hd, htail, toNat_add_mod hd]
  unfold maskedWindow
  rw [hused, hslot, ← hn]
  exact window_push slots x (by omega)

/-- Consuming an entry takes the oldest; what its slot is overwritten with is not seen again. -/
theorem maskedWindow_pop (slots : ℕ → α) (hd : d.toNat = 2 ^ k) (h : MaskedOk d head tail)
    (hne : (maskedUsed d head tail).toNat ≠ 0) (x : α) :
    MaskedOk d (head + 1) tail ∧
      (maskedUsed d (head + 1) tail).toNat + 1 = (maskedUsed d head tail).toNat ∧
      maskedWindow slots d head tail = slots (head &&& (d - 1)).toNat ::
        maskedWindow (Function.update slots (head &&& (d - 1)).toNat x) d (head + 1) tail := by
  obtain ⟨n, hn⟩ := Nat.exists_eq_succ_of_ne_zero hne
  have hlt : n + 1 < d.toNat := by
    rw [← Nat.succ_eq_add_one, ← hn]
    exact maskedUsed_lt hd
  have htail : tail = head + 1 + UInt64.ofNat n := by
    rw [UInt64.add_assoc, UInt64.add_comm 1, ← UInt64.ofNat_one, ← UInt64.ofNat_add, ← Nat.succ_eq_add_one, ← hn]
    exact h.tail_eq
  obtain ⟨hok, hused⟩ := maskedOk_of_eq hd (by omega) htail
  have hslot : (head &&& (d - 1)).toNat = head.toNat % d.toNat := toNat_mask hd head
  have hhead : (head + 1).toNat % d.toNat = (head.toNat + 1) % d.toNat := toNat_add_mod hd head 1
  refine ⟨hok, by omega, ?_⟩
  unfold maskedWindow
  rw [hused, hn, hslot, Nat.succ_eq_add_one, window_pop, window_congr hhead]
  congr 1
  refine List.map_congr_left fun i hi => ?_
  have hin : i + 1 < d.toNat := by
    have := List.mem_range.mp hi
    omega
  have hne' : (head.toNat + 0) % d.toNat ≠ (head.toNat + (i + 1)) % d.toNat := slot_ne (by omega) hin
  rw [Function.update_of_ne]
  intro hc
  refine hne' ?_
  rw [Nat.add_zero, ← hc, Nat.add_right_comm, Nat.add_assoc]

theorem toNat_slot (hd : d.toNat = 2 ^ k) (head : UInt64) (i : ℕ) :
    ((head + UInt64.ofNat i) &&& (d - 1)).toNat = (head.toNat + i) % d.toNat := by
  rw [toNat_mask hd, toNat_add_mod hd]

/-- The entry at distance `i` from the oldest. -/
theorem getElem?_maskedWindow (slots : ℕ → α) (hd : d.toNat = 2 ^ k) {i : ℕ}
    (h : i < (maskedUsed d head tail).toNat) :
    (maskedWindow slots d head tail)[i]? = some (slots ((head + UInt64.ofNat i) &&& (d - 1)).toNat) := by
  unfold maskedWindow window
  rw [List.getElem?_map, List.getElem?_range h, toNat_slot hd]
  rfl

theorem maskedWindow_head {slots : ℕ → α} (hd : d.toNat = 2 ^ k) {x : α} {rest : List α}
    (h : maskedWindow slots d head tail = x :: rest) : x = slots (head &&& (d - 1)).toNat := by
  have hlen : (maskedUsed d head tail).toNat = rest.length + 1 := by
    rw [← length_maskedWindow slots, h, List.length_cons]
  have hget : (maskedWindow slots d head tail)[0]? = _ := getElem?_maskedWindow slots hd (by omega)
  rw [h, show UInt64.ofNat 0 = 0 from rfl, UInt64.add_zero] at hget
  exact Option.some.inj hget

/-- A masked ring accounts exactly for what went through it: `used` is the number of entries put and not yet
got, at most one less than the depth, and each of them stands untouched in a slot of its own. -/
structure ExactRing (slots : ℕ → α) (d head used : UInt64) (put got : List α) : Prop where
  inOrder : got <+: put
  count : got.length + used.toNat = put.length
  room : used.toNat ≤ d.toNat - 1
  inRange : ∀ i < used.toNat, ((head + UInt64.ofNat i) &&& (d - 1)).toNat < d.toNat
  unread : ∀ i < used.toNat, put[got.length + i]? = some (slots ((head + UInt64.ofNat i) &&& (d - 1)).toNat)
  apart : ∀ i j, i < j → j < used.toNat →
    (head + UInt64.ofNat i) &&& (d - 1) ≠ (head + UInt64.ofNat j) &&& (d - 1)

theorem exactRing_of_window {slots : ℕ → α} {put got : List α} (hd : d.toNat = 2 ^ k)
    (h : put = got ++ maskedWindow slots d head tail) :
    ExactRing slots d head (maskedUsed d head tail) put got where
  inOrder := ⟨_, h.symm⟩
  count := by rw [h, List.length_append, length_maskedWindow]
  room := Nat.le_sub_one_of_lt (maskedUsed_lt hd)
  inRange i _ := by
    rw [toNat_slot hd]
    refine Nat.mod_lt _ ?_
    rw [hd]
    exact Nat.two_pow_pos k
  unread i hi := by
    rw [h, List.getElem?_append_right (Nat.le_add_right _ _), Nat.add_sub_cancel_left]
    exact getElem?_maskedWindow slots hd hi
  apart i j hij hj heq := by
    have hslot := congrArg UInt64.toNat heq
    rw [toNat_slot hd, toNat_slot hd] at hslot
    exact slot_ne hij (hj.trans (maskedUsed_lt hd)) hslot

end Masked

end Att1.Lib
