import Uds.Bootloader.Flash
/-!
# Flash accesses and the end of the array

An access is bounded by the region it lies in, and by nothing else: no region
is compared with the array, and `uds_flash_write` and `uds_flash_read` check a
length that has been narrowed to 32 bits.  So exactly the region tables whose
regions end inside the array keep accesses of less than `2 ^ 32` bytes inside,
and no table with a non-empty region keeps the longer ones inside.
-/

namespace Uds.Bootloader

open Uds.Base

/-- No accepted operation on `len` bytes goes past `data[]`. -/
structure AccessSafe (flash : UdsFlashMemory) (len : Nat) : Prop where
  erase : ∀ (address length : UInt32) flash', length.toNat = len →
    udsFlashErase flash address length = .ok flash' → address.toNat + len ≤ udsFlashMaxSize
  write : ∀ (address : UInt32) data flash', data.length = len →
    udsFlashWrite flash address data = .ok flash' → address.toNat + len ≤ udsFlashMaxSize
  read : ∀ (address : UInt32) bytes,
    udsFlashRead flash address len = .ok bytes → address.toNat + len ≤ udsFlashMaxSize

variable {flash : UdsFlashMemory}

/-- All three operations look the range up, so a bound on what `find_region`
finds is a bound on all of them. -/
theorem AccessSafe.of_found {len : Nat}
    (h : ∀ (address : UInt32) r, findRegion flash address (UInt32.ofNat len) = some r →
      address.toNat + len ≤ udsFlashMaxSize) : AccessSafe flash len where
  erase := by
    intro address length flash' hlen hok
    obtain ⟨-, r, hr, -⟩ := udsFlashErase_eq_ok.mp hok
    apply h address r
    rwa [← hlen, UInt32.ofNat_toNat]
  write := by
    intro address data flash' hlen hok
    obtain ⟨-, r, hr, -⟩ := udsFlashWrite_eq_ok.mp hok
    apply h address r
    rwa [← hlen]
  read := by
    intro address bytes hok
    obtain ⟨-, -, ⟨r, hr⟩, -⟩ := udsFlashRead_eq_ok.mp hok
    exact h address r hr

theorem AccessSafe.of_holds {len : Nat} (h : AccessSafe flash len) {r : UdsFlashRegion}
    (hr : r ∈ flash.regions) {address : UInt32} (hlen : UInt32.ofNat len ≠ 0)
    (hholds : r.holds address (UInt32.ofNat len) = true) :
    address.toNat + len ≤ udsFlashMaxSize := by
  have hne : len ≠ 0 := by
    rintro rfl
    exact hlen rfl
  apply h.read address (flash.data.load address.toNat len)
  exact udsFlashRead_eq_ok.mpr ⟨hne, hlen, exists_findRegion hr hholds, rfl⟩

/-- Below `2 ^ 32`, operations on `len` bytes are safe exactly when every region
that has room for `len` bytes ends inside the array. -/
theorem accessSafe_iff {len : Nat} (hpos : 0 < len) (hlen : len < 2 ^ 32) :
    AccessSafe flash len ↔
      ∀ r ∈ flash.regions, len ≤ r.size.toNat → r.limit ≤ udsFlashMaxSize := by
  have hlen32 : (UInt32.ofNat len).toNat = len := UInt32.toNat_ofNat_of_lt' hlen
  have hne : UInt32.ofNat len ≠ 0 := by
    intro h0
    rw [h0] at hlen32
    simp at hlen32
    omega
  constructor
  · intro h r hr hroom
    have hbase := r.baseAddress.toNat_lt
    -- the last place in the region for `len` bytes, as far as 32 bits reach it
    obtain ⟨a, ha⟩ : ∃ a, a = min (r.limit - len) (2 ^ 32 - 1) := ⟨_, rfl⟩
    have hlt : a < 2 ^ 32 := by omega
    have ha32 : (UInt32.ofNat a).toNat = a := UInt32.toNat_ofNat_of_lt' hlt
    have hlimit : r.limit = r.baseAddress.toNat + r.size.toNat := rfl
    have hholds : r.holds (UInt32.ofNat a) (UInt32.ofNat len) = true := by
      rw [holds_iff, ha32, hlen32]
      omega
    have hbound := h.of_holds hr hne hholds
    rw [ha32] at hbound
    unfold udsFlashMaxSize at hbound ⊢
    omega
  · intro h
    apply AccessSafe.of_found
    intro address r hfind
    obtain ⟨hr, hholds⟩ := findRegion_eq_some hfind
    rw [holds_iff, hlen32] at hholds
    have hlimit := h r hr (by unfold UdsFlashRegion.limit at hholds; omega)
    omega

theorem accessSafe_zero : AccessSafe flash 0 where
  erase := by
    intro address length flash' hlen hok
    have hzero : length = 0 := UInt32.toNat_inj.mp hlen
    exact absurd hzero (udsFlashErase_eq_ok.mp hok).1
  write := by
    intro address data flash' hlen hok
    exact absurd (List.length_eq_zero_iff.mp hlen) (udsFlashWrite_eq_ok.mp hok).1
  read := by
    intro address bytes hok
    exact absurd rfl (udsFlashRead_eq_ok.mp hok).1

theorem accessSafe_lt_iff :
    (∀ len < 2 ^ 32, AccessSafe flash len) ↔
      ∀ r ∈ flash.regions, r.size ≠ 0 → r.limit ≤ udsFlashMaxSize := by
  constructor
  · intro h r hr hsize
    have hpos : 0 < r.size.toNat := by
      apply Nat.pos_of_ne_zero
      intro h0
      exact hsize (UInt32.toNat_inj.mp h0)
    have hlt := r.size.toNat_lt
    exact (accessSafe_iff hpos hlt).mp (h r.size.toNat hlt) r hr le_rfl
  · intro h len hlen
    rcases Nat.eq_zero_or_pos len with rfl | hpos
    · exact accessSafe_zero
    · apply (accessSafe_iff hpos hlen).mpr
      intro r hr hroom
      apply h r hr
      rintro h0
      simp [h0] at hroom
      omega

theorem accessSafe_lt_iff_empty :
    (∀ len < 2 ^ 64, AccessSafe flash len) ↔ ∀ r ∈ flash.regions, r.size = 0 := by
  constructor
  · intro h r hr
    by_contra hsize
    have hpos : 0 < r.size.toNat := by
      apply Nat.pos_of_ne_zero
      intro h0
      exact hsize (UInt32.toNat_inj.mp h0)
    have hone : UInt32.ofNat (2 ^ 32 + 1) = 1 := rfl
    have hholds : r.holds r.baseAddress (UInt32.ofNat (2 ^ 32 + 1)) = true := by
      rw [hone, holds_iff]
      unfold UdsFlashRegion.limit
      simp
      omega
    have hbound := (h (2 ^ 32 + 1) (by decide)).of_holds hr (by rw [hone]; decide) hholds
    unfold udsFlashMaxSize at hbound
    omega
  · intro h len _
    apply AccessSafe.of_found
    intro address r hfind
    obtain ⟨hr, hholds⟩ := findRegion_eq_some hfind
    rw [holds_iff] at hholds
    unfold UdsFlashRegion.limit at hholds
    rw [h r hr] at hholds
    simp at hholds
    omega

/-- For every region table: operations of less than `2 ^ 32` bytes stay inside
the array exactly when every non-empty region does, and operations of any
64-bit length exactly when every region is empty. -/
theorem udsFlashInit_accessSafe_iff (regions : List UdsFlashRegion) :
    ((∀ len < 2 ^ 32, AccessSafe (udsFlashInit regions) len) ↔
      ∀ r ∈ regions.take udsFlashMaxRegions, r.size ≠ 0 → r.limit ≤ udsFlashMaxSize) ∧
    ((∀ len < 2 ^ 64, AccessSafe (udsFlashInit regions) len) ↔
      ∀ r ∈ regions.take udsFlashMaxRegions, r.size = 0) :=
  ⟨accessSafe_lt_iff, accessSafe_lt_iff_empty⟩

/-- A region at 0x08000000 is accepted, and four bytes are read 128 MB past the
start of a 256 KB array. -/
theorem udsFlashInit_not_accessSafe :
    ¬AccessSafe (udsFlashInit [⟨0x08000000, 0x1000, false⟩]) 4 := by
  intro h
  have hbound := (accessSafe_iff (by decide) (by decide)).mp h ⟨0x08000000, 0x1000, false⟩
    (by simp [udsFlashInit, udsFlashMaxRegions]) (by decide)
  exact absurd hbound (by decide)

end Uds.Bootloader
