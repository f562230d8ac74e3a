import Mathlib.Algebra.Ring.Nat
import Uds.Base.Memory
import Uds.Core.Nrc
/-!
# Flash memory

The simulated flash (`flash.c`): a region table over a flat byte array.  The
array has no end in the model, so an access past `data[]` shows up as an access
to cells from `udsFlashMaxSize` on.
-/

namespace Uds.Bootloader

open Uds.Base

def udsFlashMaxRegions : Nat := 8
def udsFlashMaxSize : Nat := 256 * 1024
def udsFlashEraseValue : UInt8 := 0xFF

structure UdsFlashRegion where
  baseAddress : UInt32
  size : UInt32
  isProtected : Bool
  deriving DecidableEq

/-- The flash device; `regions` are the first `region_count` table entries. -/
structure UdsFlashMemory where
  data : Mem UInt8
  regions : List UdsFlashRegion
  regions_le : regions.length ≤ udsFlashMaxRegions

inductive UdsFlashError where
  | errParam
  | errNrc
  deriving DecidableEq

/-- The test of `find_region`: `[address, address + length)` lies in `r`. -/
def UdsFlashRegion.holds (r : UdsFlashRegion) (address length : UInt32) : Bool :=
  address ≥ r.baseAddress && address - r.baseAddress < r.size &&
    length ≤ r.size - (address - r.baseAddress)

def findRegion (flash : UdsFlashMemory) (address length : UInt32) : Option UdsFlashRegion :=
  flash.regions.find? fun r => r.holds address length

def udsFlashInit (regions : List UdsFlashRegion) : UdsFlashMemory where
  data := fun _ => udsFlashEraseValue
  regions := regions.take udsFlashMaxRegions
  regions_le := List.length_take_le ..

def udsFlashAddressValid (flash : UdsFlashMemory) (address length : UInt32) : Bool :=
  if length = 0 then false else (findRegion flash address length).isSome

def udsFlashErase (flash : UdsFlashMemory) (address length : UInt32) :
    Except UdsFlashError UdsFlashMemory :=
  if length = 0 then .error .errParam
  else
    match findRegion flash address length with
    | none => .error .errNrc
    | some r =>
      if r.isProtected then .error .errNrc
      else
        .ok { flash with data := flash.data.fill address.toNat length.toNat udsFlashEraseValue }

def udsFlashWrite (flash : UdsFlashMemory) (address : UInt32) (data : List UInt8) :
    Except UdsFlashError UdsFlashMemory :=
  if data.length = 0 then .error .errParam
  else
    -- the length is narrowed to 32 bits for the check, but not for the copy
    match findRegion flash address (UInt32.ofNat data.length) with
    | none => .error .errNrc
    | some r =>
      if r.isProtected then .error .errNrc
      else .ok { flash with data := flash.data.store address.toNat data }

def udsFlashRead (flash : UdsFlashMemory) (address : UInt32) (len : Nat) :
    Except UdsFlashError (List UInt8) :=
  if len = 0 then .error .errParam
  else if !udsFlashAddressValid flash address (UInt32.ofNat len) then .error .errNrc
  else .ok (flash.data.load address.toNat len)

/-! ## What the checks mean -/

/-- One past the last address of a region, without wrap-around. -/
def UdsFlashRegion.limit (r : UdsFlashRegion) : Nat := r.baseAddress.toNat + r.size.toNat

/-- None of the 32-bit differences of the test wraps. -/
theorem holds_iff (r : UdsFlashRegion) (address length : UInt32) :
    r.holds address length = true ↔
      r.baseAddress.toNat ≤ address.toNat ∧ address.toNat < r.limit ∧
        address.toNat + length.toNat ≤ r.limit := by
  unfold UdsFlashRegion.holds UdsFlashRegion.limit
  simp only [Bool.and_eq_true, decide_eq_true_eq, ge_iff_le, UInt32.le_iff_toNat_le,
    UInt32.lt_iff_toNat_lt]
  by_cases hbase : r.baseAddress.toNat ≤ address.toNat
  · have hoff : (address - r.baseAddress).toNat = address.toNat - r.baseAddress.toNat :=
      UInt32.toNat_sub_of_le _ _ (UInt32.le_iff_toNat_le.mpr hbase)
    by_cases hin : (address - r.baseAddress).toNat < r.size.toNat
    · have hrest : (r.size - (address - r.baseAddress)).toNat =
          r.size.toNat - (address - r.baseAddress).toNat :=
        UInt32.toNat_sub_of_le _ _ (UInt32.le_iff_toNat_le.mpr (by omega))
      omega
    · omega
  · omega

theorem findRegion_eq_some {flash : UdsFlashMemory} {address length : UInt32}
    {r : UdsFlashRegion} (h : findRegion flash address length = some r) :
    r ∈ flash.regions ∧ r.holds address length = true :=
  ⟨List.mem_of_find?_eq_some h, by simpa using List.find?_some h⟩

theorem exists_findRegion {flash : UdsFlashMemory} {address length : UInt32}
    {r : UdsFlashRegion} (hr : r ∈ flash.regions) (h : r.holds address length = true) :
    ∃ r', findRegion flash address length = some r' := by
  apply Option.isSome_iff_exists.mp
  unfold findRegion
  rw [List.find?_isSome]
  exact ⟨r, hr, h⟩

theorem udsFlashAddressValid_iff (flash : UdsFlashMemory) (address length : UInt32) :
    udsFlashAddressValid flash address length = true ↔
      length ≠ 0 ∧ ∃ r, findRegion flash address length = some r := by
  unfold udsFlashAddressValid
  by_cases h : length = 0
  · simp [h]
  · simp [h, Option.isSome_iff_exists]

theorem udsFlashErase_eq_ok {flash flash' : UdsFlashMemory} {address length : UInt32} :
    udsFlashErase flash address length = .ok flash' ↔
      length ≠ 0 ∧ ∃ r, findRegion flash address length = some r ∧ r.isProtected = false ∧
        flash' =
          { flash with data := flash.data.fill address.toNat length.toNat udsFlashEraseValue } := by
  unfold udsFlashErase
  by_cases hlen : length = 0
  · simp [hlen]
  · cases hfind : findRegion flash address length with
    | none => simp [hlen]
    | some r =>
        cases hp : r.isProtected with
        | true => simp [hlen, hp]
        | false =>
            simp only [hlen, hp, if_false, Bool.false_eq_true, Except.ok.injEq]
            constructor
            · intro h
              exact ⟨hlen, r, rfl, hp, h.symm⟩
            · intro ⟨_, _, _, _, h⟩
              exact h.symm

theorem udsFlashWrite_eq_ok {flash flash' : UdsFlashMemory} {address : UInt32}
    {data : List UInt8} :
    udsFlashWrite flash address data = .ok flash' ↔
      data ≠ [] ∧ ∃ r, findRegion flash address (UInt32.ofNat data.length) = some r ∧
        r.isProtected = false ∧
          flash' = { flash with data := flash.data.store address.toNat data } := by
  unfold udsFlashWrite
  by_cases hdata : data = []
  · simp [hdata]
  · cases hfind : findRegion flash address (UInt32.ofNat data.length) with
    | none => simp [hdata]
    | some r =>
        cases hp : r.isProtected with
        | true => simp [hdata, hp]
        | false =>
            simp only [List.length_eq_zero_iff, hdata, hp, if_false, Bool.false_eq_true,
              Except.ok.injEq]
            constructor
            · intro h
              exact ⟨hdata, r, rfl, hp, h.symm⟩
            · intro ⟨_, _, _, _, h⟩
              exact h.symm

theorem udsFlashRead_eq_ok {flash : UdsFlashMemory} {address : UInt32} {len : Nat}
    {bytes : List UInt8} :
    udsFlashRead flash address len = .ok bytes ↔
      len ≠ 0 ∧ UInt32.ofNat len ≠ 0 ∧
        (∃ r, findRegion flash address (UInt32.ofNat len) = some r) ∧
          bytes = flash.data.load address.toNat len := by
  have hvalid := udsFlashAddressValid_iff flash address (UInt32.ofNat len)
  unfold udsFlashRead
  by_cases hlen : len = 0
  · simp [hlen]
  · cases hv : udsFlashAddressValid flash address (UInt32.ofNat len) with
    | false =>
        have hnot : ¬(UInt32.ofNat len ≠ 0 ∧
            ∃ r, findRegion flash address (UInt32.ofNat len) = some r) := by
          simp [← hvalid, hv]
        simp only [hlen, if_false, Bool.not_false, if_true, reduceCtorEq, false_iff]
        intro h
        exact hnot ⟨h.2.1, h.2.2.1⟩
    | true =>
        have hok := hvalid.mp hv
        simp only [hlen, if_false, Bool.not_true, Bool.false_eq_true, Except.ok.injEq]
        constructor
        · intro h
          exact ⟨hlen, hok.1, hok.2, h.symm⟩
        · intro h
          exact h.2.2.2.symm

end Uds.Bootloader
