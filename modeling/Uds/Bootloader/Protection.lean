import Uds.Base.Machine
import Uds.Bootloader.FlashServices
import Uds.Bootloader.FlashStore
/-!
# Write protection

Runs of the operations that erase or write flash, on a table whose regions may overlap.
`find_region` takes the first region that holds the whole range, so a protected region
is shut to a range only if it is listed before every unprotected one that holds it.
-/

namespace Uds.Bootloader

open Uds.Base Uds.Core

/-! ## Calls -/

inductive ProgramCall where
  | erase (address length : UInt32)
  | write (address : UInt32) (data : List UInt8)
  | requestDownload (addressAndLenFmt : UInt8) (addrAndLenData : List UInt8) (respSize : Nat)
  | transferData (blockSeqCounter : UInt8) (data : List UInt8) (respSize : Nat)

/-- The length of what is written, which the check narrows to 32 bits. -/
def ProgramCall.written : ProgramCall → Nat
  | write _ data => data.length
  | transferData _ data _ => data.length
  | _ => 0

/-- One call, and whether it was accepted. -/
def programStep (s : UdsXferSession × UdsFlashMemory) :
    ProgramCall → (UdsXferSession × UdsFlashMemory) × Bool
  | .erase address length =>
    match udsFlashErase s.2 address length with
    | .ok flash => ((s.1, flash), true)
    | .error _ => (s, false)
  | .write address data =>
    match udsFlashWrite s.2 address data with
    | .ok flash => ((s.1, flash), true)
    | .error _ => (s, false)
  | .requestDownload fmt data respSize =>
    let out := udsSvcRequestDownload s.1 s.2 fmt data respSize
    (out.1, out.2.isOk)
  | .transferData seq data respSize =>
    let out := udsSvcTransferData s.1 s.2 seq data respSize
    (out.1, out.2.isOk)

/-! ## One call -/

/-- Only a range changed, for which an unprotected region was found. -/
def Reprogrammed (flash flash' : UdsFlashMemory) : Prop :=
  ∃ address length r, findRegion flash address length = some r ∧ r.isProtected = false ∧
    flash'.regions = flash.regions ∧
      ∀ a, a < address.toNat ∨ address.toNat + length.toNat ≤ a → flash'.data a = flash.data a

section Step

variable {flash flash' : UdsFlashMemory}

theorem Reprogrammed.of_erase {address length : UInt32}
    (h : udsFlashErase flash address length = .ok flash') : Reprogrammed flash flash' := by
  obtain ⟨-, r, hfind, hprot, rfl⟩ := udsFlashErase_eq_ok.mp h
  refine ⟨address, length, r, hfind, hprot, rfl, ?_⟩
  intro a hout
  exact Mem.fill_of_not_mem _ _ _ hout

theorem Reprogrammed.of_write {address : UInt32} {data : List UInt8}
    (h32 : data.length < 2 ^ 32) (h : udsFlashWrite flash address data = .ok flash') :
    Reprogrammed flash flash' := by
  obtain ⟨-, r, hfind, hprot, rfl⟩ := udsFlashWrite_eq_ok.mp h
  refine ⟨address, UInt32.ofNat data.length, r, hfind, hprot, rfl, ?_⟩
  intro a hout
  rw [UInt32.toNat_ofNat_of_lt' h32] at hout
  rcases hout with hbelow | habove
  · exact Mem.store_of_lt _ _ _ hbelow
  · exact Mem.store_of_ge _ _ _ habove

theorem programStep_flash (s : UdsXferSession × UdsFlashMemory) {c : ProgramCall}
    (h32 : c.written < 2 ^ 32) :
    (programStep s c).1.2 = s.2 ∨ Reprogrammed s.2 (programStep s c).1.2 := by
  cases c with
  | erase address length =>
      rw [programStep]
      cases herase : udsFlashErase s.2 address length with
      | ok flash' => exact Or.inr (.of_erase herase)
      | error e => exact Or.inl rfl
  | write address data =>
      rw [programStep]
      cases hwrite : udsFlashWrite s.2 address data with
      | ok flash' => exact Or.inr (.of_write h32 hwrite)
      | error e => exact Or.inl rfl
  | requestDownload fmt data respSize =>
      rw [programStep]
      rcases requestDownload_cases s.1 s.2 fmt data respSize with
        ⟨e, h⟩ | ⟨address, memSize, flash', -, -, herase, ⟨-, h⟩ | h⟩
      · exact Or.inl (by rw [h])
      · exact Or.inr (by rw [h]; exact .of_erase herase)
      · exact Or.inr (by rw [h]; exact .of_erase herase)
  | transferData seq data respSize =>
      rw [programStep]
      rcases transferData_cases s.1 s.2 seq data respSize with
        ⟨e, h⟩ | ⟨flash', -, -, -, hwrite, ⟨-, h⟩ | h⟩ | ⟨bytes, -, -, -, -, h⟩
      · exact Or.inl (by rw [h])
      · exact Or.inr (by rw [h]; exact .of_write h32 hwrite)
      · exact Or.inr (by rw [h]; exact .of_write h32 hwrite)
      · exact Or.inl (by rw [h])

end Step

/-! ## Overlapping regions -/

/-- Every unprotected region that shares an address with a protected one lies inside a
protected region listed before it. -/
def Sheltered (regions : List UdsFlashRegion) : Prop :=
  ∀ before u after, regions = before ++ u :: after → u.isProtected = false →
    (∃ p ∈ regions, p.isProtected = true ∧ ∃ a, p.Contains a ∧ u.Contains a) →
      ∃ q ∈ before, q.isProtected = true ∧ q.baseAddress.toNat ≤ u.baseAddress.toNat ∧
        u.limit ≤ q.limit

theorem Sheltered.apart {flash : UdsFlashMemory} (h : Sheltered flash.regions)
    {address length : UInt32} {r p : UdsFlashRegion} {a : Nat}
    (hfind : findRegion flash address length = some r) (hr : r.isProtected = false)
    (hp : p ∈ flash.regions) (hprot : p.isProtected = true) (ha : p.Contains a) :
    a < address.toNat ∨ address.toNat + length.toNat ≤ a := by
  by_contra hin
  obtain ⟨hholds, before, after, hsplit, hbefore⟩ := List.find?_eq_some_iff_append.mp hfind
  obtain ⟨hbase, hstart, hlimit⟩ := (holds_iff r address length).mp hholds
  have hra : r.Contains a := by
    constructor <;> omega
  obtain ⟨q, hq, -, hqbase, hqlimit⟩ := h before r after hsplit hr ⟨p, hp, hprot, a, ha, hra⟩
  have hqholds : q.holds address length = true := by
    rw [holds_iff]
    omega
  have hnot := hbefore q hq
  rw [hqholds] at hnot
  cases hnot

theorem Reprogrammed.data {flash flash' : UdsFlashMemory} (h : Reprogrammed flash flash')
    (hs : Sheltered flash.regions) {p : UdsFlashRegion} (hp : p ∈ flash.regions)
    (hprot : p.isProtected = true) {a : Nat} (ha : p.Contains a) :
    flash'.data a = flash.data a := by
  obtain ⟨address, length, r, hfind, hr, -, hout⟩ := h
  exact hout a (hs.apart hfind hr hp hprot ha)

/-- An unprotected region that is not sheltered is found for its own range, or for one
that holds it. -/
theorem exists_findRegion_unprotected {flash : UdsFlashMemory} {before after : List UdsFlashRegion}
    {u : UdsFlashRegion} {a : Nat} (hsplit : flash.regions = before ++ u :: after)
    (hu : u.isProtected = false) (ha : u.Contains a)
    (hnone : ¬∃ q ∈ before, q.isProtected = true ∧
      q.baseAddress.toNat ≤ u.baseAddress.toNat ∧ u.limit ≤ q.limit) :
    ∃ r, findRegion flash u.baseAddress u.size = some r ∧ r.isProtected = false := by
  have hself : u.holds u.baseAddress u.size = true := by
    rw [holds_iff]
    exact ⟨le_rfl, Nat.lt_of_le_of_lt ha.1 ha.2, le_rfl⟩
  unfold findRegion
  rw [hsplit, List.find?_append]
  cases hfind : before.find? fun r => r.holds u.baseAddress u.size with
  | none =>
      refine ⟨u, ?_, hu⟩
      rw [Option.none_or]
      exact List.find?_cons_of_pos hself
  | some q =>
      refine ⟨q, rfl, ?_⟩
      have hq : q ∈ before := List.mem_of_find?_eq_some hfind
      have hholds : q.holds u.baseAddress u.size = true := by
        simpa using List.find?_some hfind
      obtain ⟨hbase, -, hlimit⟩ := (holds_iff q _ _).mp hholds
      by_contra hprot
      exact hnone ⟨q, hq, by simpa using hprot, hbase, hlimit⟩

/-! ## Runs -/

/-- After every run, every byte of a protected region is as `uds_flash_init` left it. -/
def KeepsProtected (regions : List UdsFlashRegion) : Prop :=
  ∀ (xfer : UdsXferSession) (calls : List ProgramCall), (∀ c ∈ calls, c.written < 2 ^ 32) →
    ∀ p ∈ regions, p.isProtected = true → ∀ a, p.Contains a →
      (runFrom programStep (xfer, udsFlashInit regions) calls).2.data a =
        (udsFlashInit regions).data a

section Runs

variable {regions : List UdsFlashRegion}

theorem udsFlashInit_regions (h : regions.length ≤ udsFlashMaxRegions) :
    (udsFlashInit regions).regions = regions :=
  List.take_of_length_le h

theorem Sheltered.keepsProtected (h : Sheltered regions)
    (hlen : regions.length ≤ udsFlashMaxRegions) : KeepsProtected regions := by
  intro xfer calls h32
  have hrun : (runFrom programStep (xfer, udsFlashInit regions) calls).2.regions = regions ∧
      ∀ p ∈ regions, p.isProtected = true → ∀ a, p.Contains a →
        (runFrom programStep (xfer, udsFlashInit regions) calls).2.data a =
          (udsFlashInit regions).data a := by
    apply run_invariant programStep (C := fun x => x.input.written < 2 ^ 32)
      (fun _ s => s.2.regions = regions ∧ ∀ p ∈ regions, p.isProtected = true →
        ∀ a, p.Contains a → s.2.data a = (udsFlashInit regions).data a)
    · exact ⟨udsFlashInit_regions hlen, fun _ _ _ _ _ => rfl⟩
    · rintro - s c ⟨hregions, hdata⟩ (hc : c.written < 2 ^ 32)
      rcases programStep_flash s hc with hsame | hrep
      · rw [hsame]
        exact ⟨hregions, hdata⟩
      · have hs : Sheltered s.2.regions := by rwa [hregions]
        constructor
        · obtain ⟨-, -, -, -, -, hkept, -⟩ := hrep
          exact hkept.trans hregions
        · intro p hp hprot a ha
          rw [hrep.data hs (by rwa [hregions]) hprot ha]
          exact hdata p hp hprot a ha
    · intro x hx
      exact h32 _ (input_mem_of_turn programStep hx)
  exact hrun.2

/-- A write of zeros to an unprotected region that is not sheltered changes what it
shares with a protected one. -/
theorem KeepsProtected.sheltered (h : KeepsProtected regions)
    (hlen : regions.length ≤ udsFlashMaxRegions) : Sheltered regions := by
  intro before u after hsplit hu ⟨p, hp, hprot, a, hpa, hua⟩
  by_contra hnone
  have hregions : (udsFlashInit regions).regions = before ++ u :: after :=
    (udsFlashInit_regions hlen).trans hsplit
  obtain ⟨r, hfind, hr⟩ := exists_findRegion_unprotected hregions hu hua hnone
  have hsize : (List.replicate u.size.toNat (0 : UInt8)).length = u.size.toNat :=
    List.length_replicate
  have hinside : a - u.baseAddress.toNat < u.size.toNat := by
    have hbase := hua.1
    have hlimit : a < u.baseAddress.toNat + u.size.toNat := hua.2
    omega
  have hwrite : udsFlashWrite (udsFlashInit regions) u.baseAddress
      (List.replicate u.size.toNat 0) = .ok { udsFlashInit regions with
        data := (udsFlashInit regions).data.store u.baseAddress.toNat
          (List.replicate u.size.toNat 0) } := by
    rw [udsFlashWrite_eq_ok]
    refine ⟨?_, r, ?_, hr, rfl⟩
    · rw [← List.length_pos_iff, hsize]
      omega
    · rw [hsize, UInt32.ofNat_toNat]
      exact hfind
  have hkeep := h udsXferInit [.write u.baseAddress (List.replicate u.size.toNat 0)]
    (List.forall_mem_singleton.mpr (by
      change (List.replicate u.size.toNat (0 : UInt8)).length < 2 ^ 32
      rw [hsize]
      exact u.size.toNat_lt)) p hp hprot a hpa
  simp only [runFrom, programStep, hwrite] at hkeep
  have hzero := Mem.store_add (udsFlashInit regions).data u.baseAddress.toNat
    (List.replicate u.size.toNat (0 : UInt8)) (i := a - u.baseAddress.toNat) (by rwa [hsize])
  rw [Nat.add_sub_cancel' hua.1, List.getElem_replicate] at hzero
  rw [hzero] at hkeep
  exact absurd hkeep (show (0 : UInt8) ≠ udsFlashEraseValue by decide)

/-- No byte of a protected region ever changes exactly when the table shelters them. -/
theorem protected_bytes_iff (hlen : regions.length ≤ udsFlashMaxRegions) :
    KeepsProtected regions ↔ Sheltered regions :=
  ⟨fun h => h.sheltered hlen, fun h => h.keepsProtected hlen⟩

/-- An unprotected region inside a protected one that is listed before it. -/
theorem protected_bytes_iff_nested :
    KeepsProtected [⟨0, 8, true⟩, ⟨2, 4, false⟩] ↔ Sheltered [⟨0, 8, true⟩, ⟨2, 4, false⟩] :=
  protected_bytes_iff (by decide)

/-- The whole of an image is unprotected but for a boot block, which is listed after it:
its first byte is written. -/
theorem protected_byte_written :
    ¬∀ regions : List UdsFlashRegion, regions.length ≤ udsFlashMaxRegions →
      (∀ r ∈ regions, r.limit ≤ udsFlashMaxSize) → KeepsProtected regions := by
  intro hclaim
  have hkeep := hclaim [⟨0, 8, false⟩, ⟨4, 4, true⟩] (by decide) (by decide) udsXferInit
    [.write 4 [0x00]] (by decide) ⟨4, 4, true⟩ (by decide) rfl 4 (by constructor <;> decide)
  exact absurd hkeep (by decide)

end Runs

end Uds.Bootloader
