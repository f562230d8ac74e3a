import Mathlib.Data.List.Pairwise
import Uds.Base.History
import Uds.Base.Machine
import Uds.Bootloader.Flash
/-!
# The flash as a store

Runs of `uds_flash_erase`, `uds_flash_write` and `uds_flash_read` on a table of regions
that are apart from each other.  A range of addresses then lies in one region at most,
so whichever region `find_region` comes to first decides as the table says.  A read
returns what was last stored at every address.
-/

namespace Uds.Bootloader

open Uds.Base

/-! ## Calls -/

inductive FlashCall where
  | erase (address length : UInt32)
  | write (address : UInt32) (data : List UInt8)
  | read (address : UInt32) (len : Nat)

/-- The result of a call, which has no bytes unless it reads. -/
abbrev FlashResult := Except UdsFlashError (List UInt8)

namespace FlashCall

def address : FlashCall → Nat
  | erase address _ => address.toNat
  | write address _ => address.toNat
  | read address _ => address.toNat

def length : FlashCall → Nat
  | erase _ length => length.toNat
  | write _ data => data.length
  | read _ len => len

def reads : FlashCall → Bool
  | read _ _ => true
  | _ => false

/-- What the call leaves at address `a`, if it is accepted. -/
def stores (a : Nat) : FlashCall → Option UInt8
  | erase address length =>
    if address.toNat ≤ a ∧ a < address.toNat + length.toNat then some udsFlashEraseValue else none
  | write address data => if address.toNat ≤ a then data[a - address.toNat]? else none
  | read _ _ => none

end FlashCall

def flashStep (flash : UdsFlashMemory) : FlashCall → UdsFlashMemory × FlashResult
  | .erase address length =>
    match udsFlashErase flash address length with
    | .ok flash => (flash, .ok [])
    | .error e => (flash, .error e)
  | .write address data =>
    match udsFlashWrite flash address data with
    | .ok flash => (flash, .ok [])
    | .error e => (flash, .error e)
  | .read address len => (flash, udsFlashRead flash address len)

abbrev FlashTurn := Turn UdsFlashMemory FlashCall FlashResult

/-! ## Regions -/

/-- The addresses of a region. -/
def UdsFlashRegion.Contains (r : UdsFlashRegion) (a : Nat) : Prop :=
  r.baseAddress.toNat ≤ a ∧ a < r.limit

/-- The regions are apart from each other and inside the array. -/
structure WellPlaced (regions : List UdsFlashRegion) : Prop where
  disjoint : regions.Pairwise fun r r' => ∀ a, ¬(r.Contains a ∧ r'.Contains a)
  inArray : ∀ r ∈ regions, ∀ a, r.Contains a → a < udsFlashMaxSize

/-- The length is not zero, and the range lies inside one region, which is unprotected
unless the call reads. -/
def FlashCall.Permitted (regions : List UdsFlashRegion) (c : FlashCall) : Prop :=
  c.length ≠ 0 ∧ ∃ r ∈ regions, (c.reads = false → r.isProtected = false) ∧
    r.baseAddress.toNat ≤ c.address ∧ c.address + c.length ≤ r.limit

section Regions

variable {regions : List UdsFlashRegion}

theorem WellPlaced.eq_of_contains (h : WellPlaced regions) {r r' : UdsFlashRegion}
    (hr : r ∈ regions) (hr' : r' ∈ regions) {a : Nat} (ha : r.Contains a) (ha' : r'.Contains a) :
    r = r' := by
  have hsymm : Std.Symm fun r r' : UdsFlashRegion => ∀ a, ¬(r.Contains a ∧ r'.Contains a) :=
    ⟨fun _ _ h a ha => h a ⟨ha.2, ha.1⟩⟩
  by_contra hne
  exact h.disjoint.forall hr hr' hne a ⟨ha, ha'⟩

theorem WellPlaced.of_ordered (h : regions.Pairwise fun r r' => r.limit ≤ r'.baseAddress.toNat)
    (hend : ∀ r ∈ regions, r.limit ≤ udsFlashMaxSize) : WellPlaced regions := by
  constructor
  · apply h.imp
    intro r r' hle a ⟨⟨_, hlimit⟩, ⟨hbase, _⟩⟩
    omega
  · intro r hr a ha
    exact Nat.lt_of_lt_of_le ha.2 (hend r hr)

theorem WellPlaced.findRegion_iff {flash : UdsFlashMemory} (h : WellPlaced flash.regions)
    {address length : UInt32} (hlen : length ≠ 0) (r : UdsFlashRegion) :
    findRegion flash address length = some r ↔
      r ∈ flash.regions ∧ r.baseAddress.toNat ≤ address.toNat ∧
        address.toNat + length.toNat ≤ r.limit := by
  have hpos : 0 < length.toNat := by
    apply Nat.pos_of_ne_zero
    exact fun h0 => hlen (UInt32.toNat_inj.mp h0)
  constructor
  · intro hfind
    obtain ⟨hr, hholds⟩ := findRegion_eq_some hfind
    obtain ⟨hbase, -, hlimit⟩ := (holds_iff r address length).mp hholds
    exact ⟨hr, hbase, hlimit⟩
  · rintro ⟨hr, hbase, hlimit⟩
    have hholds : r.holds address length = true := by
      rw [holds_iff]
      omega
    obtain ⟨r', hfind⟩ := exists_findRegion hr hholds
    obtain ⟨hr', hholds'⟩ := findRegion_eq_some hfind
    obtain ⟨hbase', hlt', -⟩ := (holds_iff r' address length).mp hholds'
    have heq : r' = r := h.eq_of_contains hr' hr (a := address.toNat) ⟨hbase', hlt'⟩
      ⟨hbase, by omega⟩
    rw [hfind, heq]

end Regions

/-! ## One call -/

/-- What a call does: it is accepted exactly when it is permitted; then it stays inside
the array and stores in its range and nowhere else, and otherwise it changes nothing. -/
structure FlashSpec (flash flash' : UdsFlashMemory) (c : FlashCall) (result : FlashResult) :
    Prop where
  accepted_iff : (∃ bytes, result = .ok bytes) ↔ c.Permitted flash.regions
  inArray : ∀ bytes, result = .ok bytes → c.address + c.length ≤ udsFlashMaxSize
  accepted : ∀ bytes, result = .ok bytes →
    ∀ a, flash'.data a = (c.stores a).getD (flash.data a)
  refused : ∀ e, result = .error e → flash'.data = flash.data
  regions : flash'.regions = flash.regions

section Spec

variable {flash : UdsFlashMemory}

theorem fill_eq_stores (address length : UInt32) (m : Mem UInt8) (a : Nat) :
    m.fill address.toNat length.toNat udsFlashEraseValue a =
      ((FlashCall.erase address length).stores a).getD (m a) := by
  unfold Mem.fill FlashCall.stores
  dsimp only
  split <;> rfl

theorem store_eq_stores (address : UInt32) (data : List UInt8) (m : Mem UInt8) (a : Nat) :
    m.store address.toNat data a = ((FlashCall.write address data).stores a).getD (m a) := by
  unfold FlashCall.stores
  dsimp only
  by_cases hbelow : a < address.toNat
  · rw [Mem.store_of_lt _ _ _ hbelow, if_neg (by omega), Option.getD_none]
  · obtain ⟨k, rfl⟩ := Nat.exists_eq_add_of_le (Nat.le_of_not_lt hbelow)
    rw [if_pos (Nat.le_add_right _ _), Nat.add_sub_cancel_left]
    by_cases hinside : k < data.length
    · rw [Mem.store_add _ _ _ hinside, List.getElem?_eq_getElem hinside, Option.getD_some]
    · rw [Mem.store_of_ge _ _ _ (by omega), List.getElem?_eq_none (by omega), Option.getD_none]

theorem WellPlaced.le_of_permitted (h : WellPlaced flash.regions) {c : FlashCall}
    (hc : c.Permitted flash.regions) : c.address + c.length ≤ udsFlashMaxSize := by
  obtain ⟨hlen, r, hr, -, hbase, hlimit⟩ := hc
  have hlast := h.inArray r hr (c.address + c.length - 1) ⟨by omega, by omega⟩
  omega

theorem WellPlaced.permitted_iff (h : WellPlaced flash.regions) {c : FlashCall}
    {address length : UInt32} (haddress : address.toNat = c.address)
    (hlength : length.toNat = c.length) :
    c.Permitted flash.regions ↔
      length ≠ 0 ∧ ∃ r, findRegion flash address length = some r ∧
        (c.reads = false → r.isProtected = false) := by
  have hzero : length ≠ 0 ↔ c.length ≠ 0 := by
    rw [← hlength, Ne, Ne, ← UInt32.toNat_inj]
    exact Iff.rfl
  unfold FlashCall.Permitted
  rw [hzero]
  constructor
  · rintro ⟨hlen, r, hr, hprot, hbase, hlimit⟩
    refine ⟨hlen, r, (h.findRegion_iff (hzero.mpr hlen) r).mpr ⟨hr, ?_, ?_⟩, hprot⟩
    · rwa [haddress]
    · rwa [haddress, hlength]
  · rintro ⟨hlen, r, hfind, hprot⟩
    obtain ⟨hr, hbase, hlimit⟩ := (h.findRegion_iff (hzero.mpr hlen) r).mp hfind
    rw [haddress] at hbase hlimit
    rw [hlength] at hlimit
    exact ⟨hlen, r, hr, hprot, hbase, hlimit⟩

theorem FlashSpec.of_ok (h : WellPlaced flash.regions) {c : FlashCall} {m : Mem UInt8}
    (hc : c.Permitted flash.regions) (hm : ∀ a, m a = (c.stores a).getD (flash.data a))
    (bytes : List UInt8) : FlashSpec flash { flash with data := m } c (.ok bytes) where
  accepted_iff := iff_of_true ⟨bytes, rfl⟩ hc
  inArray := fun _ _ => h.le_of_permitted hc
  accepted := fun _ _ => hm
  refused := fun _ he => by cases he
  regions := rfl

theorem FlashSpec.of_error {c : FlashCall} (hc : ¬c.Permitted flash.regions) (e : UdsFlashError) :
    FlashSpec flash flash c (.error e) where
  accepted_iff := iff_of_false (fun hok => by cases hok.choose_spec) hc
  inArray := fun _ hok => by cases hok
  accepted := fun _ hok => by cases hok
  refused := fun _ _ => rfl
  regions := rfl

theorem flashSpec_erase (h : WellPlaced flash.regions) (address length : UInt32) :
    FlashSpec flash (flashStep flash (.erase address length)).1 (.erase address length)
      (flashStep flash (.erase address length)).2 := by
  have hpermitted := h.permitted_iff (c := .erase address length) rfl rfl
  rw [flashStep]
  cases hop : udsFlashErase flash address length with
  | ok flash' =>
      obtain ⟨hlen, r, hfind, hprot, rfl⟩ := udsFlashErase_eq_ok.mp hop
      have hc := hpermitted.mpr ⟨hlen, r, hfind, fun _ => hprot⟩
      exact .of_ok h hc (fill_eq_stores address length flash.data) []
  | error e =>
      apply FlashSpec.of_error
      intro hc
      obtain ⟨hlen, r, hfind, hprot⟩ := hpermitted.mp hc
      rw [udsFlashErase_eq_ok.mpr ⟨hlen, r, hfind, hprot rfl, rfl⟩] at hop
      cases hop

theorem flashSpec_write (h : WellPlaced flash.regions) (address : UInt32) {data : List UInt8}
    (h32 : data.length < 2 ^ 32) :
    FlashSpec flash (flashStep flash (.write address data)).1 (.write address data)
      (flashStep flash (.write address data)).2 := by
  have hlen32 : (UInt32.ofNat data.length).toNat = data.length := UInt32.toNat_ofNat_of_lt' h32
  have hpermitted := h.permitted_iff (c := .write address data) rfl hlen32
  have hne : data ≠ [] ↔ UInt32.ofNat data.length ≠ 0 := by
    rw [Ne, Ne, ← UInt32.toNat_inj, hlen32, ← List.length_eq_zero_iff]
    exact Iff.rfl
  rw [flashStep]
  cases hop : udsFlashWrite flash address data with
  | ok flash' =>
      obtain ⟨hdata, r, hfind, hprot, rfl⟩ := udsFlashWrite_eq_ok.mp hop
      have hc := hpermitted.mpr ⟨hne.mp hdata, r, hfind, fun _ => hprot⟩
      exact .of_ok h hc (store_eq_stores address data flash.data) []
  | error e =>
      apply FlashSpec.of_error
      intro hc
      obtain ⟨hlen, r, hfind, hprot⟩ := hpermitted.mp hc
      rw [udsFlashWrite_eq_ok.mpr ⟨hne.mpr hlen, r, hfind, hprot rfl, rfl⟩] at hop
      cases hop

theorem flashSpec_read (h : WellPlaced flash.regions) (address : UInt32) {len : Nat}
    (h32 : len < 2 ^ 32) :
    FlashSpec flash (flashStep flash (.read address len)).1 (.read address len)
      (flashStep flash (.read address len)).2 := by
  have hlen32 : (UInt32.ofNat len).toNat = len := UInt32.toNat_ofNat_of_lt' h32
  have hpermitted := h.permitted_iff (c := .read address len) rfl hlen32
  have hne : len ≠ 0 ↔ UInt32.ofNat len ≠ 0 := by
    rw [Ne, Ne, ← UInt32.toNat_inj, hlen32]
    exact Iff.rfl
  rw [flashStep]
  cases hop : udsFlashRead flash address len with
  | ok bytes =>
      obtain ⟨-, hlen, ⟨r, hfind⟩, -⟩ := udsFlashRead_eq_ok.mp hop
      have hc := hpermitted.mpr ⟨hlen, r, hfind, fun hreads => by cases hreads⟩
      exact .of_ok h hc (fun _ => rfl) bytes
  | error e =>
      apply FlashSpec.of_error
      intro hc
      obtain ⟨hlen, r, hfind, -⟩ := hpermitted.mp hc
      rw [udsFlashRead_eq_ok.mpr ⟨hne.mpr hlen, hlen, ⟨r, hfind⟩, rfl⟩] at hop
      cases hop

theorem flashSpec_step (h : WellPlaced flash.regions) {c : FlashCall} (h32 : c.length < 2 ^ 32) :
    FlashSpec flash (flashStep flash c).1 c (flashStep flash c).2 := by
  cases c with
  | erase address length => exact flashSpec_erase h address length
  | write address data => exact flashSpec_write h address h32
  | read address len => exact flashSpec_read h address h32

end Spec

/-! ## Runs -/

/-- What an accepted call has left at address `a`. -/
def storedAt (a : Nat) (x : FlashTurn) : Option UInt8 :=
  match x.output with
  | .ok _ => x.input.stores a
  | .error _ => none

/-- The value of the last accepted call that covers address `a`, or the erased one. -/
def lastStored (h : List FlashTurn) (a : Nat) : UInt8 :=
  (latest (storedAt a) h).getD udsFlashEraseValue

theorem lastStored_snoc (h : List FlashTurn) (x : FlashTurn) (a : Nat) :
    lastStored (h ++ [x]) a = (storedAt a x).getD (lastStored h a) := by
  unfold lastStored
  rw [latest_snoc]
  cases storedAt a x with
  | none => rfl
  | some b => rfl

theorem FlashSpec.data {flash flash' : UdsFlashMemory} {c : FlashCall} {result : FlashResult}
    (h : FlashSpec flash flash' c result) (a : Nat) :
    flash'.data a = (storedAt a ⟨flash, c, result⟩).getD (flash.data a) := by
  cases result with
  | ok bytes => exact h.accepted bytes rfl a
  | error e => exact congrFun (h.refused e rfl) a

section Runs

variable {regions : List UdsFlashRegion} (hplaced : WellPlaced (regions.take udsFlashMaxRegions))

include hplaced in
theorem flash_after {calls : List FlashCall} (h32 : ∀ c ∈ calls, c.length < 2 ^ 32) :
    (runFrom flashStep (udsFlashInit regions) calls).regions = regions.take udsFlashMaxRegions ∧
      ∀ a, (runFrom flashStep (udsFlashInit regions) calls).data a =
        lastStored (turnsFrom flashStep (udsFlashInit regions) calls) a := by
  apply run_invariant flashStep (C := fun x => x.input.length < 2 ^ 32)
    (fun h flash => flash.regions = regions.take udsFlashMaxRegions ∧
      ∀ a, flash.data a = lastStored h a)
  · exact ⟨rfl, fun a => rfl⟩
  · rintro h flash c ⟨hregions, hdata⟩ hc
    have hspec : FlashSpec flash (flashStep flash c).1 c (flashStep flash c).2 :=
      flashSpec_step (by rwa [hregions]) hc
    refine ⟨hspec.regions.trans hregions, ?_⟩
    intro a
    rw [lastStored_snoc, hspec.data, hdata]
    rfl
  · intro x hx
    exact h32 _ (input_mem_of_turn flashStep hx)

/-- Every call of a run is accepted exactly when the table permits it, and stores in its
range alone; every accepted read returns what was last stored at its addresses. -/
theorem flash_store (calls : List FlashCall)
    (hplaced : WellPlaced (regions.take udsFlashMaxRegions))
    (h32 : ∀ c ∈ calls, c.length < 2 ^ 32) :
    ∀ (before after : List FlashTurn) (x : FlashTurn),
      turnsFrom flashStep (udsFlashInit regions) calls = before ++ x :: after →
      x.pre.regions = regions.take udsFlashMaxRegions ∧
      FlashSpec x.pre (flashStep x.pre x.input).1 x.input x.output ∧
      ∀ address len bytes, x.input = .read address len → x.output = .ok bytes →
        bytes = (List.range len).map fun i => lastStored before (address.toNat + i) := by
  intro before after x hsplit
  obtain ⟨past, c, rest, rfl, rfl, rfl, -⟩ := turnsFrom_eq_append_cons flashStep hsplit
  have hpast : ∀ c ∈ past, c.length < 2 ^ 32 := fun c hc => h32 c (List.mem_append_left _ hc)
  obtain ⟨hregions, hdata⟩ := flash_after hplaced hpast
  have hc := h32 c (by simp)
  refine ⟨hregions, flashSpec_step (by exact hregions ▸ hplaced) hc, ?_⟩
  intro address len bytes hread hok
  cases c with
  | erase => cases hread
  | write => cases hread
  | read =>
      cases hread
      obtain ⟨-, -, -, rfl⟩ := udsFlashRead_eq_ok.mp hok
      apply List.map_congr_left
      intro i _
      exact hdata (address.toNat + i)

end Runs

/-! ## On two adjacent regions -/

def adjacentRegions : List UdsFlashRegion := [⟨0, 4, false⟩, ⟨4, 4, true⟩]

theorem wellPlaced_adjacentRegions : WellPlaced adjacentRegions := by
  apply WellPlaced.of_ordered <;> decide

/-- Nine regions of one byte, one more than the table holds. -/
def unitRegions : List UdsFlashRegion :=
  (List.range 9).map fun i => ⟨UInt32.ofNat i, 1, false⟩

theorem wellPlaced_unitRegions : WellPlaced unitRegions := by
  apply WellPlaced.of_ordered <;> decide

/-- The write across the border of the regions is refused, and the read returns the byte
written before it. -/
theorem flash_store_adjacent :
    FlashSpec
        (runFrom flashStep (udsFlashInit adjacentRegions) [.write 2 [0x5A], .write 3 [1, 2]])
        (runFrom flashStep (udsFlashInit adjacentRegions)
          [.write 2 [0x5A], .write 3 [1, 2], .read 2 2])
        (.read 2 2) (.ok [0x5A, 0xFF]) ∧
      [0x5A, 0xFF] = (List.range 2).map fun i =>
        lastStored (turnsFrom flashStep (udsFlashInit adjacentRegions)
          [.write 2 [0x5A], .write 3 [1, 2]]) (2 + i) := by
  have h := flash_store [.write 2 [0x5A], .write 3 [1, 2], .read 2 2]
    (show WellPlaced (adjacentRegions.take udsFlashMaxRegions) from wellPlaced_adjacentRegions)
    (by decide)
    (turnsFrom flashStep (udsFlashInit adjacentRegions) [.write 2 [0x5A], .write 3 [1, 2]]) []
    ⟨_, .read 2 2, .ok [0x5A, 0xFF]⟩ rfl
  exact ⟨h.2.1, h.2.2 2 2 _ rfl rfl⟩

/-- A read of no bytes is refused inside a region too, and a ninth region is not kept. -/
theorem flash_not_store :
    (¬∀ regions, WellPlaced regions → ∀ (address : UInt32) (len : Nat),
      (∃ bytes, udsFlashRead (udsFlashInit regions) address len = .ok bytes) ↔
        ∃ r ∈ regions, r.baseAddress.toNat ≤ address.toNat ∧ address.toNat + len ≤ r.limit) ∧
    ¬∀ regions, WellPlaced regions → ∀ address length : UInt32, length ≠ 0 →
      ((∃ flash', udsFlashErase (udsFlashInit regions) address length = .ok flash') ↔
        ∃ r ∈ regions, r.isProtected = false ∧ r.baseAddress.toNat ≤ address.toNat ∧
          address.toNat + length.toNat ≤ r.limit) := by
  constructor
  · intro hclaim
    obtain ⟨bytes, hok⟩ := (hclaim adjacentRegions wellPlaced_adjacentRegions 0 0).mpr
      ⟨⟨0, 4, false⟩, by decide, by decide⟩
    exact (udsFlashRead_eq_ok.mp hok).1 rfl
  · intro hclaim
    obtain ⟨flash', hok⟩ := (hclaim unitRegions wellPlaced_unitRegions 8 1 (by decide)).mpr
      ⟨⟨8, 1, false⟩, by decide, by decide⟩
    obtain ⟨-, r, hfind, -⟩ := udsFlashErase_eq_ok.mp hok
    obtain ⟨hr, hholds⟩ := findRegion_eq_some hfind
    revert r
    decide

end Uds.Bootloader
