import Uds.Tools.FlashPlan
/-!
# An upload from any server

What `upload` of `flash.py` sends is a request, numbered blocks for as long as bytes are
missing, and the exit.  The plan is finished only when the server has sent enough, so the
loop can come to the bound on its blocks instead.  What it returns is what the responses
brought, cut to the length.
-/

namespace Uds.Tools

open Uds.Base

/-- Request `i` for a block; the counter goes from 1 to 255 and again from 1. -/
def blockRequest (i : Nat) : List UInt8 := [0x36, UInt8.ofNat (i % 255 + 1)]

/-- The messages from request `i` on, with `received` bytes there. -/
def blockRequests (length : Nat) : Nat → Nat → List (List UInt8) → List (Option (List UInt8))
  | received, i, [] => if length ≤ received then [some [0x37]] else [some (blockRequest i)]
  | received, i, resp :: rs =>
    if length ≤ received then [some [0x37]]
    else some (blockRequest i) :: blockRequests length (received + (resp.drop 2).length) (i + 1) rs

def uploadPlan (address length addrLen sizeLen : Nat) : Plan (List UInt8) (List UInt8) :=
  fun rs => transferMessage 0x35 address length addrLen sizeLen ::
    blockRequests length 0 0 (rs.drop 1)

/-- What the blocks brought: the first response announces them, and the last is to the exit. -/
def uploaded (rs : List (List UInt8)) : List UInt8 :=
  (rs.drop 1).dropLast.flatMap fun resp => resp.drop 2

theorem blockRequests_exit {length received : Nat} (h : length ≤ received) (i : Nat)
    (rs : List (List UInt8)) : blockRequests length received i rs = [some [0x37]] := by
  cases rs <;> exact if_pos h

theorem blockRequests_head {length received : Nat} (h : ¬length ≤ received) (i : Nat)
    (rs : List (List UInt8)) :
    (blockRequests length received i rs)[0]? = some (some (blockRequest i)) := by
  cases rs with
  | nil => rw [blockRequests, if_neg h]; rfl
  | cons resp rs => rw [blockRequests, if_neg h]; rfl

section Upload

variable {σ : Type} {plan : Plan (List UInt8) (List UInt8)} {transport : Transport σ}

/-- The plan goes on with the blocks from request `i` on. -/
def BlocksFrom (plan : Plan (List UInt8) (List UInt8)) (length received i : Nat)
    (rs : List (List UInt8)) : Prop :=
  ∃ before, before.length = rs.length ∧
    ∀ more, plan (rs ++ more) = before ++ blockRequests length received i more

theorem BlocksFrom.next {length received i : Nat} {rs : List (List UInt8)}
    (h : BlocksFrom plan length received i rs) :
    (plan rs)[rs.length]? = (blockRequests length received i [])[0]? := by
  obtain ⟨before, hlen, hplan⟩ := h
  have hnow := hplan []
  rw [List.append_nil] at hnow
  rw [hnow, List.getElem?_append_right (by omega), hlen, Nat.sub_self]

theorem BlocksFrom.snoc {length received i : Nat} {rs : List (List UInt8)}
    (h : BlocksFrom plan length received i rs) (hmore : ¬length ≤ received) (resp : List UInt8) :
    BlocksFrom plan length (received + (resp.drop 2).length) (i + 1) (rs ++ [resp]) := by
  obtain ⟨before, hlen, hplan⟩ := h
  refine ⟨before ++ [some (blockRequest i)], ?_, fun more => ?_⟩
  · rw [List.length_append, List.length_append, hlen]
    rfl
  · rw [List.append_assoc, hplan, List.append_assoc, List.singleton_append, blockRequests,
      if_neg hmore]
    rfl

/-- The loop has all bytes: those that it had and those of further responses. -/
def Fetches (plan : Plan (List UInt8) (List UInt8)) (length i : Nat) (result : List UInt8)
    (rs : List (List UInt8)) (data : List UInt8) (l : List (Event (List UInt8) PyError)) : Prop :=
  ∃ bs, Progress client plan rs (rs ++ bs) l ∧
    data = result ++ bs.flatMap (fun resp => resp.drop 2) ∧ length ≤ data.length ∧
      BlocksFrom plan length data.length (i + bs.length) (rs ++ bs)

theorem fetches_nil {length i : Nat} {result : List UInt8} {rs : List (List UInt8)}
    (hblocks : BlocksFrom plan length result.length i rs) (hall : length ≤ result.length) :
    Fetches plan length i result rs result [] := by
  refine ⟨[], ?_, (List.append_nil result).symm, hall, ?_⟩
  · rw [List.append_nil]
    exact .refl rs
  · rw [List.append_nil]
    exact hblocks

theorem Fetches.cons {length i : Nat} {result data resp : List UInt8} {rs : List (List UInt8)}
    {l l' : List (Event (List UInt8) PyError)}
    (h : Fetches plan length (i + 1) (result ++ resp.drop 2) (rs ++ [resp]) data l')
    (hprogress : Progress client plan rs (rs ++ [resp]) l) :
    Fetches plan length i result rs data (l ++ l') := by
  obtain ⟨bs, hmore, hdata, hall, hblocks⟩ := h
  rw [← List.append_cons] at hblocks
  refine ⟨resp :: bs, ?_, ?_, hall, ?_⟩
  · rw [List.append_cons]
    exact hprogress.trans hmore
  · rw [hdata, List.append_assoc, List.flatMap_cons]
  · rwa [List.length_cons, Nat.add_comm bs.length, ← Nat.add_assoc]

theorem logs_uploadLoop (length : Nat) {fuel i sn : Nat} {result : List UInt8}
    {rs : List (List UInt8)} (hblocks : BlocksFrom plan length result.length i rs)
    (hsn : sn = i % 255 + 1) :
    Logs (uploadLoop (recorded transport) length fuel result sn)
      (Fetches plan length i result rs)
      fun l => ConversationFrom client plan rs l false ∨
        ∃ bs, Progress client plan rs (rs ++ bs) l ∧ bs.length = fuel := by
  induction fuel generalizing i sn result rs with
  | zero =>
      unfold uploadLoop
      by_cases hmore : result.length < length
      · rw [if_pos hmore]
        refine logs_raise _ (Or.inr ⟨[], ?_, rfl⟩)
        rw [List.append_nil]
        exact .refl rs
      · rw [if_neg hmore]
        exact logs_pure (fetches_nil hblocks (not_lt.mp hmore))
  | succ fuel ih =>
      unfold uploadLoop
      by_cases hmore : result.length < length
      · rw [if_pos hmore]
        have hcounter : sn &&& 0xFF = sn := by
          rw [Nat.and_two_pow_sub_one_eq_mod sn 8]
          omega
        have hnext := hblocks.next.trans (blockRequests_head (not_le.mpr hmore) i [])
        rw [blockRequest, ← hsn, ← hcounter] at hnext
        refine Logs.bind (performs_transferData hnext) (fun l hl => Or.inl hl) ?_
        rintro chunk l ⟨_, hprogress, resp, rfl, rfl⟩
        have hblocks' := hblocks.snoc (not_le.mpr hmore) resp
        rw [← List.length_append] at hblocks'
        have hsn' : nextBlockSn sn = (i + 1) % 255 + 1 := by rw [hsn, nextBlockSn_succ]
        refine (ih hblocks' hsn').mono (fun data l' h => h.cons hprogress) ?_
        rintro l' (hend | ⟨bs, hmore, hlen⟩)
        · exact Or.inl (hprogress.conversation hend)
        · refine Or.inr ⟨resp :: bs, ?_, congrArg (· + 1) hlen⟩
          rw [List.append_cons]
          exact hprogress.trans hmore
      · rw [if_neg hmore]
        exact logs_pure (fetches_nil hblocks (not_lt.mp hmore))

theorem blocksFrom_uploadPlan (address length addrLen sizeLen : Nat) (resp : List UInt8) :
    BlocksFrom (uploadPlan address length addrLen sizeLen) length 0 0 [resp] :=
  ⟨[transferMessage 0x35 address length addrLen sizeLen], rfl, fun _ => rfl⟩

/-- Whatever answers an upload: it keeps to the plan, and where it returns, from the end of the
plan, it has all bytes that were brought up to the length.  It raises at the end of a
conversation that did not come to the end of the plan, or after the bound on the blocks. -/
theorem upload_conversation (transport : Transport σ) (fuel address length addrLen sizeLen : Nat) :
    Logs (upload (recorded transport) fuel address length addrLen sizeLen)
      (fun data l => ∃ rs, Progress client (uploadPlan address length addrLen sizeLen) [] rs l ∧
        (uploadPlan address length addrLen sizeLen rs).length = rs.length ∧
          data = (uploaded rs).take length ∧ length ≤ (uploaded rs).length)
      fun l => Conversation client (uploadPlan address length addrLen sizeLen) l false ∨
        ∃ rs, Progress client (uploadPlan address length addrLen sizeLen) [] rs l ∧
          rs.length = fuel + 1 := by
  unfold upload
  refine Logs.bind (performs_requestTransfer (Or.inr rfl) rfl) (fun l hl => Or.inl hl) ?_
  rintro maxBlockLen l ⟨_, hfirst, resp, rfl, -⟩
  refine Logs.bind (logs_uploadLoop length (i := 0)
    (blocksFrom_uploadPlan address length addrLen sizeLen resp) rfl) ?_ ?_
  · rintro l' (hend | ⟨bs, hmore, hlen⟩)
    · exact Or.inl (hfirst.conversation hend)
    · refine Or.inr ⟨[resp] ++ bs, hfirst.trans hmore, ?_⟩
      rw [List.length_append, hlen, Nat.add_comm]
      rfl
  · rintro data l' ⟨bs, hmore, hdata, hall, hblocks⟩
    have hnext := hblocks.next
    rw [blockRequests_exit hall] at hnext
    refine Logs.bind (performs_transferExit hnext) ?_ ?_
    · intro l'' hend
      exact Or.inl (hfirst.conversation (hmore.conversation hend))
    · rintro _ l'' ⟨_, hexit, last, rfl⟩
      have huploaded : uploaded ([resp] ++ bs ++ [last]) = data := by
        rw [hdata, uploaded, List.singleton_append, List.cons_append, List.drop_one,
          List.tail_cons, List.dropLast_concat]
        rfl
      refine logs_pure ⟨[resp] ++ bs ++ [last], ?_, ?_, ?_, ?_⟩
      · rw [List.append_nil]
        exact hfirst.trans (hmore.trans hexit)
      · obtain ⟨before, hlen, hplan⟩ := hblocks
        rw [hplan [last], blockRequests_exit hall, List.length_append, hlen]
        simp
      · rw [huploaded]
      · rwa [huploaded]

end Upload

end Uds.Tools
