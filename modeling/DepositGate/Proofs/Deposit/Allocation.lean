import Mathlib.Data.List.Induction
import Mathlib.Data.List.Nodup
import DepositGate.Deposit.Pool

/-!
# Who gets which address

A pool hands out its addresses in their order, one to each sky address that asks and as long as there are
any, and never takes one back. `pool_allocates` says so for every sequence of calls: the sky addresses
whose binding has succeeded, in the order of their first success, settle what every call answers.
-/

namespace DepositGate.Pool

/-! ## Calls -/

inductive Call where
  | bind (skyAddr : String) (second : Int)
  | statuses (skyAddr : String)
  | available
deriving DecidableEq, Repr

inductive Answer where
  | bound (result : Except BackendFault String)
  | statuses (result : Except BackendFault (List DepositStatus))
  | available (n : Nat)

def call (p : Pool) : Call → Answer × Pool
  | .bind skyAddr second => (.bound (p.bind skyAddr second).result, (p.bind skyAddr second).state)
  | .statuses skyAddr => (.statuses (p.statuses skyAddr).result, (p.statuses skyAddr).state)
  | .available => (.available p.available, p)

def after (p : Pool) (calls : List Call) : Pool :=
  calls.foldl (fun p c ↦ (p.call c).2) p

def log (p : Pool) : List Call → List (Call × Answer)
  | [] => []
  | c :: calls => (c, (p.call c).1) :: log (p.call c).2 calls

@[simp] theorem after_nil (p : Pool) : p.after [] = p := rfl

@[simp] theorem after_concat (p : Pool) (calls : List Call) (c : Call) :
    p.after (calls ++ [c]) = ((p.after calls).call c).2 := by
  simp [after]

theorem log_concat (p : Pool) (calls : List Call) (c : Call) :
    p.log (calls ++ [c]) = p.log calls ++ [(c, ((p.after calls).call c).1)] := by
  induction calls generalizing p with
  | nil => rfl
  | cons b calls ih => simp [log, after, ih]

/-! ## Holders -/

/-- A sky address and the second at which it is bound. -/
abbrev Holder := String × Int

/-- The sky address that a call has bound or found bound. -/
def success? : Call × Answer → Option Holder
  | (.bind skyAddr second, .bound (.ok _)) => some (skyAddr, second)
  | _ => none

/-- The holders with one more, unless its sky address is among them. -/
def joined (hs : List Holder) (h : Holder) : List Holder :=
  if h.1 ∈ hs.map Prod.fst then hs else hs ++ [h]

/-- The sky addresses whose binding has succeeded, in the order of their first success. -/
def holders (p : Pool) (calls : List Call) : List Holder :=
  ((p.log calls).filterMap success?).foldl joined []

theorem holders_concat (p : Pool) (calls : List Call) (c : Call) :
    p.holders (calls ++ [c]) =
      (success? (c, ((p.after calls).call c).1)).toList.foldl joined (p.holders calls) := by
  cases hsuccess : success? (c, ((p.after calls).call c).1) <;>
    simp [holders, log_concat, hsuccess]

/-! ## The invariant -/

/-- A pool whose addresses have been handed out in order to some holders. The addresses handed out and
those that are free are all that there are. -/
structure Allocated (addresses : List String) (hs : List Holder) (p : Pool) : Prop where
  holders : p.bindings.map (fun b ↦ (b.skyAddr, b.boundAt)) = hs
  distinct : (p.bindings.map Binding.skyAddr).Nodup
  numbered : p.bindings.map Binding.seq = List.range p.bindings.length
  next : p.nextSeq = p.bindings.length
  conserved : p.bindings.map Binding.depositAddr ++ p.free = addresses

variable {addresses : List String} {hs : List Holder} {p : Pool} {skyAddr : String}

theorem allocated_ofList (addresses : List String) : Allocated addresses [] (ofList addresses) :=
  ⟨rfl, List.nodup_nil, rfl, rfl, rfl⟩

theorem Allocated.length_holders (h : Allocated addresses hs p) : hs.length = p.bindings.length := by
  simp [← h.holders]

theorem Allocated.map_fst (h : Allocated addresses hs p) :
    hs.map Prod.fst = p.bindings.map Binding.skyAddr := by
  simp [← h.holders, Function.comp_def]

theorem Allocated.length_add_length_free (h : Allocated addresses hs p) :
    hs.length + p.free.length = addresses.length := by
  simp [← h.conserved, h.length_holders]

theorem binding?_eq_none_iff : p.binding? skyAddr = none ↔ skyAddr ∉ p.bindings.map Binding.skyAddr := by
  simp [binding?, bindingsOf]

/-- The list of a sky address has at most one binding. -/
theorem Allocated.length_bindingsOf (h : Allocated addresses hs p) (skyAddr : String) :
    (p.bindingsOf skyAddr).length ≤ 1 := by
  have hcount := List.nodup_iff_count_le_one.mp h.distinct skyAddr
  rwa [List.count_eq_countP, List.countP_map, List.countP_eq_length_filter] at hcount

theorem Allocated.bindingsOf_eq (h : Allocated addresses hs p) {b : Binding} (hb : b ∈ p.bindings) :
    p.bindingsOf b.skyAddr = [b] := by
  have hmem : b ∈ p.bindingsOf b.skyAddr := List.mem_filter.mpr ⟨hb, beq_self_eq_true _⟩
  have hlength := h.length_bindingsOf b.skyAddr
  match hlist : p.bindingsOf b.skyAddr with
  | [] => simp [hlist] at hmem
  | [b'] =>
      rw [hlist, List.mem_singleton] at hmem
      rw [hmem]
  | _ :: _ :: _ => simp [hlist] at hlength

/-- The holder at a place has the address and the number of that place. -/
theorem Allocated.exists_binding (h : Allocated addresses hs p) {i : Nat} {second : Int}
    (hi : hs[i]? = some (skyAddr, second)) :
    ∃ b, p.bindingsOf skyAddr = [b] ∧ b.seq = i ∧ b.boundAt = second ∧
      addresses[i]? = some b.depositAddr := by
  have hholder : (p.bindings.map fun b ↦ (b.skyAddr, b.boundAt))[i]? = some (skyAddr, second) := by
    rw [h.holders, hi]
  rw [List.getElem?_map, Option.map_eq_some_iff] at hholder
  obtain ⟨b, hb, hpair⟩ := hholder
  obtain ⟨rfl, rfl⟩ := Prod.mk.inj hpair
  obtain ⟨hlt, -⟩ := List.getElem?_eq_some_iff.mp hb
  have hseq : (p.bindings.map Binding.seq)[i]? = some i := by
    rw [h.numbered, List.getElem?_range hlt]
  have haddr : addresses[i]? = some b.depositAddr := by
    rw [← h.conserved, List.getElem?_append_left (by simpa using hlt), List.getElem?_map, hb]
    rfl
  rw [List.getElem?_map, hb] at hseq
  exact ⟨b, h.bindingsOf_eq (List.mem_of_getElem? hb), Option.some.inj hseq, rfl, haddr⟩

/-! ## What a call does -/

theorem bind_eq_of_bound {b : Binding} (hb : p.binding? skyAddr = some b) (second : Int) :
    p.bind skyAddr second = .atOnce (.ok b.depositAddr) p [] := by
  simp [bind, hb]

theorem bind_eq_of_exhausted (hnew : p.binding? skyAddr = none) (hfree : p.free = []) (second : Int) :
    p.bind skyAddr second = .atOnce (.error .noDepositAddress) p [] := by
  simp [bind, hnew, hfree]

theorem bind_eq_of_free {addr : String} {free : List String} (hnew : p.binding? skyAddr = none)
    (hfree : p.free = addr :: free) (second : Int) :
    p.bind skyAddr second =
      .atOnce (.ok addr) ⟨free, p.bindings ++ [⟨skyAddr, addr, p.nextSeq, second⟩], p.nextSeq + 1⟩
        [boundEvent ⟨skyAddr, addr, p.nextSeq, second⟩] := by
  simp [bind, hnew, hfree]

theorem statuses_eq_of_bound {b : Binding} (hb : p.bindingsOf skyAddr = [b]) :
    p.statuses skyAddr = .atOnce (.ok [⟨b.seq, b.boundAt, waiting⟩]) p [] := by
  simp [statuses, hb]

theorem statuses_eq_of_unbound (hnew : p.binding? skyAddr = none) :
    p.statuses skyAddr = .atOnce (.ok []) p [] := by
  simp [statuses, List.getLast?_eq_none_iff.mp hnew]

/-- Handing out the next free address to a sky address that has none keeps the invariant. -/
theorem Allocated.hand_out (h : Allocated addresses hs p) {addr : String} {free : List String}
    (hnew : p.binding? skyAddr = none) (hfree : p.free = addr :: free) (second : Int) :
    Allocated addresses (hs ++ [(skyAddr, second)])
      ⟨free, p.bindings ++ [⟨skyAddr, addr, p.nextSeq, second⟩], p.nextSeq + 1⟩ where
  holders := by simp [h.holders]
  distinct := by
    have hfresh := binding?_eq_none_iff.mp hnew
    rw [List.map_append]
    refine h.distinct.append (List.nodup_singleton _) ?_
    simpa using hfresh
  numbered := by simp [h.numbered, h.next, List.range_succ]
  next := by simp [h.next]
  conserved := by simpa [hfree] using h.conserved

/-- A binding keeps the invariant, and a sky address that it binds joins the holders. -/
theorem Allocated.bind (h : Allocated addresses hs p) (skyAddr : String) (second : Int) :
    Allocated addresses
      ((success? (.bind skyAddr second, (p.call (.bind skyAddr second)).1)).toList.foldl joined hs)
      (p.bind skyAddr second).state := by
  cases hfound : p.binding? skyAddr with
  | some b =>
      have hmem : skyAddr ∈ hs.map Prod.fst := by
        rw [h.map_fst]
        by_contra hnew
        simp [binding?_eq_none_iff.mpr hnew] at hfound
      simpa [call, bind_eq_of_bound hfound, success?, joined, hmem] using h
  | none =>
      have hnew : skyAddr ∉ hs.map Prod.fst := by
        rw [h.map_fst]
        exact binding?_eq_none_iff.mp hfound
      cases hfree : p.free with
      | nil => simpa [call, bind_eq_of_exhausted hfound hfree, success?] using h
      | cons addr free =>
          simpa [call, bind_eq_of_free hfound hfree, success?, joined, hnew] using
            h.hand_out hfound hfree second

/-- Every call keeps the invariant. -/
theorem Allocated.call (h : Allocated addresses hs p) (c : Call) :
    Allocated addresses ((success? (c, (p.call c).1)).toList.foldl joined hs) (p.call c).2 := by
  cases c with
  | bind skyAddr second => exact h.bind skyAddr second
  | statuses skyAddr => exact h
  | available => exact h

/-- So every sequence of calls keeps it. -/
theorem allocated_after (addresses : List String) (calls : List Call) :
    Allocated addresses ((ofList addresses).holders calls) ((ofList addresses).after calls) := by
  induction calls using List.reverseRecOn with
  | nil => exact allocated_ofList addresses
  | append_singleton calls c ih =>
      rw [holders_concat, after_concat]
      exact ih.call c

/-! ## Main result -/

/-- What a pool of some addresses answers once some holders have got theirs. -/
structure Serves (addresses : List String) (hs : List Holder) (p : Pool) : Prop where
  /-- No sky address is two holders. -/
  distinct : (hs.map Prod.fst).Nodup
  /-- The holder at a place has the address and the number of that place, for good. -/
  holder : ∀ i skyAddr second, hs[i]? = some (skyAddr, second) →
    ∃ addr, addresses[i]? = some addr ∧ (∀ now, p.bind skyAddr now = .atOnce (.ok addr) p []) ∧
      p.statuses skyAddr = .atOnce (.ok [⟨i, second, waiting⟩]) p []
  /-- Another sky address gets the address after those of the holders, and its number with it. -/
  newcomer : ∀ skyAddr ∉ hs.map Prod.fst, ∀ addr now, addresses[hs.length]? = some addr →
    (p.bind skyAddr now).result = .ok addr ∧
      ((p.bind skyAddr now).state.statuses skyAddr).result = .ok [⟨hs.length, now, waiting⟩]
  /-- Until then it has no status. -/
  stranger : ∀ skyAddr ∉ hs.map Prod.fst, p.statuses skyAddr = .atOnce (.ok []) p []
  /-- It is refused exactly if the holders have all that there are. -/
  refused : ∀ skyAddr now, (p.bind skyAddr now).result = .error .noDepositAddress ↔
    skyAddr ∉ hs.map Prod.fst ∧ hs.length = addresses.length
  /-- No other fault occurs, and a refusal changes nothing. -/
  fault : ∀ skyAddr now fault, (p.bind skyAddr now).result = .error fault →
    p.bind skyAddr now = .atOnce (.error .noDepositAddress) p []
  /-- What the holders do not have is available. -/
  available : hs.length ≤ addresses.length ∧ p.available = addresses.length - hs.length
  /-- No sky address has two bindings. -/
  single : ∀ skyAddr, (p.bindingsOf skyAddr).length ≤ 1
  /-- The bindings have the numbers from zero on, in order. -/
  numbered : p.bindings.map Binding.seq = List.range hs.length
  /-- No address is lost, and none is handed out twice. -/
  conserved : p.bindings.map Binding.depositAddr ++ p.free = addresses

theorem Allocated.binding?_eq_none (h : Allocated addresses hs p) (hnew : skyAddr ∉ hs.map Prod.fst) :
    p.binding? skyAddr = none := by
  rw [h.map_fst] at hnew
  exact binding?_eq_none_iff.mpr hnew

theorem Allocated.holder (h : Allocated addresses hs p) {i : Nat} {second : Int}
    (hi : hs[i]? = some (skyAddr, second)) :
    ∃ addr, addresses[i]? = some addr ∧ (∀ now, p.bind skyAddr now = .atOnce (.ok addr) p []) ∧
      p.statuses skyAddr = .atOnce (.ok [⟨i, second, waiting⟩]) p [] := by
  obtain ⟨b, hb, hseq, hbound, haddr⟩ := h.exists_binding hi
  have hlatest : p.binding? skyAddr = some b := by simp [binding?, hb]
  refine ⟨b.depositAddr, haddr, bind_eq_of_bound hlatest, ?_⟩
  rw [statuses_eq_of_bound hb, hseq, hbound]

/-- The address after those of the holders is the next one free. -/
theorem Allocated.getElem?_length (h : Allocated addresses hs p) :
    addresses[hs.length]? = p.free[0]? := by
  rw [← h.conserved, h.length_holders, List.getElem?_append_right (by simp)]
  simp

theorem Allocated.newcomer (h : Allocated addresses hs p) (hnew : skyAddr ∉ hs.map Prod.fst)
    {addr : String} (haddr : addresses[hs.length]? = some addr) (now : Int) :
    (p.bind skyAddr now).result = .ok addr ∧
      ((p.bind skyAddr now).state.statuses skyAddr).result = .ok [⟨hs.length, now, waiting⟩] := by
  have hfound := h.binding?_eq_none hnew
  rw [h.getElem?_length, ← List.head?_eq_getElem?, List.head?_eq_some_iff] at haddr
  obtain ⟨free, hfree⟩ := haddr
  have hlast : (hs ++ [(skyAddr, now)])[hs.length]? = some (skyAddr, now) := List.getElem?_concat_length
  obtain ⟨-, -, -, hstatuses⟩ := (h.hand_out hfound hfree now).holder hlast
  rw [bind_eq_of_free hfound hfree]
  exact ⟨rfl, by rw [Called.state_atOnce, hstatuses, Called.result_atOnce]⟩

/-- A binding that fails finds its sky address unbound and nothing free. -/
theorem Allocated.refused (h : Allocated addresses hs p) {second : Int} {fault : BackendFault}
    (hfault : (p.bind skyAddr second).result = .error fault) :
    skyAddr ∉ hs.map Prod.fst ∧ p.free = [] := by
  cases hfound : p.binding? skyAddr with
  | some b => simp [bind_eq_of_bound hfound] at hfault
  | none =>
      cases hfree : p.free with
      | nil => exact ⟨h.map_fst ▸ binding?_eq_none_iff.mp hfound, rfl⟩
      | cons addr free => simp [bind_eq_of_free hfound hfree] at hfault

theorem Allocated.free_eq_nil_iff (h : Allocated addresses hs p) :
    p.free = [] ↔ hs.length = addresses.length := by
  have hlength := h.length_add_length_free
  rw [← List.length_eq_zero_iff]
  omega

theorem Allocated.serves (h : Allocated addresses hs p) : Serves addresses hs p where
  distinct := h.map_fst ▸ h.distinct
  holder _ _ _ hi := h.holder hi
  newcomer _ hnew _ now haddr := h.newcomer hnew haddr now
  stranger _ hnew := statuses_eq_of_unbound (h.binding?_eq_none hnew)
  refused skyAddr now := by
    constructor
    · intro hfault
      obtain ⟨hnew, hfree⟩ := h.refused hfault
      exact ⟨hnew, h.free_eq_nil_iff.mp hfree⟩
    · rintro ⟨hnew, hall⟩
      rw [bind_eq_of_exhausted (h.binding?_eq_none hnew) (h.free_eq_nil_iff.mpr hall), Called.result_atOnce]
  fault skyAddr now fault hfault := by
    obtain ⟨hnew, hfree⟩ := h.refused hfault
    exact bind_eq_of_exhausted (h.binding?_eq_none hnew) hfree now
  available := by
    have hlength := h.length_add_length_free
    unfold Pool.available
    omega
  single := h.length_bindingsOf
  numbered := by rw [h.numbered, h.length_holders]
  conserved := h.conserved

/-- Whatever it has been asked, a pool serves the sky addresses whose binding has succeeded with its
addresses in order, and any other with the next one as long as there is one. -/
theorem pool_allocates (addresses : List String) (calls : List Call) :
    Serves addresses ((ofList addresses).holders calls) ((ofList addresses).after calls) :=
  (allocated_after addresses calls).serves

/-- A second call of a sky address and a call that comes too late add no holder. -/
example : (ofList ["x", "y"]).holders
    [.bind "a" 1, .bind "a" 2, .statuses "b", .bind "b" 3, .bind "c" 4] = [("a", 1), ("b", 3)] := by
  decide

end DepositGate.Pool
