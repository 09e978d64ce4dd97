import Mathlib.Data.List.Nodup
import Mathlib.Data.Nat.Notation
import Mathlib.Logic.Function.Basic

/-!
# Singly linked lists laid out in a store

A store maps addresses to nodes; every node names its successor. A segment
is a run of linked nodes from one address to another, and a chain is a
segment that ends at the null address. Chains are determined by their head
and never meet themselves, so a list with a chain is finite and acyclic.
-/

namespace UsbIo16.NodeChain

variable {A N : Type*} (next : N → A) (null : A)

/-- The nodes `as` are linked one to the next from address `p` to address `q`. -/
def Seg (store : A → Option N) : A → List A → A → Prop
  | p,[],q => p=q
  | p,a::as,q => p=a ∧ a≠null ∧ ∃ n,store a=some n ∧ Seg store (next n) as q

/-- A null-terminated list: a segment up to the null address. -/
abbrev Chain (store : A → Option N) (p : A) (as : List A) : Prop :=
  Seg next null store p as null

variable {next null} {store other : A → Option N} {p q r : A} {as bs : List A}

theorem seg_nil : Seg next null store p [] q ↔ p=q := Iff.rfl

theorem seg_cons {a : A} : Seg next null store p (a::as) q ↔
    p=a ∧ a≠null ∧ ∃ n,store a=some n ∧ Seg next null store (next n) as q := Iff.rfl

/-- Segments compose at the address where they meet. -/
theorem seg_append : Seg next null store p (as++bs) q ↔
    ∃ m,Seg next null store p as m ∧ Seg next null store m bs q := by
  induction as generalizing p with
  | nil => simp only [List.nil_append,seg_nil,exists_eq_left']
  | cons a as ih =>
    simp only [List.cons_append,seg_cons,ih]
    constructor
    · rintro ⟨hp,ha,n,hn,m,h1,h2⟩
      exact ⟨m,⟨hp,ha,n,hn,h1⟩,h2⟩
    · rintro ⟨m,⟨hp,ha,n,hn,h1⟩,h2⟩
      exact ⟨hp,ha,n,hn,m,h1,h2⟩

/-- A segment only depends on the nodes it visits. -/
theorem Seg.congr (h : Seg next null store p as q) (he : ∀ a∈as,other a=store a) :
    Seg next null other p as q := by
  induction as generalizing p with
  | nil => exact h
  | cons a as ih =>
    obtain ⟨hp,ha,n,hn,ht⟩ := h
    exact ⟨hp,ha,n,(he a List.mem_cons_self).trans hn,
      ih ht fun b hb => he b (List.mem_cons_of_mem a hb)⟩

/-- Every node of a segment is in the store at a non-null address. -/
theorem Seg.mem (h : Seg next null store p as q) {a : A} (ha : a∈as) :
    a≠null ∧ ∃ n,store a=some n := by
  induction as generalizing p with
  | nil => cases ha
  | cons b as ih =>
    obtain ⟨-,hb,n,hn,ht⟩ := h
    rcases List.mem_cons.mp ha with rfl|ha
    · exact ⟨hb,n,hn⟩
    · exact ih ht ha

/-- The head of a chain determines all its nodes. -/
theorem Seg.unique (h1 : Chain next null store p as) (h2 : Chain next null store p bs) : as=bs := by
  induction as generalizing p bs with
  | nil =>
    cases bs with
    | nil => rfl
    | cons b bs =>
      obtain ⟨hp,hb,-⟩ := h2
      exact absurd (hp.symm.trans h1) hb
  | cons a as ih =>
    obtain ⟨hp,ha,n,hn,ht⟩ := h1
    cases bs with
    | nil => exact absurd (hp.symm.trans h2) ha
    | cons b bs =>
      obtain ⟨hp',-,m,hm,ht'⟩ := h2
      obtain rfl : a=b := hp.symm.trans hp'
      obtain rfl : n=m := Option.some.inj (hn.symm.trans hm)
      rw [ih ht ht']

/-- A chain never meets itself: from a repeated node two different rests
of the list would start. -/
theorem Seg.nodup (h : Chain next null store p as) : as.Nodup := by
  induction as generalizing p with
  | nil => exact List.nodup_nil
  | cons a as ih =>
    have hc := h
    obtain ⟨-,-,n,hn,ht⟩ := h
    refine List.nodup_cons.mpr ⟨?_,ih ht⟩
    intro hm
    obtain ⟨xs,ys,he⟩ := List.append_of_mem hm
    rw [he] at ht
    obtain ⟨m,-,hs⟩ := seg_append.mp ht
    have hsa : Chain next null store a (a::ys) := by
      obtain ⟨rfl,hrest⟩ := hs
      exact ⟨rfl,hrest⟩
    have hca : Chain next null store a (a::as) := ⟨rfl,hc.2⟩
    have hl := congrArg List.length (hca.unique hsa)
    rw [he] at hl
    simp only [List.length_cons,List.length_append] at hl
    omega

/-- A chain is empty exactly when its head is null. -/
theorem Seg.nil_iff (h : Chain next null store p as) : as=[] ↔ p=null := by
  cases as with
  | nil => exact iff_of_true rfl h
  | cons a as => exact iff_of_false (List.cons_ne_nil a as) fun hp => h.2.1 (h.1.symm.trans hp)

section Update

variable [DecidableEq A]

/-- A fresh node behind the last one: storing its address in the last node
extends the chain by it. -/
theorem Seg.snoc {t : A} {last n : N} (h : Chain next null store p (as++[t]))
    (ht : store t=some last) (hr : r∉as++[t]) (hnull : r≠null) (hn : next n=null) {k : N}
    (hlast : next k=r) :
    Chain next null (Function.update (Function.update store r (some n)) t (some k))
      p (as++[t,r]) := by
  obtain ⟨m,hs,rfl,htn,last0,hl0,-⟩ := seg_append.mp h
  have hnd := h.nodup
  have htr : r≠m := fun he => hr (by simp [he])
  have hta : m∉as := fun hm =>
    (List.nodup_append.mp hnd).2.2 m hm m (List.mem_singleton.mpr rfl) rfl
  refine seg_append.mpr ⟨m,hs.congr ?_,rfl,htn,k,?_,hlast,hnull,n,?_,hn⟩
  · intro a ha
    have har : a≠r := fun he => hr (List.mem_append_left _ (he ▸ ha))
    have ham : a≠m := fun he => hta (he ▸ ha)
    rw [Function.update_of_ne ham,Function.update_of_ne har]
  · rw [Function.update_self]
  · rw [Function.update_of_ne htr,Function.update_self]

/-- Clearing nodes a segment does not visit leaves it in place. -/
theorem Seg.update_other {a : A} (h : Seg next null store p as q) (ha : a∉as) (n : Option N) :
    Seg next null (Function.update store a n) p as q := by
  refine h.congr fun b hb => ?_
  have hne : b≠a := fun he => ha (he ▸ hb)
  rw [Function.update_of_ne hne]

/-- Follow the links for at most `fuel` nodes and list the addresses met;
nothing if a link leaves the store or the fuel runs out. -/
def walk (next : N → A) (null : A) (store : A → Option N) : ℕ → A → Option (List A)
  | 0,p => if p=null then some [] else none
  | fuel+1,p =>
    if p=null then some []
    else (store p).bind fun n => (walk next null store fuel (next n)).map (p::·)

/-- Enough fuel walks a chain from its head to its end. -/
theorem Seg.walk_eq (h : Chain next null store p as) {fuel : ℕ} (hf : as.length≤fuel) :
    walk next null store fuel p=some as := by
  induction as generalizing p fuel with
  | nil =>
    have hp : p=null := h
    cases fuel <;> rw [walk,if_pos hp]
  | cons a as ih =>
    obtain ⟨rfl,ha,n,hn,ht⟩ := h
    cases fuel with
    | zero => simp at hf
    | succ fuel =>
      rw [walk,if_neg ha,hn,Option.bind_some,
        ih ht (by simpa only [List.length_cons,Nat.add_le_add_iff_right] using hf),Option.map_some]

end Update

end UsbIo16.NodeChain
