import Mathlib.Logic.Function.Basic
import UsbIo16.CallPrograms

/-!
# Stores whose clients number their handles

A store gives out handles; its clients open them by a key, make calls on
them and close them, in any order and with any number of them at a time.
Programs of such requests name a handle by the number of its opening, so
they can run on stores with different kinds of handles, and cannot tell two
stores apart when one simulates the other.
-/

namespace UsbIo16.HandleTables

universe u v w x y z

/-- What clients ask for: to open the handle for a key, to make a call on the
handle of the k-th opening, or to close it. -/
inductive Request (I : Type u) (C : Type v) where
  | openBy (key : I)
  | call (k : ℕ) (c : C)
  | close (k : ℕ)

/-- What they are told: whether there was a handle for the key; the answer
to a call, when the handle is open; or nothing. -/
inductive Reply (A : Type u) where
  | opened (found : Bool)
  | answered (a : Option A)
  | closed
  deriving DecidableEq

/-- A store with handles `H` and states `S`, which may not survive what it is
asked for. -/
structure Store (I : Type u) (C : Type v) (A : Type w) (H : Type x) (S : Type y) where
  /-- The handle for a key, if there is one. -/
  find : I → S → Option (Option H)
  /-- A call on a handle. -/
  call : H → C → S → Option (A×S)
  /-- Closing a handle. -/
  close : H → S → Option S

/-- The handles a client has open, by the number of their opening. -/
structure Table (H : Type u) where
  /-- Number of openings so far. -/
  opened : ℕ
  /-- The handle of an opening that found one and was not closed. -/
  slot : ℕ → Option H

/-- Before the first opening. -/
def Table.empty {H : Type u} : Table H := ⟨0,fun _ => none⟩

section Machine

variable {I : Type u} {C : Type v} {A : Type w} {H : Type x} {S : Type y}

/-- The table after one more opening. -/
def Table.enter (t : Table H) (h : Option H) : Table H := ⟨t.opened+1,Function.update t.slot t.opened h⟩

/-- The table after closing. -/
def Table.leave (t : Table H) (k : ℕ) : Table H := ⟨t.opened,Function.update t.slot k none⟩

/-- Carry out a request. On a handle that is not open there is nothing to do. -/
def Store.run (store : Store I C A H S) : Request I C → Table H×S → Option (Reply A×Table H×S)
  | .openBy key,(t,s) => (store.find key s).map fun h => (.opened h.isSome,t.enter h,s)
  | .call k c,(t,s) =>
    match t.slot k with
    | none => some (.answered none,t,s)
    | some h => (store.call h c s).map fun r => (.answered (some r.1),t,r.2)
  | .close k,(t,s) =>
    match t.slot k with
    | none => some (.closed,t,s)
    | some h => (store.close h s).map fun s => (.closed,t.leave k,s)

end Machine

section Simulation

variable {I J : Type u} {C : Type v} {A : Type w} {H G : Type x} {S T : Type y}

/-- One store simulates another, as far as clients can see: related handles
are found for the same keys, and give the same answers in related states. -/
structure Simulates (store : Store I C A H S) (other : Store J C A G T) (key : I → J) (Same : H → G → Prop)
    (Rel : S → T → Prop) : Prop where
  /-- The same keys are found. -/
  find : ∀ i s t,Rel s t → ∃ h g,store.find i s=some h ∧ other.find (key i) t=some g ∧ Option.Rel Same h g
  /-- Calls are answered in the same way. -/
  call : ∀ h g c s t,Same h g → Rel s t →
    ∃ a s' t',store.call h c s=some (a,s') ∧ other.call g c t=some (a,t') ∧ Rel s' t'
  /-- Closing keeps the states related. -/
  close : ∀ h g s t,Same h g → Rel s t → ∃ s' t',store.close h s=some s' ∧ other.close g t=some t' ∧ Rel s' t'

/-- Tables with related handles at the same numbers. -/
structure SameTable (Same : H → G → Prop) (t : Table H) (t' : Table G) : Prop where
  /-- There were as many openings. -/
  opened : t.opened=t'.opened
  /-- The handles are related. -/
  slot : ∀ k,Option.Rel Same (t.slot k) (t'.slot k)

variable {Same : H → G → Prop} {t : Table H} {t' : Table G}

/-- Before the first opening. -/
theorem SameTable.empty : SameTable Same (Table.empty : Table H) (Table.empty : Table G) := ⟨rfl,fun _ => .none⟩

/-- Related handles may be written at the same number. -/
theorem SameTable.update (h : SameTable Same t t') (k : ℕ) {a : Option H} {b : Option G} (hab : Option.Rel Same a b) :
    ∀ j,Option.Rel Same (Function.update t.slot k a j) (Function.update t'.slot k b j) := by
  intro j
  by_cases hj : j=k
  · subst hj
    rw [Function.update_self,Function.update_self]
    exact hab
  · rw [Function.update_of_ne hj,Function.update_of_ne hj]
    exact h.slot j

/-- A request with the key of the other store. -/
def Request.mapKey (key : I → J) : Request I C → Request J C
  | .openBy i => .openBy (key i)
  | .call k c => .call k c
  | .close k => .close k

/-- What clients see of a state, related to that of another store. -/
def SameClient (Same : H → G → Prop) (Rel : S → T → Prop) (s : Table H×S) (t : Table G×T) : Prop :=
  SameTable Same s.1 t.1 ∧ Rel s.2 t.2

variable {store : Store I C A H S} {other : Store J C A G T} {key : I → J} {Rel : S → T → Prop}

/-- Every request is answered by both stores in the same way. -/
theorem Simulates.run (sim : Simulates store other key Same Rel) (q : Request I C) {s : Table H×S} {t : Table G×T}
    (h : SameClient Same Rel s t) :
    ∃ a s' t',store.run q s=some (a,s') ∧ other.run (q.mapKey key) t=some (a,t') ∧ SameClient Same Rel s' t' := by
  obtain ⟨table,s⟩ := s
  obtain ⟨table',t⟩ := t
  obtain ⟨htable,hrel⟩ := h
  cases q with
  | openBy i =>
    obtain ⟨h,g,hh,hg,hsame⟩ := sim.find i s t hrel
    have hsome : h.isSome=g.isSome := by cases hsame <;> rfl
    refine ⟨.opened h.isSome,(table.enter h,s),(table'.enter g,t),?_,?_,⟨congrArg (·+1) htable.opened,?_⟩,hrel⟩
    · rw [Store.run,hh,Option.map_some]
    · rw [Request.mapKey,Store.run,hg,Option.map_some,hsome]
    · have hentered := htable.update table.opened hsame
      rw [Table.enter,Table.enter,←htable.opened]
      exact hentered
  | call k c =>
    have hslot := htable.slot k
    rw [Request.mapKey]
    unfold Store.run
    dsimp only
    generalize table.slot k=a at hslot ⊢
    generalize table'.slot k=b at hslot ⊢
    cases hslot with
    | none => exact ⟨_,(table,s),(table',t),rfl,rfl,htable,hrel⟩
    | @some h g hsame =>
      obtain ⟨a,s',t',hs,ht,hnext⟩ := sim.call h g c s t hsame hrel
      dsimp only
      rw [hs,ht]
      exact ⟨_,(table,s'),(table',t'),rfl,rfl,htable,hnext⟩
  | close k =>
    have hslot := htable.slot k
    have hleft : SameTable Same (table.leave k) (table'.leave k) := ⟨htable.opened,htable.update k .none⟩
    rw [Request.mapKey]
    unfold Store.run
    dsimp only
    generalize table.slot k=a at hslot ⊢
    generalize table'.slot k=b at hslot ⊢
    cases hslot with
    | none => exact ⟨_,(table,s),(table',t),rfl,rfl,htable,hrel⟩
    | @some h g hsame =>
      obtain ⟨s',t',hs,ht,hnext⟩ := sim.close h g s t hsame hrel
      dsimp only
      rw [hs,ht]
      exact ⟨_,(table.leave k,s'),(table'.leave k,t'),rfl,rfl,hleft,hnext⟩

/-- No program of requests can tell the stores apart. -/
theorem Simulates.program (sim : Simulates store other key Same Rel) {R : Type z}
    (p : CallPrograms.Prog (Request I C) (Reply A) R) {s : Table H×S} {t : Table G×T} (h : SameClient Same Rel s t) :
    ∃ r s' t',p.exec store.run s=some (r,s') ∧
      p.exec (fun q => other.run (q.mapKey key)) t=some (r,t') ∧ SameClient Same Rel s' t' :=
  CallPrograms.Prog.exec_simulates (fun q _ _ _ hst => sim.run q hst) p.calls_any h

end Simulation

end UsbIo16.HandleTables
