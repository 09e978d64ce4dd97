import Mathlib.Data.Nat.Notation

/-!
# Programs that make calls

A program is a tree: it ends with a result, or it makes a call and goes on
with the answer. A machine executes calls on a state, and some it may not
survive. Two rules carry most results about programs: what every call keeps
the program keeps, and a program cannot tell two machines apart that give
the same answers.
-/

namespace UsbIo16.CallPrograms

universe u v w x y

/-- A program that makes calls `C`, is given answers `A` and ends with a
result `R`. -/
inductive Prog (C : Type u) (A : Type v) (R : Type w) where
  | ret (r : R)
  | call (c : C) (k : A → Prog C A R)

namespace Prog

variable {C : Type u} {A : Type v} {R : Type w} {Q : Type x} {S : Type y}

/-- Go on with the result of a program. -/
def bind : Prog C A R → (R → Prog C A Q) → Prog C A Q
  | ret r,f => f r
  | call c k,f => call c fun a => (k a).bind f

/-- A single call, with its answer as the result. -/
def ask (c : C) : Prog C A A := call c ret

/-- A program for each of some values, one after the other. -/
def each {E : Type x} (body : E → Prog C A R) : List E → Prog C A (List R)
  | [] => ret []
  | e::rest => (body e).bind fun r => (each body rest).bind fun rs => ret (r::rs)

/-- Every call that the program may make, whatever the answers, is one of these. -/
def Calls (P : C → Prop) : Prog C A R → Prop
  | ret _ => True
  | call c k => P c ∧ ∀ a,(k a).Calls P

/-- Execute a program on a machine. -/
def exec (machine : C → S → Option (A×S)) : Prog C A R → S → Option (R×S)
  | ret r,s => some (r,s)
  | call c k,s => (machine c s).bind fun x => (k x.1).exec machine x.2

section Equations

variable (machine : C → S → Option (A×S)) (s : S)

@[simp] theorem exec_ret (r : R) : (ret r : Prog C A R).exec machine s=some (r,s) := rfl

@[simp] theorem exec_call (c : C) (k : A → Prog C A R) :
    (call c k).exec machine s=(machine c s).bind fun x => (k x.1).exec machine x.2 := rfl

@[simp] theorem exec_ask (c : C) : (ask c : Prog C A A).exec machine s=machine c s := by
  rw [ask,exec_call]
  cases machine c s <;> rfl

/-- Execution goes through a sequence part by part. -/
@[simp] theorem exec_bind (p : Prog C A R) (f : R → Prog C A Q) :
    (p.bind f).exec machine s=(p.exec machine s).bind fun x => (f x.1).exec machine x.2 := by
  induction p generalizing s with
  | ret r => rfl
  | call c k ih =>
    rw [bind,exec_call,exec_call,Option.bind_assoc]
    exact congrArg _ (funext fun x => ih x.1 x.2)

end Equations

section CallsRules

variable {P : C → Prop}

/-- The calls of a sequence are those of its parts. -/
theorem Calls.bind {p : Prog C A R} (h : p.Calls P) {f : R → Prog C A Q} (hf : ∀ r,(f r).Calls P) :
    (p.bind f).Calls P := by
  induction p with
  | ret r => exact hf r
  | call c k ih => exact ⟨h.1,fun a => ih a (h.2 a)⟩

/-- Any program makes some calls. -/
theorem calls_any (p : Prog C A R) : p.Calls fun _ => True := by
  induction p with
  | ret r => trivial
  | call c k ih => exact ⟨trivial,ih⟩

theorem Calls.ask {c : C} (h : P c) : (ask c : Prog C A A).Calls P := ⟨h,fun _ => trivial⟩

end CallsRules

section Rules

variable {T : Type y} {machine : C → S → Option (A×S)} {other : C → T → Option (A×T)} {P : C → Prop}

/-- What every call of a program survives and keeps, the program survives
and keeps. -/
theorem exec_keeps {Inv : S → Prop} (hstep : ∀ c s,P c → Inv s → ∃ a t,machine c s=some (a,t) ∧ Inv t)
    {p : Prog C A R} (hp : p.Calls P) {s : S} (hs : Inv s) : ∃ r t,p.exec machine s=some (r,t) ∧ Inv t := by
  induction p generalizing s with
  | ret r => exact ⟨r,s,rfl,hs⟩
  | call c k ih =>
    obtain ⟨a,t,ha,ht⟩ := hstep c s hp.1 hs
    obtain ⟨r,v,hr,hv⟩ := ih a (hp.2 a) ht
    exact ⟨r,v,by rw [exec_call,ha,Option.bind_some,hr],hv⟩

/-- Two machines that give the same answers to the calls of a program lead
it to the same result, and their states stay related. -/
theorem exec_simulates {Rel : S → T → Prop}
    (hstep : ∀ c s t,P c → Rel s t → ∃ a s' t',machine c s=some (a,s') ∧ other c t=some (a,t') ∧ Rel s' t')
    {p : Prog C A R} (hp : p.Calls P) {s : S} {t : T} (h : Rel s t) :
    ∃ r s' t',p.exec machine s=some (r,s') ∧ p.exec other t=some (r,t') ∧ Rel s' t' := by
  induction p generalizing s t with
  | ret r => exact ⟨r,s,t,rfl,rfl,h⟩
  | call c k ih =>
    obtain ⟨a,s',t',hs,ht,h'⟩ := hstep c s t hp.1 h
    obtain ⟨r,s'',t'',hs',ht',h''⟩ := ih a (hp.2 a) h'
    exact ⟨r,s'',t'',by rw [exec_call,hs,Option.bind_some,hs'],by rw [exec_call,ht,Option.bind_some,ht'],h''⟩

end Rules

end Prog

end UsbIo16.CallPrograms
