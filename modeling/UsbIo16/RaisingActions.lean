import Mathlib.Data.List.Basic

/-!
# Actions that may raise

An action on a state either is not survived, or ends with a result or an
exception, and a new state. What all parts of a sequence keep the sequence
keeps, wherever it stops; and a cleanup that settles every state its body
can end in is reached on every path.
-/

namespace UsbIo16.RaisingActions

universe u v w

/-- An action on states `S` that gives a result `R` or raises an `E`. -/
abbrev Act (S : Type u) (E : Type v) (R : Type w) := S → Option (Except E R×S)

variable {S : Type u} {E : Type v} {R Q : Type w}

/-- Go on with the result, unless something was raised. -/
def andThen (a : Act S E R) (f : R → Act S E Q) : Act S E Q := fun s =>
  (a s).bind fun x =>
    match x.1 with
    | .ok r => f r x.2
    | .error e => some (.error e,x.2)

/-- Actions one after the other, until one raises. -/
def inTurn : List (Act S E Unit) → Act S E Unit
  | [] => fun s => some (.ok (),s)
  | a::rest => andThen a fun _ => inTurn rest

/-- An action and its cleanup, which is executed whether or not it raises. -/
def withCleanup (a : Act S E R) (cleanup : Act S E Unit) : Act S E R := fun s =>
  (a s).bind fun x =>
    (cleanup x.2).map fun y =>
      match y.1 with
      | .ok _ => (x.1,y.2)
      | .error e => (.error e,y.2)

/-- The action is survived and keeps the invariant, also when it raises. -/
def Keeps (Inv : S → Prop) (a : Act S E R) : Prop := ∀ s,Inv s → ∃ x t,a s=some (x,t) ∧ Inv t

variable {Inv : S → Prop} {a : Act S E R} {s t v : S}

/-- A part that returns is followed by the next. -/
theorem andThen_ok {r : R} (ha : a s=some (.ok r,t)) (f : R → Act S E Q) : andThen a f s=f r t := by
  rw [andThen,ha,Option.bind_some]

/-- A part that raises is the last. -/
theorem andThen_error {e : E} (ha : a s=some (.error e,t)) (f : R → Act S E Q) :
    andThen a f s=some (.error e,t) := by
  rw [andThen,ha,Option.bind_some]

theorem Keeps.andThen (ha : Keeps Inv a) {f : R → Act S E Q} (hf : ∀ r,Keeps Inv (f r)) :
    Keeps Inv (andThen a f) := by
  intro s hs
  obtain ⟨x,t,hx,ht⟩ := ha s hs
  cases x with
  | ok r =>
    rw [andThen_ok hx]
    exact hf r t ht
  | error e => exact ⟨.error e,t,andThen_error hx f,ht⟩

/-- What every action keeps, all of them in turn keep. -/
theorem Keeps.inTurn {actions : List (Act S E Unit)} (h : ∀ a∈actions,Keeps Inv a) : Keeps Inv (inTurn actions) := by
  induction actions with
  | nil => exact fun s hs => ⟨.ok (),s,rfl,hs⟩
  | cons a rest ih =>
    exact (h a List.mem_cons_self).andThen fun _ => ih fun b hb => h b (List.mem_cons_of_mem a hb)

/-- A cleanup that does not raise leaves the outcome of the body. -/
theorem withCleanup_eq {cleanup : Act S E Unit} {x : Except E R} (ha : a s=some (x,t))
    (hc : cleanup t=some (.ok (),v)) : withCleanup a cleanup s=some (x,v) := by
  rw [withCleanup,ha,Option.bind_some,hc,Option.map_some]

/-- A cleanup that settles every state of the invariant is reached whatever
the body does. -/
theorem Keeps.withCleanup (ha : Keeps Inv a) {cleanup : Act S E Unit} {Settled : S → Prop}
    (hc : ∀ s,Inv s → ∃ t,cleanup s=some (.ok (),t) ∧ Settled t) {s : S} (hs : Inv s) :
    ∃ x t,withCleanup a cleanup s=some (x,t) ∧ Settled t := by
  obtain ⟨x,t,hx,ht⟩ := ha s hs
  obtain ⟨v,hv,hsettled⟩ := hc t ht
  exact ⟨x,v,withCleanup_eq hx hv,hsettled⟩

end UsbIo16.RaisingActions
