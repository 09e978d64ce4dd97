import Mathlib.Data.Nat.Notation

/-!
# Places and their last writes

A place that events write to holds what the last of them put there, or what
it held before. Some events may not write it at all, because they are about
another place or because they failed; they do not matter.
-/

namespace UsbIo16.LastWrites

universe u v

variable {E : Type u} {V : Type v} (writes : E → Option V)

/-- What a place holds after some events, where `writes` says what an event
puts there. -/
def latest (v : V) : List E → V
  | [] => v
  | e::events => latest ((writes e).getD v) events

/-- The last event that writes the place puts this there. -/
def LastIs (events : List E) (x : V) : Prop :=
  ∃ before e later,events=before++e::later ∧ writes e=some x ∧ ∀ e'∈later,writes e'=none

variable {writes}

@[simp] theorem latest_nil (v : V) : latest writes v []=v := rfl

@[simp] theorem latest_cons (v : V) (e : E) (events : List E) :
    latest writes v (e::events)=latest writes ((writes e).getD v) events := rfl

/-- The events may be taken in parts. -/
theorem latest_append (v : V) (before later : List E) :
    latest writes v (before++later)=latest writes (latest writes v before) later := by
  induction before generalizing v with
  | nil => rfl
  | cons e before ih => exact ih _

/-- Events that do not write the place leave it as it is. -/
theorem latest_quiet (v : V) {events : List E} (h : ∀ e∈events,writes e=none) : latest writes v events=v := by
  induction events with
  | nil => rfl
  | cons e events ih =>
    rw [latest_cons,h e List.mem_cons_self]
    exact ih fun e' he' => h e' (List.mem_cons_of_mem e he')

/-- The last write is what the place holds, whatever it held before. -/
theorem LastIs.latest {events : List E} {x : V} (h : LastIs writes events x) (v : V) :
    latest writes v events=x := by
  obtain ⟨before,e,later,rfl,hx,hquiet⟩ := h
  rw [latest_append,latest_cons,hx,latest_quiet _ hquiet]
  rfl

end UsbIo16.LastWrites
