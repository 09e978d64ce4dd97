import Mathlib.Data.List.TakeWhile
import UsbIo16.ByteBuffer

/-!
# Encodings of characters into byte cells

A text is stored character by character, each as one or more cells, with a
terminator behind it. What a reader of the cells sees is the text up to its
first terminator character; two encodings agree on a text exactly when they
agree on its characters, as soon as one of them takes one cell a character.
-/

namespace UsbIo16.CharEncodings

open ByteBuffer

/-- An encoding of the characters of a type. -/
structure Encoding (α : Type) where
  /-- The cells of one character. -/
  cells : α → List Byte
  /-- The character stored as the terminator. -/
  nul : α
  /-- Every character takes a cell. -/
  nonempty : ∀ c,cells c≠[]
  /-- The terminator is the zero cell. -/
  cells_nul : cells nul=[0#8]
  /-- No other character has a zero cell. -/
  noZero : ∀ c,c≠nul → 0#8∉cells c

variable {α : Type}

/-- The cells of a text. -/
def Encoding.text (E : Encoding α) (cs : List α) : List Byte := cs.flatMap E.cells

/-- The characters before the first terminator character. -/
def beforeNul [DecidableEq α] (nul : α) (cs : List α) : List α := cs.takeWhile (· ≠ nul)

/-- A text is stored one character after the other. -/
theorem Encoding.text_cons (E : Encoding α) (c : α) (cs : List α) :
    E.text (c::cs)=E.cells c++E.text cs := List.flatMap_cons

/-- A text takes at least one cell a character. -/
theorem Encoding.length_le (E : Encoding α) (cs : List α) : cs.length≤(E.text cs).length := by
  induction cs with
  | nil => exact Nat.zero_le _
  | cons c cs ih =>
    have hc := List.length_pos_of_ne_nil (E.nonempty c)
    rw [E.text_cons,List.length_append,List.length_cons]
    omega

/-- An encoding that takes one cell a character stores a text in as many cells. -/
theorem Encoding.length_eq {E : Encoding α} {cs : List α} (h : ∀ c∈cs,(E.cells c).length=1) :
    (E.text cs).length=cs.length := by
  induction cs with
  | nil => rfl
  | cons c cs ih =>
    rw [E.text_cons,List.length_append,h c List.mem_cons_self,
      ih fun d hd => h d (List.mem_cons_of_mem c hd),List.length_cons,Nat.add_comm]

/-- Against an encoding of one cell a character, agreement on a text is
agreement on each of its characters. -/
theorem Encoding.text_eq_iff (E F : Encoding α) (hF : ∀ c,(F.cells c).length=1) (cs : List α) :
    E.text cs=F.text cs ↔ ∀ c∈cs,E.cells c=F.cells c := by
  induction cs with
  | nil => exact iff_of_true rfl fun c hc => absurd hc List.not_mem_nil
  | cons c cs ih =>
    rw [E.text_cons,F.text_cons,List.forall_mem_cons,←ih]
    constructor
    · intro h
      -- a longer first character would leave too few cells for the rest
      have hl : (E.cells c).length=(F.cells c).length := by
        have hlen := congrArg List.length h
        have hrest := E.length_le cs
        have hF' : (F.text cs).length=cs.length := Encoding.length_eq fun d _ => hF d
        have hc := List.length_pos_of_ne_nil (E.nonempty c)
        rw [List.length_append,List.length_append,hF c,hF'] at hlen
        rw [hF c]
        omega
      exact List.append_inj h hl
    · rintro ⟨hc,hcs⟩
      rw [hc,hcs]

section Terminator

variable [DecidableEq α]

/-- The first character is kept unless it is the terminator character. -/
theorem beforeNul_cons (nul c : α) (cs : List α) :
    beforeNul nul (c::cs)=if c=nul then [] else c::beforeNul nul cs := by
  rw [beforeNul]
  by_cases hc : c=nul
  · rw [if_pos hc,List.takeWhile_cons_of_neg (by simpa using hc)]
  · rw [if_neg hc,List.takeWhile_cons_of_pos (by simpa using hc)]
    rfl

/-- Only characters of the text are before its first terminator character. -/
theorem mem_of_mem_beforeNul {nul c : α} {cs : List α} (h : c∈beforeNul nul cs) : c∈cs :=
  (List.takeWhile_prefix _).subset h

/-- A reader of a stored text sees it up to its first terminator character. -/
theorem Encoding.cstr_text (E : Encoding α) (cs : List α) (rest : List Byte) :
    cstr (E.text cs++0#8::rest)=E.text (beforeNul E.nul cs) := by
  induction cs with
  | nil => rfl
  | cons c cs ih =>
    rw [E.text_cons,beforeNul_cons,List.append_assoc]
    by_cases hc : c=E.nul
    · rw [if_pos hc,hc,E.cells_nul]
      rfl
    · rw [if_neg hc,E.text_cons,←ih]
      exact cstr_append (E.noZero c hc) _

/-- What follows a terminator character is not seen. -/
theorem beforeNul_append_of_mem {nul : α} {cs : List α} (h : nul∈cs) (rest : List α) :
    beforeNul nul (cs++rest)=beforeNul nul cs := by
  induction cs with
  | nil => exact absurd h List.not_mem_nil
  | cons c cs ih =>
    rw [List.cons_append,beforeNul_cons,beforeNul_cons]
    by_cases hc : c=nul
    · rw [if_pos hc,if_pos hc]
    · rw [if_neg hc,if_neg hc,ih ((List.mem_cons.mp h).resolve_left (Ne.symm hc))]

/-- Without a terminator character the text is seen to its end. -/
theorem beforeNul_append_of_not_mem {nul : α} {cs : List α} (h : nul∉cs) (rest : List α) :
    beforeNul nul (cs++rest)=cs++beforeNul nul rest := by
  induction cs with
  | nil => rfl
  | cons c cs ih =>
    have hc : c≠nul := fun he => h (he ▸ List.mem_cons_self)
    rw [List.cons_append,beforeNul_cons,if_neg hc,ih fun hm => h (List.mem_cons_of_mem c hm),
      List.cons_append]

/-- What is seen of a first part of a text is the beginning of what is seen of it all. -/
theorem beforeNul_first (nul : α) (cs rest : List α) :
    beforeNul nul cs <+: beforeNul nul (cs++rest) := by
  by_cases h : nul∈cs
  · exact ⟨[],by rw [List.append_nil,beforeNul_append_of_mem h]⟩
  · have hself := beforeNul_append_of_not_mem h []
    rw [List.append_nil] at hself
    rw [beforeNul_append_of_not_mem h,hself]
    exact ⟨beforeNul nul rest,by rw [List.append_assoc]; rfl⟩

end Terminator

end UsbIo16.CharEncodings
