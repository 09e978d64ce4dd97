import Mathlib.Algebra.Order.Ring.Int
import Mathlib.Data.Int.Notation
import Mathlib.Data.List.Basic
import Mathlib.Data.Nat.Notation

/-!
# Fixed-size byte buffers and C strings

A buffer is the list of its cells, so its length is the size of the array. A
C string is what stands before the first zero cell; comparison of two buffers
as strings never looks behind it.
-/

namespace UsbIo16.ByteBuffer

/-- One cell of a C character array. -/
abbrev Byte := BitVec 8

/-- Value of a plain `char` after the integer promotions, for either
signedness of plain `char`. -/
def charValue (signed : Bool) (b : Byte) : ℤ := if signed=true then b.toInt else b.toNat

/-- The value of a `char` is zero for the zero byte only. -/
theorem charValue_eq_zero (signed : Bool) (b : Byte) : charValue signed b=0 ↔ b=0#8 := by
  have hu : (b.toNat : ℤ)=0 ↔ b=0#8 := by
    constructor
    · intro h
      exact BitVec.eq_of_toNat_eq (by simpa only [BitVec.toNat_ofNat] using (by omega : b.toNat=0))
    · rintro rfl
      rfl
  have hs : b.toInt=0 ↔ b=0#8 := by
    constructor
    · intro h
      exact BitVec.eq_of_toInt_eq (by simpa only [BitVec.toInt_zero] using h)
    · rintro rfl
      rfl
  cases signed with
  | false => simpa only [charValue,Bool.false_eq_true,if_false] using hu
  | true => simpa only [charValue,if_true] using hs

/-- Narrowing of an integer to a plain `char` keeps its low eight bits. -/
def charOf (n : ℤ) : Byte := BitVec.ofInt 8 n

/-- Store the cells of `data` from offset `off` on, leaving the others as they were. -/
def writeAt (buf : List Byte) (off : ℕ) (data : List Byte) : List Byte :=
  buf.take off++data++buf.drop (off+data.length)

/-- A store from the first cell on is a new prefix. -/
theorem writeAt_zero (buf data : List Byte) :
    writeAt buf 0 data=data++buf.drop data.length := by
  simp only [writeAt,List.take_zero,List.nil_append,Nat.zero_add]

/-- A store behind the first cell keeps that cell. -/
theorem writeAt_cons_succ (b : Byte) (buf : List Byte) (off : ℕ) (data : List Byte) :
    writeAt (b::buf) (off+1) data=b::writeAt buf off data := by
  simp only [writeAt,List.take_succ_cons,List.cons_append,List.cons.injEq,true_and]
  rw [show off+1+data.length=(off+data.length)+1 by omega,List.drop_succ_cons]

/-- A store over the whole array leaves exactly the data. -/
theorem writeAt_zero_full {buf data : List Byte} (h : buf.length≤data.length) :
    writeAt buf 0 data=data := by
  rw [writeAt_zero,List.drop_eq_nil_of_le h,List.append_nil]

/-- The string held by a buffer: the cells before the first zero one. -/
def cstr : List Byte → List Byte
  | [] => []
  | b::bs => if b=0#8 then [] else b::cstr bs

/-- Cells that are not zero belong to the string whatever follows them. -/
theorem cstr_append {text : List Byte} (h : 0#8∉text) (rest : List Byte) :
    cstr (text++rest)=text++cstr rest := by
  induction text with
  | nil => rfl
  | cons c text ih =>
    have hc : c≠0#8 := fun he => h (he ▸ List.mem_cons_self)
    have ht : 0#8∉text := fun hm => h (List.mem_cons_of_mem c hm)
    rw [List.cons_append,cstr,if_neg hc,ih ht,List.cons_append]

/-- A terminated string without zero cells reads back whatever follows it. -/
theorem cstr_terminated {text : List Byte} (h : 0#8∉text) (rest : List Byte) :
    cstr (text++0#8::rest)=text := by
  rw [cstr_append h,cstr,if_pos rfl,List.append_nil]

/-- Comparison of two strings, cell by cell up to the first difference or
the common terminator; the end of an array counts as a terminator. -/
def strcmp : List Byte → List Byte → ℤ
  | [],[] => 0
  | [],b::_ => -(b.toNat : ℤ)
  | a::_,[] => a.toNat
  | a::as,b::bs =>
    if a=b then
      if a=0#8 then 0 else strcmp as bs
    else (a.toNat : ℤ)-b.toNat

/-- Two buffers compare equal exactly when they hold the same string. -/
theorem strcmp_eq_zero (as bs : List Byte) : strcmp as bs=0 ↔ cstr as=cstr bs := by
  have hz : ∀ b : Byte,(b.toNat : ℤ)=0 ↔ b=0#8 := charValue_eq_zero false
  induction as generalizing bs with
  | nil =>
    cases bs with
    | nil => simp only [strcmp]
    | cons b bs =>
      simp only [strcmp,cstr,neg_eq_zero,hz]
      by_cases hb : b=0#8
      · simp only [hb,if_true]
      · simp only [hb,if_false,reduceCtorEq]
  | cons a as ih =>
    cases bs with
    | nil =>
      simp only [strcmp,cstr,hz]
      by_cases ha : a=0#8
      · simp only [ha,if_true]
      · simp only [ha,if_false,reduceCtorEq]
    | cons b bs =>
      by_cases hab : a=b
      · subst hab
        by_cases ha : a=0#8
        · simp only [strcmp,cstr,ha,if_true]
        · simp only [strcmp,cstr,ha,if_true,if_false,List.cons.injEq,true_and,ih]
      · have hn : (a.toNat : ℤ)-b.toNat≠0 := by
          intro h
          exact hab (BitVec.eq_of_toNat_eq (by omega))
        -- the first cells differ, so at most one of the two strings is empty
        simp only [strcmp,if_neg hab,hn,false_iff,cstr]
        by_cases ha : a=0#8
        · have hb : b≠0#8 := fun hb => hab (ha.trans hb.symm)
          simp only [if_pos ha,if_neg hb,reduceCtorEq,not_false_eq_true]
        · by_cases hb : b=0#8
          · simp only [if_neg ha,if_pos hb,reduceCtorEq,not_false_eq_true]
          · simp only [if_neg ha,if_neg hb,List.cons.injEq,hab,false_and,not_false_eq_true]

/-- A C string as a value: characters with no terminator among them. -/
structure CString where
  /-- The characters, without the terminator. -/
  bytes : List Byte
  /-- No character is the terminator. -/
  noNul : 0#8∉bytes

/-- The cells of a text literal. -/
def ascii (s : String) : List Byte := s.toList.map fun c => BitVec.ofNat 8 c.toNat

end UsbIo16.ByteBuffer
