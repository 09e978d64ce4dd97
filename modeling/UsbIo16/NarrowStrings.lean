import Mathlib.Data.List.GetD
import Mathlib.Data.List.Range
import Mathlib.Data.List.TakeWhile
import UsbIo16.IoInterface
import UsbIo16.MswinBackend

/-!
# In-place narrowing of UTF-16 strings

`usbstring_to_ascii` reads 16-bit units from the array it writes single
bytes to. The write cursor never reaches a byte that is still to be read, so
the result is that of a conversion into an array of its own.
-/

namespace UsbIo16.NarrowStrings

open ByteBuffer IoInterface MswinBackend

/-- The byte stored for one unit. -/
def narrow (h : BitVec 16) : Byte := if h.toNat<0xFF then h.setWidth 8 else 0x3F#8

/-- The units of a buffer; a last odd byte belongs to none. -/
def unitsOf (buf : List Byte) : List (BitVec 16) := (List.range (buf.length/2)).map (unitAt buf)

/-- The units up to and including the first zero one. -/
def throughZero : List (BitVec 16) → List (BitVec 16)
  | [] => []
  | u::us => if u=0#16 then [u] else u::throughZero us

/-- The units before the first zero one. -/
def beforeZero (us : List (BitVec 16)) : List (BitVec 16) := us.takeWhile (· ≠ 0#16)

/-- A character that narrowing does not produce from other units: ASCII, not
the terminator and not the question mark. -/
def IsPlain (b : Byte) : Prop := b≠0#8 ∧ b≠0x3F#8 ∧ b.toNat<0x80

instance (b : Byte) : Decidable (IsPlain b) := inferInstanceAs (Decidable (_ ∧ _))

/-- Text of such characters. -/
structure PlainText where
  /-- The characters. -/
  bytes : List Byte
  /-- Each of them is plain. -/
  plain : ∀ b∈bytes,IsPlain b

/-- The same loop over an array that has no cell behind its end: absent when
a cell is used that the array does not have. -/
def guardedLoop : ℕ → ℕ → List Byte → Option (List Byte)
  | 0,_,buf => some buf
  | left+1,i,buf =>
    if 2*i+1<buf.length then
      let h := unitAt buf i
      let buf := buf.set i (if h.toNat<0xFF then h.setWidth 8 else 0x3F#8)
      if h=0#16 then some buf else guardedLoop left (i+1) buf
    else none

section Units

/-- A unit of the first part of an array is not changed by what follows it. -/
theorem unitAt_append {buf : List Byte} {i : ℕ} (h : 2*i+1<buf.length) (beyond : List Byte) :
    unitAt (buf++beyond) i=unitAt buf i := by
  have hlow : (buf++beyond).getD (2*i) 0#8=buf.getD (2*i) 0#8 :=
    List.getD_append _ _ _ _ (by omega)
  have hhigh : (buf++beyond).getD (2*i+1) 0#8=buf.getD (2*i+1) 0#8 :=
    List.getD_append _ _ _ _ h
  rw [unitAt,unitAt,hlow,hhigh]

/-- The bytes stored so far do not reach the unit that is read next. -/
theorem unitAt_unread {done : List Byte} (orig : List Byte) :
    unitAt (done++orig.drop done.length) done.length=unitAt orig done.length := by
  have hread : ∀ j,done.length≤j → (done++orig.drop done.length).getD j 0#8=orig.getD j 0#8 := by
    intro j hj
    rw [List.getD_append_right _ _ _ _ hj,List.getD_eq_getElem?_getD,List.getD_eq_getElem?_getD,
      List.getElem?_drop,show done.length+(j-done.length)=j by omega]
  rw [unitAt,unitAt,hread _ (by omega),hread _ (by omega)]

/-- A store at the write cursor moves it on by one. -/
theorem set_cursor {done orig : List Byte} (b : Byte) (h : done.length<orig.length) :
    (done++orig.drop done.length).set done.length b=
      (done++[b])++orig.drop (done++[b]).length := by
  rw [List.set_append_right _ _ (le_refl _),Nat.sub_self,List.drop_eq_getElem_cons h,
    List.set_cons_zero,List.append_assoc,List.length_append,List.length_singleton,
    List.singleton_append]

/-- No more units than there are come before or with the first zero one. -/
theorem throughZero_length_le (us : List (BitVec 16)) : (throughZero us).length≤us.length := by
  induction us with
  | nil => exact le_refl _
  | cons u us ih =>
    rw [throughZero]
    by_cases hu : u=0#16
    · rw [if_pos hu]
      simp only [List.length_cons,List.length_nil]
      omega
    · rw [if_neg hu,List.length_cons,List.length_cons]
      omega

/-- With a zero unit present, it ends the units converted. -/
theorem throughZero_of_mem {us : List (BitVec 16)} (h : 0#16∈us) :
    throughZero us=beforeZero us++[0#16] := by
  induction us with
  | nil => exact absurd h List.not_mem_nil
  | cons u us ih =>
    rw [throughZero,beforeZero]
    by_cases hu : u=0#16
    · rw [if_pos hu,List.takeWhile_cons_of_neg (by simpa using hu),hu,List.nil_append]
    · have hm : 0#16∈us := (List.mem_cons.mp h).resolve_left fun he => hu he.symm
      rw [if_neg hu,List.takeWhile_cons_of_pos (by simpa using hu),ih hm,List.cons_append]
      rfl

end Units

section Loop

/-- One round, when what is stored so far ends where the round stores its
byte: the unit is read as it was at the start and its byte is added. -/
theorem asciiLoop_round (orig : List Byte) (left : ℕ) (done : List Byte)
    (h : done.length<orig.length) :
    asciiLoop (left+1) done.length (done++orig.drop done.length)=
      if unitAt orig done.length=0#16 then
        (done++[narrow (unitAt orig done.length)])++
          orig.drop (done++[narrow (unitAt orig done.length)]).length
      else
        asciiLoop left (done++[narrow (unitAt orig done.length)]).length
          ((done++[narrow (unitAt orig done.length)])++
            orig.drop (done++[narrow (unitAt orig done.length)]).length) := by
  have hl : (done++[narrow (unitAt orig done.length)]).length=done.length+1 := by
    rw [List.length_append,List.length_singleton]
  rw [←set_cursor _ h,hl,asciiLoop,unitAt_unread]
  rfl

/-- All rounds: the units that are left are converted from the array as it
was at the start. -/
theorem asciiLoop_outOfPlace (orig : List Byte) (left : ℕ) (done : List Byte)
    (h : 2*(done.length+left)≤orig.length) :
    asciiLoop left done.length (done++orig.drop done.length)=
      done++(throughZero ((List.range' done.length left).map (unitAt orig))).map narrow++
        orig.drop (done.length+
          (throughZero ((List.range' done.length left).map (unitAt orig))).length) := by
  induction left generalizing done with
  | zero =>
    simp only [asciiLoop,List.range'_zero,List.map_nil,throughZero,List.length_nil,Nat.add_zero,
      List.append_nil]
  | succ left ih =>
    rw [asciiLoop_round orig left done (by omega),List.range'_succ,List.map_cons,throughZero]
    by_cases hz : unitAt orig done.length=0#16
    · simp only [if_pos hz,List.map_cons,List.map_nil,List.length_append,List.length_cons,
        List.length_nil,Nat.zero_add]
    · have hl : (done++[narrow (unitAt orig done.length)]).length=done.length+1 := by
        rw [List.length_append,List.length_singleton]
      -- the byte just stored becomes part of what is done
      have hn := ih (done++[narrow (unitAt orig done.length)]) (by rw [hl]; omega)
      rw [if_neg hz,if_neg hz,hn,hl]
      simp only [List.map_cons,List.length_cons,List.append_assoc,List.cons_append,
        List.nil_append,Nat.add_assoc,Nat.add_comm 1]

/-- A loop that stays within the array is never stopped at its end. -/
theorem guardedLoop_eq (left i : ℕ) (buf : List Byte) (h : 2*(i+left)≤buf.length) :
    guardedLoop left i buf=some (asciiLoop left i buf) := by
  induction left generalizing i buf with
  | zero => rfl
  | succ left ih =>
    rw [guardedLoop,asciiLoop,if_pos (by omega)]
    by_cases hz : unitAt buf i=0#16
    · simp only [if_pos hz]
    · simp only [if_neg hz]
      exact ih (i+1) _ (by rw [List.length_set]; omega)

/-- The units of an array do not depend on what follows it in memory. -/
theorem unitsOf_append (buf beyond : List Byte) :
    (List.range' 0 (buf.length/2)).map (unitAt (buf++beyond))=unitsOf buf := by
  rw [unitsOf,List.range_eq_range']
  refine List.map_congr_left fun i hi => ?_
  have hlt : i<buf.length/2 := by simpa using (List.mem_range'_1.mp hi).2
  exact unitAt_append (by omega) beyond

/-- At most half the bytes of an array are converted. -/
theorem converted_le (buf : List Byte) : 2*(throughZero (unitsOf buf)).length≤buf.length := by
  have h := throughZero_length_le (unitsOf buf)
  rw [unitsOf,List.length_map,List.length_range,←unitsOf] at h
  omega

/-- What the conversion leaves in an array and in the memory behind it. -/
theorem usbstringToAscii_eq (buf beyond : List Byte) :
    usbstringToAscii (buf++beyond) buf.length=
      (throughZero (unitsOf buf)).map narrow++buf.drop (throughZero (unitsOf buf)).length++
        beyond := by
  have hsize : ((buf.length : ℤ)/2).toNat=buf.length/2 := by omega
  have hdrop : (buf++beyond).drop (throughZero (unitsOf buf)).length=
      buf.drop (throughZero (unitsOf buf)).length++beyond :=
    List.drop_append_of_le_length (by have := converted_le buf; omega)
  have h := asciiLoop_outOfPlace (buf++beyond) (buf.length/2) []
    (by rw [List.length_append,List.length_nil]; omega)
  rw [List.length_nil,List.drop_zero,List.nil_append,List.nil_append,unitsOf_append,Nat.zero_add,
    hdrop] at h
  rw [usbstringToAscii,hsize,h,List.append_assoc]

end Loop

section Stored

/-- A unit stored low byte first reads back. -/
theorem unit_join (u : BitVec 16) :
    ((u >>> 8).setWidth 8).setWidth 16 <<< 8 ||| (u.setWidth 8).setWidth 16=u := by
  refine BitVec.eq_of_getLsbD_eq fun i hi => ?_
  by_cases h : i<8
  · simp [h,hi]
  · have h8 : i-8<8 := by omega
    have hs : 8+(i-8)=i := by omega
    simp [h,hi,h8,hs]

/-- The first unit of an array that starts with two bytes of a unit. -/
theorem unitsOf_cons (u : BitVec 16) (bs : List Byte) :
    unitsOf (u.setWidth 8::(u >>> 8).setWidth 8::bs)=u::unitsOf bs := by
  have hl : (u.setWidth 8::(u >>> 8).setWidth 8::bs).length/2=bs.length/2+1 := by
    rw [List.length_cons,List.length_cons]
    omega
  rw [unitsOf,hl,List.range_succ_eq_map,List.map_cons,List.map_map]
  refine congrArg₂ List.cons (unit_join u) (List.map_congr_left fun i _ => ?_)
  rfl

/-- Units stored in an array are its first units. -/
theorem unitsOf_utf16le (us : List (BitVec 16)) (rest : List Byte) :
    unitsOf (utf16le us++rest)=us++unitsOf rest := by
  induction us with
  | nil => rfl
  | cons u us ih =>
    rw [List.cons_append,←ih]
    exact unitsOf_cons u (utf16le us++rest)

/-- Stored units take two bytes each. -/
theorem utf16le_length (us : List (BitVec 16)) : (utf16le us).length=2*us.length := by
  induction us with
  | nil => rfl
  | cons u us ih =>
    have hc : utf16le (u::us)=u.setWidth 8::(u >>> 8).setWidth 8::utf16le us := rfl
    rw [hc,List.length_cons,List.length_cons,ih,List.length_cons]
    omega

end Stored

section Strings

/-- Only the zero unit gives the terminator. -/
theorem narrow_eq_zero (h : BitVec 16) : narrow h=0#8 ↔ h=0#16 := by
  rw [narrow]
  by_cases hs : h.toNat<0xFF
  · rw [if_pos hs,←BitVec.toNat_inj,←BitVec.toNat_inj,BitVec.toNat_setWidth,BitVec.toNat_ofNat,
      BitVec.toNat_ofNat]
    omega
  · rw [if_neg hs,←BitVec.toNat_inj (y := 0#16)]
    constructor
    · intro he
      exact absurd he (by decide)
    · intro he
      rw [BitVec.toNat_ofNat] at he
      omega

/-- A plain character comes from the unit of that character only. -/
theorem narrow_eq_plain {b : Byte} (hb : IsPlain b) (h : BitVec 16) :
    narrow h=b ↔ h=b.setWidth 16 := by
  have ha := hb.2.2
  have hw : (b.setWidth 16).toNat=b.toNat := by
    rw [BitVec.toNat_setWidth]
    omega
  rw [narrow,←BitVec.toNat_inj (x := h),hw]
  by_cases hs : h.toNat<0xFF
  · rw [if_pos hs,←BitVec.toNat_inj,BitVec.toNat_setWidth]
    omega
  · rw [if_neg hs]
    constructor
    · intro he
      exact absurd he.symm hb.2.1
    · intro he
      omega

/-- The terminator of a narrowed string stands where the first zero unit was. -/
theorem cstr_narrowed {us : List (BitVec 16)} (hz : 0#16∈us) (rest : List Byte) :
    cstr ((throughZero us).map narrow++rest)=(beforeZero us).map narrow := by
  have hn : 0#8∉(beforeZero us).map narrow := by
    intro hm
    obtain ⟨u,hu,hu0⟩ := List.mem_map.mp hm
    have hne := List.mem_takeWhile_imp (p := fun v => decide (v≠0#16)) hu
    exact of_decide_eq_true hne ((narrow_eq_zero u).mp hu0)
  have hlast : narrow 0#16=0#8 := (narrow_eq_zero 0#16).mpr rfl
  rw [throughZero_of_mem hz,List.map_append,List.map_singleton,hlast,List.append_assoc,
    List.singleton_append]
  exact cstr_terminated hn rest

/-- Units narrow to plain text exactly when they are its characters. -/
theorem map_narrow_eq_plain {bs : List Byte} (hp : ∀ b∈bs,IsPlain b) (us : List (BitVec 16)) :
    us.map narrow=bs ↔ us=bs.map fun b => b.setWidth 16 := by
  induction bs generalizing us with
  | nil => simp only [List.map_nil,List.map_eq_nil_iff]
  | cons b bs ih =>
    cases us with
    | nil => simp only [List.map_nil,List.map_cons,reduceCtorEq]
    | cons u us =>
      have hu := narrow_eq_plain (hp b List.mem_cons_self) u
      have hus := ih (fun c hc => hp c (List.mem_cons_of_mem b hc)) us
      simp only [List.map_cons,List.cons.injEq,hu,hus]

/-- The conversion in place gives, for every array and whatever follows it in
memory, the bytes of the units through the first zero one, leaves the other
bytes as they were and keeps to the array. With a terminator present, the
string left equals a plain text exactly when the units before it spell that
text. -/
theorem usbstringToAscii_narrows (buf beyond : List Byte) (t : PlainText) :
    usbstringToAscii (buf++beyond) buf.length=
      (throughZero (unitsOf buf)).map narrow++buf.drop (throughZero (unitsOf buf)).length++
        beyond ∧
    guardedLoop (buf.length/2) 0 buf=some (usbstringToAscii buf buf.length) ∧
    (0#16∈unitsOf buf →
      (cstr (usbstringToAscii (buf++beyond) buf.length)=t.bytes ↔
        beforeZero (unitsOf buf)=t.bytes.map fun b => b.setWidth 16)) := by
  refine ⟨usbstringToAscii_eq buf beyond,?_,?_⟩
  · have hsize : ((buf.length : ℤ)/2).toNat=buf.length/2 := by omega
    rw [guardedLoop_eq _ _ _ (by omega),usbstringToAscii,hsize]
  · intro hz
    rw [usbstringToAscii_eq,List.append_assoc,cstr_narrowed hz,map_narrow_eq_plain t.plain]

/-- The product name the library looks for. -/
def productText : PlainText where
  bytes := USB_IO16_NAME
  plain := by decide

/-- An array of odd size that holds the product name as UTF-16. -/
def wideProduct : List Byte :=
  utf16le ((USB_IO16_NAME++[0#8]).map fun b => b.setWidth 16)++[0xAA#8]

/-- The conversion of that array gives the product name. -/
theorem usbstringToAscii_narrows_product :
    0#16∈unitsOf wideProduct ∧
      cstr (usbstringToAscii (wideProduct++[0xBB#8]) wideProduct.length)=USB_IO16_NAME := by
  have hz : 0#16∈unitsOf wideProduct := by decide
  exact ⟨hz,((usbstringToAscii_narrows wideProduct [0xBB#8] productText).2.2 hz).mpr (by decide)⟩

end Strings

end UsbIo16.NarrowStrings
