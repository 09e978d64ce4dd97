import UsbIo16.CharEncodings
import UsbIo16.NarrowStrings
import UsbIo16.OsxBackend

/-!
# String getters of the OS X and Windows backends

The contract of `hiddata.h` asks for the string of the device as ASCII with a
question mark for every other character, or an error. The OS X backend stores
UTF-8 and cannot report an error; the Windows backend narrows UTF-16 units
with a threshold of its own. When each of them keeps the contract is stated
for every string and every buffer.
-/

namespace UsbIo16.StringGetters

open ByteBuffer CharEncodings HandleLedger Hiddata NarrowStrings

/-- The terminator as a character. -/
abbrev nulChar : Char := '\x00'

section Encodings

/-- The cells of a character as UTF-8. -/
theorem utf8_ascii {c : Char} (h : c.toNat<0x80) : OsxBackend.utf8 c=[BitVec.ofNat 8 c.toNat] := by
  have hv : c.val.toNat≤0x7F := by
    have he : c.val.toNat=c.toNat := rfl
    omega
  rw [OsxBackend.utf8,String.utf8EncodeChar,if_pos hv]
  rfl

/-- UTF-8 takes one cell for an ASCII character. -/
theorem utf8_length {c : Char} (h : c.toNat<0x80) : (OsxBackend.utf8 c).length=1 := by
  rw [utf8_ascii h,List.length_singleton]

/-- A cell written as a lead or continuation byte is not ASCII. -/
theorem toBitVec_marked {n m : ℕ} (hn : n<0x40) (hm : 0x80 ≤ m) (hs : n+m<0x100) :
    0x80≤(UInt8.ofNat (n+m)).toBitVec.toNat := by
  have he : (UInt8.ofNat (n+m)).toBitVec.toNat=(n+m)%2^8 := rfl
  rw [he]
  omega

/-- No cell of any other character is ASCII. -/
theorem utf8_other {c : Char} (h : 0x80≤c.toNat) : ∀ b∈OsxBackend.utf8 c,0x80≤b.toNat := by
  have hv : ¬c.val.toNat≤0x7F := by
    have he : c.val.toNat=c.toNat := rfl
    omega
  intro b hb
  obtain ⟨u,hu,rfl⟩ := List.mem_map.mp hb
  rw [String.utf8EncodeChar,if_neg hv] at hu
  split at hu
  · simp only [List.mem_cons,List.not_mem_nil,or_false] at hu
    rcases hu with rfl | rfl <;> exact toBitVec_marked (by omega) (by omega) (by omega)
  · split at hu
    · simp only [List.mem_cons,List.not_mem_nil,or_false] at hu
      rcases hu with rfl | rfl | rfl <;> exact toBitVec_marked (by omega) (by omega) (by omega)
    · simp only [List.mem_cons,List.not_mem_nil,or_false] at hu
      rcases hu with rfl | rfl | rfl | rfl <;>
        exact toBitVec_marked (by omega) (by omega) (by omega)

/-- Only the terminator character has the code zero. -/
theorem toNat_eq_zero {c : Char} : c.toNat=0 ↔ c=nulChar := by
  constructor
  · intro h
    exact Char.toNat_inj.mp h
  · rintro rfl
    rfl

/-- The string of a device as the OS X backend stores it. -/
def utf8Text : Encoding Char where
  cells := OsxBackend.utf8
  nul := nulChar
  nonempty c := by
    rw [OsxBackend.utf8,Ne,List.map_eq_nil_iff]
    exact String.utf8EncodeChar_ne_nil
  cells_nul := rfl
  noZero c hc hm := by
    by_cases h : c.toNat<0x80
    · rw [utf8_ascii h,List.mem_singleton,←BitVec.toNat_inj,BitVec.toNat_ofNat,
        BitVec.toNat_ofNat] at hm
      have h0 : c.toNat≠0 := fun he => hc (toNat_eq_zero.mp he)
      omega
    · have hb := utf8_other (not_lt.mp h) _ hm
      exact absurd hb (by decide)

/-- The cell the contract asks for: ASCII characters as they are, a question
mark for any other. -/
def asciiCell (c : Char) : Byte := if c.toNat<0x80 then BitVec.ofNat 8 c.toNat else 0x3F#8

/-- Every cell of the contract is ASCII. -/
theorem asciiCell_lt (c : Char) : (asciiCell c).toNat<0x80 := by
  rw [asciiCell]
  by_cases h : c.toNat<0x80
  · rw [if_pos h,BitVec.toNat_ofNat]
    omega
  · rw [if_neg h]
    decide

/-- The string of a device as the contract asks for it. -/
def asciiText : Encoding Char where
  cells c := [asciiCell c]
  nul := nulChar
  nonempty _ := List.cons_ne_nil _ _
  cells_nul := rfl
  noZero c hc hm := by
    have h0 : c.toNat≠0 := fun he => hc (toNat_eq_zero.mp he)
    rw [List.mem_singleton,asciiCell] at hm
    by_cases h : c.toNat<0x80
    · rw [if_pos h,←BitVec.toNat_inj,BitVec.toNat_ofNat,BitVec.toNat_ofNat] at hm
      omega
    · rw [if_neg h] at hm
      exact absurd hm (by decide)

/-- UTF-8 stores what the contract asks for exactly for the ASCII characters. -/
theorem utf8_eq_ascii (c : Char) : utf8Text.cells c=asciiText.cells c ↔ c.toNat<0x80 := by
  constructor
  · intro h
    by_contra hc
    have hm : asciiCell c∈OsxBackend.utf8 c := by
      have he : OsxBackend.utf8 c=[asciiCell c] := h
      rw [he]
      exact List.mem_singleton_self _
    have hb := utf8_other (not_lt.mp hc) _ hm
    have hl := asciiCell_lt c
    omega
  · intro h
    have he : [asciiCell c]=OsxBackend.utf8 c := by rw [asciiCell,if_pos h,utf8_ascii h]
    exact he.symm

/-- A text whose UTF-8 is what the contract asks of some text is ASCII. -/
theorem text_eq_ascii {cs ds : List Char} (h : utf8Text.text cs=asciiText.text ds) :
    ∀ c∈cs,c.toNat<0x80 := by
  intro c hc
  by_contra hn
  obtain ⟨b,hb⟩ := List.exists_mem_of_ne_nil _ (utf8Text.nonempty c)
  have hm : b∈utf8Text.text cs := List.mem_flatMap.mpr ⟨c,hc,hb⟩
  rw [h] at hm
  obtain ⟨d,-,hd⟩ := List.mem_flatMap.mp hm
  have hlow := asciiCell_lt d
  rw [←List.mem_singleton.mp hd] at hlow
  have hhigh := utf8_other (not_lt.mp hn) b hb
  omega

/-- The UTF-16 units of a character. -/
def utf16 (c : Char) : List (BitVec 16) :=
  if c.toNat<0x10000 then [BitVec.ofNat 16 c.toNat]
  else
    [BitVec.ofNat 16 (0xD800+(c.toNat-0x10000)/0x400),
      BitVec.ofNat 16 (0xDC00+(c.toNat-0x10000)%0x400)]

/-- The UTF-16 units of a string. -/
def utf16Text (cs : List Char) : List (BitVec 16) := cs.flatMap utf16

/-- Characters whose units narrow to what the contract asks for. -/
def NarrowsToAscii (c : Char) : Prop := c.toNat<0x80 ∨ 0xFF≤c.toNat ∧ c.toNat<0x10000

instance (c : Char) : Decidable (NarrowsToAscii c) := inferInstanceAs (Decidable (_ ∨ _))

/-- Code points end at `0x10FFFF`. -/
theorem toNat_lt (c : Char) : c.toNat<0x110000 := by
  have hv : c.val.toNat<0xD800 ∨ 0xDFFF<c.val.toNat ∧ c.val.toNat<0x110000 := c.valid
  have he : c.val.toNat=c.toNat := rfl
  omega

/-- Only the terminator character has a zero unit. -/
theorem utf16_noZero {c : Char} (h : c≠nulChar) : 0#16∉utf16 c := by
  have hlt := toNat_lt c
  have h0 : c.toNat≠0 := fun he => h (toNat_eq_zero.mp he)
  intro hm
  rw [utf16] at hm
  by_cases hc : c.toNat<0x10000
  · rw [if_pos hc,List.mem_singleton,←BitVec.toNat_inj,BitVec.toNat_ofNat,BitVec.toNat_ofNat] at hm
    omega
  · simp only [if_neg hc,List.mem_cons,List.not_mem_nil,or_false,←BitVec.toNat_inj,
      BitVec.toNat_ofNat] at hm
    omega

/-- The string of a device as the Windows backend leaves it. -/
def narrowedText : Encoding Char where
  cells c := (utf16 c).map narrow
  nul := nulChar
  nonempty c := by
    rw [Ne,List.map_eq_nil_iff,utf16]
    by_cases hc : c.toNat<0x10000
    · rw [if_pos hc]
      exact List.cons_ne_nil _ _
    · rw [if_neg hc]
      exact List.cons_ne_nil _ _
  cells_nul := rfl
  noZero c hc hm := by
    obtain ⟨u,hu,hu0⟩ := List.mem_map.mp hm
    exact utf16_noZero hc ((narrow_eq_zero u).mp hu0 ▸ hu)

/-- The narrowed units of a string are its narrowed characters. -/
theorem map_narrow_utf16Text (cs : List Char) :
    (utf16Text cs).map narrow=narrowedText.text cs := List.map_flatMap

/-- The units before the first zero one are those of the characters before
the terminator character. -/
theorem beforeZero_utf16Text (cs : List Char) (rest : List (BitVec 16)) :
    beforeZero (utf16Text cs++0#16::rest)=utf16Text (beforeNul nulChar cs) := by
  induction cs with
  | nil => rfl
  | cons c cs ih =>
    rw [utf16Text,List.flatMap_cons,beforeNul_cons,List.append_assoc]
    by_cases hc : c=nulChar
    · rw [if_pos hc,hc]
      rfl
    · have hu : ∀ u∈utf16 c,decide (u≠0#16)=true := fun u hu =>
        decide_eq_true fun he => utf16_noZero hc (he ▸ hu)
      rw [if_neg hc,utf16Text,List.flatMap_cons,beforeZero,List.takeWhile_append_of_pos hu]
      exact congrArg (utf16 c++·) ih

/-- Narrowing gives what the contract asks for exactly for those characters. -/
theorem narrowed_eq_ascii (c : Char) :
    narrowedText.cells c=asciiText.cells c ↔ NarrowsToAscii c := by
  have hcells : narrowedText.cells c=(utf16 c).map narrow := rfl
  have hask : asciiText.cells c=[asciiCell c] := rfl
  rw [hcells,hask,utf16,NarrowsToAscii]
  by_cases hc : c.toNat<0x10000
  · have hu : (BitVec.ofNat 16 c.toNat).toNat=c.toNat := by
      rw [BitVec.toNat_ofNat]
      omega
    rw [if_pos hc,List.map_singleton,List.singleton_inj,narrow,asciiCell,hu]
    by_cases hs : c.toNat<0xFF
    · have hl : ((BitVec.ofNat 16 c.toNat).setWidth 8).toNat=c.toNat := by
        rw [BitVec.toNat_setWidth,hu]
        omega
      rw [if_pos hs,←BitVec.toNat_inj,hl]
      by_cases ha : c.toNat<0x80
      · rw [if_pos ha,BitVec.toNat_ofNat]
        omega
      · rw [if_neg ha,BitVec.toNat_ofNat]
        omega
    · rw [if_neg hs,if_neg (by omega)]
      exact iff_of_true rfl (Or.inr ⟨by omega,hc⟩)
  · -- two units give two cells
    rw [if_neg hc]
    refine iff_of_false (fun h => ?_) (by omega)
    have hl := congrArg List.length h
    simp only [List.length_map,List.length_cons,List.length_nil] at hl
    omega

end Encodings

section Contract

variable {W : Type}

/-- What `hiddata.h` says of a getter, for a measure of the cells a string
needs with its terminator: it returns zero exactly for a string that is there
and fits, and then leaves that string, terminated, as the contract asks. -/
structure Keeps (needs : List Char → ℕ) (str : Option (List Char)) (room : ℕ)
    (r : StringReply W) : Prop where
  /-- Zero means there and complete; anything else is an error code. -/
  returns : r.err=0 ↔ ∃ cs,str=some cs ∧ needs cs≤room
  /-- The string left in the buffer. -/
  holds : r.err=0 → ∀ cs,str=some cs →
    0#8∈r.buffer ∧ cstr r.buffer=cstr (asciiText.text cs++[0#8])

/-- Cells of the string the contract asks for. -/
def asciiNeeds (cs : List Char) : ℕ := cs.length+1

/-- Cells of the string as UTF-8. -/
def utf8Needs (cs : List Char) : ℕ := (utf8Text.text cs).length+1

/-- Cells of the string as UTF-16, two for each unit. -/
def utf16Needs (cs : List Char) : ℕ := 2*((utf16Text cs).length+1)

/-- UTF-8 needs at least the cells of the contract. -/
theorem asciiNeeds_le_utf8Needs (cs : List Char) : asciiNeeds cs≤utf8Needs cs :=
  Nat.succ_le_succ (utf8Text.length_le cs)

/-- UTF-16 needs at least the cells of the contract. -/
theorem asciiNeeds_le_utf16Needs (cs : List Char) : asciiNeeds cs≤utf16Needs cs := by
  have hl := narrowedText.length_le cs
  rw [←map_narrow_utf16Text,List.length_map] at hl
  rw [asciiNeeds,utf16Needs]
  omega

/-- A reader of the string the contract asks for sees it up to its terminator. -/
theorem cstr_asciiText (cs : List Char) :
    cstr (asciiText.text cs++[0#8])=asciiText.text (beforeNul nulChar cs) :=
  asciiText.cstr_text cs []

end Contract

section Osx

variable {D : Type} (env : OsxBackend.OsxEnv D)

/-- The getter for one of the two strings. -/
def osxGetter : OsxBackend.StringKey → Ptr → List Byte → ℤ → OsxBackend.OsxWorld D →
    StringReply (OsxBackend.OsxWorld D)
  | .manufacturer => OsxBackend.usbhidGetVendorString env
  | .product => OsxBackend.usbhidGetProductString env

/-- The characters `CFStringGetBytes` converts: a first part of the string
whose cells fit, and the next character, if any, does not fit behind them. -/
structure Converted (cs : List Char) (room : ℕ) (taken : List Char) : Prop where
  /-- A first part of the string. -/
  isFirst : taken <+: cs
  /-- It fits. -/
  fits : (utf8Text.text taken).length≤room
  /-- It stops only at the end or before a character that does not fit. -/
  stops : ∀ c rest,cs=taken++c::rest →
    room<(utf8Text.text taken).length+(OsxBackend.utf8 c).length

/-- `CFStringGetBytes` stores the cells of the characters it converts. -/
theorem cfStringGetBytes_converted (cs : List Char) (room : ℕ) :
    ∃ taken,Converted cs room taken ∧ (OsxBackend.cfStringGetBytes cs room).2=utf8Text.text taken := by
  induction cs generalizing room with
  | nil => exact ⟨[],⟨List.prefix_rfl,Nat.zero_le _,fun c rest h => nomatch h⟩,rfl⟩
  | cons c cs ih =>
    rw [OsxBackend.cfStringGetBytes]
    by_cases hc : (OsxBackend.utf8 c).length≤room
    · obtain ⟨taken,ht,hbytes⟩ := ih (room-(OsxBackend.utf8 c).length)
      have hl : (utf8Text.text (c::taken)).length=
          (OsxBackend.utf8 c).length+(utf8Text.text taken).length := by
        rw [utf8Text.text_cons,List.length_append]
        rfl
      refine ⟨c::taken,⟨(List.cons_prefix_cons).mpr ⟨rfl,ht.isFirst⟩,?_,?_⟩,?_⟩
      · have hf := ht.fits
        omega
      · intro d rest h
        have hs := ht.stops d rest (List.cons.inj h).2
        omega
      · rw [if_pos hc,utf8Text.text_cons]
        exact congrArg (OsxBackend.utf8 c++·) hbytes
    · refine ⟨[],⟨List.nil_prefix,Nat.zero_le _,?_⟩,?_⟩
      · intro d rest h
        obtain ⟨rfl,-⟩ := List.cons.inj h
        have h0 : (utf8Text.text []).length=0 := rfl
        omega
      · rw [if_neg hc]
        rfl

/-- A string property is stored as its converted characters and a terminator,
and the value returned is no error. -/
theorem getStringPropertyUtf8_some {buffer : List Byte} (hl : 2≤buffer.length) (cs : List Char) :
    ∃ taken rest,Converted cs (buffer.length-1) taken ∧
      0≤(OsxBackend.getStringPropertyUtf8 (some cs) buffer buffer.length).1 ∧
      (OsxBackend.getStringPropertyUtf8 (some cs) buffer buffer.length).2=
        utf8Text.text taken++0#8::rest := by
  have hlen : ¬(buffer.length : ℤ)<2 := by omega
  have hroom : ((buffer.length : ℤ)-1).toNat=buffer.length-1 := by omega
  cases cs with
  | nil =>
    simp only [OsxBackend.getStringPropertyUtf8,if_neg hlen]
    refine ⟨[],buffer.tail,⟨List.prefix_rfl,Nat.zero_le _,fun c rest h => nomatch h⟩,le_refl _,?_⟩
    cases buffer with
    | nil => exact absurd hl (by decide)
    | cons b bs => rfl
  | cons c cs =>
    obtain ⟨taken,ht,hbytes⟩ := cfStringGetBytes_converted (c::cs) (buffer.length-1)
    simp only [OsxBackend.getStringPropertyUtf8,if_neg hlen,hroom,hbytes,writeAt_zero]
    refine ⟨taken,(buffer.set 0 0#8).drop (utf8Text.text taken++[0#8]).length,ht,?_,?_⟩
    · exact Int.natCast_nonneg _
    · rw [List.append_assoc,List.singleton_append]

variable {env} {key : OsxBackend.StringKey} {usbh : Ptr} {buffer : List Byte}
  {w : OsxBackend.OsxWorld D}

/-- Both getters read their property the same way. -/
theorem osxGetter_eq (key : OsxBackend.StringKey) (len : ℤ) :
    osxGetter env key usbh buffer len w=OsxBackend.getString env key usbh buffer len w := by
  cases key with
  | manufacturer => rfl
  | product => rfl

/-- The getter of a string that is there returns zero and leaves its
converted characters. -/
theorem osxGetter_some (hl : 2≤buffer.length) {cs : List Char}
    (hs : (env.stringProperty usbh key w.env).1=some cs) :
    ∃ taken rest,Converted cs (buffer.length-1) taken ∧
      (osxGetter env key usbh buffer buffer.length w).err=0 ∧
      (osxGetter env key usbh buffer buffer.length w).buffer=utf8Text.text taken++0#8::rest := by
  obtain ⟨taken,rest,ht,hnn,hbuf⟩ := getStringPropertyUtf8_some hl cs
  refine ⟨taken,rest,ht,?_,?_⟩
  · rw [osxGetter_eq,OsxBackend.getString,hs]
    exact if_neg (not_lt.mpr hnn)
  · rw [osxGetter_eq,OsxBackend.getString,hs]
    exact hbuf

/-- The getter of a string that is not there returns zero as well: the error
code of the helper is positive and the getter tests for a negative one. -/
theorem osxGetter_none (hl : 2≤buffer.length) (hs : (env.stringProperty usbh key w.env).1=none) :
    (osxGetter env key usbh buffer buffer.length w).err=0 := by
  have hlen : ¬(buffer.length : ℤ)<2 := by omega
  rw [osxGetter_eq,OsxBackend.getString,hs]
  simp only [OsxBackend.getStringPropertyUtf8,if_neg hlen]
  rfl

/-- With room for the string as ASCII, no ASCII character before the terminator
is left behind what was converted: it would have fitted. -/
theorem Converted.left_beforeNul {taken left : List Char} {room : ℕ} (ht : Converted (taken++left) room taken)
    (hroom : (taken++left).length≤room)
    (hascii : ∀ c∈taken++beforeNul nulChar left,c.toNat<0x80) : beforeNul nulChar left=[] := by
  cases left with
  | nil => rfl
  | cons c rest =>
    rw [beforeNul_cons] at hascii ⊢
    by_cases hc : c=nulChar
    · rw [if_pos hc]
    · rw [if_neg hc] at hascii
      have h1 := utf8_length (hascii c (List.mem_append_right _ List.mem_cons_self))
      have ht1 : (utf8Text.text taken).length=taken.length :=
        Encoding.length_eq fun d hd => utf8_length (hascii d (List.mem_append_left _ hd))
      have hs := ht.stops c rest rfl
      rw [List.length_append,List.length_cons] at hroom
      omega

/-- With room for the string as ASCII, what is converted reads as the contract
asks exactly when the characters before the terminator are ASCII. -/
theorem converted_eq_ascii {cs taken : List Char} {room : ℕ} (ht : Converted cs room taken)
    (hroom : cs.length≤room) :
    utf8Text.text (beforeNul nulChar taken)=asciiText.text (beforeNul nulChar cs) ↔
      ∀ c∈beforeNul nulChar cs,c.toNat<0x80 := by
  obtain ⟨left,rfl⟩ := ht.isFirst
  have hagree : ∀ ds,utf8Text.text ds=asciiText.text ds ↔ ∀ c∈ds,c.toNat<0x80 := fun ds => by
    rw [utf8Text.text_eq_iff asciiText (fun _ => rfl)]
    exact forall₂_congr fun c _ => utf8_eq_ascii c
  constructor
  · intro h
    have hascii := text_eq_ascii h
    rw [(hagree _).mpr hascii] at h
    have hl := congrArg List.length h
    rw [asciiText.length_eq fun _ _ => rfl,asciiText.length_eq fun _ _ => rfl] at hl
    rwa [←(beforeNul_first nulChar taken left).eq_of_length hl]
  · intro hascii
    by_cases hz : nulChar∈taken
    · rw [beforeNul_append_of_mem hz] at hascii ⊢
      exact (hagree _).mpr hascii
    · have hself := beforeNul_append_of_not_mem hz []
      rw [List.append_nil,show beforeNul nulChar []=([] : List Char) from rfl,List.append_nil] at hself
      rw [beforeNul_append_of_not_mem hz] at hascii ⊢
      have hleft := ht.left_beforeNul hroom hascii
      rw [hleft,List.append_nil] at hascii ⊢
      rw [hself]
      exact (hagree _).mpr hascii

/-- When the OS X getters keep their contract: the string is there, fits and is
ASCII up to its terminator. -/
theorem osxGetter_keeps {needs : List Char → ℕ} (hn : ∀ cs,asciiNeeds cs≤needs cs)
    (hl : 2≤buffer.length) {str : Option (List Char)}
    (hs : (env.stringProperty usbh key w.env).1=str) :
    Keeps needs str buffer.length (osxGetter env key usbh buffer buffer.length w) ↔
      ∃ cs,str=some cs ∧ needs cs≤buffer.length ∧ ∀ c∈beforeNul nulChar cs,c.toNat<0x80 := by
  cases str with
  | none =>
    -- zero is returned for no string at all
    constructor
    · intro h
      obtain ⟨cs,hcs,-⟩ := h.returns.mp (osxGetter_none hl hs)
      exact nomatch hcs
    · rintro ⟨cs,hcs,-⟩
      exact nomatch hcs
  | some cs =>
    obtain ⟨taken,rest,ht,herr,hbuf⟩ := osxGetter_some (w := w) hl hs
    have hread : needs cs≤buffer.length →
        (cstr (osxGetter env key usbh buffer buffer.length w).buffer=
          cstr (asciiText.text cs++[0#8]) ↔ ∀ c∈beforeNul nulChar cs,c.toNat<0x80) := by
      intro hfit
      have hroom := hn cs
      rw [asciiNeeds] at hroom
      rw [hbuf,cstr_asciiText]
      rw [utf8Text.cstr_text taken rest]
      exact converted_eq_ascii ht (by omega)
    constructor
    · intro h
      obtain ⟨ds,hds,hfit⟩ := h.returns.mp herr
      obtain rfl := Option.some.inj hds
      exact ⟨cs,rfl,hfit,(hread hfit).mp (h.holds herr cs rfl).2⟩
    · rintro ⟨ds,hds,hfit,hascii⟩
      obtain rfl := Option.some.inj hds
      refine ⟨iff_of_true herr ⟨cs,rfl,hfit⟩,fun _ es hes => ?_⟩
      obtain rfl := Option.some.inj hes
      refine ⟨?_,(hread hfit).mpr hascii⟩
      rw [hbuf]
      exact List.mem_append_right _ List.mem_cons_self

end Osx

section Mswin

variable {D : Type} (env : MswinBackend.MswinEnv D)

/-- The system call behind each of the two strings. -/
def mswinQuery : OsxBackend.StringKey → Ptr → D → Option (List (BitVec 16))×D
  | .manufacturer => env.manufacturer
  | .product => env.product

/-- The getter for one of the two strings. -/
def mswinGetter : OsxBackend.StringKey → Ptr → List Byte → ℤ → MswinBackend.MswinWorld D →
    StringReply (MswinBackend.MswinWorld D)
  | .manufacturer => MswinBackend.usbhidGetVendorString env
  | .product => MswinBackend.usbhidGetProductString env

variable {env} {key : OsxBackend.StringKey} {usbh : Ptr} {buffer : List Byte}
  {w : MswinBackend.MswinWorld D}

/-- Both getters ask their system call the same way. -/
theorem mswinGetter_eq (key : OsxBackend.StringKey) (len : ℤ) :
    mswinGetter env key usbh buffer len w=
      MswinBackend.getString (mswinQuery env key) usbh buffer len w := by
  cases key with
  | manufacturer => rfl
  | product => rfl

/-- No string, or one that does not fit as UTF-16, is an error. -/
theorem mswinGetter_fail {str : Option (List Char)}
    (hs : (mswinQuery env key usbh w.env).1=str.map utf16Text)
    (h : ∀ cs,str=some cs → buffer.length<utf16Needs cs) :
    (mswinGetter env key usbh buffer buffer.length w).err=USBHID_ERR_IO_HID := by
  rw [mswinGetter_eq,MswinBackend.getString,hs]
  cases str with
  | none => rfl
  | some cs =>
    have hlt := h cs rfl
    rw [utf16Needs] at hlt
    have hc : (buffer.length : ℤ)<2*(((utf16Text cs).length : ℤ)+1) := by omega
    simp only [Option.map_some,if_pos hc]

/-- A string that fits as UTF-16 is returned narrowed. -/
theorem mswinGetter_some {cs : List Char}
    (hs : (mswinQuery env key usbh w.env).1=some (utf16Text cs))
    (hfit : utf16Needs cs≤buffer.length) :
    (mswinGetter env key usbh buffer buffer.length w).err=0 ∧
      0#8∈(mswinGetter env key usbh buffer buffer.length w).buffer ∧
      cstr (mswinGetter env key usbh buffer buffer.length w).buffer=
        narrowedText.text (beforeNul nulChar cs) := by
  rw [utf16Needs] at hfit
  have hc : ¬(buffer.length : ℤ)<2*(((utf16Text cs).length : ℤ)+1) := by omega
  have hstored : (MswinBackend.utf16le (utf16Text cs++[0#16])).length=2*((utf16Text cs).length+1) := by
    rw [utf16le_length,List.length_append,List.length_singleton]
  let stored := writeAt buffer 0 (MswinBackend.utf16le (utf16Text cs++[0#16]))
  have hbuf : (mswinGetter env key usbh buffer buffer.length w).buffer=
      MswinBackend.usbstringToAscii stored buffer.length := by
    rw [mswinGetter_eq,MswinBackend.getString,hs]
    simp only [if_neg hc]
    rfl
  have herr : (mswinGetter env key usbh buffer buffer.length w).err=0 := by
    rw [mswinGetter_eq,MswinBackend.getString,hs]
    simp only [if_neg hc]
  have hlen : stored.length=buffer.length := by
    simp only [stored,writeAt_zero,List.length_append,List.length_drop,hstored]
    omega
  have hunits : unitsOf stored=utf16Text cs++0#16::unitsOf (buffer.drop (2*((utf16Text cs).length+1))) := by
    simp only [stored,writeAt_zero,unitsOf_utf16le,hstored,List.append_assoc,List.singleton_append]
  have hz : 0#16∈unitsOf stored := by
    rw [hunits]
    exact List.mem_append_right _ List.mem_cons_self
  have hconv := usbstringToAscii_eq stored []
  rw [List.append_nil,List.append_nil,hlen] at hconv
  refine ⟨herr,?_,?_⟩
  · rw [hbuf,hconv,throughZero_of_mem hz,List.map_append]
    exact List.mem_append_left _ (List.mem_append_right _ List.mem_cons_self)
  · rw [hbuf,hconv,cstr_narrowed hz,hunits,beforeZero_utf16Text,map_narrow_utf16Text]

/-- When the Windows getters keep their contract: what fits as measured fits
as UTF-16, and what fits has only characters that narrow as asked. -/
theorem mswinGetter_keeps {needs : List Char → ℕ} (hn : ∀ cs,needs cs≤utf16Needs cs)
    {str : Option (List Char)} (hs : (mswinQuery env key usbh w.env).1=str.map utf16Text) :
    Keeps needs str buffer.length (mswinGetter env key usbh buffer buffer.length w) ↔
      ∀ cs,str=some cs → needs cs≤buffer.length →
        utf16Needs cs≤buffer.length ∧ ∀ c∈beforeNul nulChar cs,NarrowsToAscii c := by
  have hfail : (∀ cs,str=some cs → buffer.length<utf16Needs cs) →
      (mswinGetter env key usbh buffer buffer.length w).err≠0 := by
    intro h
    rw [mswinGetter_fail hs h]
    decide
  constructor
  · rintro h cs rfl hfit
    have herr := h.returns.mpr ⟨cs,rfl,hfit⟩
    have hroom : utf16Needs cs≤buffer.length := by
      by_contra hlong
      refine hfail (fun ds hds => ?_) herr
      obtain rfl := Option.some.inj hds
      exact not_le.mp hlong
    have hread := (h.holds herr cs rfl).2
    rw [(mswinGetter_some hs hroom).2.2,cstr_asciiText,
      narrowedText.text_eq_iff asciiText (fun _ => rfl)] at hread
    exact ⟨hroom,fun c hc => (narrowed_eq_ascii c).mp (hread c hc)⟩
  · intro h
    by_cases hroom : ∃ cs,str=some cs ∧ utf16Needs cs≤buffer.length
    · obtain ⟨cs,rfl,hle⟩ := hroom
      have hfit := (hn cs).trans hle
      obtain ⟨herr,hz,hread⟩ := mswinGetter_some hs hle
      refine ⟨iff_of_true herr ⟨cs,rfl,hfit⟩,fun _ ds hds => ?_⟩
      obtain rfl := Option.some.inj hds
      refine ⟨hz,?_⟩
      rw [hread,cstr_asciiText,narrowedText.text_eq_iff asciiText (fun _ => rfl)]
      exact fun c hc => (narrowed_eq_ascii c).mpr ((h cs rfl hfit).2 c hc)
    · have herr := hfail fun cs hcs => not_le.mp fun hle => hroom ⟨cs,hcs,hle⟩
      refine ⟨iff_of_false herr ?_,fun h0 => absurd h0 herr⟩
      rintro ⟨cs,hcs,hfit⟩
      exact hroom ⟨cs,hcs,(h cs hcs hfit).1⟩

end Mswin

section Contracts

/-- When the string getters of the two backends keep the contract, with the
room a string needs counted in cells of the backend's own encoding or in
cells of the ASCII string asked for. -/
theorem stringGetters_keep {D E : Type} (osx : OsxBackend.OsxEnv D) (mswin : MswinBackend.MswinEnv E)
    (key : OsxBackend.StringKey) (usbh : Ptr) (str : Option (List Char)) (buffer : List Byte)
    (w : OsxBackend.OsxWorld D) (v : MswinBackend.MswinWorld E) (hl : 2≤buffer.length)
    (hosx : (osx.stringProperty usbh key w.env).1=str)
    (hmswin : (mswinQuery mswin key usbh v.env).1=str.map utf16Text) :
    ((Keeps utf8Needs str buffer.length (osxGetter osx key usbh buffer buffer.length w) ↔
        ∃ cs,str=some cs ∧ utf8Needs cs≤buffer.length ∧
          ∀ c∈beforeNul nulChar cs,c.toNat<0x80) ∧
      (Keeps asciiNeeds str buffer.length (osxGetter osx key usbh buffer buffer.length w) ↔
        ∃ cs,str=some cs ∧ asciiNeeds cs≤buffer.length ∧
          ∀ c∈beforeNul nulChar cs,c.toNat<0x80)) ∧
    ((Keeps utf16Needs str buffer.length (mswinGetter mswin key usbh buffer buffer.length v) ↔
        ∀ cs,str=some cs → utf16Needs cs≤buffer.length →
          ∀ c∈beforeNul nulChar cs,NarrowsToAscii c) ∧
      (Keeps asciiNeeds str buffer.length (mswinGetter mswin key usbh buffer buffer.length v) ↔
        ∀ cs,str=some cs → asciiNeeds cs≤buffer.length →
          utf16Needs cs≤buffer.length ∧ ∀ c∈beforeNul nulChar cs,NarrowsToAscii c)) := by
  refine ⟨⟨osxGetter_keeps asciiNeeds_le_utf8Needs hl hosx,
    osxGetter_keeps (fun _ => le_refl _) hl hosx⟩,?_,
    mswinGetter_keeps asciiNeeds_le_utf16Needs hmswin⟩
  rw [mswinGetter_keeps (fun _ => le_refl _) hmswin]
  exact forall₃_congr fun cs _ hfit => and_iff_right hfit

/-- An OS X system whose devices all have this string for both properties. -/
def namedOsx (str : Option (List Char)) : OsxBackend.OsxEnv Unit where
  createManager s := (true,s)
  openManager s := (true,s)
  copyDevices s := ([],s)
  stringProperty _ _ s := (str,s)
  setReport _ _ _ _ s := (0,s)
  getReport _ _ _ _ s := ((0,[]),s)

/-- A Windows system whose devices all have this string for both queries. -/
def namedMswin (str : Option (List Char)) : MswinBackend.MswinEnv Unit where
  classDevs s := (none,s)
  manufacturer _ s := (str.map utf16Text,s)
  product _ s := (str.map utf16Text,s)
  setFeature _ _ s := (true,s)
  getFeature _ _ _ s := (none,s)

/-- An OS X process that has not enumerated. -/
def freshOsx : OsxBackend.OsxWorld Unit := ⟨0,0,Ledger.empty,[],fun _ => 0,()⟩

/-- A Windows process that has not enumerated. -/
def freshMswin : MswinBackend.MswinWorld Unit := ⟨Ledger.empty,fun _ => "",()⟩

/-- The contract of the vendor string `IO` in a buffer that holds it as UTF-16. -/
theorem stringGetters_keep_vendor :
    Keeps utf8Needs (some ['I','O']) 6
        (osxGetter (namedOsx (some ['I','O'])) .manufacturer 8 (List.replicate 6 0xCC#8) 6 freshOsx) ∧
      Keeps utf16Needs (some ['I','O']) 6
        (mswinGetter (namedMswin (some ['I','O'])) .manufacturer 8 (List.replicate 6 0xCC#8) 6
          freshMswin) := by
  have h := stringGetters_keep (namedOsx (some ['I','O'])) (namedMswin (some ['I','O'])) .manufacturer 8
    (some ['I','O']) (List.replicate 6 0xCC#8) freshOsx freshMswin (by decide) rfl rfl
  have hascii : ∀ c∈beforeNul nulChar ['I','O'],c.toNat<0x80 := by
    intro c hc
    have hm : c∈['I','O'] := mem_of_mem_beforeNul hc
    simp only [List.mem_cons,List.not_mem_nil,or_false] at hm
    rcases hm with rfl | rfl
    · decide
    · decide
  refine ⟨h.1.1.mpr ⟨_,rfl,by decide,hascii⟩,h.2.1.mpr ?_⟩
  intro cs hcs _
  obtain rfl := Option.some.inj hcs
  exact fun c hc => Or.inl (hascii c hc)

/-- The OS X getters return zero for a device without the string, and the
Windows getters keep a Latin letter that is not ASCII. -/
theorem stringGetters_break :
    (¬Keeps utf8Needs none 8
        (osxGetter (namedOsx none) .product 8 (List.replicate 8 0xCC#8) 8 freshOsx) ∧
      ¬Keeps asciiNeeds none 8
        (osxGetter (namedOsx none) .product 8 (List.replicate 8 0xCC#8) 8 freshOsx)) ∧
    ¬Keeps utf16Needs (some ['é']) 8
      (mswinGetter (namedMswin (some ['é'])) .product 8 (List.replicate 8 0xCC#8) 8 freshMswin) := by
  have hzero : (osxGetter (namedOsx none) .product 8 (List.replicate 8 0xCC#8) 8 freshOsx).err=0 := rfl
  refine ⟨⟨?_,?_⟩,?_⟩
  · intro h
    obtain ⟨cs,hcs,-⟩ := h.returns.mp hzero
    exact nomatch hcs
  · intro h
    obtain ⟨cs,hcs,-⟩ := h.returns.mp hzero
    exact nomatch hcs
  · intro h
    have hread := (h.holds (by decide) ['é'] rfl).2
    exact absurd hread (by decide)

end Contracts

end UsbIo16.StringGetters
