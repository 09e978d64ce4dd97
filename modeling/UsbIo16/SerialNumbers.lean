import Mathlib.Data.List.GetD
import UsbIo16.EnumeratedDevices
import UsbIo16.ListSessions

/-!
# Opening a board by its serial number

The nodes of an enumerated list form a directory from ids to nodes. The
search of `usb_io_device_open_with_serial_number` is a lookup in it: the
first board in enumeration order whose id is the string asked for, and NULL
for any string that is no id.
-/

namespace UsbIo16.SerialNumbers

open ByteBuffer Hiddata IoInterface NodeChain DeviceList EnumeratedDevices

section Directory

variable {α β : Type}

section Keys

variable [BEq α] [LawfulBEq α]

/-- An entry with another key is passed over. -/
theorem lookup_cons_ne {k key : α} (h : k≠key) (value : β) (entries : List (α×β)) :
    ((key,value)::entries).lookup k=entries.lookup k := by
  rw [List.lookup_cons,beq_eq_false_iff_ne.mpr h]

/-- What is found under a key stands at the first place with that key. -/
theorem lookup_zip_first {keys : List α} {values : List β} {k : α} {b : β}
    (h : (keys.zip values).lookup k=some b) :
    ∃ i : ℕ,keys[i]?=some k ∧ values[i]?=some b ∧ ∀ j < i,keys[j]?≠some k := by
  induction keys generalizing values with
  | nil => exact nomatch h
  | cons key keys ih =>
    cases values with
    | nil => exact nomatch h
    | cons value values =>
      rw [List.zip_cons_cons] at h
      by_cases hk : k=key
      · rw [hk,List.lookup_cons_self] at h
        exact ⟨0,congrArg some hk.symm,h,fun j hj => absurd hj (Nat.not_lt_zero j)⟩
      · rw [lookup_cons_ne hk] at h
        obtain ⟨i,hkey,hvalue,hfirst⟩ := ih h
        refine ⟨i+1,hkey,hvalue,fun j hj => ?_⟩
        cases j with
        | zero => exact fun he => hk (Option.some.inj he).symm
        | succ j => exact hfirst j (Nat.lt_of_succ_lt_succ hj)

/-- A key that is there is found. -/
theorem lookup_zip_some {keys : List α} {values : List β} (hl : keys.length=values.length) {k : α}
    (h : k∈keys) : ∃ b,(keys.zip values).lookup k=some b := by
  induction keys generalizing values with
  | nil => exact absurd h List.not_mem_nil
  | cons key keys ih =>
    cases values with
    | nil => exact nomatch hl
    | cons value values =>
      rw [List.zip_cons_cons]
      by_cases hk : k=key
      · rw [hk]
        exact ⟨value,List.lookup_cons_self⟩
      · rw [lookup_cons_ne hk]
        exact ih (Nat.succ.inj hl) ((List.mem_cons.mp h).resolve_left hk)

/-- With different keys everywhere, every entry is found under its key. -/
theorem lookup_zip_nodup {keys : List α} {values : List β} (hl : keys.length=values.length)
    (hn : keys.Nodup) {i : ℕ} {k : α} {b : β} (hk : keys[i]?=some k) (hb : values[i]?=some b) :
    (keys.zip values).lookup k=some b := by
  obtain ⟨c,hc⟩ := lookup_zip_some hl (List.mem_of_getElem? hk)
  obtain ⟨j,hj,hcj,-⟩ := lookup_zip_first hc
  obtain rfl : j=i := by
    obtain ⟨hlt,-⟩ := List.getElem?_eq_some_iff.mp hj
    exact (List.getElem?_inj hlt hn).mp (hj.trans hk.symm)
  rw [hc,←hcj,hb]

/-- With different keys and different values, what is found is the value of an
entry exactly when the key looked up is its key. -/
theorem lookup_zip_eq_iff {keys : List α} {values : List β} (hl : keys.length=values.length)
    (hkeys : keys.Nodup) (hvalues : values.Nodup) {k key : α} {b value : β}
    (h : (keys.zip values).lookup k=some b) {i : ℕ} (hk : keys[i]?=some key) (hv : values[i]?=some value) :
    b=value ↔ k=key := by
  constructor
  · rintro rfl
    obtain ⟨j,hj,hbj,-⟩ := lookup_zip_first h
    have hji : j=i := by
      obtain ⟨hlt,-⟩ := List.getElem?_eq_some_iff.mp hbj
      exact (List.getElem?_inj hlt hvalues).mp (hbj.trans hv.symm)
    subst hji
    exact Option.some.inj (hj.symm.trans hk)
  · rintro rfl
    exact Option.some.inj (h.symm.trans (lookup_zip_nodup hl hkeys hk hv))

end Keys

/-- Related lists are related at every place. -/
theorem forall₂_getElem? {R : α → β → Prop} {as : List α} {bs : List β} (h : List.Forall₂ R as bs) {i : ℕ}
    {a : α} {b : β} (ha : as[i]?=some a) (hb : bs[i]?=some b) : R a b := by
  obtain ⟨hi,rfl⟩ := List.getElem?_eq_some_iff.mp ha
  obtain ⟨hj,rfl⟩ := List.getElem?_eq_some_iff.mp hb
  exact h.get hi hj

end Directory

section Search

/-- A node that can be opened: it holds a valid handle and its own id. -/
structure Openable (heap : Heap) (a : Ptr) (k : Kept) : Prop where
  /-- The node of this device. -/
  node : ∃ n,heap.cell a=some n ∧ n.serial_number=a ∧ cstr n.idstr=k.id ∧ n.usbh=k.usbh
  /-- Its handle is neither of the two failure values. -/
  valid : k.usbh≠0 ∧ k.usbh≠-1

/-- The search is a lookup in the directory of the list. -/
theorem serialLoop_lookup {heap : Heap} (serial_number : List Byte) {p : Ptr} {nodes : List ℤ}
    {kept : List Kept} {fuel : ℕ} (hchain : Chain UsbIoInternal.next 0 heap.cell p nodes)
    (hfuel : nodes.length≤fuel) (hnodes : List.Forall₂ (Openable heap) nodes kept) :
    serialLoop serial_number fuel p heap=
      some ((((kept.map Kept.id).zip nodes).lookup (cstr serial_number)).getD 0) := by
  induction hnodes generalizing p fuel with
  | nil =>
    have hp : p=0 := hchain
    cases fuel <;> rw [serialLoop,if_pos hp] <;> rfl
  | @cons a k nodes kept hnode hrest ih =>
    obtain ⟨rfl,ha,n,hn,htail⟩ := hchain
    obtain ⟨⟨m,hm,hserial,hid,husbh⟩,hvalid⟩ := hnode
    obtain rfl : n=m := Option.some.inj (hn.symm.trans hm)
    cases fuel with
    | zero => exact absurd hfuel (by simp)
    | succ fuel =>
      rw [serialLoop,if_neg ha,hn,Option.bind_some,hserial,hn,Option.bind_some,List.map_cons,
        List.zip_cons_cons]
      by_cases hc : cstr serial_number=k.id
      · have hz : strcmp n.idstr serial_number=0 := (strcmp_eq_zero _ _).mpr (hid.trans hc.symm)
        have hopen : ¬(n.usbh=0 ∨ n.usbh=-1) := by
          rw [husbh]
          exact not_or.mpr hvalid
        rw [if_neg (not_not.mpr hz),hc,List.lookup_cons_self,usbIoOpenDevice,if_neg ha,hn,
          Option.map_some,if_neg hopen,Option.getD_some]
      · have hz : strcmp n.idstr serial_number≠0 := fun h =>
          hc (((strcmp_eq_zero _ _).mp h).symm.trans hid)
        rw [if_pos hz,lookup_cons_ne hc]
        exact ih htail (by simpa only [List.length_cons,Nat.add_le_add_iff_right] using hfuel)

/-- Opening by serial number is a lookup of the string in the directory. -/
theorem openWithSerialNumber_lookup {heap : Heap} (serial_number : List Byte) {p : Ptr} {nodes : List ℤ}
    {kept : List Kept} (hchain : Chain UsbIoInternal.next 0 heap.cell p nodes)
    (hfuel : nodes.length≤heap.calls) (hnodes : List.Forall₂ (Openable heap) nodes kept) :
    usbIoDeviceOpenWithSerialNumber p (some serial_number) heap=
      some ((((kept.map Kept.id).zip nodes).lookup (cstr serial_number)).getD 0) := by
  rw [usbIoDeviceOpenWithSerialNumber]
  by_cases hp : p=0
  · -- the list is empty
    obtain rfl := hchain.nil_iff.mpr hp
    simp only [if_pos hp,List.zip_nil_right,List.lookup_nil,Option.getD_none]
  · simp only [if_neg hp]
    exact serialLoop_lookup serial_number hchain hfuel hnodes

end Search

section Boards

/-- An accepted device is one of those handed over, and passed the tests. -/
theorem mem_accepted {fails : ℕ → Bool} {calls : ℕ} {visits : List Visit} {v : Visit}
    (h : v∈accepted fails calls visits) : v∈visits ∧ v.answer.Accepted := by
  obtain ⟨p,hp,rfl⟩ := List.mem_map.mp h
  have hz := List.fst_mem_of_mem_zipIdx (List.mem_of_mem_filter hp)
  obtain ⟨hmem,hok⟩ := List.mem_filter.mp hz
  exact ⟨hmem,of_decide_eq_true hok⟩

/-- The id of an accepted device is four printable characters. -/
theorem accepted_id {a : Answer} (h : a.Accepted) : a.id.length=4 ∧ 0#8∉a.id := by
  have hn := a.report.nine
  have hl : a.id.length=4 := by
    rw [Answer.id,List.length_take,List.length_drop]
    omega
  refine ⟨hl,fun hm => ?_⟩
  obtain ⟨i,hi,he⟩ := List.getElem_of_mem hm
  have hprint := h.2.2.2 (1+i) (List.mem_range'_1.mpr ⟨by omega,by omega⟩)
  have hget : a.report.data.getD (1+i) 0#8=0#8 := by
    rw [List.getD_eq_getElem _ _ (by omega),←he]
    simp only [Answer.id,List.getElem_take,List.getElem_drop]
  rw [hget] at hprint
  exact absurd hprint (by decide)

/-- The nodes built for accepted devices with valid handles can be opened. -/
theorem nodeFor_openable {heap : Heap} {a : Ptr} {v : Visit} (h : NodeFor heap a v.kept)
    (hok : v.answer.Accepted) (hvalid : v.usbh≠0 ∧ v.usbh≠-1) : Openable heap a v.kept := by
  obtain ⟨b,hb⟩ := h
  obtain ⟨hl,hz⟩ := accepted_id hok
  refine ⟨⟨_,hb,rfl,?_,rfl⟩,hvalid⟩
  have hid : (writeAt zeroNode.idstr 0 v.answer.id)=v.answer.id++[0#8] := by
    rw [writeAt_zero,hl]
    rfl
  exact (congrArg cstr hid).trans (cstr_terminated hz [])

/-- What opening by a string gives on the list of these boards: a handle
exactly when the string is the id of a board, and then the first such board. -/
structure OpensFirst (heap : Heap) (nodes : List ℤ) (boards : List Visit) (serial : List Byte)
    (h : Ptr) : Prop where
  /-- A board is opened exactly when one has this id. -/
  opened : h≠0 ↔ ∃ v∈boards,v.answer.id=serial
  /-- It is the first one with this id, and the node holds its handle. -/
  first : h≠0 → ∃ (i : ℕ) (v : Visit) (n : UsbIoInternal),boards[i]?=some v ∧ nodes[i]?=some h ∧ v.answer.id=serial ∧
    (∀ j < i,∀ u : Visit,boards[j]?=some u → u.answer.id≠serial) ∧ heap.cell h=some n ∧ n.usbh=v.usbh
  /-- A string that is shorter or longer than an id opens nothing. -/
  length : serial.length≠4 → h=0
  /-- With different ids, every board is opened by its id and by no other string. -/
  own : (boards.map fun v => v.answer.id).Nodup → ∀ (i : ℕ) (v : Visit) (a : ℤ),boards[i]?=some v →
    nodes[i]?=some a → (h=a ↔ serial=v.answer.id)

/-- Without a board of this id nothing is opened. -/
theorem opensFirst_none {heap : Heap} {nodes : List ℤ} {boards : List Visit} {serial : List Byte}
    (hnonzero : ∀ a∈nodes,a≠0) (hno : ∀ v∈boards,v.answer.id≠serial) :
    OpensFirst heap nodes boards serial 0 where
  opened := iff_of_false (not_not.mpr rfl) fun ⟨v,hv,he⟩ => hno v hv he
  first h := absurd rfl h
  length _ := rfl
  own _ i v a hv ha := by
    refine iff_of_false ?_ ?_
    · exact fun h0 => hnonzero a (List.mem_of_getElem? ha) h0.symm
    · exact fun he => hno v (List.mem_of_getElem? hv) he.symm

/-- A node found under an id is the one of the first board with it. -/
theorem opensFirst_some {heap : Heap} {p : Ptr} {nodes : List ℤ} {boards : List Visit} {serial : List Byte}
    {h : Ptr} (hchain : Chain UsbIoInternal.next 0 heap.cell p nodes)
    (hnodes : List.Forall₂ (Openable heap) nodes (boards.map Visit.kept))
    (hids : ∀ v∈boards,v.answer.id.length=4) (hl : (boards.map fun v => v.answer.id).length=nodes.length)
    (hlook : ((boards.map fun v => v.answer.id).zip nodes).lookup serial=some h) :
    OpensFirst heap nodes boards serial h := by
  obtain ⟨i,hkey,hnode,hfirst⟩ := lookup_zip_first hlook
  rw [List.getElem?_map] at hkey
  obtain ⟨v,hv,hid⟩ := Option.map_eq_some_iff.mp hkey
  have hh : h≠0 := (hchain.mem (List.mem_of_getElem? hnode)).1
  refine ⟨iff_of_true hh ⟨v,List.mem_of_getElem? hv,hid⟩,fun _ => ?_,fun hlen => ?_,?_⟩
  · have hkept : (boards.map Visit.kept)[i]?=some v.kept := by rw [List.getElem?_map,hv,Option.map_some]
    obtain ⟨n,hn,-,-,husbh⟩ := (forall₂_getElem? hnodes hnode hkept).node
    refine ⟨i,v,n,hv,hnode,hid,fun j hj u hu he => hfirst j hj ?_,hn,husbh⟩
    rw [List.getElem?_map,hu,Option.map_some,he]
  · exact absurd (hid ▸ hids v (List.mem_of_getElem? hv)) hlen
  · intro hdistinct j u a hu ha
    have hkeyu : (boards.map fun v => v.answer.id)[j]?=some u.answer.id := by
      rw [List.getElem?_map,hu,Option.map_some]
    exact lookup_zip_eq_iff hl hdistinct hchain.nodup hlook hkeyu ha

/-- A lookup in the directory of a list of boards opens the first one. -/
theorem lookup_opensFirst {heap : Heap} {p : Ptr} {nodes : List ℤ} {boards : List Visit}
    (hchain : Chain UsbIoInternal.next 0 heap.cell p nodes)
    (hnodes : List.Forall₂ (Openable heap) nodes (boards.map Visit.kept))
    (hids : ∀ v∈boards,v.answer.id.length=4) (serial : List Byte) :
    OpensFirst heap nodes boards serial
      ((((boards.map fun v => v.answer.id).zip nodes).lookup serial).getD 0) := by
  have hl : (boards.map fun v => v.answer.id).length=nodes.length := by
    have hlen := hnodes.length_eq
    rw [List.length_map] at hlen ⊢
    exact hlen.symm
  cases hlook : ((boards.map fun v => v.answer.id).zip nodes).lookup serial with
  | none =>
    refine opensFirst_none (fun a ha => (hchain.mem ha).1) fun v hv he => ?_
    obtain ⟨b,hb⟩ := lookup_zip_some hl (List.mem_map.mpr ⟨v,hv,he⟩)
    rw [hlook] at hb
    exact nomatch hb
  | some h => exact opensFirst_some hchain hnodes hids hl hlook

/-- For every sequence of devices with valid handles, every heap to start from
and every string, opening by that string in the list built from the devices
opens the first accepted board whose id it is, and nothing if there is none. -/
theorem openWithSerialNumber_first (target : Target) (visits : List Visit)
    (hvalid : ∀ v∈visits,v.usbh≠0 ∧ v.usbh≠-1) (before : Heap)
    (hbeyond : ∀ a : ℤ,(before.calls : ℤ)<a → before.cell a=none) (w : Script) (serial : CString)
    (rest : List Byte) :
    let r := (handOver (enumfunc (scriptHid target)) visits (⟨0,0,0,0⟩,before) w).1
    let boards := accepted before.fails before.calls visits
    ∃ (nodes : List ℤ) (h : Ptr),Chain UsbIoInternal.next 0 r.2.cell r.1.head nodes ∧
      nodes.length=boards.length ∧
      usbIoDeviceOpenWithSerialNumber r.1.head (some (serial.bytes++0#8::rest)) r.2=some h ∧
      OpensFirst r.2 nodes boards serial.bytes h := by
  intro r boards
  obtain ⟨nodes,hlist⟩ := handOver_builtList target visits (BuiltList.start before hbeyond) w
  rw [List.nil_append,List.nil_append] at hlist
  have hok : ∀ v∈boards,v.answer.Accepted := fun v hv => (mem_accepted hv).2
  have hids : ∀ v∈boards,v.answer.id.length=4 := fun v hv => (accepted_id (hok v hv)).1
  have hnodes : List.Forall₂ (Openable r.2) nodes (boards.map Visit.kept) := by
    rw [List.forall₂_map_right_iff]
    obtain ⟨hlen,hzip⟩ := List.forall₂_iff_zip.mp (List.forall₂_map_right_iff.mp hlist.contents)
    refine List.forall₂_iff_zip.mpr ⟨hlen,fun hm => ?_⟩
    have hv := (List.of_mem_zip hm).2
    exact nodeFor_openable (hzip hm) (hok _ hv) (hvalid _ (mem_accepted hv).1)
  have hfuel : nodes.length≤r.2.calls := ListSessions.length_le_calls hlist.chain.nodup hlist.placed
  have hopen := openWithSerialNumber_lookup (serial.bytes++0#8::rest) hlist.chain hfuel hnodes
  rw [cstr_terminated serial.noNul,List.map_map] at hopen
  have hlen := hnodes.length_eq
  rw [List.length_map] at hlen
  exact ⟨nodes,_,hlist.chain,hlen,hopen,lookup_opensFirst hlist.chain hnodes hids serial.bytes⟩

/-- A card whose id is one character four times. -/
def cardVisit (usbh : Ptr) (b : Byte) : Visit where
  usbh := usbh
  answer :=
    { vendor := ⟨0,⟨USB_IO16_VENDOR_NAME,by decide⟩⟩
      product := ⟨0,⟨USB_IO16_NAME,by decide⟩⟩
      report := ⟨0,9,[0#8,b,b,b,b,0#8,0#8,0#8,0#8],rfl⟩ }

/-- The second of two cards is opened by its id. -/
theorem openWithSerialNumber_first_cards :
    ∃ h,usbIoDeviceOpenWithSerialNumber
        (handOver (enumfunc (scriptHid ⟨true,fun _ => 0#8⟩)) [cardVisit 100 0x41#8,cardVisit 101 0x42#8]
          (⟨0,0,0,0⟩,Heap.empty fun _ => false) ⟨(cardVisit 100 0x41#8).answer,[]⟩).1.1.head
        (some (ascii "BBBB"++0#8::[]))
        (handOver (enumfunc (scriptHid ⟨true,fun _ => 0#8⟩)) [cardVisit 100 0x41#8,cardVisit 101 0x42#8]
          (⟨0,0,0,0⟩,Heap.empty fun _ => false) ⟨(cardVisit 100 0x41#8).answer,[]⟩).1.2=some h ∧ h≠0 := by
  have hvalid : ∀ v∈[cardVisit 100 0x41#8,cardVisit 101 0x42#8],v.usbh≠0 ∧ v.usbh≠-1 := by
    intro v hv
    simp only [List.mem_cons,List.not_mem_nil,or_false] at hv
    rcases hv with rfl|rfl
    · decide
    · decide
  obtain ⟨nodes,h,-,-,hopen,hfirst⟩ := openWithSerialNumber_first ⟨true,fun _ => 0#8⟩
    [cardVisit 100 0x41#8,cardVisit 101 0x42#8] hvalid (Heap.empty fun _ => false) (fun _ _ => rfl)
    ⟨(cardVisit 100 0x41#8).answer,[]⟩ ⟨ascii "BBBB",by decide⟩ []
  refine ⟨h,hopen,hfirst.opened.mpr ⟨cardVisit 101 0x42#8,?_,rfl⟩⟩
  have hboards : accepted (fun _ => false) 0 [cardVisit 100 0x41#8,cardVisit 101 0x42#8]=
      [cardVisit 100 0x41#8,cardVisit 101 0x42#8] := by
    rw [accepted_pass (by decide),if_neg Bool.false_ne_true,accepted_pass (by decide),
      if_neg Bool.false_ne_true]
    rfl
  exact hboards ▸ List.mem_cons_of_mem _ List.mem_cons_self

end Boards

end UsbIo16.SerialNumbers
