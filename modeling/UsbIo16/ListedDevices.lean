import UsbIo16.Backends
import UsbIo16.DeviceList
import UsbIo16.DeviceVisits
import UsbIo16.ListSessions

/-!
# What a client finds in a list

A client walks a list by the two functions for scripts, or by the links
themselves, and reads the id of each node. Whichever backend built the list
and whatever the devices answered, the walk ends, every id is four printable
characters, and nothing is left allocated besides the nodes.
-/

namespace UsbIo16.ListedDevices

open ByteBuffer Hiddata IoInterface NodeChain DeviceList DeviceVisits Backends ListSessions

section Helpers

/-- Next node in the list. -/
def usbIoDeviceNextDev (ptr_device_info : Ptr) (heap : Heap) : Option Ptr :=
  if ptr_device_info=0 then some 0 else (heap.cell ptr_device_info).map UsbIoInternal.next

/-- The id string of the device: where it stands. -/
def usbIoDeviceGetIdString (ptr_device_info : Ptr) (heap : Heap) : Option Ptr :=
  if ptr_device_info=0 then some 0 else (heap.cell ptr_device_info).map UsbIoInternal.serial_number

/-- The text a pointer to an id string leads to. -/
def textAt (heap : Heap) (p : Ptr) : Option (List Byte) := (heap.cell p).map fun n => cstr n.idstr

/-- The text of `tmp->serial_number`. -/
def serialText (heap : Heap) (tmp : Ptr) : Option (List Byte) :=
  (heap.cell tmp).bind fun n => textAt heap n.serial_number

/-- `for (tmp = list; tmp; tmp = tmp->next)`, with the serial numbers read
on the way, for at most `fuel` nodes. -/
def serials (heap : Heap) : ℕ → Ptr → Option (List (List Byte))
  | 0,tmp => if tmp=0 then some [] else none
  | fuel+1,tmp =>
    if tmp=0 then some []
    else
      (serialText heap tmp).bind fun serial =>
        (heap.cell tmp).bind fun n => (serials heap fuel n.next).map (serial::·)

/-- The same walk by the two functions for scripts. -/
def idStrings (heap : Heap) : ℕ → Ptr → Option (List (List Byte))
  | 0,p => if p=0 then some [] else none
  | fuel+1,p =>
    if p=0 then some []
    else
      (usbIoDeviceGetIdString p heap).bind fun s =>
        (textAt heap s).bind fun id =>
          (usbIoDeviceNextDev p heap).bind fun q => (idStrings heap fuel q).map (id::·)

end Helpers

/-- An id as the cards have it: four printable characters. -/
structure Printable (id : List Byte) : Prop where
  /-- There are four. -/
  length : id.length=USB_IO16_ID_STR_LEN
  /-- None is a space or a control character, and all are ASCII. -/
  ascii : ∀ b∈id,0x20<b.toNat ∧ b.toNat<0x7F

instance (id : List Byte) : Decidable (Printable id) :=
  decidable_of_iff (id.length=USB_IO16_ID_STR_LEN ∧ ∀ b∈id,0x20<b.toNat ∧ b.toNat<0x7F)
    ⟨fun h => ⟨h.1,h.2⟩,fun h => ⟨h.length,h.ascii⟩⟩

/-- There is no terminator among them. -/
theorem Printable.noNul {id : List Byte} (h : Printable id) : 0#8∉id := by
  intro hm
  have hb := (h.ascii _ hm).1
  exact absurd hb (by decide)

section Probe

variable {W : Type} {hid : HidLayer W} {usbh : Ptr} {w v : W} {id : List Byte}

/-- The bytes the id test looks at are those kept. -/
theorem goodId_printable {buffer : List Byte} (h : goodId buffer=true) :
    Printable ((buffer.drop 1).take USB_IO16_ID_STR_LEN) where
  length := goodId_length h
  ascii b hb := by
    obtain ⟨i,hi,rfl⟩ := List.getElem_of_mem hb
    have hlen := goodId_length h
    rw [hlen] at hi
    have hmem : 1+i∈List.range' 1 USB_IO16_ID_STR_LEN := List.mem_range'_1.mpr ⟨by omega,by omega⟩
    have htest := List.all_eq_true.mp h (1+i) hmem
    rw [List.length_take,List.length_drop] at hlen
    have hlt : 1+i<buffer.length := by
      simp only [USB_IO16_ID_STR_LEN] at hlen hi
      omega
    have hget : buffer.getD (1+i) 0#8=buffer[1+i] := by
      rw [List.getD_eq_getElem?_getD,List.getElem?_eq_getElem hlt,Option.getD_some]
    rw [hget] at htest
    rw [List.getElem_take,List.getElem_drop]
    simp only [Bool.not_eq_true',Bool.or_eq_false_iff,decide_eq_false_iff_not] at htest
    omega

/-- An id that the callback accepts is printable. -/
theorem probe_printable (hp : probe hid usbh w=(some id,v)) : Printable id := by
  have hends := probe_ends hid usbh w
  rw [hp] at hends
  cases hends with
  | passed hv hvendor hp hproduct hr hret hgood => exact goodId_printable hgood

end Probe

section Building

variable {before : Heap} {c : Enumctx×Heap} {nodes : List ℤ} {kept : List Kept}

/-- The list built so far is all there is: its ids are printable, and no
other node was allocated. -/
structure Made (before : Heap) (c : Enumctx×Heap) (nodes : List ℤ) (kept : List Kept) : Prop
    extends BuiltList before c nodes kept where
  /-- The ids kept are printable. -/
  printable : ∀ k∈kept,Printable k.id
  /-- A node allocated since is in the list. -/
  tidy : ∀ a : ℤ,(before.calls : ℤ)<a → c.2.cell a≠none → a∈nodes

/-- The empty context has made nothing. -/
theorem Made.start {heap : Heap} (hb : ∀ a : ℤ,(heap.calls : ℤ)<a → heap.cell a=none) :
    Made heap (⟨0,0,0,0⟩,heap) [] [] where
  toBuiltList := BuiltList.start heap hb
  printable _ hk := absurd hk List.not_mem_nil
  tidy a ha hne := absurd (hb a ha) hne

/-- Keeping a device allocates one node. -/
theorem appendNode_cell {a : ℤ} (ha : a≠(c.2.calls : ℤ)+1) (hnone : c.2.cell a=none)
    (hf : c.2.fails c.2.calls=false) (usbh : Ptr) (id : List Byte) : (appendNode c usbh id).2.cell a=none := by
  have hstore := calloc_store_cell hf (keepNode usbh id ((c.2.calls : ℤ)+1))
  have hcell : (Function.update c.2.cell ((c.2.calls : ℤ)+1) (some (keepNode usbh id ((c.2.calls : ℤ)+1)))) a=
      none := by rw [Function.update_of_ne ha,hnone]
  unfold appendNode
  dsimp only
  rw [hstore]
  split
  · exact hcell
  · unfold Heap.setNext
    dsimp only
    split
    · exact hcell
    · next n hn =>
      have hne : a≠c.1.tail := by
        rintro rfl
        rw [hcell] at hn
        cases hn
      exact (Function.update_of_ne hne _ _).trans hcell

/-- A failed allocation makes nothing. -/
theorem Made.nomem (h : Made before c nodes kept) (hf : c.2.fails c.2.calls=true) :
    Made before (c.1,c.2.calloc.2) nodes kept where
  toBuiltList := h.toBuiltList.nomem hf
  printable := h.printable
  tidy a ha hne := by
    have hc : c.2.calloc.2={c.2 with calls := c.2.calls+1} := by rw [Heap.calloc,if_pos hf]
    rw [hc] at hne
    exact h.tidy a ha hne

/-- A device that is kept gets the one node that is allocated. -/
theorem Made.keep (h : Made before c nodes kept) (hf : c.2.fails c.2.calls=false) (usbh : Ptr)
    {id : List Byte} (hid : Printable id) :
    Made before (appendNode c usbh id) (nodes++[(c.2.calls : ℤ)+1]) (kept++[⟨usbh,id⟩]) where
  toBuiltList := h.toBuiltList.keep hf usbh id
  printable k hk := by
    rcases List.mem_append.mp hk with hk|hk
    · exact h.printable k hk
    · rw [List.mem_singleton.mp hk]
      exact hid
  tidy a ha hne := by
    by_cases hq : a=(c.2.calls : ℤ)+1
    · exact List.mem_append_right nodes (List.mem_singleton.mpr hq)
    · exact List.mem_append_left _ (h.tidy a ha fun hnone => hne (appendNode_cell hq hnone hf usbh id))

variable {W : Type} {hid : HidLayer W}

/-- Whatever the callback does with a device, the list stays all there is. -/
theorem Made.enumfunc (h : Made before c nodes kept) (u : Ptr) (w : W) :
    ∃ nodes' kept',Made before (IoInterface.enumfunc hid u c w).context nodes' kept' := by
  cases hp : probe hid u w with
  | mk id v =>
    cases id with
    | none =>
      rw [enumfunc_reject hp]
      exact ⟨nodes,kept,h⟩
    | some id =>
      cases hf : c.2.fails c.2.calls with
      | true =>
        rw [enumfunc_nomem hp hf]
        exact ⟨nodes,kept,h.nomem hf⟩
      | false =>
        rw [enumfunc_keep hp hf]
        exact ⟨_,_,h.keep hf u (probe_printable hp)⟩

end Building

section Nodes

variable {heap : Heap} {head : Ptr} {nodes : List ℤ}

/-- A node as it is listed for a device: its id is printable and terminated,
it is where the serial number points, and the other fields are as for any. -/
structure Listed (a : Ptr) (n : UsbIoInternal) : Prop where
  /-- The id and its terminator. -/
  id : ∃ id,n.idstr=id++[0#8] ∧ Printable id
  /-- The serial number is its own id. -/
  own : n.serial_number=a
  /-- Its number of pins. -/
  type : n.type=16
  /-- The path that stands for none. -/
  path : n.device_path=g_dummyPath

/-- The node made for a device with a printable id. -/
theorem nodeFor_listed {a : Ptr} {k : Kept} (h : NodeFor heap a k) (hk : Printable k.id) :
    ∀ n,heap.cell a=some n → Listed a n := by
  obtain ⟨b,hb⟩ := h
  intro n hn
  obtain rfl := Option.some.inj (hb.symm.trans hn)
  refine ⟨⟨k.id,?_,hk⟩,rfl,rfl,rfl⟩
  have hlen := hk.length
  change writeAt (List.replicate (USB_IO16_ID_STR_LEN+1) 0#8) 0 k.id=_
  rw [writeAt_zero,hlen]
  rfl

/-- All nodes made are listed so. -/
theorem Made.listed {before : Heap} {c : Enumctx×Heap} {kept : List Kept} (h : Made before c nodes kept) :
    ∀ a∈nodes,∀ n,c.2.cell a=some n → Listed a n := by
  obtain ⟨hbuilt,hprintable,-⟩ := h
  have hcontents := hbuilt.contents
  clear hbuilt
  induction hcontents with
  | nil => exact fun a ha => absurd ha List.not_mem_nil
  | @cons a k nodes kept hk _ ih =>
    intro b hb
    rcases List.mem_cons.mp hb with rfl|hb
    · exact nodeFor_listed hk (hprintable k List.mem_cons_self)
    · exact ih (fun k' hk' => hprintable k' (List.mem_cons_of_mem k hk')) b hb

/-- The id of a node, as a text. -/
def idOf (heap : Heap) (a : Ptr) : List Byte := ((heap.cell a).map fun n => cstr n.idstr).getD []

/-- The id of a listed node is its four characters. -/
theorem Listed.text {a : Ptr} {n : UsbIoInternal} (h : Listed a n) (hn : heap.cell a=some n) :
    textAt heap a=some (idOf heap a) ∧ n.idstr=idOf heap a++[0#8] ∧ Printable (idOf heap a) := by
  obtain ⟨id,hid,hprintable⟩ := h.id
  have hcstr : cstr n.idstr=id := by rw [hid,cstr_terminated hprintable.noNul]
  have hof : idOf heap a=id := by rw [idOf,hn,Option.map_some,Option.getD_some,hcstr]
  rw [hof]
  exact ⟨by rw [textAt,hn,Option.map_some,hcstr],hid,hprintable⟩

variable {fuel : ℕ}

/-- The serial number of a listed node leads to its id. -/
theorem serialText_listed {a : Ptr} {n : UsbIoInternal} (hn : heap.cell a=some n) (h : Listed a n) :
    serialText heap a=some (idOf heap a) := by
  rw [serialText,hn,Option.bind_some,h.own]
  exact (h.text hn).1

/-- A client that follows the links reads the ids in order. The induction is
on the nodes. -/
theorem serials_linked (hchain : Chain UsbIoInternal.next 0 heap.cell head nodes) (hfuel : nodes.length≤fuel)
    (hl : ∀ a∈nodes,∀ n,heap.cell a=some n → Listed a n) :
    serials heap fuel head=some (nodes.map (idOf heap)) := by
  induction nodes generalizing head fuel with
  | nil =>
    have hp : head=0 := hchain
    cases fuel <;> rw [serials,if_pos hp,List.map_nil]
  | cons a rest ih =>
    obtain ⟨rfl,ha,n,hn,htail⟩ := hchain
    cases fuel with
    | zero => exact absurd hfuel (by simp)
    | succ fuel =>
      have hserial := serialText_listed hn (hl head List.mem_cons_self n hn)
      have hrest := ih htail (Nat.le_of_succ_le_succ hfuel) fun b hb => hl b (List.mem_cons_of_mem head hb)
      rw [serials,if_neg ha,hserial,Option.bind_some,hn,Option.bind_some,hrest,Option.map_some,List.map_cons]

/-- The functions for scripts read what the links and fields say. -/
theorem idStrings_eq_serials (heap : Heap) (fuel : ℕ) (p : Ptr) : idStrings heap fuel p=serials heap fuel p := by
  induction fuel generalizing p with
  | zero => rfl
  | succ fuel ih =>
    rw [idStrings,serials]
    by_cases hp : p=0
    · rw [if_pos hp,if_pos hp]
    · rw [if_neg hp,if_neg hp,usbIoDeviceGetIdString,if_neg hp,usbIoDeviceNextDev,if_neg hp,serialText]
      cases heap.cell p with
      | none => rfl
      | some n =>
        simp only [Option.map_some,Option.bind_some]
        exact congrArg _ (funext fun id => congrArg _ (ih n.next))

end Nodes

/-- What a client finds in a list: the walks by the links and by the functions
for scripts end and read the same ids, one for each node, each of them printable. -/
structure Readable (heap : Heap) (head : Ptr) : Prop where
  /-- Following the links ends. -/
  ends : ∃ ids,serials heap heap.calls head=some ids ∧ idStrings heap heap.calls head=some ids ∧
    ids=(nodesOf heap head).map (idOf heap) ∧ ∀ id∈ids,Printable id
  /-- Each node is as listed for a device. -/
  listed : ∀ a∈nodesOf heap head,∃ n,heap.cell a=some n ∧ Listed a n ∧ n.idstr=idOf heap a++[0#8]

/-- A list that was just made is readable. -/
theorem readable_of_made {before : Heap} {c : Enumctx×Heap} {nodes : List ℤ} {kept : List Kept}
    (h : Made before c nodes kept) : Readable c.2 c.1.head := by
  have hnodes : nodesOf c.2 c.1.head=nodes := (listOk_of_built h.toBuiltList).1
  have hserials := serials_linked h.chain (length_le_calls h.chain.nodup h.placed) h.listed
  constructor
  · refine ⟨_,hserials,?_,by rw [hnodes],?_⟩
    · rw [idStrings_eq_serials]
      exact hserials
    · intro id hid
      obtain ⟨a,ha,rfl⟩ := List.mem_map.mp hid
      obtain ⟨-,n,hn⟩ := h.chain.mem ha
      exact ((h.listed a ha n hn).text hn).2.2
  · rw [hnodes]
    intro a ha
    obtain ⟨-,n,hn⟩ := h.chain.mem ha
    have hl := h.listed a ha n hn
    exact ⟨n,hn,hl,(hl.text hn).2.1⟩

/-- Whichever backend runs, whatever is attached and however it answers, and
whichever allocations fail: a client can walk the list that is returned, by
the links or by the functions for scripts, and finds one printable id a node. -/
theorem getDeviceList_readable (b : Running) (target : Target) (before : Heap)
    (hbeyond : ∀ a : ℤ,(before.calls : ℤ)<a → before.cell a=none) :
    Readable (usbIoGetDeviceList (b.hid target) before b.world).2.1
      (usbIoGetDeviceList (b.hid target) before b.world).1 := by
  have hkeeps : ∀ u c w,(∃ nodes kept,Made before c nodes kept) →
      ∃ nodes kept,Made before (enumfunc (b.hid target) u c w).context nodes kept := by
    rintro u c w ⟨nodes,kept,h⟩
    exact h.enumfunc u w
  obtain ⟨nodes,kept,h⟩ := enumDevices_keepsContext b target hkeeps ⟨[],[],Made.start hbeyond⟩
  exact readable_of_made h

section TwoCards

open LibusbBackend

/-- The list of a system with two cards. -/
theorem getDeviceList_readable_twoCards :
    let r := usbIoGetDeviceList ((Running.libusb twoCardEnv twoCardWorld).hid ⟨true,fun _ => 0#8⟩)
      (Heap.empty fun _ => false) twoCardWorld
    Readable r.2.1 r.1 ∧ serials r.2.1 r.2.1.calls r.1=some [ascii "ABCD",ascii "WXYZ"] :=
  ⟨getDeviceList_readable (.libusb twoCardEnv twoCardWorld) ⟨true,fun _ => 0#8⟩ (Heap.empty fun _ => false)
    fun _ _ => rfl,by decide +kernel⟩

end TwoCards

end UsbIo16.ListedDevices
