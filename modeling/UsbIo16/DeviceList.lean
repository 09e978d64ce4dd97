import UsbIo16.IoInterface
import UsbIo16.NodeChain

/-!
# The list built by the enumeration callback

What `enumfunc` does with one device is said once: it probes the device,
and then either appends a node for it or closes it. From this the list
invariant follows for any sequence of devices, and the list is found to be
the accepted devices in the order they were handed over.
-/

namespace UsbIo16.DeviceList

open ByteBuffer Hiddata IoInterface NodeChain

section Callback

variable {W : Type} (hid : HidLayer W)

/-- The tests of `enumfunc` on a device: the bytes of its id when it passes
all of them, and the world after the queries made. -/
def probe (usbh : Ptr) (w : W) : Option (List Byte)×W :=
  let v := hid.usbhidGetVendorString usbh ((List.range 256).map hid.indeterminate) 256 w
  if v.err≠0 then (none,v.world)
  else if strcmp v.buffer USB_IO16_VENDOR_NAME≠0 then (none,v.world)
  else
    let p := hid.usbhidGetProductString usbh v.buffer 256 v.world
    if p.err≠0 then (none,p.world)
    else if strcmp p.buffer USB_IO16_NAME≠0 then (none,p.world)
    else
      let r := d16ReadRep hid usbh 0 (some p.buffer) p.world
      if r.ret<0 then (none,r.world)
      else if goodId (r.raw_data.getD [])=false then (none,r.world)
      else (some (((r.raw_data.getD []).drop 1).take USB_IO16_ID_STR_LEN),r.world)

/-- The node kept for a device, before it is linked. -/
def keepNode (usbh : Ptr) (id : List Byte) (q : Ptr) : UsbIoInternal :=
  {zeroNode with
    usbh := usbh
    idstr := writeAt zeroNode.idstr 0 id
    type := 16
    serial_number := q
    device_path := g_dummyPath}

/-- The context and the heap after a device was kept. -/
def appendNode (c : Enumctx×Heap) (usbh : Ptr) (id : List Byte) : Enumctx×Heap :=
  let q : Ptr := (c.2.calls : ℤ)+1
  let heap := c.2.calloc.2.store q (keepNode usbh id q)
  if c.1.head=0 then ({c.1 with head := q,tail := q,numdevs := c.1.numdevs+1},heap)
  else ({c.1 with tail := q,numdevs := c.1.numdevs+1},heap.setNext c.1.tail q)

variable {hid} {usbh : Ptr} {c : Enumctx×Heap} {w : W}

/-- A string query names the device as expected. -/
def Names (s : StringReply W) (name : List Byte) : Prop := s.err=0 ∧ strcmp s.buffer name=0

variable (hid usbh w)

/-- How the probe of a device can end, with the queries made: at one of its
two names, at its report, or with an id. -/
inductive ProbeEnds : Option (List Byte)×W → Prop
  | vendor {v : StringReply W}
      (hv : hid.usbhidGetVendorString usbh ((List.range 256).map hid.indeterminate) 256 w=v)
      (hbad : ¬Names v USB_IO16_VENDOR_NAME) : ProbeEnds (none,v.world)
  | product {v p : StringReply W}
      (hv : hid.usbhidGetVendorString usbh ((List.range 256).map hid.indeterminate) 256 w=v)
      (hvendor : Names v USB_IO16_VENDOR_NAME)
      (hp : hid.usbhidGetProductString usbh v.buffer 256 v.world=p)
      (hbad : ¬Names p USB_IO16_NAME) : ProbeEnds (none,p.world)
  | report {v p : StringReply W} {r : ReadRepReply W}
      (hv : hid.usbhidGetVendorString usbh ((List.range 256).map hid.indeterminate) 256 w=v)
      (hvendor : Names v USB_IO16_VENDOR_NAME)
      (hp : hid.usbhidGetProductString usbh v.buffer 256 v.world=p)
      (hproduct : Names p USB_IO16_NAME)
      (hr : d16ReadRep hid usbh 0 (some p.buffer) p.world=r)
      (hbad : r.ret<0 ∨ goodId (r.raw_data.getD [])=false) : ProbeEnds (none,r.world)
  | passed {v p : StringReply W} {r : ReadRepReply W}
      (hv : hid.usbhidGetVendorString usbh ((List.range 256).map hid.indeterminate) 256 w=v)
      (hvendor : Names v USB_IO16_VENDOR_NAME)
      (hp : hid.usbhidGetProductString usbh v.buffer 256 v.world=p)
      (hproduct : Names p USB_IO16_NAME)
      (hr : d16ReadRep hid usbh 0 (some p.buffer) p.world=r)
      (hret : ¬r.ret<0) (hgood : goodId (r.raw_data.getD [])=true) :
      ProbeEnds (some (((r.raw_data.getD []).drop 1).take USB_IO16_ID_STR_LEN),r.world)

/-- The probe ends in one of these ways. -/
theorem probe_ends : ProbeEnds hid usbh w (probe hid usbh w) := by
  unfold probe
  dsimp only
  generalize hv : hid.usbhidGetVendorString usbh ((List.range 256).map hid.indeterminate) 256 w=v
  by_cases h1 : v.err≠0
  · rw [if_pos h1]
    exact .vendor hv fun h => h1 h.1
  rw [if_neg h1]
  by_cases h2 : strcmp v.buffer USB_IO16_VENDOR_NAME≠0
  · rw [if_pos h2]
    exact .vendor hv fun h => h2 h.2
  rw [if_neg h2]
  have hvendor : Names v USB_IO16_VENDOR_NAME := ⟨not_not.mp h1,not_not.mp h2⟩
  generalize hp : hid.usbhidGetProductString usbh v.buffer 256 v.world=p
  by_cases h3 : p.err≠0
  · rw [if_pos h3]
    exact .product hv hvendor hp fun h => h3 h.1
  rw [if_neg h3]
  by_cases h4 : strcmp p.buffer USB_IO16_NAME≠0
  · rw [if_pos h4]
    exact .product hv hvendor hp fun h => h4 h.2
  rw [if_neg h4]
  have hproduct : Names p USB_IO16_NAME := ⟨not_not.mp h3,not_not.mp h4⟩
  generalize hr : d16ReadRep hid usbh 0 (some p.buffer) p.world=r
  by_cases h5 : r.ret<0
  · rw [if_pos h5]
    exact .report hv hvendor hp hproduct hr (.inl h5)
  rw [if_neg h5]
  by_cases h6 : goodId (r.raw_data.getD [])=false
  · rw [if_pos h6]
    exact .report hv hvendor hp hproduct hr (.inr h6)
  rw [if_neg h6]
  exact .passed hv hvendor hp hproduct hr h5 (Bool.eq_true_of_not_eq_false h6)

variable {hid usbh w}

/-- `enumfunc` probes the device and then keeps it or closes it; it always
asks for the next one. -/
theorem enumfunc_eq : enumfunc hid usbh c w=
    match probe hid usbh w with
    | (none,v) => ⟨1,c,hid.usbhidCloseDevice usbh v⟩
    | (some id,v) =>
      if c.2.fails c.2.calls=true then ⟨1,(c.1,c.2.calloc.2),hid.usbhidCloseDevice usbh v⟩
      else ⟨1,appendNode c usbh id,v⟩ := by
  have hq : (c.2.calls : ℤ)+1≠0 := by omega
  unfold enumfunc probe
  dsimp only
  generalize hid.usbhidGetVendorString usbh ((List.range 256).map hid.indeterminate) 256 w=v
  generalize hid.usbhidGetProductString usbh v.buffer 256 v.world=p
  generalize d16ReadRep hid usbh 0 (some p.buffer) p.world=r
  by_cases h1 : v.err≠0
  · rw [if_pos h1,if_pos h1]
  rw [if_neg h1,if_neg h1]
  by_cases h2 : strcmp v.buffer USB_IO16_VENDOR_NAME≠0
  · rw [if_pos h2,if_pos h2]
  rw [if_neg h2,if_neg h2]
  by_cases h3 : p.err≠0
  · rw [if_pos h3,if_pos h3]
  rw [if_neg h3,if_neg h3]
  by_cases h4 : strcmp p.buffer USB_IO16_NAME≠0
  · rw [if_pos h4,if_pos h4]
  rw [if_neg h4,if_neg h4]
  by_cases h5 : r.ret<0
  · rw [if_pos h5,if_pos h5]
  rw [if_neg h5,if_neg h5]
  by_cases h6 : goodId (r.raw_data.getD [])=false
  · rw [if_pos h6,if_pos h6]
  rw [if_neg h6,if_neg h6]
  by_cases hf : c.2.fails c.2.calls=true
  · have hc : c.2.calloc.1=0 := by rw [Heap.calloc,if_pos hf]
    rw [if_pos hc]
    dsimp only
    rw [if_pos hf]
  · have hc : c.2.calloc.1=(c.2.calls : ℤ)+1 := by rw [Heap.calloc,if_neg hf]
    rw [if_neg (by rw [hc]; exact hq)]
    dsimp only
    rw [if_neg hf]
    dsimp only [appendNode,keepNode]
    rw [hc]
    split <;> rfl

/-- A device that fails a test is closed. -/
theorem enumfunc_reject {v : W} (hp : probe hid usbh w=(none,v)) :
    enumfunc hid usbh c w=⟨1,c,hid.usbhidCloseDevice usbh v⟩ := by
  rw [enumfunc_eq,hp]

/-- A device for which no node can be allocated is closed. -/
theorem enumfunc_nomem {v : W} {id : List Byte} (hp : probe hid usbh w=(some id,v))
    (hf : c.2.fails c.2.calls=true) :
    enumfunc hid usbh c w=⟨1,(c.1,c.2.calloc.2),hid.usbhidCloseDevice usbh v⟩ := by
  rw [enumfunc_eq,hp]
  exact if_pos hf

/-- Any other device is kept open and appended. -/
theorem enumfunc_keep {v : W} {id : List Byte} (hp : probe hid usbh w=(some id,v))
    (hf : c.2.fails c.2.calls=false) :
    enumfunc hid usbh c w=⟨1,appendNode c usbh id,v⟩ := by
  rw [enumfunc_eq,hp]
  exact if_neg (by rw [hf]; decide)

/-- A buffer that passes the id test holds the whole id: a missing byte
would count as zero. -/
theorem goodId_length {buffer : List Byte} (hgood : goodId buffer=true) :
    ((buffer.drop 1).take USB_IO16_ID_STR_LEN).length=USB_IO16_ID_STR_LEN := by
  have h5 : 5≤buffer.length := by
    by_contra hs
    have hzero : buffer.getD 4 0#8=0#8 := by
      rw [List.getD_eq_getElem?_getD,List.getElem?_eq_none (by omega),Option.getD_none]
    have hfour := List.all_eq_true.mp hgood 4 (by decide)
    rw [hzero] at hfour
    exact absurd hfour (by decide)
  simp only [List.length_take,List.length_drop,USB_IO16_ID_STR_LEN]
  omega

end Callback

section Invariant

/-- A device kept by the callback: its handle and the bytes of its id. -/
structure Kept where
  usbh : Ptr
  id : List Byte

/-- The node at `a` is the one made for `k`, whatever its successor. -/
def NodeFor (heap : Heap) (a : Ptr) (k : Kept) : Prop :=
  ∃ b,heap.cell a=some {keepNode k.usbh k.id a with next := b}

/-- The list built so far from a heap: the nodes are linked in order from
head to tail, they are the ones of the devices kept, and only addresses
that the heap had not given out before were used. -/
structure BuiltList (before : Heap) (c : Enumctx×Heap) (nodes : List ℤ) (kept : List Kept) : Prop where
  /-- The nodes are linked from the head to the end of the list. -/
  chain : Chain UsbIoInternal.next 0 c.2.cell c.1.head nodes
  /-- The tail is the last of them. -/
  tail : c.1.tail=nodes.getLast?.getD 0
  /-- Their number is counted. -/
  numdevs : c.1.numdevs=nodes.length
  /-- They are the nodes of the devices kept, in order. -/
  contents : List.Forall₂ (NodeFor c.2) nodes kept
  /-- Their addresses are new. -/
  fresh : ∀ a∈nodes,(before.calls : ℤ)<a ∧ a≤(c.2.calls : ℤ)
  /-- Calls are only added. -/
  calls : before.calls≤c.2.calls
  /-- No address beyond the calls made is in use. -/
  beyond : ∀ a : ℤ,(c.2.calls : ℤ)<a → c.2.cell a=none
  /-- Nodes that were there before are untouched. -/
  frame : ∀ a : ℤ,a≤(before.calls : ℤ) → c.2.cell a=before.cell a
  /-- The pattern of failing calls stays the same. -/
  fails : c.2.fails=before.fails

variable {before : Heap} {c : Enumctx×Heap} {nodes : List ℤ} {kept : List Kept}

/-- The empty context is a list of no nodes. -/
theorem BuiltList.start (heap : Heap) (hb : ∀ a : ℤ,(heap.calls : ℤ)<a → heap.cell a=none) :
    BuiltList heap (⟨0,0,0,0⟩,heap) [] [] where
  chain := rfl
  tail := rfl
  numdevs := rfl
  contents := .nil
  fresh := by simp
  calls := le_rfl
  beyond := hb
  frame _ _ := rfl
  fails := rfl

/-- A failed allocation disturbs nothing. -/
theorem BuiltList.nomem (h : BuiltList before c nodes kept) (hf : c.2.fails c.2.calls=true) :
    BuiltList before (c.1,c.2.calloc.2) nodes kept := by
  have hc : c.2.calloc.2={c.2 with calls := c.2.calls+1} := by rw [Heap.calloc,if_pos hf]
  rw [hc]
  refine ⟨h.chain,h.tail,h.numdevs,h.contents,?_,?_,?_,h.frame,h.fails⟩
  · intro a ha
    obtain ⟨hlo,hhi⟩ := h.fresh a ha
    refine ⟨hlo,?_⟩
    push_cast
    omega
  · exact h.calls.trans (Nat.le_succ _)
  · intro a ha
    dsimp only at ha
    exact h.beyond a (by omega)

/-- The heap after a node was allocated and filled, before it is linked. -/
theorem calloc_store_cell {heap : Heap} (hf : heap.fails heap.calls=false) (n : UsbIoInternal) :
    heap.calloc.2.store ((heap.calls : ℤ)+1) n=
      {heap with
        cell := Function.update heap.cell ((heap.calls : ℤ)+1) (some n)
        calls := heap.calls+1} := by
  have hn : ¬heap.fails heap.calls=true := by rw [hf]; decide
  rw [Heap.calloc,if_neg hn]
  simp only [Heap.store,Function.update_idem]

/-- The heap after the first node of a list was kept. -/
theorem appendNode_first (hh : c.1.head=0) (hf : c.2.fails c.2.calls=false) (usbh : Ptr) (id : List Byte) :
    appendNode c usbh id=
      ({c.1 with head := (c.2.calls : ℤ)+1,tail := (c.2.calls : ℤ)+1,numdevs := c.1.numdevs+1},
        {c.2 with
          cell := Function.update c.2.cell ((c.2.calls : ℤ)+1)
            (some (keepNode usbh id ((c.2.calls : ℤ)+1)))
          calls := c.2.calls+1}) := by
  simp only [appendNode,if_pos hh,calloc_store_cell hf]

/-- The heap after a later node was kept: the old tail points to it. -/
theorem appendNode_next (hh : c.1.head≠0) (hf : c.2.fails c.2.calls=false) {last : UsbIoInternal}
    (ht : c.2.cell c.1.tail=some last) (hq : c.1.tail≠(c.2.calls : ℤ)+1) (usbh : Ptr) (id : List Byte) :
    appendNode c usbh id=
      ({c.1 with tail := (c.2.calls : ℤ)+1,numdevs := c.1.numdevs+1},
        {c.2 with
          cell := Function.update
            (Function.update c.2.cell ((c.2.calls : ℤ)+1)
              (some (keepNode usbh id ((c.2.calls : ℤ)+1))))
            c.1.tail (some {last with next := (c.2.calls : ℤ)+1})
          calls := c.2.calls+1}) := by
  have hc : Function.update c.2.cell ((c.2.calls : ℤ)+1)
      (some (keepNode usbh id ((c.2.calls : ℤ)+1))) c.1.tail=some last := by
    rw [Function.update_of_ne hq,ht]
  have hs := calloc_store_cell hf (keepNode usbh id ((c.2.calls : ℤ)+1))
  unfold appendNode
  rw [if_neg hh]
  dsimp only
  rw [hs,Heap.setNext]
  dsimp only
  rw [hc]
  rfl

/-- Keeping a device takes one call of `calloc`. -/
theorem appendNode_calls (hf : c.2.fails c.2.calls=false) (usbh : Ptr) (id : List Byte) :
    (appendNode c usbh id).2.calls=c.2.calls+1 := by
  have hs := calloc_store_cell hf (keepNode usbh id ((c.2.calls : ℤ)+1))
  unfold appendNode
  dsimp only
  rw [hs]
  split
  · rfl
  · unfold Heap.setNext
    split <;> rfl

/-- Nodes carry their devices through any change that only links them anew. -/
theorem nodesFor_relinked {heap heap' : Heap}
    (hrel : ∀ a n,heap.cell a=some n → ∃ b,heap'.cell a=some {n with next := b})
    (h : List.Forall₂ (NodeFor heap) nodes kept) : List.Forall₂ (NodeFor heap') nodes kept := by
  refine h.imp fun a k hk => ?_
  obtain ⟨b,hb⟩ := hk
  obtain ⟨b',hb'⟩ := hrel a _ hb
  exact ⟨b',hb'⟩

/-- A node that is in use is not at the next address. -/
theorem BuiltList.cell_ne (h : BuiltList before c nodes kept) {a : ℤ} {n : UsbIoInternal}
    (ha : c.2.cell a=some n) : a≠(c.2.calls : ℤ)+1 := by
  intro he
  rw [h.beyond a (by omega)] at ha
  cases ha

/-- The nodes are at addresses that were given out. -/
theorem BuiltList.placed (h : BuiltList before c nodes kept) : ∀ a∈nodes,0<a ∧ a≤(c.2.calls : ℤ) := by
  intro a ha
  obtain ⟨hlo,hhi⟩ := h.fresh a ha
  exact ⟨lt_of_le_of_lt (Int.natCast_nonneg _) hlo,hhi⟩

/-- A node of the list is at an address that was given out, and after `before`. -/
theorem BuiltList.not_mem (h : BuiltList before c nodes kept) {a : ℤ}
    (ha : a≤(before.calls : ℤ) ∨ (c.2.calls : ℤ)<a) : a∉nodes := by
  intro hm
  have hb := h.fresh a hm
  omega

/-- One more node at the next address extends the list, when the old nodes
are at most linked anew and nothing else in the heap has changed. -/
theorem BuiltList.extend (h : BuiltList before c nodes kept) {c' : Enumctx×Heap} {k : Kept}
    (hchain : Chain UsbIoInternal.next 0 c'.2.cell c'.1.head (nodes++[(c.2.calls : ℤ)+1]))
    (htail : c'.1.tail=(c.2.calls : ℤ)+1) (hnumdevs : c'.1.numdevs=c.1.numdevs+1)
    (hcalls : c'.2.calls=c.2.calls+1) (hfails : c'.2.fails=c.2.fails)
    (hnew : NodeFor c'.2 ((c.2.calls : ℤ)+1) k)
    (hrel : ∀ a n,c.2.cell a=some n → ∃ b,c'.2.cell a=some {n with next := b})
    (hother : ∀ a∉nodes,a≠(c.2.calls : ℤ)+1 → c'.2.cell a=c.2.cell a) :
    BuiltList before c' (nodes++[(c.2.calls : ℤ)+1]) (kept++[k]) := by
  have hgrow := h.calls
  have hcast : (c'.2.calls : ℤ)=(c.2.calls : ℤ)+1 := by rw [hcalls,Nat.cast_succ]
  refine ⟨hchain,?_,?_,List.rel_append (nodesFor_relinked hrel h.contents) (.cons hnew .nil),?_,?_,?_,?_,
    hfails.trans h.fails⟩
  · rw [htail,List.getLast?_concat,Option.getD_some]
  · rw [hnumdevs,h.numdevs,List.length_append,List.length_singleton,Nat.cast_succ]
  · intro a ha
    rcases List.mem_append.mp ha with ha|ha
    · have hb := h.fresh a ha
      omega
    · have he := List.mem_singleton.mp ha
      omega
  · omega
  · intro a ha
    rw [hother a (h.not_mem (by omega)) (by omega),h.beyond a (by omega)]
  · intro a ha
    rw [hother a (h.not_mem (by omega)) (by omega),h.frame a ha]

/-- The first node becomes the head. -/
theorem BuiltList.keepFirst (h : BuiltList before c [] kept) (hf : c.2.fails c.2.calls=false)
    (usbh : Ptr) (id : List Byte) :
    BuiltList before (appendNode c usbh id) [(c.2.calls : ℤ)+1] (kept++[⟨usbh,id⟩]) := by
  have happ := appendNode_first (h.chain.nil_iff.mp rfl) hf usbh id
  have hcell : (appendNode c usbh id).2.cell ((c.2.calls : ℤ)+1)=
      some (keepNode usbh id ((c.2.calls : ℤ)+1)) := by
    rw [happ]
    exact Function.update_self _ _ _
  have hsame : ∀ a : ℤ,a≠(c.2.calls : ℤ)+1 → (appendNode c usbh id).2.cell a=c.2.cell a := by
    intro a ha
    rw [happ]
    exact Function.update_of_ne ha _ _
  have hq0 : (c.2.calls : ℤ)+1≠0 := by omega
  have hhead : (appendNode c usbh id).1.head=(c.2.calls : ℤ)+1 := by rw [happ]
  have hchain : Chain UsbIoInternal.next 0 (appendNode c usbh id).2.cell (appendNode c usbh id).1.head
      [(c.2.calls : ℤ)+1] := ⟨hhead,hq0,_,hcell,rfl⟩
  refine h.extend hchain ?_ ?_ ?_ ?_ ⟨0,hcell⟩ (fun a n ha => ⟨n.next,?_⟩) fun a _ ha => hsame a ha
  · rw [happ]
  · rw [happ]
  · rw [happ]
  · rw [happ]
  · rw [hsame a (h.cell_ne ha)]
    exact ha

/-- A later node is stored in the old tail. -/
theorem BuiltList.keepNext {as : List ℤ} {t : ℤ} (h : BuiltList before c (as++[t]) kept)
    (hf : c.2.fails c.2.calls=false) (usbh : Ptr) (id : List Byte) :
    BuiltList before (appendNode c usbh id) (as++[t]++[(c.2.calls : ℤ)+1]) (kept++[⟨usbh,id⟩]) := by
  have hmem : t∈as++[t] := List.mem_append_right as (List.mem_singleton.mpr rfl)
  have hhead : c.1.head≠0 := fun h0 => List.ne_nil_of_mem hmem (h.chain.nil_iff.mpr h0)
  have htail : c.1.tail=t := by rw [h.tail,List.getLast?_concat,Option.getD_some]
  obtain ⟨-,last,hlast⟩ := h.chain.mem hmem
  have htq : t≠(c.2.calls : ℤ)+1 := h.cell_ne hlast
  have happ := appendNode_next hhead hf (by rw [htail]; exact hlast) (by rw [htail]; exact htq) usbh id
  rw [htail] at happ
  have hcellt : (appendNode c usbh id).2.cell t=some {last with next := (c.2.calls : ℤ)+1} := by
    rw [happ]
    exact Function.update_self _ _ _
  have hcellq : (appendNode c usbh id).2.cell ((c.2.calls : ℤ)+1)=
      some (keepNode usbh id ((c.2.calls : ℤ)+1)) := by
    rw [happ]
    exact (Function.update_of_ne htq.symm _ _).trans (Function.update_self _ _ _)
  have hsame : ∀ a : ℤ,a≠t → a≠(c.2.calls : ℤ)+1 →
      (appendNode c usbh id).2.cell a=c.2.cell a := by
    intro a hat haq
    rw [happ]
    exact (Function.update_of_ne hat _ _).trans (Function.update_of_ne haq _ _)
  have hq0 : (c.2.calls : ℤ)+1≠0 := by omega
  have hchain := h.chain.snoc hlast (h.not_mem (.inr (by omega))) hq0
    (n := keepNode usbh id ((c.2.calls : ℤ)+1)) rfl
    (k := {last with next := (c.2.calls : ℤ)+1}) rfl
  refine h.extend ?_ ?_ ?_ ?_ ?_ ⟨0,hcellq⟩ ?_ ?_
  · rw [happ,List.append_assoc]
    exact hchain
  · rw [happ]
  · rw [happ]
  · rw [happ]
  · rw [happ]
  · intro a n ha
    by_cases hat : a=t
    · subst hat
      obtain rfl : n=last := Option.some.inj (ha.symm.trans hlast)
      exact ⟨_,hcellt⟩
    · exact ⟨n.next,by rw [hsame a hat (h.cell_ne ha)]; exact ha⟩
  · intro a ha haq
    exact hsame a (fun he => ha (he ▸ hmem)) haq

/-- A device that is kept gets a node at a new address behind the last one. -/
theorem BuiltList.keep (h : BuiltList before c nodes kept) (hf : c.2.fails c.2.calls=false)
    (usbh : Ptr) (id : List Byte) :
    BuiltList before (appendNode c usbh id) (nodes++[(c.2.calls : ℤ)+1]) (kept++[⟨usbh,id⟩]) := by
  rcases List.eq_nil_or_concat nodes with rfl|⟨as,t,rfl⟩
  · exact h.keepFirst hf usbh id
  · rw [List.concat_eq_append] at h ⊢
    exact h.keepNext hf usbh id

end Invariant

end UsbIo16.DeviceList
