import UsbIo16.DeviceList

/-!
# The enumerated list is exactly the accepted devices

A scripted HID layer hands any sequence of devices with any answers to the
enumeration callback. The list that results holds the accepted devices, in
the order visited and each once, whatever else was on the bus and whichever
allocations failed.
-/

namespace UsbIo16.EnumeratedDevices

open ByteBuffer Hiddata IoInterface NodeChain DeviceList

/-- How a device answers a string query: an error code, or a string. -/
structure StringAnswer where
  err : ℤ
  text : CString

/-- How the read of report zero ends: error code, length and nine bytes. -/
structure ReportAnswer where
  err : ℤ
  len : ℤ
  data : List Byte
  nine : data.length=9

/-- Everything a device answers to the callback. -/
structure Answer where
  vendor : StringAnswer
  product : StringAnswer
  report : ReportAnswer

/-- One device handed to the callback. -/
structure Visit where
  usbh : Ptr
  answer : Answer

/-- The scripted layer's world: the answers of the current device and the
handles closed so far. -/
structure Script where
  answer : Answer
  closed : List Ptr

/-- A string query as `hiddata.h` promises it: an error, also when the
buffer is too short, or the terminated string. -/
def scriptString (a : StringAnswer) (buf : List Byte) (len : ℤ) (w : Script) : StringReply Script :=
  if a.err≠0 then ⟨a.err,buf,w⟩
  else if len<a.text.bytes.length+1 then ⟨USBHID_ERR_IO_HID,buf,w⟩
  else ⟨0,writeAt buf 0 (a.text.bytes++[0#8]),w⟩

/-- The layer in which the current device answers as scripted. -/
def scriptHid (target : Target) : HidLayer Script where
  toTarget := target
  usbhidEnumDevices _ _ context _ w := ⟨USBHID_ERR_NOTFOUND,context,w⟩
  usbhidCloseDevice u w := {w with closed := u::w.closed}
  usbhidGetVendorString _ buf len w := scriptString w.answer.vendor buf len w
  usbhidGetProductString _ buf len w := scriptString w.answer.product buf len w
  usbhidSetReport _ _ _ w := ⟨ USBHID_ERR_IO,w⟩
  usbhidGetReport _ _ buf _ w :=
    ⟨w.answer.report.err,writeAt buf 0 w.answer.report.data,w.answer.report.len,w⟩

/-- Hand the devices to a callback one after the other, the way a backend does. -/
def handOver {α : Type} (f : EnumFunc α Script) : List Visit → α → Script → α×Script
  | [],context,w => (context,w)
  | v::vs,context,w =>
    let r := f v.usbh context {w with answer := v.answer}
    handOver f vs r.context r.world

/-- The device passes all tests: vendor and product string, nine bytes of
report zero with id zero, and four printable bytes behind the id. -/
def Answer.Accepted (a : Answer) : Prop :=
  (a.vendor.err=0 ∧ a.vendor.text.bytes=USB_IO16_VENDOR_NAME) ∧
  (a.product.err=0 ∧ a.product.text.bytes=USB_IO16_NAME) ∧
  (a.report.err=0 ∧ a.report.len=9 ∧ a.report.data.getD 0 0#8=0#8) ∧
  ∀ i∈List.range' 1 4,
    0x21≤(a.report.data.getD i 0#8).toNat ∧ (a.report.data.getD i 0#8).toNat≤0x7E

instance (a : Answer) : Decidable a.Accepted :=
  inferInstanceAs (Decidable (_ ∧ _ ∧ _ ∧ _))

/-- The four bytes of the device's id. -/
def Answer.id (a : Answer) : List Byte := (a.report.data.drop 1).take 4

/-- A scripted string query either fails or leaves the device's string. -/
theorem scriptString_cases (a : StringAnswer) (buf : List Byte) (len : ℤ) (w : Script) :
    (scriptString a buf len w).world=w ∧
      ((scriptString a buf len w).err≠0 ∨
        (scriptString a buf len w).err=0 ∧ a.err=0 ∧
          cstr (scriptString a buf len w).buffer=a.text.bytes) := by
  unfold scriptString
  by_cases he : a.err=0
  · rw [if_neg (not_not.mpr he)]
    by_cases hl : len<(a.text.bytes.length : ℤ)+1
    · rw [if_pos hl]
      have hne : USBHID_ERR_IO_HID≠0 := by decide
      exact ⟨rfl,.inl hne⟩
    · rw [if_neg hl]
      refine ⟨rfl,.inr ⟨rfl,he,?_⟩⟩
      dsimp only
      rw [writeAt_zero,List.append_assoc,List.singleton_append]
      exact cstr_terminated a.text.noNul _
  · rw [if_pos he]
    exact ⟨rfl,.inl he⟩

/-- A scripted string query fails only on a device error or for want of room. -/
theorem scriptString_ok {a : StringAnswer} {len : ℤ} (he : a.err=0)
    (hl : (a.text.bytes.length : ℤ)+1≤len) (buf : List Byte) (w : Script) :
    (scriptString a buf len w).err=0 := by
  unfold scriptString
  rw [if_neg (not_not.mpr he),if_neg (not_lt.mpr hl)]

/-- A string query of the callback passes exactly when the device answers
with the expected name, which fits in the callback's buffer. -/
theorem scriptString_passes {a : StringAnswer} {name : List Byte} (hname : cstr name=name)
    (hlen : (name.length : ℤ)+1≤256) (buf : List Byte) (w : Script) :
    (scriptString a buf 256 w).err=0 ∧ strcmp (scriptString a buf 256 w).buffer name=0 ↔
      a.err=0 ∧ a.text.bytes=name := by
  obtain ⟨-,hc⟩ := scriptString_cases a buf 256 w
  rw [strcmp_eq_zero,hname]
  constructor
  · rintro ⟨he,hs⟩
    rcases hc with hc|⟨-,ha,hb⟩
    · exact absurd he hc
    · exact ⟨ha,hb.symm.trans hs⟩
  · rintro ⟨ha,hb⟩
    have he : (scriptString a buf 256 w).err=0 :=
      scriptString_ok ha (by rw [hb]; exact hlen) buf w
    rcases hc with hc|⟨-,-,hs⟩
    · exact absurd he hc
    · exact ⟨he,hs.trans hb⟩

/-- The id test of the callback, on a buffer that starts with the report. -/
theorem goodId_iff (data rest : List Byte) (hn : data.length=9) :
    goodId (data++rest)=true ↔ ∀ i∈List.range' 1 4,
      0x21≤(data.getD i 0#8).toNat ∧ (data.getD i 0#8).toNat≤0x7E := by
  unfold goodId USB_IO16_ID_STR_LEN
  rw [List.all_eq_true]
  refine forall₂_congr fun i hi => ?_
  have hlt : i<data.length := by
    have hb := List.mem_range'_1.mp hi
    omega
  have hd : (data++rest).getD i 0#8=data.getD i 0#8 := by
    rw [List.getD_eq_getElem?_getD,List.getElem?_append_left hlt,←List.getD_eq_getElem?_getD]
  dsimp only
  rw [hd,Bool.not_eq_true',Bool.or_eq_false_iff,decide_eq_false_iff_not,decide_eq_false_iff_not]
  omega

/-- The read of report zero by the callback: it succeeds exactly on nine
bytes with id zero, which then stand at the start of the buffer. -/
theorem scriptRead (target : Target) (usbh : Ptr) (buf : List Byte) (w : Script) :
    (d16ReadRep (scriptHid target) usbh 0 (some buf) w).world=w ∧
      ((w.answer.report.err=0 ∧ w.answer.report.len=9 ∧ w.answer.report.data.getD 0 0#8=0#8) ∧
          (d16ReadRep (scriptHid target) usbh 0 (some buf) w).ret=0 ∧
          (d16ReadRep (scriptHid target) usbh 0 (some buf) w).raw_data=
            some (w.answer.report.data++buf.drop 9) ∨
        ¬(w.answer.report.err=0 ∧ w.answer.report.len=9 ∧ w.answer.report.data.getD 0 0#8=0#8) ∧
          (d16ReadRep (scriptHid target) usbh 0 (some buf) w).ret<0) := by
  let r := w.answer.report
  have hn := r.nine
  have hr : (scriptHid target).usbhidGetReport usbh 0 (List.replicate 10 0#8) (8+1) w=
      ⟨r.err,writeAt (List.replicate 10 0#8) 0 r.data,r.len,w⟩ := rfl
  have hbuf : writeAt (List.replicate 10 0#8) 0 r.data=r.data++[0#8] := by
    rw [writeAt_zero,hn]
    rfl
  rw [hbuf] at hr
  have h0 : (r.data++[0#8]).getD 0 0#8=r.data.getD 0 0#8 := by
    rw [List.getD_eq_getElem?_getD,List.getElem?_append_left (by omega),←List.getD_eq_getElem?_getD]
  by_cases he : r.err=0
  · by_cases hb : r.len=9 ∧ r.data.getD 0 0#8=0#8
    · rw [d16ReadRep_ok hr he hb.1 (h0.trans hb.2)]
      refine ⟨rfl,.inl ⟨⟨he,hb⟩,rfl,?_⟩⟩
      have ht : (r.data++[0#8]).take 9=r.data := by
        rw [List.take_append_of_le_length (by omega),List.take_of_length_le (by omega)]
      rw [Option.map_some,ht,writeAt_zero,hn]
    · rw [d16ReadRep_bad hr he (by rw [h0]; exact hb)]
      have hlt : (-2 : ℤ)<0 := by decide
      exact ⟨rfl,.inr ⟨fun h => hb h.2,hlt⟩⟩
  · rw [d16ReadRep_err hr he]
    have hlt : (-1 : ℤ)<0 := by decide
    exact ⟨rfl,.inr ⟨fun h => he h.1,hlt⟩⟩

/-- The probe of a scripted device tells whether it is accepted, and its id. -/
theorem probe_script (target : Target) (usbh : Ptr) (w : Script) :
    probe (scriptHid target) usbh w=
      (if w.answer.Accepted then some w.answer.id else none,w) := by
  have hvn : cstr USB_IO16_VENDOR_NAME=USB_IO16_VENDOR_NAME := by decide
  have hpn : cstr USB_IO16_NAME=USB_IO16_NAME := by decide
  have hvendor : ∀ {buf v},(scriptHid target).usbhidGetVendorString usbh buf 256 w=v → v.world=w ∧
      (Names v USB_IO16_VENDOR_NAME ↔ w.answer.vendor.err=0 ∧ w.answer.vendor.text.bytes=USB_IO16_VENDOR_NAME) := by
    rintro buf v rfl
    exact ⟨(scriptString_cases w.answer.vendor buf 256 w).1,scriptString_passes hvn (by decide) buf w⟩
  have hproduct : ∀ {buf p},(scriptHid target).usbhidGetProductString usbh buf 256 w=p → p.world=w ∧
      (Names p USB_IO16_NAME ↔ w.answer.product.err=0 ∧ w.answer.product.text.bytes=USB_IO16_NAME) := by
    rintro buf p rfl
    exact ⟨(scriptString_cases w.answer.product buf 256 w).1,scriptString_passes hpn (by decide) buf w⟩
  have hends := probe_ends (scriptHid target) usbh w
  generalize probe (scriptHid target) usbh w=x at hends ⊢
  cases hends with
  | vendor hv hbad =>
    obtain ⟨hvw,hvok⟩ := hvendor hv
    rw [if_neg fun h : w.answer.Accepted => hbad (hvok.mpr h.1),hvw]
  | product hv hvpass hp hbad =>
    rw [(hvendor hv).1] at hp
    obtain ⟨hpw,hpok⟩ := hproduct hp
    rw [if_neg fun h : w.answer.Accepted => hbad (hpok.mpr h.2.1),hpw]
  | @report v p r hv hvpass hp hppass hr hbad =>
    rw [(hvendor hv).1] at hp
    rw [(hproduct hp).1] at hr
    obtain ⟨hrw,hread⟩ := scriptRead target usbh p.buffer w
    rw [hr] at hrw hread
    rw [hrw,if_neg]
    intro h
    rcases hread with ⟨-,hret,hraw⟩|⟨hfail,-⟩
    · rw [hret,hraw,Option.getD_some] at hbad
      rcases hbad with hneg|hid
      · exact absurd hneg (by decide)
      · rw [(goodId_iff _ _ w.answer.report.nine).mpr h.2.2.2] at hid
        cases hid
    · exact hfail h.2.2.1
  | @passed v p r hv hvpass hp hppass hr hret hgood =>
    obtain ⟨hvw,hvok⟩ := hvendor hv
    rw [hvw] at hp
    obtain ⟨hpw,hpok⟩ := hproduct hp
    rw [hpw] at hr
    obtain ⟨hrw,hread⟩ := scriptRead target usbh p.buffer w
    rw [hr] at hrw hread
    rcases hread with ⟨hok,-,hraw⟩|⟨-,hneg⟩
    · rw [hraw,Option.getD_some] at hgood ⊢
      have hid := (goodId_iff _ _ w.answer.report.nine).mp hgood
      have hn := w.answer.report.nine
      rw [hrw,if_pos ⟨hvok.mp hvpass,hpok.mp hppass,hok,hid⟩,List.drop_append_of_le_length (by omega),
        List.take_append_of_le_length (by rw [List.length_drop,USB_IO16_ID_STR_LEN]; omega)]
      rfl
    · exact absurd hneg hret

/-- The devices that pass and whose node could be allocated, where `calls`
allocations were tried before: the k-th device that passes is the k-th to
ask for memory. -/
def accepted (fails : ℕ → Bool) (calls : ℕ) (visits : List Visit) : List Visit :=
  (((visits.filter fun v => v.answer.Accepted).zipIdx calls).filter fun p => !fails p.2).map Prod.fst

/-- A device that does not pass asks for no memory. -/
theorem accepted_reject {v : Visit} (hv : ¬v.answer.Accepted) (fails : ℕ → Bool) (calls : ℕ)
    (vs : List Visit) : accepted fails calls (v::vs)=accepted fails calls vs := by
  simp only [accepted,List.filter_cons,hv,decide_false,Bool.false_eq_true,if_false]

/-- A device that passes uses up one allocation and is kept if it succeeds. -/
theorem accepted_pass {v : Visit} (hv : v.answer.Accepted) (fails : ℕ → Bool) (calls : ℕ)
    (vs : List Visit) : accepted fails calls (v::vs)=
      if fails calls=true then accepted fails (calls+1) vs else v::accepted fails (calls+1) vs := by
  simp only [accepted,List.filter_cons,hv,decide_true,if_true,List.zipIdx_cons]
  by_cases hf : fails calls=true
  · simp only [hf,Bool.not_true,Bool.false_eq_true,if_false,if_true]
  · simp only [Bool.not_eq_true] at hf
    simp only [hf,Bool.not_false,if_true,Bool.false_eq_true,if_false,List.map_cons]

/-- What the list keeps of a device. -/
def Visit.kept (v : Visit) : Kept := ⟨v.usbh,v.answer.id⟩

/-- Handing over more devices extends the list by the accepted ones. The
induction is on the devices; the list so far is arbitrary. -/
theorem handOver_builtList (target : Target) (visits : List Visit) {before : Heap}
    {c : Enumctx×Heap} {nodes : List ℤ} {kept : List Kept} (h : BuiltList before c nodes kept)
    (w : Script) :
    ∃ more,BuiltList before (handOver (enumfunc (scriptHid target)) visits c w).1 (nodes++more)
      (kept++(accepted before.fails c.2.calls visits).map Visit.kept) := by
  induction visits generalizing c nodes kept w with
  | nil =>
    refine ⟨[],?_⟩
    simpa only [handOver,accepted,List.filter_nil,List.zipIdx_nil,List.map_nil,List.append_nil] using h
  | cons v vs ih =>
    have hp := probe_script target v.usbh {w with answer := v.answer}
    rw [handOver]
    by_cases hv : v.answer.Accepted
    · rw [if_pos hv] at hp
      rw [accepted_pass hv,←h.fails]
      by_cases hf : c.2.fails c.2.calls=true
      · rw [if_pos hf,enumfunc_nomem hp hf]
        have hcalls : c.2.calloc.2.calls=c.2.calls+1 := by rw [Heap.calloc,if_pos hf]
        have hn := ih (h.nomem hf) ((scriptHid target).usbhidCloseDevice v.usbh {w with answer := v.answer})
        rw [hcalls,←h.fails] at hn
        exact hn
      · have hf' : c.2.fails c.2.calls=false := by simpa only [Bool.not_eq_true] using hf
        rw [if_neg hf,enumfunc_keep hp hf']
        have hk := h.keep hf' v.usbh v.answer.id
        have hcalls : (appendNode c v.usbh v.answer.id).2.calls=c.2.calls+1 := by
          exact appendNode_calls hf' v.usbh v.answer.id
        obtain ⟨more,hm⟩ := ih hk {w with answer := v.answer}
        rw [hcalls,←h.fails] at hm
        refine ⟨((c.2.calls : ℤ)+1)::more,?_⟩
        simpa only [List.append_assoc,List.singleton_append,List.map_cons,Visit.kept] using hm
    · rw [if_neg hv] at hp
      rw [enumfunc_reject hp,accepted_reject hv]
      exact ih h _

/-- For every sequence of devices handed over, every answer of theirs and
every pattern of failing allocations, the list built from the empty context
is linked and acyclic from head to NULL; its nodes are the accepted devices
in the order visited, each once; every node points to its own id, which is
the four bytes followed by NUL; and head, tail and count describe that list. -/
theorem enumfunc_builds_accepted (target : Target) (visits : List Visit) (fails : ℕ → Bool) (w : Script) :
    let r := (handOver (enumfunc (scriptHid target)) visits (⟨0,0,0,0⟩,Heap.empty fails) w).1
    ∃ nodes : List ℤ,
      Chain UsbIoInternal.next 0 r.2.cell r.1.head nodes ∧ nodes.Nodup ∧
      List.Forall₂
        (fun a v => ∃ n,r.2.cell a=some n ∧ n.usbh=v.usbh ∧ n.serial_number=a ∧
          n.idstr=v.answer.id++[0#8] ∧ v.answer.id.length=USB_IO16_ID_STR_LEN)
        nodes (accepted fails 0 visits) ∧
      (r.1.head=0 ↔ r.1.numdevs=0) ∧ r.1.tail=nodes.getLast?.getD 0 ∧ r.1.numdevs=nodes.length := by
  intro r
  obtain ⟨nodes,h⟩ := handOver_builtList target visits
    (BuiltList.start (Heap.empty fails) fun _ _ => rfl) w
  rw [List.nil_append,List.nil_append] at h
  refine ⟨nodes,h.chain,h.chain.nodup,?_,?_,h.tail,h.numdevs⟩
  · refine (List.forall₂_map_right_iff.mp h.contents).imp fun a v hv => ?_
    obtain ⟨b,hb⟩ := hv
    have hn := v.answer.report.nine
    have hlen : v.answer.id.length=4 := by
      rw [Answer.id,List.length_take,List.length_drop]
      omega
    refine ⟨_,hb,rfl,rfl,?_,hlen⟩
    change writeAt (List.replicate 5 0#8) 0 v.answer.id=v.answer.id++[0#8]
    rw [writeAt_zero,hlen]
    rfl
  · have hc := h.numdevs
    rw [←h.chain.nil_iff,hc]
    simp only [Nat.cast_eq_zero,List.length_eq_zero_iff]

end UsbIo16.EnumeratedDevices
