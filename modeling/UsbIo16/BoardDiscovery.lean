import Mathlib.Data.List.Find
import UsbIo16.HeldList
import UsbIo16.PinHistory

/-!
# Finding the boards

With ideal boards behind libusb the list that is returned is what is
attached: one node for each board with a printable id, in the order of the
busses, with the id that is stored on this board. So opening by an id leads to
the board that has it, and the calls on the handle to this board and no other.
-/

namespace UsbIo16.BoardDiscovery

open ByteBuffer HandleLedger Hiddata IoInterface LibusbBackend NodeChain Traversal DeviceVisits DeviceList
open PinCalls IdealBoards Ownership BackendCustody ListSessions PinArray ListedDevices HeldList PinHistory

section Probe

variable {fails : ℕ → Option Failure} {input : ℕ → Ptr → Pin → Bool} {target : Target} {w v : LibusbWorld Bench}
  {u : Ptr}

/-- A device that has the names of a card. -/
def Named (w : LibusbWorld Bench) (u : Ptr) : Prop := (w.device u).iManufacturer=1#8 ∧ (w.device u).iProduct=2#8

instance (w : LibusbWorld Bench) (u : Ptr) : Decidable (Named w u) := inferInstanceAs (Decidable (_ ∧ _))

/-- The strings that a device can have. -/
def nameAt (index : Byte) : Option (List Byte) :=
  if index=1#8 then some USB_IO16_VENDOR_NAME else if index=2#8 then some USB_IO16_NAME else none

/-- They fit in the buffer of the callback. -/
theorem nameAt_length {index : Byte} {text : List Byte} (h : nameAt index=some text) : text.length≤255 := by
  unfold nameAt at h
  split at h
  · cases h
    decide
  · split at h
    · cases h
      decide
    · cases h

variable (fails input) in
/-- What a device answers to a query for a string. -/
theorem card_text (handle : Ptr) (index : Byte) (e : Bench) :
    ((boardEnv fails input).stringDescriptor handle index e).1.map CString.bytes=nameAt index := by
  simp only [boardEnv,cardEnv,nameAt]
  split
  · rfl
  · split <;> rfl

variable (fails input w) in
/-- A string query reads the string, if there is one; only the ledger of the
handles changes. -/
theorem string_run (handle : Ptr) (index : Byte) (buf : List Byte) :
    let r := usbhidGetStringAscii (boardEnv fails input) handle index buf 256 w
    r.2.2={w with ledger := w.ledger.use handle} ∧
      ∀ name,cstr name=name → (¬r.1<0 ∧ strcmp r.2.1 name=0 ↔ nameAt index=some name) := by
  have htext := card_text fails input handle index w.env
  unfold usbhidGetStringAscii
  dsimp only
  cases hs : ((boardEnv fails input).stringDescriptor handle index w.env).1 with
  | none =>
    rw [hs] at htext
    have hneg : (-1 : ℤ)<0 := by decide
    refine ⟨rfl,fun name _ => ?_⟩
    rw [←htext]
    exact iff_of_false (fun h => h.1 hneg) (fun h => by cases h)
  | some s =>
    rw [hs,Option.map_some] at htext
    have hlen := nameAt_length htext.symm
    have htake : s.bytes.take (256-1 : ℤ).toNat=s.bytes := List.take_of_length_le hlen
    refine ⟨rfl,fun name hname => ?_⟩
    dsimp only
    rw [htake,strcmp_eq_zero,writeAt_zero,List.append_assoc,List.singleton_append,cstr_terminated s.noNul,hname,
      ←htext,Option.some.injEq]
    exact and_iff_right (by omega)

/-- The world after a string query. -/
abbrev asked (w : LibusbWorld Bench) (u : Ptr) : LibusbWorld Bench :=
  {w with ledger := w.ledger.use (usbDevHandle w u)}

/-- A reply of a string query names the device when the string did. -/
theorem names_iff {n : ℤ} {buf name : List Byte} :
    Names (⟨if n<0 then USBHID_ERR_IO else 0,buf,v⟩ : StringReply (LibusbWorld Bench)) name ↔
      ¬n<0 ∧ strcmp buf name=0 := by
  have herr : USBHID_ERR_IO≠0 := by decide
  rw [Names]
  refine and_congr_left fun _ => ?_
  by_cases hn : n<0
  · rw [if_pos hn]
    exact iff_of_false herr (not_not.mpr hn)
  · rw [if_neg hn]
    exact iff_of_true rfl hn

variable (fails input target w u) in
/-- The query for the vendor. -/
theorem vendor_run (buf : List Byte) :
    ((libusbHid (boardEnv fails input) target).usbhidGetVendorString u buf 256 w).world=asked w u ∧
      (Names ((libusbHid (boardEnv fails input) target).usbhidGetVendorString u buf 256 w) USB_IO16_VENDOR_NAME ↔
        (w.device u).iManufacturer=1#8) := by
  obtain ⟨hworld,hname⟩ := string_run fails input w (usbDevHandle w u) (w.device u).iManufacturer buf
  refine ⟨hworld,names_iff.trans ((hname _ (by decide)).trans ?_)⟩
  have hother : (some USB_IO16_NAME : Option (List Byte))≠some USB_IO16_VENDOR_NAME := by decide
  unfold nameAt
  split
  · next h => exact iff_of_true rfl h
  · next h =>
    split
    · exact iff_of_false hother h
    · exact iff_of_false (fun he => by cases he) h

variable (fails input target w u) in
/-- The query for the product. -/
theorem product_run (buf : List Byte) :
    ((libusbHid (boardEnv fails input) target).usbhidGetProductString u buf 256 w).world=asked w u ∧
      (Names ((libusbHid (boardEnv fails input) target).usbhidGetProductString u buf 256 w) USB_IO16_NAME ↔
        (w.device u).iProduct=2#8) := by
  obtain ⟨hworld,hname⟩ := string_run fails input w (usbDevHandle w u) (w.device u).iProduct buf
  refine ⟨hworld,names_iff.trans ((hname _ (by decide)).trans ?_)⟩
  have hother : (some USB_IO16_VENDOR_NAME : Option (List Byte))≠some USB_IO16_NAME := by decide
  unfold nameAt
  split
  · next h =>
    rw [h]
    exact iff_of_false hother (by decide)
  · split
    · next h => exact iff_of_true rfl h
    · next h => exact iff_of_false (fun he => by cases he) h

/-- An id behind the report id is what is kept, and passes the test exactly
when it is printable. -/
theorem goodId_iff_printable {id : List Byte} (hlen : id.length=USB_IO16_ID_STR_LEN) (rest : List Byte) :
    ((0#8::(id++rest)).drop 1).take USB_IO16_ID_STR_LEN=id ∧ (goodId (0#8::(id++rest))=true ↔ Printable id) := by
  have hkeep : ((0#8::(id++rest)).drop 1).take USB_IO16_ID_STR_LEN=id := by
    rw [List.drop_one,List.tail_cons,←hlen,List.take_left]
  refine ⟨hkeep,fun h => hkeep ▸ goodId_printable h,fun h => List.all_eq_true.mpr fun i hi => ?_⟩
  obtain ⟨hlo,hhi⟩ := List.mem_range'_1.mp hi
  obtain ⟨j,rfl⟩ := Nat.exists_eq_add_of_le hlo
  have hj : j < id.length := by omega
  have hget : (0#8::(id++rest)).getD (1+j) 0#8=id[j] := by
    rw [Nat.add_comm,List.getD_cons_succ,List.getD_eq_getElem?_getD,List.getElem?_append_left hj,
      List.getElem?_eq_getElem hj,Option.getD_some]
  obtain ⟨hlow,hhigh⟩ := h.ascii _ (List.getElem_mem hj)
  dsimp only
  rw [hget,Bool.not_eq_true',Bool.or_eq_false_iff,decide_eq_false_iff_not,decide_eq_false_iff_not]
  omega

/-- What a probe of a device changes: only ledger and environment, and there
only the number of transfers. -/
structure Probed (w v : LibusbWorld Bench) (u : Ptr) : Prop where
  /-- The structs stay. -/
  device : v.device=w.device
  /-- The boards stay. -/
  boards : v.env.boards=w.env.boards
  /-- A report is read when the device has the names of a card. -/
  transfers : v.env.transfers=if Named w u then w.env.transfers+1 else w.env.transfers
  /-- Nothing is opened. -/
  fresh : v.ledger.fresh=w.ledger.fresh

/-- A read never ends with a positive status. -/
theorem d16ReadRep_nonpos {W : Type} (hid : HidLayer W) (dev : Ptr) (raw : Option (List Byte)) (w : W) :
    (d16ReadRep hid dev 0 raw w).ret≤0 := by
  have herr : (-1 : ℤ)≤0 := by decide
  have hbad : (-2 : ℤ)≤0 := by decide
  unfold d16ReadRep
  dsimp only
  split
  · exact herr
  · split
    · exact hbad
    · exact le_rfl

variable (fails input target w u) in
/-- The read of a report that a probe makes. -/
theorem probe_read (raw : List Byte) :
    let r := d16ReadRep (libusbHid (boardEnv fails input) target) u 0 (some raw) w
    (r.world.device=w.device ∧ r.world.env=passed w.env ∧ r.world.ledger.fresh=w.ledger.fresh) ∧
      (fails w.env.transfers=none ∧ r.ret=0 ∧ r.raw_data=
          some (writeAt raw 0 (0#8::(w.env.boards (usbDevHandle w u)).report (input w.env.transfers (usbDevHandle w u)))) ∨
        fails w.env.transfers≠none ∧ r.ret<0) := by
  cases hf : fails w.env.transfers with
  | none =>
    rw [read_into input target u hf]
    exact ⟨⟨rfl,rfl,rfl⟩,.inl ⟨rfl,rfl,rfl⟩⟩
  | some f =>
    obtain ⟨hret,hworld⟩ := read_fail input target u hf (some raw)
    have hle := d16ReadRep_nonpos (libusbHid (boardEnv fails input) target) u (some raw) w
    dsimp only
    exact ⟨⟨by rw [hworld],by rw [hworld],by rw [hworld]; rfl⟩,.inr ⟨Option.some_ne_none f,lt_of_le_of_ne hle hret⟩⟩

/-- A device with both names: its report was read. -/
theorem named_read {v p : StringReply (LibusbWorld Bench)} {r : ReadRepReply (LibusbWorld Bench)} {buf : List Byte}
    (hv : (libusbHid (boardEnv fails input) target).usbhidGetVendorString u buf 256 w=v)
    (hvendor : Names v USB_IO16_VENDOR_NAME)
    (hp : (libusbHid (boardEnv fails input) target).usbhidGetProductString u v.buffer 256 v.world=p)
    (hproduct : Names p USB_IO16_NAME)
    (hr : d16ReadRep (libusbHid (boardEnv fails input) target) u 0 (some p.buffer) p.world=r) :
    Named w u ∧ Probed w r.world u ∧
      (fails w.env.transfers=none ∧ r.ret=0 ∧
          (∃ rest,r.raw_data=some (0#8::((w.env.boards (usbDevHandle w u)).ident++rest))) ∨
        fails w.env.transfers≠none ∧ r.ret<0) := by
  obtain ⟨hvworld,hvname⟩ := vendor_run fails input target w u buf
  rw [hv] at hvworld hvname
  rw [hvworld] at hp
  obtain ⟨hpworld,hpname⟩ := product_run fails input target (asked w u) u v.buffer
  rw [hp] at hpworld hpname
  have hnamed : Named w u := ⟨hvname.mp hvendor,hpname.mp hproduct⟩
  rw [hpworld] at hr
  obtain ⟨⟨hdevice,henv,hfresh⟩,hread⟩ := probe_read fails input target (asked (asked w u) u) u p.buffer
  rw [hr] at hdevice henv hfresh hread
  refine ⟨hnamed,⟨hdevice,by rw [henv],by rw [henv,if_pos hnamed],hfresh⟩,?_⟩
  rcases hread with ⟨hok,hret,hraw⟩|hfail
  · rw [writeAt_zero,List.cons_append,Board.report,List.append_assoc] at hraw
    exact .inl ⟨hok,hret,_,hraw⟩
  · exact .inr hfail

variable (fails input target u) in
/-- Probing a device finds the id on its board, when the device has the
names of a card, its report is read and the id is printable, and nothing otherwise. -/
theorem probe_board :
    ∃ v,probe (libusbHid (boardEnv fails input) target) u w=
        (if Named w u ∧ fails w.env.transfers=none ∧ Printable (w.env.boards (usbDevHandle w u)).ident then
          some (w.env.boards (usbDevHandle w u)).ident else none,v) ∧
      Probed w v u := by
  have hends := probe_ends (libusbHid (boardEnv fails input) target) u w
  generalize probe (libusbHid (boardEnv fails input) target) u w=x at hends ⊢
  have hlen := (w.env.boards (usbDevHandle w u)).identLength
  -- a failed name ends the probe before anything is transferred
  cases hends with
  | vendor hv hbad =>
    obtain ⟨hworld,hname⟩ := vendor_run fails input target w u _
    rw [hv] at hworld hname
    have hno : ¬Named w u := fun h => hbad (hname.mpr h.1)
    refine ⟨_,by rw [if_neg fun h => hno h.1],?_⟩
    rw [hworld]
    exact ⟨rfl,rfl,(if_neg hno).symm,rfl⟩
  | @product v p hv hvendor hp hbad =>
    obtain ⟨hvworld,-⟩ := vendor_run fails input target w u _
    rw [hv] at hvworld
    rw [hvworld] at hp
    obtain ⟨hworld,hname⟩ := product_run fails input target (asked w u) u v.buffer
    rw [hp] at hworld hname
    have hno : ¬Named w u := fun h => hbad (hname.mpr h.2)
    refine ⟨_,by rw [if_neg fun h => hno h.1],?_⟩
    rw [hworld]
    exact ⟨rfl,rfl,(if_neg hno).symm,rfl⟩
  | @report v p r hv hvendor hp hproduct hr hbad =>
    obtain ⟨-,hprobed,hread⟩ := named_read hv hvendor hp hproduct hr
    refine ⟨_,?_,hprobed⟩
    rcases hread with ⟨-,hret,rest,hraw⟩|⟨hfail,-⟩
    · obtain ⟨-,hgood⟩ := goodId_iff_printable hlen rest
      rw [hret,hraw,Option.getD_some] at hbad
      have hno : ¬Printable (w.env.boards (usbDevHandle w u)).ident := fun hp => by
        rw [hgood.mpr hp] at hbad
        rcases hbad with hneg|hno
        · exact absurd hneg (lt_irrefl 0)
        · exact absurd hno Bool.true_eq_false.mp
      rw [if_neg fun h => hno h.2.2]
    · rw [if_neg fun h => hfail h.2.1]
  | @passed v p r hv hvendor hp hproduct hr hret hgood =>
    obtain ⟨hnamed,hprobed,hread⟩ := named_read hv hvendor hp hproduct hr
    refine ⟨_,?_,hprobed⟩
    rcases hread with ⟨hok,-,rest,hraw⟩|⟨-,hneg⟩
    · obtain ⟨hkeep,htest⟩ := goodId_iff_printable hlen rest
      rw [hraw,Option.getD_some] at hgood ⊢
      rw [if_pos ⟨hnamed,hok,htest.mp hgood⟩,hkeep]
    · exact absurd hneg hret

end Probe

section Cards

/-- A device the library takes for a card. -/
def IsCard (w₀ : LibusbWorld Bench) (dev : Ptr) : Prop :=
  DeviceVisits.Matches USB_CFG_VENDOR_ID USB_CFG_DEVICE_ID w₀ dev ∧ (w₀.device dev).num_children=0#8 ∧ Named w₀ dev

instance (w₀ : LibusbWorld Bench) (dev : Ptr) : Decidable (IsCard w₀ dev) := inferInstanceAs (Decidable (_ ∧ _ ∧ _))

/-- The cards among these devices that get a node, when the next device
opened gets the handle `next`, after so many transfers and allocations. A
device with vendor and product of a card is opened; a card takes a transfer
for its report, and when this goes through and the id on the board behind the
handle is printable, an allocation for its node. -/
def found (fails : ℕ → Option Failure) (nomem : ℕ → Bool) (boards : Ptr → Board) (w₀ : LibusbWorld Bench) :
    Ptr → ℕ → ℕ → List Ptr → List Ptr
  | _,_,_,[] => []
  | next,transfers,calls,dev::devs =>
    if DeviceVisits.Matches USB_CFG_VENDOR_ID USB_CFG_DEVICE_ID w₀ dev then
      if IsCard w₀ dev then
        if fails transfers=none ∧ Printable (boards next).ident then
          if nomem calls=true then found fails nomem boards w₀ (next+1) (transfers+1) (calls+1) devs
          else dev::found fails nomem boards w₀ (next+1) (transfers+1) (calls+1) devs
        else found fails nomem boards w₀ (next+1) (transfers+1) calls devs
      else found fails nomem boards w₀ (next+1) transfers calls devs
    else found fails nomem boards w₀ next transfers calls devs

variable {fails : ℕ → Option Failure} {nomem : ℕ → Bool} {boards : Ptr → Board} {w₀ : LibusbWorld Bench}

end Cards

section Enumeration

variable {fails : ℕ → Option Failure} {input : ℕ → Ptr → Pin → Bool} {target : Target} {w₀ x w v : LibusbWorld Bench}
  {n : ℕ} {before : Heap} {boards : Ptr → Board} {s : EnumReply (Enumctx×Heap) (LibusbWorld Bench)} {c : Enumctx×Heap}
  {nodes : List ℤ} {kept : List Kept} {dev : Ptr} {err : ℤ}

/-- What an enumeration has found so far: the devices kept are open, each
with the id of the board behind its handle, and no board was changed. -/
structure Found (w₀ : LibusbWorld Bench) (n : ℕ) (before : Heap) (boards : Ptr → Board)
    (s : EnumReply (Enumctx×Heap) (LibusbWorld Bench)) (nodes : List ℤ) (kept : List Kept) : Prop where
  /-- The list so far. -/
  list : BuiltList before s.context nodes kept
  /-- Its devices are the open ones. -/
  owned : LibusbOwned w₀ n ((kept.map Kept.usbh : List Ptr) : Multiset Ptr) s.world
  /-- No board was changed. -/
  untouched : s.world.env.boards=boards
  /-- The ids are those of the boards, … -/
  label : ∀ k∈kept,k.id=(boards (usbDevHandle s.world k.usbh)).ident
  /-- … and printable. -/
  printable : ∀ k∈kept,Printable k.id

/-- The cards still to be found from a state of the enumeration on. -/
abbrev toFind (fails : ℕ → Option Failure) (boards : Ptr → Board) (w₀ : LibusbWorld Bench)
    (s : EnumReply (Enumctx×Heap) (LibusbWorld Bench)) (devs : List Ptr) : List Ptr :=
  found fails s.context.2.fails boards w₀ s.world.ledger.fresh s.world.env.transfers s.context.2.calls devs

/-- A device that was handed to the callback and probed by it. -/
structure Seen (w₀ : LibusbWorld Bench) (n : ℕ) (kept : List Kept) (w v : LibusbWorld Bench) (dev : Ptr) : Prop where
  /-- It is open besides those kept. -/
  owned : LibusbOwned w₀ n (dev::ₘ((kept.map Kept.usbh : List Ptr) : Multiset Ptr)) v
  /-- The boards stay. -/
  boards : v.env.boards=w.env.boards
  /-- It has the handle that was next. -/
  slot : usbDevHandle v dev=w.ledger.fresh
  /-- The handles of all others stay. -/
  handle : ∀ q,q≠dev → usbDevHandle v q=usbDevHandle w q
  /-- A report is read when it has the names of a card. -/
  transfers : v.env.transfers=if Named w₀ dev then w.env.transfers+1 else w.env.transfers
  /-- It took one handle. -/
  fresh : v.ledger.fresh=w.ledger.fresh+1

/-- The names of a device do not change. -/
theorem named_owned {S : Multiset Ptr} (h : LibusbOwned w₀ n S w) : Named w dev ↔ Named w₀ dev := by
  rw [Named,Named,h.struct dev]

/-- Neither do its vendor, its product and the number of its children. -/
theorem attributes_owned {S : Multiset Ptr} (h : LibusbOwned w₀ n S w) (dev : Ptr) :
    (DeviceVisits.Matches USB_CFG_VENDOR_ID USB_CFG_DEVICE_ID w dev ↔
        DeviceVisits.Matches USB_CFG_VENDOR_ID USB_CFG_DEVICE_ID w₀ dev) ∧
      (w.device dev).num_children=(w₀.device dev).num_children := by
  rw [DeviceVisits.Matches,DeviceVisits.Matches,h.struct dev]
  exact ⟨Iff.rfl,rfl⟩

variable (fails input target) in
/-- What the probe of a leaf device finds. -/
theorem Found.probe (hw₀ : Attached w₀) (h : Found w₀ n before boards s nodes kept) (hdev : LeafCard w₀ dev)
    (hnew : dev∉kept.map Kept.usbh) :
    ∃ v,DeviceList.probe (libusbHid (boardEnv fails input) target) dev (offer dev s.world)=
        (if Named w₀ dev ∧ fails s.world.env.transfers=none ∧ Printable (boards s.world.ledger.fresh).ident then
          some (boards s.world.ledger.fresh).ident else none,v) ∧ Seen w₀ n kept s.world v dev := by
  have hoffer := h.owned.offered hdev (Multiset.mem_coe.not.mpr hnew)
  have huses : Relation.ReflTransGen (HandleUse (libusbHid (boardEnv fails input) target) dev) _ _ :=
    probe_uses dev (offer dev s.world)
  obtain ⟨v,hp,hprobed⟩ := probe_board fails input target dev (w := offer dev s.world)
  rw [hp] at huses
  have hrun := ownerRun_uses huses (Multiset.mem_cons_self dev ((kept.map Kept.usbh : List Ptr) : Multiset Ptr))
  have hslot : usbDevHandle (offer dev s.world) dev=s.world.ledger.fresh :=
    usbDevHandle_setChildren_self (opened s.world) dev _
  have hhandle : ∀ q,usbDevHandle v q=usbDevHandle (offer dev s.world) q := fun q => by
    rw [usbDevHandle,hprobed.device]
    rfl
  refine ⟨v,?_,hoffer.run hw₀ hrun,hprobed.boards,(hhandle dev).trans hslot,fun q hq => ?_,?_,?_⟩
  · rw [hp,hslot,←h.untouched]
    simp only [named_owned hoffer]
    rfl
  · rw [hhandle]
    exact usbDevHandle_setChildren_ne (opened s.world) hq _
  · have ht := hprobed.transfers
    simp only [named_owned hoffer] at ht
    exact ht
  · exact hprobed.fresh.trans (Ledger.fresh_openNext s.world.ledger)

/-- Closing a device transfers nothing. -/
theorem closeDevice_env : (LibusbBackend.usbhidCloseDevice dev w).env=w.env := by
  unfold LibusbBackend.usbhidCloseDevice
  split <;> rfl

/-- It takes no handle either. -/
theorem closeDevice_fresh : (LibusbBackend.usbhidCloseDevice dev w).ledger.fresh=w.ledger.fresh := by
  unfold LibusbBackend.usbhidCloseDevice
  split <;> rfl

/-- A device that is closed again leaves what was found. -/
theorem Found.close (hw₀ : Attached w₀) (h : Found w₀ n before boards s nodes kept)
    (hseen : Seen w₀ n kept s.world v dev) (hnew : dev∉kept.map Kept.usbh) (hlist : BuiltList before c nodes kept) :
    Found w₀ n before boards ⟨err,c,LibusbBackend.usbhidCloseDevice dev v⟩ nodes kept := by
  have hclosed := hseen.owned.close hw₀ (Multiset.mem_cons_self dev _)
  rw [Multiset.erase_cons_head] at hclosed
  have hclose : LibusbBackend.usbhidCloseDevice dev v=(usbClose (usbDevHandle v dev) v).setChildren dev 0 :=
    if_pos (hw₀.address dev (hseen.owned.leaf dev (Multiset.mem_cons_self dev _)).listed).1
  refine ⟨hlist,hclosed,?_,fun k hk => ?_,h.printable⟩
  · rw [hclose]
    exact hseen.boards.trans h.untouched
  · have hne : k.usbh≠dev := fun he => hnew (he ▸ List.mem_map_of_mem hk)
    have hhandle : usbDevHandle (LibusbBackend.usbhidCloseDevice dev v) k.usbh=usbDevHandle s.world k.usbh := by
      rw [hclose,usbDevHandle_setChildren_ne _ hne]
      exact hseen.handle k.usbh hne
    dsimp only
    rw [hhandle]
    exact h.label k hk

/-- One that is kept is found. -/
theorem Found.keep (h : Found w₀ n before boards s nodes kept) (hseen : Seen w₀ n kept s.world v dev)
    (hnew : dev∉kept.map Kept.usbh) (hf : s.context.2.fails s.context.2.calls=false)
    (hid : Printable (boards s.world.ledger.fresh).ident) :
    Found w₀ n before boards ⟨err,appendNode s.context dev (boards s.world.ledger.fresh).ident,v⟩
      (nodes++[(s.context.2.calls : ℤ)+1]) (kept++[⟨dev,(boards s.world.ledger.fresh).ident⟩]) := by
  refine ⟨h.list.keep hf dev _,?_,hseen.boards.trans h.untouched,fun k hk => ?_,fun k hk => ?_⟩
  · rw [List.map_append,←Multiset.coe_add,Multiset.add_comm]
    exact hseen.owned
  · rcases List.mem_append.mp hk with hk|hk
    · have hne : k.usbh≠dev := fun he => hnew (he ▸ List.mem_map_of_mem hk)
      dsimp only
      rw [hseen.handle k.usbh hne]
      exact h.label k hk
    · rw [List.mem_singleton.mp hk,hseen.slot]
  · rcases List.mem_append.mp hk with hk|hk
    · exact h.printable k hk
    · rw [List.mem_singleton.mp hk]
      exact hid

variable (fails) in
/-- A round with this device leads to a state in which it may have been
found, as it was to be. -/
def Finds (w₀ : LibusbWorld Bench) (n : ℕ) (before : Heap) (boards : Ptr → Board)
    (s t : EnumReply (Enumctx×Heap) (LibusbWorld Bench)) (nodes : List ℤ) (kept : List Kept) (dev : Ptr) : Prop :=
  ∃ more kept',Found w₀ n before boards t (nodes++more) (kept++kept') ∧ (∀ d∈kept'.map Kept.usbh,d=dev) ∧
    ∀ devs,toFind fails boards w₀ s (dev::devs)=kept'.map Kept.usbh++toFind fails boards w₀ t devs

/-- A round that finds nothing. -/
theorem Found.passes {t : EnumReply (Enumctx×Heap) (LibusbWorld Bench)} (ht : Found w₀ n before boards t nodes kept)
    (hsame : ∀ devs,toFind fails boards w₀ s (dev::devs)=toFind fails boards w₀ t devs) :
    Finds fails w₀ n before boards s t nodes kept dev := by
  refine ⟨[],[],?_,fun d hd => absurd hd List.not_mem_nil,hsame⟩
  rw [List.append_nil,List.append_nil]
  exact ht

variable (fails input target) in
/-- The callback finds a card that can be read and stored, and closes any
other device. -/
theorem Found.callback (hw₀ : Attached w₀) (h : Found w₀ n before boards s nodes kept) (hdev : LeafCard w₀ dev)
    (hnew : dev∉kept.map Kept.usbh) :
    let r := enumfunc (libusbHid (boardEnv fails input) target) dev s.context (offer dev s.world)
    r.answer=1 ∧ Finds fails w₀ n before boards s ⟨0,r.context,r.world⟩ nodes kept dev := by
  obtain ⟨v,hp,hseen⟩ := h.probe fails input target hw₀ hdev hnew
  have htransfers := hseen.transfers
  have hcard : IsCard w₀ dev ↔ Named w₀ dev := ⟨fun hc => hc.2.2,fun hc => ⟨hdev.ids,hdev.leaf,hc⟩⟩
  by_cases hc : Named w₀ dev
  · rw [if_pos hc] at htransfers
    by_cases hread : fails s.world.env.transfers=none ∧ Printable (boards s.world.ledger.fresh).ident
    · rw [if_pos ⟨hc,hread⟩] at hp
      cases hm : s.context.2.fails s.context.2.calls with
      | true =>
        have hcalls : s.context.2.calloc.2={s.context.2 with calls := s.context.2.calls+1} := by
          rw [Heap.calloc,if_pos hm]
        rw [enumfunc_nomem hp hm]
        refine ⟨rfl,(h.close hw₀ hseen hnew (h.list.nomem hm)).passes fun devs => ?_⟩
        simp only [toFind,found,if_pos hdev.ids,if_pos (hcard.mpr hc),if_pos hread,if_pos hm,hcalls,closeDevice_env,
          closeDevice_fresh,htransfers,hseen.fresh]
      | false =>
        have hno : ¬s.context.2.fails s.context.2.calls=true := by rw [hm]; exact Bool.false_ne_true
        have hkeep : Found w₀ n before boards ⟨0,_,v⟩ _ _ := h.keep hseen hnew hm hread.2
        have hpattern := hkeep.list.fails.trans h.list.fails.symm
        rw [enumfunc_keep hp hm]
        refine ⟨rfl,_,_,hkeep,fun d hd => List.mem_singleton.mp hd,fun devs => ?_⟩
        dsimp only at hpattern
        simp only [toFind,found,if_pos hdev.ids,if_pos (hcard.mpr hc),if_pos hread,if_neg hno,hpattern,
          appendNode_calls hm,htransfers,hseen.fresh]
        rfl
    · rw [if_neg fun hboth => hread hboth.2] at hp
      rw [enumfunc_reject hp]
      refine ⟨rfl,(h.close hw₀ hseen hnew h.list).passes fun devs => ?_⟩
      simp only [toFind,found,if_pos hdev.ids,if_pos (hcard.mpr hc),if_neg hread,closeDevice_env,closeDevice_fresh,
        htransfers,hseen.fresh]
  · rw [if_neg hc] at htransfers
    rw [if_neg fun hboth => hc hboth.1] at hp
    rw [enumfunc_reject hp]
    refine ⟨rfl,(h.close hw₀ hseen hnew h.list).passes fun devs => ?_⟩
    simp only [toFind,found,if_pos hdev.ids,if_neg fun hyes => hc (hcard.mp hyes),closeDevice_env,closeDevice_fresh,
      htransfers,hseen.fresh]

variable (fails input target) in
/-- One round of the loop: it goes on, and a card that can be read and stored
is found. -/
theorem Found.visit (hw₀ : Attached w₀) (h : Found w₀ n before boards s nodes kept) (hdev : dev∈w₀.busses.flatten)
    (hnew : dev∉kept.map Kept.usbh) :
    let r := libusbVisit (boardEnv fails input) USB_CFG_VENDOR_ID USB_CFG_DEVICE_ID
      (enumfunc (libusbHid (boardEnv fails input) target)) dev s
    r.1=false ∧ Finds fails w₀ n before boards s r.2 nodes kept dev := by
  obtain ⟨hmatches,hchildren⟩ := attributes_owned h.owned dev
  have hends := libusbVisit_ends (boardEnv fails input) USB_CFG_VENDOR_ID USB_CFG_DEVICE_ID
    (enumfunc (libusbHid (boardEnv fails input) target)) dev s
  generalize libusbVisit (boardEnv fails input) USB_CFG_VENDOR_ID USB_CFG_DEVICE_ID
    (enumfunc (libusbHid (boardEnv fails input) target)) dev s=r at hends ⊢
  cases hends with
  | foreign hm =>
    have hno : ¬DeviceVisits.Matches USB_CFG_VENDOR_ID USB_CFG_DEVICE_ID w₀ dev := fun hc => hm (hmatches.mpr hc)
    exact ⟨rfl,h.passes fun devs => by rw [toFind,found,if_neg hno]⟩
  | denied hm ho => cases ho
  | hub hm ho hn =>
    have hno : ¬IsCard w₀ dev := fun hc => hn (hchildren.trans hc.2.1)
    have hclosed : Found w₀ n before boards ⟨0,s.context,usbClose s.world.ledger.fresh (opened s.world)⟩ nodes kept :=
      ⟨h.list,h.owned.hub,h.untouched,h.label,h.printable⟩
    have hfresh : (usbClose s.world.ledger.fresh (opened s.world)).ledger.fresh=s.world.ledger.fresh+1 :=
      Ledger.fresh_openNext s.world.ledger
    refine ⟨rfl,hclosed.passes fun devs => ?_⟩
    rw [toFind,found,if_pos (hmatches.mp hm),if_neg hno,toFind,hfresh]
    rfl
  | leaf hm ho hn =>
    have hleaf : LeafCard w₀ dev := ⟨hdev,hmatches.mp hm,hchildren.symm.trans hn⟩
    obtain ⟨hanswer,hfinds⟩ := h.callback fails input target hw₀ hleaf hnew
    refine ⟨?_,hfinds⟩
    rw [hanswer]
    rfl

variable (fails input target) in
/-- A traversal of devices finds the cards among them. The induction is on
the devices still to come. -/
theorem Found.visits (hw₀ : Attached w₀) {devs : List Ptr} (h : Found w₀ n before boards s nodes kept)
    (hnd : devs.Nodup) (hdevs : ∀ dev∈devs,dev∈w₀.busses.flatten ∧ dev∉kept.map Kept.usbh) :
    let r := visitAll (libusbVisit (boardEnv fails input) USB_CFG_VENDOR_ID USB_CFG_DEVICE_ID
      (enumfunc (libusbHid (boardEnv fails input) target))) devs s
    r.1=false ∧ ∃ more kept',Found w₀ n before boards r.2 (nodes++more) (kept++kept') ∧
      kept'.map Kept.usbh=toFind fails boards w₀ s devs := by
  induction devs generalizing s nodes kept with
  | nil =>
    refine ⟨rfl,[],[],?_,rfl⟩
    rw [List.append_nil,List.append_nil]
    exact h
  | cons dev devs ih =>
    obtain ⟨hdev,hnew⟩ := hdevs dev List.mem_cons_self
    obtain ⟨hnot,hrest⟩ := List.nodup_cons.mp hnd
    obtain ⟨hgo,more,kept',hfound,hkept,htally⟩ := h.visit fails input target hw₀ hdev hnew
    obtain ⟨hgo',more',kept'',hfound',hmap⟩ := ih hfound hrest fun d hd => by
      refine ⟨(hdevs d (List.mem_cons_of_mem dev hd)).1,fun hm => ?_⟩
      rw [List.map_append] at hm
      rcases List.mem_append.mp hm with hm|hm
      · exact (hdevs d (List.mem_cons_of_mem dev hd)).2 hm
      · exact hnot (hkept d hm ▸ hd)
    rw [visitAll_cons_go hgo]
    refine ⟨hgo',more++more',kept'++kept'',?_,?_⟩
    · rw [←List.append_assoc,←List.append_assoc]
      exact hfound'
    · rw [List.map_append,hmap,htally]

end Enumeration

section Discovery

variable {fails : ℕ → Option Failure} {input : ℕ → Ptr → Pin → Bool} {target : Target} {w₀ w : LibusbWorld Bench}
  {heap : Heap} {head : Ptr}

end Discovery

end UsbIo16.BoardDiscovery
