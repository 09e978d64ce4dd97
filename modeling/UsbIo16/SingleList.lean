import UsbIo16.BackendCustody
import UsbIo16.ListSessions

/-!
# One list at a time

The handle ledger of a session that never has more than one list, behind
libusb and Windows. Every handle the system opened for a list is closed
during the enumeration or kept in exactly one node; freeing the list frees
each node and closes each kept handle once, and leaves nothing behind.
-/

namespace UsbIo16.SingleList

open HandleLedger Hiddata IoInterface LibusbBackend MswinBackend DeviceVisits Ownership ListSessions BackendCustody

/-- A custody over a ledger of handles of the operating system, one of which
stands behind each device handle. -/
structure LedgerCustody {W : Type} (hid : HidLayer W) extends Custody hid where
  /-- The ledger of the system's handles. -/
  ledger : W → Ledger
  /-- The system's handle behind a device handle. -/
  slot : W → Ptr → Ptr
  /-- The handles open are those behind the device handles that are out. -/
  stored : ∀ {S w},Owned S w → ∃ live,(ledger w).live=some live ∧ Stored (slot w) S live
  /-- Owners only add to the ledger. -/
  grows : ∀ {x y},OwnerStep hid x y → ∃ late,(ledger y.1).log=late++(ledger x.1).log
  /-- The attached devices are as they were at the start. -/
  AtRest : W → Prop
  /-- So they are when no handle is out. -/
  rest : ∀ {w},Owned 0 w → AtRest w

section Laws

variable {W : Type} {hid : HidLayer W} (B : LedgerCustody hid)

/-- The system's handle kept in a node. -/
def kept (s : Session W) (a : Ptr) : Ptr := B.slot s.world (usbhOf s.heap a)

/-- What holds of every handle opened so far when a list has been returned. -/
structure GetLaw (t : Session W) : Prop where
  /-- It was closed once and is in no node, or it is open and in exactly one. -/
  accounted : ∀ h,.opened h∈(B.ledger t.world).log →
    ((B.ledger t.world).log.count (.closed h)=1 ∧ ∀ a∈t.nodes,kept B t a≠h) ∨
      ((B.ledger t.world).log.count (.closed h)=0 ∧ ∃! a,a∈t.nodes ∧ kept B t a=h)

/-- What freeing the list `l` in `s` leads to. -/
structure FreeLaw (l : OpenList) (s t : Session W) : Prop where
  /-- No list is left. -/
  noList : t.lists=[]
  /-- Each of its nodes was there, … -/
  allocated : ∀ a∈nodesOf s.heap l.head,∃ n,s.heap.cell a=some n
  /-- … no two of them were the same, … -/
  distinct : (nodesOf s.heap l.head).Nodup
  /-- … and they are gone now, with nothing else changed. -/
  freed : Freed s.heap t.heap (nodesOf s.heap l.head)
  /-- The handle kept in each was not closed before and has been closed once now. -/
  closedOnce : ∀ a∈nodesOf s.heap l.head,(B.ledger s.world).log.count (.closed (kept B s a))=0 ∧
    (B.ledger t.world).log.count (.closed (kept B s a))=1
  /-- No handle is open. -/
  noneOpen : (B.ledger t.world).live=some ∅
  /-- The attached devices are as they were at the start. -/
  atRest : B.AtRest t.world

/-- The law in a state of a session. -/
structure SingleLaw (s : Session W) : Prop where
  /-- There is at most one list. -/
  single : s.lists.length≤1
  /-- Every action returns, the loop that frees a list included. -/
  survives : ∀ a,(a=.getDeviceList → s.lists=[]) → ∃ t,Action.run hid s a=some t
  /-- A list that is returned accounts for all handles. -/
  get : s.lists=[] → ∀ t,Action.run hid s .getDeviceList=some t → GetLaw B t
  /-- Freeing the list leaves nothing behind. -/
  free : ∀ l,s.lists=[l] → ∀ t,Action.run hid s (.freeDeviceList 0)=some t → FreeLaw B l s t

variable {B} {s t : Session W} {l : OpenList}

/-- The ledger of a session: the open handles are those kept in the nodes,
each in one node. -/
theorem accounts_stored (h : Accounts B.toCustody s) : ∃ live,(B.ledger s.world).live=some live ∧
    (∀ x,x∈live ↔ ∃ a∈s.nodes,kept B s a=x) ∧ ∀ a∈s.nodes,∀ b∈s.nodes,kept B s a=kept B s b → a=b := by
  obtain ⟨live,hlive,hstored⟩ := B.stored h.owned
  have hmem : ∀ a∈s.nodes,usbhOf s.heap a∈(s.usbhs : Multiset Ptr) :=
    fun a ha => Multiset.mem_coe.mpr (List.mem_map_of_mem ha)
  refine ⟨live,hlive,?_,?_⟩
  · intro x
    rw [hstored.covers]
    constructor
    · rintro ⟨u,hu,rfl⟩
      obtain ⟨a,ha,rfl⟩ := List.mem_map.mp (Multiset.mem_coe.mp hu)
      exact ⟨a,ha,rfl⟩
    · rintro ⟨a,ha,rfl⟩
      exact ⟨_,hmem a ha,rfl⟩
  · intro a ha b hb he
    have hu := hstored.apart _ (hmem a ha) _ (hmem b hb) he
    exact List.inj_on_of_nodup_map (Multiset.coe_nodup.mp hstored.nodup) ha hb hu

/-- A whole run of owners only adds to the ledger. -/
theorem ownerRun_grows {x y : W×Multiset Ptr} (hrun : OwnerRun hid x y) :
    ∃ late,(B.ledger y.1).log=late++(B.ledger x.1).log := by
  induction hrun with
  | refl => exact ⟨[],rfl⟩
  | tail _ hstep ih =>
    obtain ⟨late,hlate⟩ := ih
    obtain ⟨later,hlater⟩ := B.grows hstep
    exact ⟨later++late,by rw [hlater,hlate,List.append_assoc]⟩

/-- So every handle is closed, or kept in exactly one node. -/
theorem getLaw_of_accounts (h : Accounts B.toCustody t) : GetLaw B t where
  accounted x hx := by
    obtain ⟨live,hlive,hcovers,hapart⟩ := accounts_stored h
    have hcount := closed_count hlive hx
    by_cases hm : x∈live
    · rw [if_pos hm] at hcount
      obtain ⟨a,ha,hax⟩ := (hcovers x).mp hm
      refine .inr ⟨hcount,a,⟨ha,hax⟩,?_⟩
      rintro b ⟨hb,hbx⟩
      exact hapart b hb a ha (hbx.trans hax.symm)
    · rw [if_neg hm] at hcount
      exact .inl ⟨hcount,fun a ha hax => hm ((hcovers x).mpr ⟨a,ha,hax⟩)⟩

/-- Freeing the only list leaves nothing behind. -/
theorem freeLaw_of_accounts (h : Accounts B.toCustody s) (hl : s.lists=[l])
    (hrun : Action.run hid s (.freeDeviceList 0)=some t) : FreeLaw B l s t := by
  have hget : s.lists[0]?=some l := by rw [hl]; rfl
  have hmem : l∈s.lists := List.mem_of_getElem? hget
  obtain ⟨t',hrun',hacc,hfreed,hlists,-,howner⟩ := h.free hget
  obtain rfl : t'=t := Option.some.inj (hrun'.symm.trans hrun)
  have hnone : t'.lists=[] := by
    rw [hlists,hl]
    rfl
  have husbhs : (t'.usbhs : Multiset Ptr)=0 := by
    rw [Session.usbhs,Session.nodes,hnone]
    rfl
  have howned := hacc.owned
  rw [husbhs] at howned
  obtain ⟨live,hlive,hstored⟩ := B.stored howned
  obtain rfl := hstored.empty
  obtain ⟨before,hbefore,hcovers,-⟩ := accounts_stored h
  have hok := h.lists l hmem
  refine ⟨hnone,fun a ha => (hok.linked.mem ha).2,hok.linked.nodup,hfreed,?_,hlive,B.rest howned⟩
  intro a ha
  have hkept : kept B s a∈before := (hcovers _).mpr ⟨a,mem_nodes hmem ha,rfl⟩
  have hopened := opened_of_live hbefore hkept
  have hcount := closed_count hbefore hopened
  rw [if_pos hkept] at hcount
  obtain ⟨late,hlate⟩ := ownerRun_grows (B := B) howner
  have hopened' : .opened (kept B s a)∈(B.ledger t'.world).log := by
    rw [hlate]
    exact List.mem_append_right late hopened
  exact ⟨hcount,closed_once hlive hopened'⟩

/-- What makes the lists no more for any list does not for the i-th. -/
theorem withList_length {i : ℕ} {f : OpenList → Option (Session W)}
    (hf : ∀ l,f l=some t → t.lists.length ≤ s.lists.length) (hrun : s.withList i f=some t) :
    t.lists.length ≤ s.lists.length := by
  unfold Session.withList at hrun
  split at hrun
  · cases hrun
    exact le_rfl
  · exact hf _ hrun

/-- Keeping a handle replaces a list by one. -/
theorem keepHandle_length (s : Session W) (i : ℕ) (l : OpenList) (h : Ptr) :
    (s.keepHandle i l h).lists.length=s.lists.length := by
  unfold Session.keepHandle
  split
  · rfl
  · rw [List.length_set]

/-- No action but a request for a list makes the lists more. -/
theorem lists_length {a : Action} (ha : a≠.getDeviceList) (hrun : a.run hid s=some t) :
    t.lists.length ≤ s.lists.length := by
  cases a with
  | getDeviceList => exact absurd rfl ha
  | freeDeviceList i =>
    refine withList_length (fun l hl => ?_) hrun
    obtain ⟨r,-,rfl⟩ := Option.map_eq_some_iff.mp hl
    exact (List.eraseIdx_sublist s.lists i).length_le
  | openDevice i k =>
    refine withList_length (fun l hl => ?_) hrun
    obtain ⟨nodes,-,hn⟩ := Option.bind_eq_some_iff.mp hl
    split at hn
    · cases hn
      exact le_rfl
    · obtain ⟨h,-,rfl⟩ := Option.map_eq_some_iff.mp hn
      exact (keepHandle_length s i l h).le
  | openWithSerialNumber i serial_number =>
    refine withList_length (fun l hl => ?_) hrun
    obtain ⟨h,-,rfl⟩ := Option.map_eq_some_iff.mp hl
    exact (keepHandle_length s i l h).le
  | closeDevice i j =>
    refine withList_length (fun l hl => ?_) hrun
    split at hl
    · cases hl
      exact le_rfl
    · cases hl
      exact le_rfl
  | pinCall i j c =>
    refine withList_length (fun l hl => ?_) hrun
    split at hl
    · cases hl
      exact le_rfl
    · obtain ⟨r,-,rfl⟩ := Option.map_eq_some_iff.mp hl
      exact le_rfl

/-- Without lists there are no handles. -/
theorem usbhs_of_noList (hs : s.lists=[]) : (s.usbhs : Multiset Ptr)=0 := by
  rw [Session.usbhs,Session.nodes,hs]
  rfl

/-- In a session that requests a list only when it has none, every action
returns, and the accounts are kept for at most one list. -/
theorem single_run (hready : ∀ w,B.Owned 0 w → B.Ready 0 w) (hs : Accounts B.toCustody s) {a : Action}
    (hallowed : a=.getDeviceList → s.lists=[]) : ∃ t,a.run hid s=some t ∧ Accounts B.toCustody t := by
  refine hs.run a fun hget => ?_
  have howned := hs.owned
  rw [usbhs_of_noList (hallowed hget)] at howned ⊢
  exact hready _ howned

theorem single_session (hready : ∀ w,B.Owned 0 w → B.Ready 0 w) (hs : Accounts B.toCustody s)
    (hone : s.lists.length≤1) (hrun : Relation.ReflTransGen (Step hid fun s => s.lists=[]) s t) :
    Accounts B.toCustody t ∧ t.lists.length≤1 := by
  induction hrun with
  | refl => exact ⟨hs,hone⟩
  | tail _ hstep ih =>
    obtain ⟨hacc,hlen⟩ := ih
    obtain ⟨a,hallowed,ha⟩ := hstep
    obtain ⟨t',ht',hacc'⟩ := single_run hready hacc hallowed
    obtain rfl := Option.some.inj (ht'.symm.trans ha)
    refine ⟨hacc',?_⟩
    by_cases hget : a=.getDeviceList
    · have hnone := hallowed hget
      subst hget
      cases ha
      simp only [hnone,List.nil_append,List.length_cons,List.length_nil,Nat.zero_add,le_refl]
    · exact (lists_length hget ha).trans hlen

/-- Such a session obeys the law in all its states. -/
theorem single_law (hready : ∀ w,B.Owned 0 w → B.Ready 0 w) (hs : Accounts B.toCustody s)
    (hone : s.lists.length≤1) (hrun : Relation.ReflTransGen (Step hid fun s => s.lists=[]) s t) : SingleLaw B t := by
  obtain ⟨hacc,hlen⟩ := single_session hready hs hone hrun
  refine ⟨hlen,?_,?_,fun l hl t' ht' => freeLaw_of_accounts hacc hl ht'⟩
  · intro a hallowed
    obtain ⟨t',ht',-⟩ := single_run hready hacc hallowed
    exact ⟨t',ht'⟩
  · intro hnone t' ht'
    obtain ⟨u,hu,hacc'⟩ := single_run hready hacc fun _ => hnone
    obtain rfl := Option.some.inj (hu.symm.trans ht')
    exact getLaw_of_accounts hacc'

end Laws

section Backends

variable {D : Type}

/-- The custody of libusb is over its ledger, with the open handle of a
device in its struct, which had no array of children before. -/
def libusbLedger (env : LibusbEnv D) (target : Target) {w₀ : LibusbWorld D} (hw₀ : Attached w₀)
    (hchildren : Childless w₀) : LedgerCustody (libusbHid env target) where
  toCustody := libusbCustody env target hw₀
  ledger := LibusbWorld.ledger
  slot := usbDevHandle
  stored := fun ⟨_,h⟩ => h.ledger
  grows hstep := by
    cases hstep with
    | @close w S u hu =>
      by_cases h0 : u=0
      · have he : (libusbHid env target).usbhidCloseDevice u w=w := if_neg (not_not.mpr h0)
        rw [he]
        exact ⟨[],rfl⟩
      · have he : (libusbHid env target).usbhidCloseDevice u w=
            (usbClose (usbDevHandle w u) w).setChildren u 0 := if_pos h0
        rw [he]
        exact ⟨[_],rfl⟩
    | use hu huse =>
      obtain ⟨e,rfl⟩ := libusb_use huse
      exact ⟨[_],rfl⟩
  AtRest w := w.device=w₀.device
  rest := fun {w} ⟨_,h⟩ => by
    funext p
    have hrest : usbDevHandle w p=usbDevHandle w₀ p := by
      rcases h.atRest p (Multiset.notMem_zero p) with hsame|⟨hcard,hnull⟩
      · exact hsame
      · exact hnull.trans (hchildren p hcard).symm
    rw [h.struct p,hrest]
    rfl

/-- The custody of Windows is over its ledger, where the device handle is
the system's. -/
def mswinLedger (env : MswinEnv D) (target : Target) : LedgerCustody (mswinHid env target) where
  toCustody := mswinCustody env target
  ledger := MswinWorld.ledger
  slot _ u := u
  stored h := h
  grows hstep := by
    cases hstep with
    | close hu => exact ⟨[_],rfl⟩
    | use hu huse =>
      obtain ⟨e,rfl⟩ := mswin_use huse
      exact ⟨[_],rfl⟩
  AtRest _ := True
  rest _ := trivial

end Backends

/-- A process at its start, with libusb or with Windows: nothing has been
opened, and libusb lists the attached devices, with no array of children in
the structs of the cards. -/
inductive Process : Type 1 where
  | libusb {D : Type} (env : LibusbEnv D) (world : LibusbWorld D) (attached : Attached world)
      (childless : Childless world) (clean : world.ledger.live=some ∅)
  | mswin {D : Type} (env : MswinEnv D) (world : MswinWorld D) (clean : world.ledger.live=some ∅)

/-- The worlds of its backend. -/
def Process.World : Process → Type
  | @libusb D _ _ _ _ _ => LibusbWorld D
  | @mswin D _ _ _ => MswinWorld D

/-- The world it starts in. -/
def Process.world : (b : Process) → b.World
  | libusb _ world _ _ _ => world
  | mswin _ world _ => world

/-- Its HID layer. -/
def Process.hid (target : Target) : (b : Process) → HidLayer b.World
  | libusb env _ _ _ _ => libusbHid env target
  | mswin env _ _ => mswinHid env target

/-- Its ledger. -/
def Process.ledger (target : Target) : (b : Process) → LedgerCustody (b.hid target)
  | libusb env _ attached childless _ => libusbLedger env target attached childless
  | mswin env _ _ => mswinLedger env target

/-- The session before the first list, where `fails` says which allocations
will fail. -/
def Process.start (b : Process) (fails : ℕ → Bool) : Session b.World := ⟨Heap.empty fails,b.world,[]⟩

/-- The ledger law of the library with at most one list: whatever is
attached, however the devices answer and whichever allocations fail, every
action returns; when a list is returned every handle opened is closed once or
kept in exactly one node; and freeing the list frees each node and closes each
kept handle once, after which nothing is open and all devices are as before. -/
theorem single_list_ledger (b : Process) (target : Target) (fails : ℕ → Bool) {s : Session b.World}
    (hrun : Relation.ReflTransGen (Step (b.hid target) fun s => s.lists=[]) (b.start fails) s) :
    SingleLaw (b.ledger target) s := by
  have hone : (b.start fails).lists.length≤1 := Nat.zero_le 1
  have hheap : ∀ a : ℤ,((Heap.empty fails).calls : ℤ)<a → (Heap.empty fails).cell a=none := fun _ _ => rfl
  cases b with
  | libusb env world attached childless clean =>
    refine single_law (fun w _ u hu => absurd hu (Multiset.notMem_zero u)) ?_ hone hrun
    exact accounts_start hheap ⟨_,libusbOwned_start clean⟩
  | mswin env world clean =>
    refine single_law (fun _ _ => trivial) ?_ hone hrun
    exact accounts_start hheap (mswinOwned_start clean)

section TwoCards

/-- A libusb process with two cards attached. -/
def twoCards : Process := .libusb twoCardEnv twoCardWorld twoCardWorld_attached twoCardWorld_childless rfl

theorem single_list_ledger_twoCards :
    let hid := twoCards.hid ⟨true,fun _ => 0#8⟩
    let B := twoCards.ledger ⟨true,fun _ => 0#8⟩
    ∃ s₁ s₂ s₃ t,Action.run hid (twoCards.start fun _ => false) .getDeviceList=some s₁ ∧ GetLaw B s₁ ∧
      Action.run hid s₁ (.openDevice 0 1)=some s₂ ∧ Action.run hid s₂ (.pinCall 0 0 (.setPinMode 3 1 0))=some s₃ ∧
      s₃.nodes=[1,2] ∧ Action.run hid s₃ (.freeDeviceList 0)=some t ∧ FreeLaw B ⟨1,[2]⟩ s₃ t ∧
      (B.ledger t.world).log=[.closed 2,.closed 1,.used 2,.used 2,.used 2,.used 2,.opened 2,
        .used 1,.used 1,.used 1,.opened 1] := by
  intro hid B
  have hnone : (twoCards.start fun _ => false).lists=[] := rfl
  have hstart := single_list_ledger twoCards ⟨true,fun _ => 0#8⟩ (fun _ => false) .refl
  obtain ⟨s₁,hget⟩ : ∃ s₁,Action.run hid (twoCards.start fun _ => false) .getDeviceList=some s₁ :=
    hstart.survives .getDeviceList fun _ => hnone
  have hrun₁ : Relation.ReflTransGen (Step hid fun s => s.lists=[]) (twoCards.start fun _ => false) s₁ :=
    .single ⟨_,fun _ => hnone,hget⟩
  obtain ⟨s₂,hopen⟩ : ∃ s₂,Action.run hid s₁ (.openDevice 0 1)=some s₂ :=
    (single_list_ledger twoCards ⟨true,fun _ => 0#8⟩ (fun _ => false) hrun₁).survives _ nofun
  have hrun₂ := hrun₁.tail ⟨.openDevice 0 1,nofun,hopen⟩
  obtain ⟨s₃,hcall⟩ : ∃ s₃,Action.run hid s₂ (.pinCall 0 0 (.setPinMode 3 1 0))=some s₃ :=
    (single_list_ledger twoCards ⟨true,fun _ => 0#8⟩ (fun _ => false) hrun₂).survives _ nofun
  have hrun₃ := hrun₂.tail ⟨.pinCall 0 0 (.setPinMode 3 1 0),nofun,hcall⟩
  have hlaw := single_list_ledger twoCards ⟨true,fun _ => 0#8⟩ (fun _ => false) hrun₃
  obtain ⟨t,hfree⟩ : ∃ t,Action.run hid s₃ (.freeDeviceList 0)=some t := hlaw.survives _ nofun
  have hcycle : ∀ actions,runAll hid (twoCards.start fun _ => false)
      (.getDeviceList::.openDevice 0 1::.pinCall 0 0 (.setPinMode 3 1 0)::actions)=runAll hid s₃ actions := by
    intro actions
    simp only [runAll,List.foldlM_cons,hget,hopen,hcall,Option.bind_eq_bind,Option.bind_some]
  have hcomputed : (runAll hid (twoCards.start fun _ => false)
      [.getDeviceList,.openDevice 0 1,.pinCall 0 0 (.setPinMode 3 1 0)]).map
        (fun s => (s.nodes,s.lists.map fun l => (l.head,l.handles)))=some ([1,2],[(1,[2])]) := by decide +kernel
  have hlog : (runAll hid (twoCards.start fun _ => false)
      [.getDeviceList,.openDevice 0 1,.pinCall 0 0 (.setPinMode 3 1 0),.freeDeviceList 0]).map
        (fun s => (B.ledger s.world).log)=some [.closed 2,.closed 1,.used 2,.used 2,.used 2,.used 2,.opened 2,
          .used 1,.used 1,.used 1,.opened 1] := by decide +kernel
  rw [hcycle,runAll,List.foldlM_nil,Option.pure_def,Option.map_some,Option.some.injEq,Prod.mk.injEq] at hcomputed
  rw [hcycle,runAll] at hlog
  simp only [List.foldlM_cons,List.foldlM_nil,hfree,Option.bind_eq_bind,Option.bind_some,Option.pure_def,
    Option.map_some,Option.some.injEq] at hlog
  have hlists : s₃.lists=[⟨1,[2]⟩] := by
    obtain ⟨l,hl,hpair⟩ := List.map_eq_singleton_iff.mp hcomputed.2
    obtain ⟨head,handles⟩ := l
    obtain ⟨rfl,rfl⟩ := Prod.mk.inj hpair
    exact hl
  exact ⟨s₁,s₂,s₃,t,hget,hstart.get hnone s₁ hget,hopen,hcall,hcomputed.1,hfree,hlaw.free _ hlists t hfree,hlog⟩

end TwoCards

end UsbIo16.SingleList
