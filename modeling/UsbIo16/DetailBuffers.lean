import Mathlib.Data.Finset.Card
import UsbIo16.DeviceVisits

/-!
# What an enumeration on Windows allocates

Besides device handles the Windows enumeration takes an information list
from the system, and a buffer for each interface whose path it asks for. The
buffer is kept over the rounds that pass an interface early and replaced by
the next one that is needed. The function is given here with these
allocations; it does the same as without, and whichever query or allocation
fails and wherever the callback stops, all of them are given back once.
-/

namespace UsbIo16.DetailBuffers

open HandleLedger Hiddata MswinBackend

section Slots

variable {past log : List (HandleEvent ℤ)} {n : ℕ}

/-- Since the events in `past` no more than `n` resources were ever open at once. -/
def AtMost (n : ℕ) (past log : List (HandleEvent ℤ)) : Prop :=
  ∃ new,log=new++past ∧
    ∀ late early live,new=late++early → openHandles (early++past)=some live → live.card≤n

/-- At the start nothing has happened. -/
theorem AtMost.now {live : Finset ℤ} (hl : openHandles past=some live) (hn : live.card≤n) : AtMost n past past := by
  refine ⟨[],rfl,fun late early live' he hlive => ?_⟩
  obtain ⟨-,rfl⟩ := List.append_eq_nil_iff.mp he.symm
  obtain rfl := Option.some.inj (hl.symm.trans hlive)
  exact hn

/-- One more event that leaves no more of them open. -/
theorem AtMost.cons (h : AtMost n past log) {e : HandleEvent ℤ} {live : Finset ℤ}
    (hl : openHandles (e::log)=some live) (hn : live.card≤n) : AtMost n past (e::log) := by
  obtain ⟨new,rfl,hnew⟩ := h
  refine ⟨e::new,rfl,fun late early live' he hlive => ?_⟩
  cases late with
  | nil =>
    obtain rfl : early=e::new := he.symm
    obtain rfl := Option.some.inj (hl.symm.trans hlive)
    exact hn
  | cons f late =>
    obtain ⟨-,hrest⟩ := List.cons.inj he
    exact hnew late early live' hrest hlive

/-- A variable that is NULL or holds a resource, besides those in `rest`. -/
structure InSlot (before : Ledger) (rest : Finset ℤ) (l : Ledger) (p : ℤ) : Prop where
  /-- What is open. -/
  live : l.live=some (if p=0 then rest else insert p rest)
  /-- The one in the variable is none of the others. -/
  apart : p≠0 → p∉rest
  /-- There was never more than one besides those. -/
  peak : AtMost (rest.card+1) before.log l.log

variable {s₀ l : Ledger} {rest : Finset ℤ} {p : ℤ}

/-- The variable is NULL first. -/
theorem InSlot.empty (h : s₀.live=some rest) : InSlot s₀ rest s₀ 0 :=
  ⟨h,fun h0 => absurd rfl h0,.now h (Nat.le_succ _)⟩

/-- A resource is opened into an empty variable. -/
theorem InSlot.fill (h : InSlot s₀ rest l 0) : InSlot s₀ rest l.openNext l.fresh := by
  have hlive : l.live=some rest := h.live
  have hne : l.fresh≠0 := by
    have hp := l.fresh_pos
    omega
  have hnew := Ledger.fresh_not_live hlive
  have hnext := Ledger.live_openNext hlive
  refine ⟨by rw [if_neg hne]; exact hnext,fun _ => hnew,h.peak.cons hnext ?_⟩
  rw [Finset.card_insert_of_notMem hnew]

/-- The resource in the variable is used. -/
theorem InSlot.use (h : InSlot s₀ rest l p) (hp : p≠0) : InSlot s₀ rest (l.use p) p := by
  have hlive := h.live
  rw [if_neg hp] at hlive
  have huse := Ledger.live_use hlive (Finset.mem_insert_self p rest)
  refine ⟨by rw [if_neg hp]; exact huse,h.apart,h.peak.cons huse ?_⟩
  rw [Finset.card_insert_of_notMem (h.apart hp)]

/-- The resource in the variable is closed. -/
theorem InSlot.clear (h : InSlot s₀ rest l p) (hp : p≠0) : InSlot s₀ rest (l.close p) 0 := by
  have hlive := h.live
  rw [if_neg hp] at hlive
  have hclose := Ledger.live_close hlive (Finset.mem_insert_self p rest)
  rw [Finset.erase_insert (h.apart hp)] at hclose
  exact ⟨hclose,fun h0 => absurd rfl h0,h.peak.cons hclose (Nat.le_succ _)⟩

/-- What was opened since `before` has been given back: what is open now was
open before, and there was never more than one besides. -/
structure GivenBack (before : Ledger) (rest : Finset ℤ) (l : Ledger) : Prop where
  /-- What is open. -/
  live : l.live=some rest
  /-- Everything else that was ever opened was closed exactly once. -/
  once : ∀ h,.opened h∈l.log → h∉rest → l.log.count (.closed h)=1
  /-- One at a time. -/
  peak : AtMost (rest.card+1) before.log l.log

/-- An empty variable at the end. -/
theorem InSlot.givenBack (h : InSlot s₀ rest l 0) : GivenBack s₀ rest l := by
  refine ⟨h.live,fun g ho hg => ?_,h.peak⟩
  have hc := closed_count h.live ho
  rwa [if_pos rfl,if_neg hg] at hc

end Slots

/-- The information lists and the buffers a process has allocated. -/
structure Allocations where
  /-- The lists taken from the system and destroyed. -/
  lists : Ledger
  /-- The buffers allocated and freed. -/
  buffers : Ledger

/-- The two variables of an enumeration that hold one of them. -/
structure Scratch extends Allocations where
  /-- The information list. -/
  deviceInfoList : Ptr
  /-- The buffer for the path of an interface, or NULL. -/
  deviceDetails : Ptr

namespace Scratch

variable (m : Scratch)

/-- A query of the information list. -/
def query : Scratch := {m with lists := m.lists.use m.deviceInfoList}

/-- A read or write of the buffer. -/
def touch : Scratch := {m with buffers := m.buffers.use m.deviceDetails}

/-- `if (deviceDetails != NULL) free(deviceDetails);` -/
def freeDetails : Scratch := if m.deviceDetails≠0 then {m with buffers := m.buffers.close m.deviceDetails} else m

/-- `deviceDetails = malloc(size);` -/
def malloc (allocated : Bool) : Scratch :=
  if allocated=true then {m with buffers := m.buffers.openNext,deviceDetails := m.buffers.fresh}
  else {m with deviceDetails := 0}

/-- The end of the function: `SetupDiDestroyDeviceInfoList`, and the buffer is freed. -/
def release : Scratch := {m with lists := m.lists.close m.deviceInfoList}.freeDetails

end Scratch

section Backend

variable {D α : Type} (env : MswinEnv D) (vendor product : ℤ) (usbhidEnumFunc : EnumFunc α (MswinWorld D))

/-- The loop of `usbhidEnumDevices` with its allocations. -/
def interfaceLoop :
    List HidInterface → Scratch → Ptr → BitVec 16×BitVec 16 → ℤ → α → MswinWorld D →
      EnumReply α (MswinWorld D)×Scratch
  | [],m,handle,_,errorCode,context,w => (⟨errorCode,context,closePending handle w⟩,m.query.release)
  | iface::rest,m,handle,deviceAttributes,errorCode,context,w =>
    let w := closePending handle w
    -- the next interface, then the query for the size of its details
    let m := m.query.query
    if iface.size=0 then
      interfaceLoop rest m INVALID_HANDLE_VALUE deviceAttributes errorCode context w
    else
      let m := m.freeDetails.malloc iface.allocated
      if m.deviceDetails=0 then
        interfaceLoop rest m INVALID_HANDLE_VALUE deviceAttributes errorCode context w
      else
        -- the size field is set, then the query writes the details
        let m := m.touch.query.touch
        if iface.detail=false then
          interfaceLoop rest m INVALID_HANDLE_VALUE deviceAttributes errorCode context w
        else
          let m := m.touch
          let handle := (createFile iface w).1
          let w := (createFile iface w).2
          if handle=INVALID_HANDLE_VALUE then
            interfaceLoop rest m handle deviceAttributes errorCode context w
          else
            let deviceAttributes := iface.attributes.getD deviceAttributes
            if (deviceAttributes.1.toNat : ℤ)≠vendor ∨ (deviceAttributes.2.toNat : ℤ)≠product then
              interfaceLoop rest m handle deviceAttributes errorCode context w
            else
              let r := usbhidEnumFunc handle context w
              if r.answer=0 then (⟨0,r.context,r.world⟩,m.release)
              else interfaceLoop rest m INVALID_HANDLE_VALUE deviceAttributes 0 r.context r.world

/-- Enumerate HID USB devices, with what is allocated for it. -/
def usbhidEnumDevices (context : α) (a : Allocations) (w : MswinWorld D) :
    EnumReply α (MswinWorld D)×Allocations :=
  let r := env.classDevs w.env
  let w := {w with env := r.2}
  match r.1 with
  | none => (⟨USBHID_ERR_NOTFOUND,context,w⟩,a)
  | some devs =>
    let m : Scratch := ⟨⟨a.lists.openNext,a.buffers⟩,a.lists.fresh,0⟩
    let r := interfaceLoop vendor product usbhidEnumFunc devs.interfaces m INVALID_HANDLE_VALUE devs.stale
      USBHID_ERR_NOTFOUND context w
    (r.1,r.2.toAllocations)

end Backend

section Allocated

variable {a : Allocations} {L B : Finset ℤ} {m : Scratch}

/-- The variables of an enumeration: besides what was allocated before there
is its list, and at most one buffer. -/
structure Scratch.Ok (a : Allocations) (L B : Finset ℤ) (m : Scratch) : Prop where
  /-- The list. -/
  list : InSlot a.lists L m.lists m.deviceInfoList
  /-- There is one. -/
  taken : m.deviceInfoList≠0
  /-- The buffer, if there is one. -/
  details : InSlot a.buffers B m.buffers m.deviceDetails

/-- A query of the list. -/
theorem Scratch.Ok.query (h : m.Ok a L B) : m.query.Ok a L B := ⟨h.list.use h.taken,h.taken,h.details⟩

/-- A use of the buffer. -/
theorem Scratch.Ok.touch (h : m.Ok a L B) (hp : m.deviceDetails≠0) : m.touch.Ok a L B :=
  ⟨h.list,h.taken,h.details.use hp⟩

/-- The old buffer is freed. -/
theorem Scratch.Ok.freed (h : m.Ok a L B) : InSlot a.buffers B m.freeDetails.buffers 0 := by
  unfold Scratch.freeDetails
  by_cases hp : m.deviceDetails=0
  · have hd := h.details
    rw [hp] at hd
    rw [if_neg (not_not.mpr hp)]
    exact hd
  · rw [if_pos hp]
    exact h.details.clear hp

/-- Freeing it concerns no list. -/
theorem freeDetails_list (m : Scratch) :
    m.freeDetails.lists=m.lists ∧ m.freeDetails.deviceInfoList=m.deviceInfoList := by
  unfold Scratch.freeDetails
  split <;> exact ⟨rfl,rfl⟩

/-- A new buffer takes its place, unless the allocation fails. -/
theorem Scratch.Ok.renew (h : m.Ok a L B) (allocated : Bool) :
    (m.freeDetails.malloc allocated).Ok a L B ∧
      ((m.freeDetails.malloc allocated).deviceDetails=0 ↔ allocated=false) := by
  obtain ⟨hlists,hinfo⟩ := freeDetails_list m
  have hlist : InSlot a.lists L m.freeDetails.lists m.freeDetails.deviceInfoList := by
    rw [hlists,hinfo]
    exact h.list
  have htaken : m.freeDetails.deviceInfoList≠0 := hinfo ▸ h.taken
  cases allocated with
  | true =>
    have hfull : m.freeDetails.buffers.fresh≠0 := by
      have hp := m.freeDetails.buffers.fresh_pos
      omega
    exact ⟨⟨hlist,htaken,h.freed.fill⟩,iff_of_false hfull Bool.true_eq_false.mp⟩
  | false => exact ⟨⟨hlist,htaken,h.freed⟩,iff_of_true rfl rfl⟩

/-- At the end list and buffer are given back. -/
theorem Scratch.Ok.release (h : m.Ok a L B) :
    GivenBack a.lists L m.release.lists ∧ GivenBack a.buffers B m.release.buffers := by
  have hlists : m.release.lists=m.lists.close m.deviceInfoList := (freeDetails_list _).1
  have hbuffers : m.release.buffers=m.freeDetails.buffers := by
    unfold Scratch.release Scratch.freeDetails
    dsimp only
    split <;> rfl
  rw [hlists,hbuffers]
  exact ⟨(h.list.clear h.taken).givenBack,h.freed.givenBack⟩

variable {D α : Type} {vendor product : ℤ} {usbhidEnumFunc : EnumFunc α (MswinWorld D)}

/-- The loop does what it does without allocations, and gives them back. The
induction is on the interfaces, the cases are those of a round. -/
theorem interfaceLoop_gives_back (interfaces : List HidInterface) (h : m.Ok a L B) (handle : Ptr)
    (deviceAttributes : BitVec 16×BitVec 16) (errorCode : ℤ) (context : α) (w : MswinWorld D) :
    let r := interfaceLoop vendor product usbhidEnumFunc interfaces m handle deviceAttributes errorCode context w
    r.1=MswinBackend.interfaceLoop vendor product usbhidEnumFunc interfaces handle deviceAttributes errorCode
        context w ∧
      GivenBack a.lists L r.2.lists ∧ GivenBack a.buffers B r.2.buffers := by
  induction interfaces generalizing m handle deviceAttributes errorCode context w with
  | nil => exact ⟨rfl,h.query.release⟩
  | cons iface rest ih =>
    have hquery := h.query.query
    obtain ⟨hrenew,hnull⟩ := hquery.renew iface.allocated
    rw [interfaceLoop,MswinBackend.interfaceLoop]
    dsimp only
    by_cases hs : iface.size=0
    · rw [if_pos hs,if_pos hs]
      exact ih hquery _ _ _ _ _
    rw [if_neg hs,if_neg hs]
    by_cases ha : iface.allocated=false
    · rw [if_pos (hnull.mpr ha),if_pos ha]
      exact ih hrenew _ _ _ _ _
    have hp : (m.query.query.freeDetails.malloc iface.allocated).deviceDetails≠0 := fun he => ha (hnull.mp he)
    have hasked := ((hrenew.touch hp).query).touch hp
    rw [if_neg hp,if_neg ha]
    by_cases hd : iface.detail=false
    · rw [if_pos hd,if_pos hd]
      exact ih hasked _ _ _ _ _
    have hpath := hasked.touch hp
    rw [if_neg hd,if_neg hd]
    split
    · exact ih hpath _ _ _ _ _
    split
    · exact ih hpath _ _ _ _ _
    split
    · exact ⟨rfl,hpath.release⟩
    · exact ih hpath _ _ _ _ _

/-- Whichever query, allocation or opening fails, whatever is attached and
wherever the callback stops: an enumeration on Windows does the same with
its allocations as without, uses only what it has allocated and not given
back, has never more than one list and one buffer, and gives back each of
them exactly once. -/
theorem enumDevices_gives_back (env : MswinEnv D) (context : α) (w : MswinWorld D) (hl : a.lists.live=some L)
    (hb : a.buffers.live=some B) :
    let r := usbhidEnumDevices env vendor product usbhidEnumFunc context a w
    r.1=MswinBackend.usbhidEnumDevices env vendor product context usbhidEnumFunc w ∧
      GivenBack a.lists L r.2.lists ∧ GivenBack a.buffers B r.2.buffers := by
  have hlist := InSlot.empty hl
  have hbuffer := InSlot.empty hb
  unfold usbhidEnumDevices MswinBackend.usbhidEnumDevices
  dsimp only
  cases (env.classDevs w.env).1 with
  | none => exact ⟨rfl,hlist.givenBack,hbuffer.givenBack⟩
  | some devs =>
    have hne : a.lists.fresh≠0 := by
      have hp := a.lists.fresh_pos
      omega
    have hstart : Scratch.Ok a L B ⟨⟨a.lists.openNext,a.buffers⟩,a.lists.fresh,0⟩ := ⟨hlist.fill,hne,hbuffer⟩
    exact interfaceLoop_gives_back devs.interfaces hstart _ _ _ _ _

/-- A mouse that cannot be opened, a device whose path finds no memory, and a card. -/
def deskEnv : MswinEnv Unit where
  classDevs _ := (some ⟨(0,0),[⟨"mouse",40,true,true,false,none⟩,⟨"pad",40,false,true,true,none⟩,
    ⟨"card",52,true,true,true,some (0x16c0,0x05df)⟩]⟩,())
  manufacturer _ _ := (none,())
  product _ _ := (none,())
  setFeature _ _ _ := (false,())
  getFeature _ _ _ _ := (none,())

/-- Nothing opened so far. -/
def deskWorld : MswinWorld Unit := ⟨Ledger.empty,fun _ => "",()⟩

theorem enumDevices_gives_back_desk :
    let r := usbhidEnumDevices deskEnv 0x16c0 0x05df (fun u c w => ⟨0,u::c,w⟩) [] ⟨Ledger.empty,Ledger.empty⟩ deskWorld
    (r.1=MswinBackend.usbhidEnumDevices deskEnv 0x16c0 0x05df [] (fun u c w => ⟨0,u::c,w⟩) deskWorld ∧
        GivenBack Ledger.empty ∅ r.2.lists ∧ GivenBack Ledger.empty ∅ r.2.buffers) ∧
      r.1.context=[1] ∧ r.2.lists.issued=1 ∧ r.2.buffers.issued=2 :=
  ⟨enumDevices_gives_back deskEnv [] deskWorld rfl rfl,rfl,rfl,rfl⟩

end Allocated

end UsbIo16.DetailBuffers
