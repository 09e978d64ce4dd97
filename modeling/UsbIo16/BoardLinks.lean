import UsbIo16.MswinBackend
import UsbIo16.OsxBackend
import UsbIo16.ShortReports
import UsbIo16.WiredBoards

/-!
# The same boards behind each backend

What the pin functions need of a backend is little: a report that is sent is
obeyed by the board behind the handle, and a report that is read is the
report of this board. All three backends provide it, each in its own way:
one strips the report id and names it in the setup packet, one passes it to
the system and one to IOKit as a number. So a program of pin calls cannot tell
on which of them it runs, nor whether `char` is signed there.
-/

namespace UsbIo16.BoardLinks

open ByteBuffer Hiddata IoInterface LibusbBackend MswinBackend OsxBackend PinCalls IdealBoards Ownership PinArray
open CallPrograms HeldList WiredBoards

section Links

variable {W : Type}

/-- A HID layer in front of boards: the boards in its world, and where the
device handles lead. -/
structure BoardLink (W : Type) where
  /-- The layer. -/
  hid : HidLayer W
  /-- The boards. -/
  bench : W → Bench
  /-- The place on the bench that a device handle leads to. -/
  slot : W → Ptr → Ptr

/-- The bench after a step that leads to `v`; the handles lead where they did. -/
structure BoardLink.Leaves (L : BoardLink W) (w v : W) (e : Bench) : Prop where
  /-- The bench. -/
  bench : L.bench v=e
  /-- The handles. -/
  slot : L.slot v=L.slot w

/-- The reports of a layer are those of its boards, as far as the pin
functions use it. The n-th transfer fails when `fails` says so. -/
structure BoardLink.Faithful (L : BoardLink W) (fails : ℕ → Bool) (applied : Wiring) : Prop where
  /-- A write whose transfer fails is an error and changes no board. -/
  refused : ∀ (u : Ptr) (w : W) (payload : List Byte),payload.length=8 → fails (L.bench w).transfers=true →
    (d16WriteRep L.hid u 0 (0#8::payload) w).err≠0 ∧
      L.Leaves w (d16WriteRep L.hid u 0 (0#8::payload) w).world (passed (L.bench w))
  /-- Another one is carried out by the board behind the handle. -/
  obeyed : ∀ (u : Ptr) (w : W) (payload : List Byte),payload.length=8 → fails (L.bench w).transfers=false →
    (d16WriteRep L.hid u 0 (0#8::payload) w).err=0 ∧
      L.Leaves w (d16WriteRep L.hid u 0 (0#8::payload) w).world ((L.bench w).obey (L.slot w u) payload)
  /-- A read whose transfer fails is an error and changes no board. -/
  unread : ∀ (u : Ptr) (w : W),fails (L.bench w).transfers=true →
    (d16ReadRep L.hid u 0 (some (List.replicate 9 0#8)) w).ret≠0 ∧
      L.Leaves w (d16ReadRep L.hid u 0 (some (List.replicate 9 0#8)) w).world (passed (L.bench w))
  /-- Another one brings the report of the board behind the handle. -/
  read : ∀ (u : Ptr) (w : W),fails (L.bench w).transfers=false →
    (d16ReadRep L.hid u 0 (some (List.replicate 9 0#8)) w).ret=0 ∧
      (d16ReadRep L.hid u 0 (some (List.replicate 9 0#8)) w).raw_data=
        some (0#8::((L.bench w).boards (L.slot w u)).report
          (applied.now (L.bench w) (L.bench w).transfers (L.slot w u))) ∧
      L.Leaves w (d16ReadRep L.hid u 0 (some (List.replicate 9 0#8)) w).world (passed (L.bench w))

/-- A pin call on the board in this place of a bench: what the caller is told,
and the bench after it. -/
def callAt (fails : ℕ → Bool) (applied : Wiring) (e : Bench) (place : Ptr) (c : PinCall) : Answer×Bench :=
  if c.ArgsOk then
    if fails e.transfers=true then (refused c,passed e)
    else
      (answer (e.boards place).toPins (applied.now e e.transfers place) c,
        ⟨Function.update e.boards place {e.boards place with toPins := exec (e.boards place).toPins c},e.transfers+1⟩)
  else (refused c,e)

variable {L : BoardLink W} {fails : ℕ → Bool} {applied : Wiring} {heap : Heap} {a : Ptr} {p : UsbIoInternal}

/-- A call on a live handle does what the call in the place of its board does. -/
theorem BoardLink.Faithful.call (h : L.Faithful fails applied) (hlive : LiveHandle heap a p) (c : PinCall) (w : W) :
    ∃ r,c.run L.hid heap a w=some r ∧ told r=(callAt fails applied (L.bench w) (L.slot w p.usbh) c).1 ∧
      L.Leaves w r.world (callAt fails applied (L.bench w) (L.slot w p.usbh) c).2 := by
  obtain ⟨r,hr,hends⟩ := PinCall.run_ends L.hid hlive c w
  refine ⟨r,hr,?_⟩
  unfold callAt
  cases hends with
  | rejected hbad hret =>
    rw [if_neg hbad,told,decide_eq_false hret]
    exact ⟨rfl,rfl,rfl⟩
  | sent hgood hbuf =>
    obtain ⟨payload,rfl,hcarries⟩ := sent_carries hgood hbuf
    rw [if_pos hgood]
    cases hf : fails (L.bench w).transfers with
    | true =>
      obtain ⟨herr,hleaves⟩ := h.refused p.usbh w payload hcarries.length hf
      rw [if_pos rfl,told,decide_eq_false herr]
      exact ⟨rfl,hleaves⟩
    | false =>
      obtain ⟨herr,hleaves⟩ := h.obeyed p.usbh w payload hcarries.length hf
      rw [Bench.obey,hcarries.command] at hleaves
      rw [if_neg Bool.false_ne_true,told,decide_eq_true herr,hcarries.answered]
      exact ⟨rfl,hleaves⟩
  | unread hgood hbuf hz =>
    rw [if_pos hgood]
    cases hf : fails (L.bench w).transfers with
    | true => exact ⟨rfl,(h.unread p.usbh w hf).2⟩
    | false => exact absurd (h.read p.usbh w hf).1 hz
  | read hgood hbuf hz =>
    rw [if_pos hgood]
    cases hf : fails (L.bench w).transfers with
    | true => exact absurd hz (h.unread p.usbh w hf).1
    | false =>
      obtain ⟨-,hraw,hleaves⟩ := h.read p.usbh w hf
      rw [if_neg Bool.false_ne_true,hraw,exec_read hbuf,Function.update_eq_self]
      exact ⟨decoded_answer hgood hbuf _ _,hleaves⟩

end Links

section Platforms

variable (applied : Wiring) (target : Target)

/-- Windows in front of boards with wires. A feature report is given to the
system with its id in front, and the system removes it. -/
def mswinBoards (fails : ℕ → Bool) (env : MswinEnv Bench) : MswinEnv Bench :=
  {env with
    setFeature := fun handle buffer e =>
      if fails e.transfers=true then (false,passed e)
      else if buffer.length=9 ∧ buffer.getD 0 0#8=0#8 then (true,e.obey handle buffer.tail)
      else (true,passed e)
    getFeature := fun handle id size e =>
      if fails e.transfers=true then (none,passed e)
      else if id=0#8 ∧ size=9 then (some ((e.boards handle).report (applied.now e e.transfers handle)),passed e)
      else (none,passed e)}

/-- How a transfer of IOKit fails. -/
structure IOKitFailure where
  /-- Code for a report that is sent. -/
  sent : ℤ
  /-- It is not success. -/
  notSent : sent≠kIOReturnSuccess
  /-- Code and data for a report that is read. -/
  received : ℤ×List Byte
  /-- They are not success and a whole report. -/
  notReceived : received.1≠kIOReturnSuccess ∨ received.2.length<8

/-- A backend in front of boards, with the transfers that fail there. -/
inductive Platform where
  | libusb (env : LibusbEnv Bench) (fails : ℕ → Option Failure)
  | mswin (env : MswinEnv Bench) (fails : ℕ → Bool)
  | osx (env : OsxEnv Bench) (fails : ℕ → Option IOKitFailure)

/-- The worlds of a platform. -/
def Platform.World : Platform → Type
  | libusb _ _ => LibusbWorld Bench
  | mswin _ _ => MswinWorld Bench
  | osx _ _ => OsxWorld Bench

/-- Which transfers fail. -/
def Platform.fails : Platform → ℕ → Bool
  | libusb _ fails,n => (fails n).isSome
  | mswin _ fails,n => fails n
  | osx _ fails,n => (fails n).isSome

end Platforms

section Faithful

variable (applied : Wiring) (target : Target)

section Libusb

variable (fails : ℕ → Option Failure) (env : LibusbEnv Bench) (u : Ptr) (w : LibusbWorld Bench)

end Libusb

section Mswin

variable {D : Type} {env : MswinEnv D} {u : Ptr} {w : MswinWorld D}

variable (fails : ℕ → Bool) (base : MswinEnv Bench)

end Mswin

section Osx

variable {D : Type} {env : OsxEnv D} {u : Ptr} {w : OsxWorld D}

variable (fails : ℕ → Option IOKitFailure) (base : OsxEnv Bench)

section Answers

variable {fails} {e : Bench}

end Answers

end Osx

end Faithful

section Programs

variable {I : Type} {W W₁ W₂ : Type}

/-- Pin calls on boards that the client tells apart by a name of its own, as
a machine; `node` tells the handle of each. -/
def deskMachine (hid : HidLayer W) (heap : Heap) (node : I → Ptr) (x : I×PinCall) (w : W) : Option (Answer×W) :=
  pinMachine hid heap (node x.1) x.2 w

/-- Where the boards of the client are. -/
def BoardLink.place (L : BoardLink W) (heap : Heap) (node : I → Ptr) (w : W) (i : I) : Ptr :=
  L.slot w (usbhOf heap (node i))

/-- The client has a handle for each of its boards, and no two for the same. -/
structure Desk (L : BoardLink W) (heap : Heap) (node : I → Ptr) (w : W) : Prop where
  /-- The handles are live. -/
  live : ∀ i,∃ p,LiveHandle heap (node i) p
  /-- The boards are distinct. -/
  apart : Function.Injective (L.place heap node w)

/-- The boards in these places of two benches are the same, and as many
transfers have been made. -/
structure SameBoards (place₁ place₂ : I → Ptr) (e₁ e₂ : Bench) : Prop where
  /-- The boards. -/
  boards : ∀ i,e₁.boards (place₁ i)=e₂.boards (place₂ i)
  /-- The transfers. -/
  transfers : e₁.transfers=e₂.transfers

/-- The same transfers fail, and the wires in these places are the same. -/
structure SameWires (fails₁ fails₂ : ℕ → Bool) (applied₁ applied₂ : Wiring) (place₁ place₂ : I → Ptr) : Prop where
  /-- The transfers that fail. -/
  fails : ∀ n,fails₁ n=fails₂ n
  /-- The wires. -/
  applied : ∀ n i b,applied₁ n (place₁ i) b=applied₂ n (place₂ i) b

section Calls

variable {fails fails₁ fails₂ : ℕ → Bool} {applied applied₁ applied₂ : Wiring} {place₁ place₂ : I → Ptr}
  {e e₁ e₂ : Bench}

/-- A call changes the board in its place at most. -/
theorem callAt_others (c : PinCall) {h place : Ptr} (hne : h≠place) :
    (callAt fails applied e place c).2.boards h=e.boards h := by
  unfold callAt
  split
  · split
    · rfl
    · exact Function.update_of_ne hne _ _
  · rfl

/-- A call on the same board of two benches is answered in the same way, and
the boards stay the same. -/
theorem SameBoards.call (h : SameBoards place₁ place₂ e₁ e₂)
    (hwires : SameWires fails₁ fails₂ applied₁ applied₂ place₁ place₂) (hinj₁ : Function.Injective place₁)
    (hinj₂ : Function.Injective place₂) (i : I) (c : PinCall) :
    (callAt fails₁ applied₁ e₁ (place₁ i) c).1=(callAt fails₂ applied₂ e₂ (place₂ i) c).1 ∧
      SameBoards place₁ place₂ (callAt fails₁ applied₁ e₁ (place₁ i) c).2 (callAt fails₂ applied₂ e₂ (place₂ i) c).2 := by
  have hcount := congrArg (·+1) h.transfers
  have hlevels : applied₁.now e₁ e₁.transfers (place₁ i)=applied₂.now e₂ e₂.transfers (place₂ i) := by
    rw [Wiring.now,Wiring.now,h.boards,h.transfers,hwires.applied]
  unfold callAt
  by_cases hgood : c.ArgsOk
  · rw [if_pos hgood,if_pos hgood,h.transfers,hwires.fails]
    by_cases hf : fails₂ e₂.transfers=true
    · rw [if_pos hf,if_pos hf]
      exact ⟨rfl,h.boards,hcount⟩
    · rw [if_neg hf,if_neg hf,←h.transfers,hlevels,h.transfers,h.boards]
      refine ⟨rfl,fun j => ?_,rfl⟩
      by_cases hij : j=i
      · subst hij
        simp only [Function.update_self]
      · simp only [Function.update_of_ne (hinj₁.ne hij),Function.update_of_ne (hinj₂.ne hij),h.boards]
  · rw [if_neg hgood,if_neg hgood]
    exact ⟨rfl,h⟩

end Calls

variable {L₁ : BoardLink W₁} {L₂ : BoardLink W₂} {fails₁ fails₂ : ℕ → Bool} {applied₁ applied₂ : Wiring}
  {heap₁ heap₂ : Heap} {node₁ node₂ : I → Ptr} {w₁ : W₁} {w₂ : W₂}

/-- What a run of a program leaves, from `w` on: the handles lead where they
did, and no board changes that the client has no handle for. -/
structure BoardLink.Kept (L : BoardLink W) (heap : Heap) (node : I → Ptr) (w v : W) : Prop where
  /-- The handles. -/
  slot : L.slot v=L.slot w
  /-- The other boards. -/
  others : ∀ h,(∀ i,h≠L.place heap node w i) → (L.bench v).boards h=(L.bench w).boards h

/-- One call through a link. -/
theorem Desk.call {L : BoardLink W} {fails : ℕ → Bool} {applied : Wiring} {heap : Heap} {node : I → Ptr} {w v : W}
    (hdesk : Desk L heap node w) (h : L.Faithful fails applied) (hkept : L.Kept heap node w v) (i : I) (c : PinCall) :
    ∃ x u,deskMachine L.hid heap node (i,c) v=some (x,u) ∧
      x=(callAt fails applied (L.bench v) (L.place heap node w i) c).1 ∧
      L.bench u=(callAt fails applied (L.bench v) (L.place heap node w i) c).2 ∧ L.Kept heap node w u := by
  obtain ⟨p,hlive⟩ := hdesk.live i
  obtain ⟨r,hr,htold,hleaves⟩ := h.call hlive c v
  have husbh : usbhOf heap (node i)=p.usbh := by rw [usbhOf,hlive.cell,Option.map_some,Option.getD_some]
  have hplace : L.slot v p.usbh=L.place heap node w i := by rw [BoardLink.place,husbh,hkept.slot]
  rw [hplace] at htold hleaves
  refine ⟨told r,r.world,?_,htold,hleaves.bench,hleaves.slot.trans hkept.slot,fun a ha => ?_⟩
  · rw [deskMachine,pinMachine,hr,Option.map_some]
  · rw [hleaves.bench,callAt_others c (ha i),hkept.others a ha]

end Programs

section Portability

variable {I : Type} (P₁ P₂ : Platform) (applied₁ applied₂ : Wiring) (target₁ target₂ : Target) {heap₁ heap₂ : Heap}
  {node₁ node₂ : I → Ptr} {w₁ : P₁.World} {w₂ : P₂.World}

end Portability

section TwoBoards

/-- The UTF-16 units of a text. -/
def utf16 (text : String) : List (BitVec 16) := text.toList.map fun c => BitVec.ofNat 16 c.toNat

/-- Windows with these HID interfaces, all with the names of a card. -/
def namedInterfaces (interfaces : List HidInterface) : MswinEnv Bench where
  classDevs e := (some ⟨(0,0),interfaces⟩,e)
  manufacturer _ e := (some (utf16 "www.dcttech.com"),e)
  product _ e := (some (utf16 "USBIO"),e)
  setFeature _ _ e := (false,e)
  getFeature _ _ _ e := (none,e)

end TwoBoards

end UsbIo16.BoardLinks
