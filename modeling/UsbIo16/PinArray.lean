import UsbIo16.BackendCustody
import UsbIo16.IdealBoards
import UsbIo16.ListSessions

/-!
# The pin functions as operations on plain arrays

What the pin functions are for, said without devices: each board is an
array of pins, and a call that goes through changes or describes one of the
arrays. With ideal boards behind libusb a run of calls on the handles of a
list gives the same answers, and leaves on every board what is in its array,
whichever transfers fail.
-/

namespace UsbIo16.PinArray

open ByteBuffer HandleLedger Hiddata IoInterface LibusbBackend PinCalls IdealBoards Ownership
open BackendCustody ListSessions

section Arrays

/-- Whether a flag given by the caller counts as set. -/
def isSet (x : BitVec 32) : Bool := decide (x≠0#32)

/-- What a call does to the array of its board when it goes through. -/
def exec (a : Pins) : PinCall → Pins
  | .setWorkLedMode led_mode => {a with led := isSet led_mode}
  | .setPinMode pinIndex mode innerPullUp =>
    {a with
      mode := setAt a.mode pinIndex.toNat (isSet mode)
      pullUp := setAt a.pullUp pinIndex.toNat (isSet innerPullUp)}
  | .writeOutputPinValue pinIndex level => {a with latch := setAt a.latch pinIndex.toNat (isSet level)}
  | .readInputPinValue _ _ => a
  | .getAllPinInfo _ => a

/-- What the caller is told: whether the call succeeded, and the output
variables after it. -/
structure Answer where
  /-- Whether zero is returned. -/
  ok : Bool
  /-- The caller's level variable, where the call takes one. -/
  level : Option (BitVec 32)
  /-- The caller's pin array, where the call takes one. -/
  info : Option PinInfos

/-- The answer of a call that fails: the variables are as they were. -/
def refused (c : PinCall) : Answer := ⟨false,c.level,c.info⟩

/-- The answer of a call that goes through. -/
def answer (a : Pins) (input : Pin → Bool) : PinCall → Answer
  | .readInputPinValue pinIndex level =>
    if hp : pinIndex.toNat<USB_IO16_MAX_PIN_NUM then
      ⟨true,level.map fun _ => bit (a.level input ⟨pinIndex.toNat,hp⟩),none⟩
    else ⟨false,level,none⟩
  | .getAllPinInfo info => ⟨true,none,info.map fun _ => a.infos input⟩
  | _ => ⟨true,none,none⟩

instance : (c : PinCall) → Decidable c.ArgsOk
  | .setWorkLedMode _ => inferInstanceAs (Decidable True)
  | .setPinMode pinIndex _ _ => inferInstanceAs (Decidable (pinIndex.toNat<USB_IO16_MAX_PIN_NUM))
  | .writeOutputPinValue pinIndex _ => inferInstanceAs (Decidable (pinIndex.toNat<USB_IO16_MAX_PIN_NUM))
  | .readInputPinValue pinIndex level =>
    inferInstanceAs (Decidable (pinIndex.toNat<USB_IO16_MAX_PIN_NUM ∧ level≠none))
  | .getAllPinInfo info => inferInstanceAs (Decidable (info≠none))

/-- The arrays of some boards, and the number of transfers that were due. -/
structure Arrays (I : Type) where
  /-- The array of each board. -/
  pins : I → Pins
  /-- Number of transfers so far. -/
  transfers : ℕ

variable {I : Type} [DecidableEq I]

/-- One call on one board, when the n-th transfer fails as `fails` says and
finds the levels `input` applied to the pins. -/
def Arrays.call (fails : ℕ → Bool) (input : ℕ → I → Pin → Bool) (s : Arrays I) (i : I) (c : PinCall) :
    Answer×Arrays I :=
  if c.ArgsOk then
    if fails s.transfers=true then (refused c,{s with transfers := s.transfers+1})
    else
      (answer (s.pins i) (input s.transfers i) c,
        ⟨Function.update s.pins i (exec (s.pins i) c),s.transfers+1⟩)
  else (refused c,s)

/-- Calls one after the other. -/
def Arrays.run (fails : ℕ → Bool) (input : ℕ → I → Pin → Bool) : List (I×PinCall) → Arrays I → List Answer×Arrays I
  | [],s => ([],s)
  | (i,c)::calls,s =>
    let r := s.call fails input i c
    let rest := Arrays.run fails input calls r.2
    (r.1::rest.1,rest.2)

end Arrays

section Library

/-- What the caller learns from an outcome. -/
def told {W : Type} (r : PinOutcome W) : Answer := ⟨decide (r.ret=0),r.level,r.info⟩

/-- Calls of the library on handles one after the other. -/
def runCalls {W : Type} (hid : HidLayer W) (heap : Heap) : List (Ptr×PinCall) → W → Option (List Answer×W)
  | [],w => some ([],w)
  | (hHandle,c)::calls,w =>
    (c.run hid heap hHandle w).bind fun r =>
      (runCalls hid heap calls r.world).map fun rest => (told r::rest.1,rest.2)

end Library

section Wire

variable {a : Pins}

/-- A flag on the wire is set exactly when the caller's flag is. -/
theorem flag_isSet (x : BitVec 32) : decide (flag x≠0#8)=isSet x := by
  unfold flag isSet
  by_cases h : x=0#32
  · rw [if_pos h,decide_eq_false (not_not.mpr rfl),decide_eq_false (not_not.mpr h)]
  · have hne : (1#8 : Byte)≠0#8 := by decide
    rw [if_neg h,decide_eq_true hne,decide_eq_true h]

/-- The narrowing of a pin index to a `char` loses nothing on a valid one. -/
theorem pinIndex_toNat {pinIndex : BitVec 32} (hp : pinIndex.toNat<USB_IO16_MAX_PIN_NUM) :
    (pinIndex.setWidth 8).toNat=pinIndex.toNat := by
  have h16 : pinIndex.toNat<16 := hp
  rw [BitVec.toNat_setWidth]
  exact Nat.mod_eq_of_lt (by omega)

/-- A board does with the report of a call what the call means. -/
theorem command_led (led_mode : BitVec 32) :
    a.command (ledReport led_mode).tail=exec a (.setWorkLedMode led_mode) := by
  have h := flag_isSet led_mode
  simp only [ledReport,List.tail_cons,Pins.command,List.getD_cons_zero,List.getD_cons_succ,exec,←h]
  rfl

theorem command_pinMode {pinIndex : BitVec 32} (hp : pinIndex.toNat<USB_IO16_MAX_PIN_NUM)
    (mode innerPullUp : BitVec 32) :
    a.command (pinModeReport pinIndex mode innerPullUp).tail=exec a (.setPinMode pinIndex mode innerPullUp) := by
  simp only [pinModeReport,List.tail_cons,Pins.command,List.getD_cons_zero,List.getD_cons_succ,if_true,exec,
    pinIndex_toNat hp,flag_isSet]

theorem command_pinLevel {pinIndex : BitVec 32} (hp : pinIndex.toNat<USB_IO16_MAX_PIN_NUM) (level : BitVec 32) :
    a.command (pinLevelReport pinIndex level).tail=exec a (.writeOutputPinValue pinIndex level) := by
  have hne : ¬(0xFD#8 : Byte)=0xFF#8 := by decide
  simp only [pinLevelReport,List.tail_cons,Pins.command,List.getD_cons_zero,List.getD_cons_succ,if_true,exec,
    pinIndex_toNat hp,flag_isSet,if_neg hne]

/-- What a payload is to a call: the board does with it what the call means,
and there is nothing else to tell the caller. -/
structure Carries (payload : List Byte) (c : PinCall) : Prop where
  /-- It fills a report. -/
  length : payload.length=8
  /-- The board does what the call means. -/
  command : ∀ a : Pins,a.command payload=exec a c
  /-- The caller's variables stay as they are. -/
  answered : ∀ a input,answer a input c=⟨true,c.level,c.info⟩

/-- The report a call sends carries it. -/
theorem sent_carries {c : PinCall} (hgood : c.ArgsOk) {buf : List Byte} (hbuf : c.sent=some buf) :
    ∃ payload,buf=0#8::payload ∧ Carries payload c := by
  cases c with
  | setWorkLedMode led_mode =>
    cases hbuf
    exact ⟨_,rfl,rfl,fun _ => command_led led_mode,fun _ _ => rfl⟩
  | setPinMode pinIndex mode innerPullUp =>
    cases hbuf
    exact ⟨_,rfl,rfl,fun _ => command_pinMode hgood mode innerPullUp,fun _ _ => rfl⟩
  | writeOutputPinValue pinIndex level =>
    cases hbuf
    exact ⟨_,rfl,rfl,fun _ => command_pinLevel hgood level,fun _ _ => rfl⟩
  | readInputPinValue pinIndex level => cases hbuf
  | getAllPinInfo info => cases hbuf

/-- The report a call reads describes the board. -/
theorem decoded_answer {W : Type} {hid : HidLayer W} {c : PinCall} (hgood : c.ArgsOk) (hbuf : c.sent=none)
    (b : Board) (input : Pin → Bool) :
    (⟨true,(c.decoded hid (0#8::b.report input)).1,(c.decoded hid (0#8::b.report input)).2⟩ : Answer)=
      answer b.toPins input c := by
  cases c with
  | setWorkLedMode led_mode => cases hbuf
  | setPinMode pinIndex mode innerPullUp => cases hbuf
  | writeOutputPinValue pinIndex level => cases hbuf
  | readInputPinValue pinIndex level => rw [PinCall.decoded,answer,dif_pos hgood.1,levelIn_report b input hgood.1]
  | getAllPinInfo info =>
    have hdecode : decodePins hid (0#8::b.report input)=fun _ => b.infos input :=
      funext fun old => decodePins_report b input old
    rw [PinCall.decoded,answer,hdecode]

/-- A call that sends nothing changes nothing. -/
theorem exec_read {c : PinCall} (hbuf : c.sent=none) (a : Pins) : exec a c=a := by
  cases c with
  | setWorkLedMode led_mode => cases hbuf
  | setPinMode pinIndex mode innerPullUp => cases hbuf
  | writeOutputPinValue pinIndex level => cases hbuf
  | readInputPinValue pinIndex level => rfl
  | getAllPinInfo info => rfl

end Wire

section Calls

variable {fails : ℕ → Option Failure} {input : ℕ → Ptr → Pin → Bool} {target : Target} {p : UsbIoInternal}
  {w : LibusbWorld Bench} {c : PinCall} {r : PinOutcome (LibusbWorld Bench)}

/-- A call that fails before its transfer. -/
theorem call_rejected (hends : c.Ends (libusbHid (boardEnv fails input) target) p w r) (hbad : ¬c.ArgsOk) :
    told r=refused c ∧ r.world=w := by
  cases hends with
  | rejected hbad hret =>
    rw [told,decide_eq_false hret]
    exact ⟨rfl,rfl⟩
  | sent hgood hbuf => exact absurd hgood hbad
  | unread hgood hbuf hz => exact absurd hgood hbad
  | read hgood hbuf hz => exact absurd hgood hbad

/-- A call whose transfer fails. -/
theorem call_failed (hends : c.Ends (libusbHid (boardEnv fails input) target) p w r) (hgood : c.ArgsOk)
    {f : Failure} (hf : fails w.env.transfers=some f) :
    told r=refused c ∧ r.world=after w p.usbh (passed w.env) := by
  obtain ⟨hret,hworld⟩ := read_fail input target p.usbh hf (some (List.replicate 9 0#8))
  cases hends with
  | rejected hbad _ => exact absurd hgood hbad
  | sent _ hbuf =>
    obtain ⟨payload,rfl,hcarries⟩ := sent_carries hgood hbuf
    rw [write_fail input target p.usbh hf hcarries.length]
    exact ⟨rfl,rfl⟩
  | unread _ hbuf hz => exact ⟨rfl,hworld⟩
  | read _ hbuf hz => exact absurd hz hret

/-- What a call does that goes through: the caller is told what the board
says, the board behind the handle does what the call means, and no other
board changes. -/
structure Done (input : ℕ → Ptr → Pin → Bool) (u : Ptr) (w : LibusbWorld Bench) (c : PinCall)
    (r : PinOutcome (LibusbWorld Bench)) (e : Bench) : Prop where
  /-- The answer. -/
  answered : told r=answer (w.env.boards (usbDevHandle w u)).toPins (input w.env.transfers (usbDevHandle w u)) c
  /-- Only the bench changes, and the ledger. -/
  world : r.world=after w u e
  /-- One transfer was made. -/
  transfers : e.transfers=w.env.transfers+1
  /-- The board does what the call means. -/
  board : (e.boards (usbDevHandle w u)).toPins=exec (w.env.boards (usbDevHandle w u)).toPins c
  /-- The others stay. -/
  others : ∀ h,h≠usbDevHandle w u → e.boards h=w.env.boards h

/-- A call that goes through. -/
theorem call_done (hends : c.Ends (libusbHid (boardEnv fails input) target) p w r) (hgood : c.ArgsOk)
    (hf : fails w.env.transfers=none) : ∃ e,Done input p.usbh w c r e := by
  have hread := read_ok input target p.usbh hf
  cases hends with
  | rejected hbad _ => exact absurd hgood hbad
  | sent _ hbuf =>
    obtain ⟨payload,rfl,hcarries⟩ := sent_carries hgood hbuf
    rw [write_ok input target p.usbh hf hcarries.length]
    refine ⟨_,(hcarries.answered _ _).symm,rfl,rfl,?_,fun h hh => Function.update_of_ne hh _ _⟩
    simp only [Bench.obey,Function.update_self]
    exact hcarries.command _
  | unread _ hbuf hz => exact absurd (congrArg ReadRepReply.ret hread) hz
  | read _ hbuf _ =>
    rw [readZero,hread]
    exact ⟨_,decoded_answer hgood hbuf _ _,rfl,rfl,(exec_read hbuf _).symm,fun _ _ => rfl⟩

end Calls

section Refinement

variable (fails : ℕ → Option Failure) (input : ℕ → Ptr → Pin → Bool) (target : Target) {heap : Heap}
  {w₀ w : LibusbWorld Bench} {nodes : List Ptr} {s : Arrays Ptr}

/-- The USB handle behind a node. -/
def handleOf (heap : Heap) (w : LibusbWorld Bench) (a : Ptr) : Ptr := usbDevHandle w (usbhOf heap a)

/-- A list of boards: its nodes are live, and they have distinct USB handles. -/
structure BoardList (heap : Heap) (w₀ : LibusbWorld Bench) (nodes : List Ptr) : Prop where
  /-- Every node is allocated. -/
  live : ∀ a∈nodes,∃ p,LiveHandle heap a p
  /-- No two boards share a USB handle. -/
  distinct : (nodes.map (handleOf heap w₀)).Nodup

/-- The nodes of all lists that a session has behind libusb are such a list:
no two open devices have the same handle. -/
theorem boardList_of_accounts {v₀ : LibusbWorld Bench} {hv₀ : Attached v₀} {t : Session (LibusbWorld Bench)}
    (h : Accounts (libusbCustody (boardEnv fails input) target hv₀) t) : BoardList t.heap t.world t.nodes where
  live a ha := by
    obtain ⟨head,hhead,hmem⟩ := List.mem_flatMap.mp ha
    obtain ⟨l,hl,rfl⟩ := List.mem_map.mp hhead
    obtain ⟨n,hlive,-⟩ := (h.lists l hl).live hmem
    exact ⟨n,hlive⟩
  distinct := by
    obtain ⟨k,howned⟩ := h.owned
    obtain ⟨live,-,hstored⟩ := howned.ledger
    have hslots : (t.usbhs.map (usbDevHandle t.world)).Nodup :=
      List.Nodup.map_on (fun x hx y hy => hstored.apart x (Multiset.mem_coe.mpr hx) y (Multiset.mem_coe.mpr hy))
        (Multiset.coe_nodup.mp hstored.nodup)
    rw [Session.usbhs,List.map_map] at hslots
    exact hslots

/-- The boards of the list are what the arrays say, and no other board was
touched. -/
structure Matches (heap : Heap) (w₀ : LibusbWorld Bench) (nodes : List Ptr) (s : Arrays Ptr)
    (w : LibusbWorld Bench) : Prop where
  /-- The USB handles stay. -/
  device : w.device=w₀.device
  /-- The same transfers are due. -/
  transfers : w.env.transfers=s.transfers
  /-- Each board has what is in its array. -/
  pins : ∀ a∈nodes,(w.env.boards (handleOf heap w₀ a)).toPins=s.pins a
  /-- Boards that are not in the list stay as they are. -/
  others : ∀ h,h∉nodes.map (handleOf heap w₀) → w.env.boards h=w₀.env.boards h

/-- The arrays at the start: what is on the boards. -/
def arraysOf (heap : Heap) (w₀ : LibusbWorld Bench) : Arrays Ptr where
  pins a := (w₀.env.boards (handleOf heap w₀ a)).toPins
  transfers := w₀.env.transfers

/-- Which transfers fail. -/
def failing (fails : ℕ → Option Failure) (n : ℕ) : Bool := (fails n).isSome

/-- The levels applied to the pins of the board of a node. -/
def inputOf (heap : Heap) (w₀ : LibusbWorld Bench) (input : ℕ → Ptr → Pin → Bool) (n : ℕ) (a : Ptr) :
    Pin → Bool := input n (handleOf heap w₀ a)

/-- The USB handle behind a node is the one it had at the start. -/
theorem Matches.handle (h : Matches heap w₀ nodes s w) {a : Ptr} {p : UsbIoInternal} (hlive : LiveHandle heap a p) :
    usbDevHandle w p.usbh=handleOf heap w₀ a := by
  have husbh : usbhOf heap a=p.usbh := by rw [usbhOf,hlive.cell,Option.map_some,Option.getD_some]
  rw [handleOf,husbh,usbDevHandle,h.device]
  rfl

variable {input}

/-- A call that goes through changes the board of its node, and so does the
call on the array. -/
theorem Matches.done (hlist : BoardList heap w₀ nodes) (h : Matches heap w₀ nodes s w) {a u : Ptr} (ha : a∈nodes)
    (hu : usbDevHandle w u=handleOf heap w₀ a) {c : PinCall} {r : PinOutcome (LibusbWorld Bench)} {e : Bench}
    (hdone : Done input u w c r e) :
    Matches heap w₀ nodes ⟨Function.update s.pins a (exec (s.pins a) c),s.transfers+1⟩ r.world := by
  rw [hdone.world]
  refine ⟨h.device,hdone.transfers.trans (congrArg (·+1) h.transfers),?_,?_⟩
  · intro b hb
    dsimp only
    by_cases hba : b=a
    · subst hba
      have hboard := hdone.board
      rw [hu,h.pins b hb] at hboard
      rw [Function.update_self]
      exact hboard
    · have hne : handleOf heap w₀ b≠usbDevHandle w u := by
        rw [hu]
        exact fun he => hba (List.inj_on_of_nodup_map hlist.distinct hb ha he)
      rw [Function.update_of_ne hba,hdone.others _ hne]
      exact h.pins b hb
  · intro x hx
    have hne : x≠usbDevHandle w u := by
      rw [hu]
      exact fun he => hx (he ▸ List.mem_map_of_mem ha)
    exact (hdone.others x hne).trans (h.others x hx)

variable (input)

/-- One call on a board of the list does what the call on its array does. -/
theorem Matches.call (hlist : BoardList heap w₀ nodes) (h : Matches heap w₀ nodes s w) {a : Ptr} (ha : a∈nodes)
    (c : PinCall) :
    ∃ r,c.run (libusbHid (boardEnv fails input) target) heap a w=some r ∧
      told r=(s.call (failing fails) (inputOf heap w₀ input) a c).1 ∧
      Matches heap w₀ nodes (s.call (failing fails) (inputOf heap w₀ input) a c).2 r.world := by
  obtain ⟨p,hlive⟩ := hlist.live a ha
  have hhandle := h.handle hlive
  obtain ⟨r,hr,hends⟩ := PinCall.run_ends (libusbHid (boardEnv fails input) target) hlive c w
  refine ⟨r,hr,?_⟩
  unfold Arrays.call
  by_cases hgood : c.ArgsOk
  · rw [if_pos hgood]
    cases hf : fails w.env.transfers with
    | some f =>
      have hfail : failing fails s.transfers=true := by rw [failing,←h.transfers,hf]; rfl
      obtain ⟨htold,hworld⟩ := call_failed hends hgood hf
      rw [if_pos hfail,hworld]
      exact ⟨htold,h.device,congrArg (·+1) h.transfers,h.pins,h.others⟩
    | none =>
      have hfail : ¬failing fails s.transfers=true := by rw [failing,←h.transfers,hf]; exact Bool.false_ne_true
      obtain ⟨e,hdone⟩ := call_done hends hgood hf
      rw [if_neg hfail]
      refine ⟨?_,h.done hlist ha hhandle hdone⟩
      rw [hdone.answered,hhandle,h.pins a ha,h.transfers]
      rfl
  · obtain ⟨htold,hworld⟩ := call_rejected hends hgood
    rw [if_neg hgood,hworld]
    exact ⟨htold,h⟩

/-- The boards are as the arrays say at the start. -/
theorem Matches.start (heap : Heap) (w₀ : LibusbWorld Bench) (nodes : List Ptr) :
    Matches heap w₀ nodes (arraysOf heap w₀) w₀ :=
  ⟨rfl,rfl,fun _ _ => rfl,fun _ _ => rfl⟩

/-- A run of calls on boards of the list does what the calls on the arrays do. -/
theorem Matches.run (hlist : BoardList heap w₀ nodes) (h : Matches heap w₀ nodes s w) (calls : List (Ptr×PinCall))
    (hcalls : ∀ x∈calls,x.1∈nodes) :
    ∃ answers v,runCalls (libusbHid (boardEnv fails input) target) heap calls w=some (answers,v) ∧
      answers=(Arrays.run (failing fails) (inputOf heap w₀ input) calls s).1 ∧
      Matches heap w₀ nodes (Arrays.run (failing fails) (inputOf heap w₀ input) calls s).2 v := by
  -- what is carried through the calls is that boards and arrays agree
  induction calls generalizing s w with
  | nil => exact ⟨[],w,rfl,rfl,h⟩
  | cons x calls ih =>
    obtain ⟨a,c⟩ := x
    have ha : a∈nodes := hcalls (a,c) List.mem_cons_self
    obtain ⟨r,hr,htold,hnext⟩ := h.call fails input target hlist ha c
    obtain ⟨answers,v,hv,hanswers,hmatch⟩ := ih hnext fun y hy => hcalls y (List.mem_cons_of_mem (a,c) hy)
    refine ⟨told r::answers,v,?_,?_,hmatch⟩
    · rw [runCalls,hr,Option.bind_some,hv,Option.map_some]
    · rw [htold,hanswers]
      rfl

/-- The pin functions on ideal boards are operations on plain arrays: for
every list of boards, every run of calls on its handles and every pattern of
failing transfers, the answers are those of the arrays, and at the end each
board has what is in its array. -/
theorem pin_api_refines_arrays (hlist : BoardList heap w nodes)
    (calls : List (Ptr×PinCall)) (hcalls : ∀ x∈calls,x.1∈nodes) :
    ∃ answers v,runCalls (libusbHid (boardEnv fails input) target) heap calls w=some (answers,v) ∧
      answers=(Arrays.run (failing fails) (inputOf heap w input) calls (arraysOf heap w)).1 ∧
      Matches heap w nodes (Arrays.run (failing fails) (inputOf heap w input) calls (arraysOf heap w)).2 v :=
  (Matches.start heap w nodes).run fails input target hlist calls hcalls

end Refinement

section TwoBoards

/-- A board on which nothing is set. -/
def blankBoard : Board := ⟨⟨fun _ => false,fun _ => false,fun _ => false,false⟩,List.replicate 4 0x41#8,rfl⟩

/-- The same with this id. -/
def boardOf (id : String) (h : (ascii id).length=USB_IO16_ID_STR_LEN) : Board :=
  {blankBoard with ident := ascii id,identLength := h}

/-- Two opened boards at addresses 100 and 200. -/
def twoBoardWorld : LibusbWorld Bench where
  busses := [[100,200]]
  device d := ⟨0x16c0,0x05df,1,2,0,if d=100 then 1 else if d=200 then 2 else 0⟩
  rounds := 1
  ledger := Ledger.empty.openNext.openNext
  env := ⟨fun _ => blankBoard,0⟩

/-- The heap with their nodes. -/
def twoBoardHeap : Heap where
  cell q :=
    if q=1 then some {zeroNode with usbh := 100,serial_number := 1,next := 2}
    else if q=2 then some {zeroNode with usbh := 200,serial_number := 2} else none
  calls := 2
  fails _ := false

/-- The second transfer is refused. -/
def secondFails (n : ℕ) : Option Failure :=
  if n=1 then some ⟨-1,by decide,none,fun _ h => absurd h (Option.some_ne_none _).symm⟩ else none

/-- The nodes of the two boards are a list of boards. -/
theorem twoBoards_boardList : BoardList twoBoardHeap twoBoardWorld [1,2] where
  live a ha := by
    rcases List.mem_cons.mp ha with rfl|ha
    · exact ⟨_,by decide,rfl⟩
    · rw [List.mem_singleton.mp ha]
      exact ⟨_,by decide,rfl⟩
  distinct := by decide

theorem pin_api_refines_arrays_twoBoards :
    ∃ answers v,
      runCalls (libusbHid (boardEnv secondFails fun _ _ _ => false) ⟨true,fun _ => 0⟩) twoBoardHeap
          [(1,.setPinMode 3 1 0),(2,.setWorkLedMode 1),(1,.writeOutputPinValue 3 1),(1,.readInputPinValue 3 (some 7)),
            (2,.setPinMode 99 1 1)] twoBoardWorld=some (answers,v) ∧
        answers=[⟨true,none,none⟩,⟨false,none,none⟩,⟨true,none,none⟩,⟨true,some 1,none⟩,⟨false,none,none⟩] ∧
        (v.env.boards 1).latch ⟨3,by decide⟩=true ∧ (v.env.boards 2).led=false := by
  obtain ⟨answers,v,hrun,hanswers,hmatch⟩ := pin_api_refines_arrays secondFails (fun _ _ _ => false)
    ⟨true,fun _ => 0⟩ twoBoards_boardList
    [(1,.setPinMode 3 1 0),(2,.setWorkLedMode 1),(1,.writeOutputPinValue 3 1),(1,.readInputPinValue 3 (some 7)),
      (2,.setPinMode 99 1 1)] (by decide)
  have hfirst := hmatch.pins 1 (by decide)
  have hsecond := hmatch.pins 2 (by decide)
  refine ⟨answers,v,hrun,hanswers.trans rfl,?_,?_⟩
  · exact (congrArg (fun b : Pins => b.latch ⟨3,by decide⟩) hfirst).trans rfl
  · exact (congrArg Pins.led hsecond).trans rfl

end TwoBoards

end UsbIo16.PinArray
