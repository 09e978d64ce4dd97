import Mathlib.Data.List.Sort
import UsbIo16.BoardLinks
import UsbIo16.CommandTests
import UsbIo16.OwnAttributes

/-!
# The dialog of the test application

The state of the dialog and the handlers of its controls, as in
`test_gui_appDlg.cpp`. A control that is disabled cannot be clicked, and this
is all that keeps the handlers from a handle that was never set or a list
that was freed: the handlers themselves check nothing. What the enabled
controls say about the handle and the list is the invariant of the dialog,
and it is kept by whatever the user does, in any order.
-/

namespace UsbIo16.GuiDialog

open ByteBuffer HandleLedger Hiddata IoInterface MswinBackend NodeChain PinCalls DeviceVisits Ownership ListSessions
open BackendCustody SingleList ListedDevices HeldList CommandTests

section Controls

/-- A check box. -/
structure CheckBox where
  /-- Whether it can be clicked. -/
  enabled : Bool
  /-- Whether it is checked. -/
  checked : Bool

/-- A list to select from. -/
structure ComboBox where
  /-- The texts in it. -/
  items : List (List Byte)
  /-- The text selected. -/
  curSel : Option ℕ

/-- The buttons and boxes of the dialog. Of the buttons it is kept whether they
are enabled, and of the radio buttons whether they are checked. -/
structure Controls where
  m_findDevBtn : Bool
  m_openDevBtn : Bool
  m_closeDevBtn : Bool
  m_setPinWorkModeBtn : Bool
  m_openWorkLed : Bool
  m_closeWorkLed : Bool
  m_outputSelBtn : Bool
  m_inputSelBtn : Bool
  m_pullupFlag : CheckBox
  m_hLevelFlag : CheckBox
  /-- The item selected in the list of pins, which goes two beyond the last pin. -/
  m_pinIndexList : Fin (USB_IO16_MAX_PIN_NUM+2)

/-- The dialog and the library. -/
structure Gui (W : Type) extends Controls where
  /-- The node heap. -/
  heap : Heap
  /-- The world of the backend. -/
  world : W
  m_devList : Ptr
  m_currentUSBIoHandle : Ptr
  m_devListBox : ComboBox
  /-- The text of the log line. -/
  log : String
  /-- Whether the dialog has been left. -/
  ended : Bool

/-- What the user may do. -/
inductive Event where
  | clickOutput
  | clickInput
  | clickPullup
  | clickHLevel
  | selectDevice (i : ℕ)
  | selectPin (i : Fin (USB_IO16_MAX_PIN_NUM+2))
  | clickFind
  | clickOpen
  | clickClose
  | clickSetting
  | clickOpenLed
  | clickCloseLed
  | clickCancel
  | clickExit
  deriving DecidableEq

end Controls

section Handlers

/-- Initialize the library. -/
def usbIoInit : ℤ := 0

variable {W : Type} (hid : HidLayer W) (before : List Byte → List Byte → Bool)

/-- Fill the device box, which sorts its items by `before`, and count the
devices, for at most `fuel` nodes. -/
def fillLoop (heap : Heap) : ℕ → Ptr → List (List Byte)×ℕ → Option (List (List Byte)×ℕ)
  | 0,pTmp,x => if pTmp=0 then some x else none
  | fuel+1,pTmp,x =>
    if pTmp=0 then some x
    else
      (serialText heap pTmp).bind fun ts =>
        (heap.cell pTmp).bind fun n =>
          fillLoop heap fuel n.next (x.1.orderedInsert (fun a b => before a b=true) ts,x.2+1)

/-- Find the devices connected. -/
def onBnClickedfinddevicebtn (g : Gui W) : Option (Gui W) :=
  (if g.m_devList≠0 then usbIoFreeDeviceList hid g.m_devList g.heap g.world else some (g.heap,g.world)).bind fun f =>
    let r := usbIoGetDeviceList hid f.1 f.2
    (fillLoop before r.2.1 r.2.1.calls r.1 ([],0)).map fun x =>
      let g := {g with heap := r.2.1,world := r.2.2,m_devList := r.1}
      if r.1≠0 then
        {g with m_devListBox := ⟨x.1,some 0⟩,log := "Found "++toString x.2++" USB IO device(s)"}
      else {g with m_devListBox := ⟨x.1,none⟩,log := "No compatible devices found"}

/-- The dialog as it comes up, with whatever the handle happens to be. -/
def dialogBox (garbage : Ptr) (heap : Heap) (w : W) : Gui W where
  heap := heap
  world := w
  m_devList := 0
  m_currentUSBIoHandle := garbage
  m_findDevBtn := true
  m_openDevBtn := true
  m_closeDevBtn := false
  m_setPinWorkModeBtn := false
  m_openWorkLed := false
  m_closeWorkLed := false
  m_outputSelBtn := false
  m_inputSelBtn := true
  m_pullupFlag := ⟨true,true⟩
  m_hLevelFlag := ⟨false,false⟩
  m_devListBox := ⟨[],none⟩
  m_pinIndexList := 0
  log := ""
  ended := false

/-- Initialize the library and find the devices. -/
def onInitDialog (garbage : Ptr) (heap : Heap) (w : W) : Option (Gui W) :=
  let g := dialogBox garbage heap w
  if usbIoInit≠0 then some {g with ended := true,log := "usb_io library init failure"}
  else onBnClickedfinddevicebtn hid before g

/-- Select output mode for the pin. -/
def onBnClickedRadio1 (g : Gui W) : Gui W :=
  {g with
    m_outputSelBtn := true
    m_inputSelBtn := false
    m_pullupFlag := {g.m_pullupFlag with enabled := false}
    m_hLevelFlag := {g.m_hLevelFlag with enabled := true}}

/-- Select input mode for the pin. -/
def onBnClickedRadio2 (g : Gui W) : Gui W :=
  {g with
    m_outputSelBtn := false
    m_hLevelFlag := {g.m_hLevelFlag with enabled := false}
    m_inputSelBtn := true
    m_pullupFlag := {g.m_pullupFlag with enabled := true}}

/-- The search for the device with the text selected, for at most `fuel` nodes. -/
def searchLoop (heap : Heap) (strSerialNumber : List Byte) : ℕ → Ptr → Option Ptr
  | 0,tmp => if tmp=0 then some 0 else none
  | fuel+1,tmp =>
    if tmp=0 then some 0
    else
      (serialText heap tmp).bind fun s =>
        if strSerialNumber=s then some tmp
        else (heap.cell tmp).bind fun n => searchLoop heap strSerialNumber fuel n.next

/-- The text selected in the device box, empty if there is none. -/
def Gui.selected (g : Gui W) : List Byte :=
  (g.m_devListBox.curSel.bind fun nIndex => g.m_devListBox.items[nIndex]?).getD []

/-- Open the device. -/
def onBnClickedButton2 (g : Gui W) : Option (Gui W) :=
  if g.selected.length=0 then some {g with log := "Please click the refresh button to find device"}
  else
    (searchLoop g.heap g.selected g.heap.calls g.m_devList).bind fun findDev =>
      if findDev≠0 then
        (usbIoOpenDevice findDev g.heap).map fun h =>
          let g := {g with m_currentUSBIoHandle := h}
          if h=0 then {g with log := "open device error, please click the refresh button!"}
          else
            {g with
              log := "open device success!"
              m_closeDevBtn := true
              m_openDevBtn := false
              m_findDevBtn := false
              m_setPinWorkModeBtn := true
              m_openWorkLed := true
              m_closeWorkLed := true}
      else some {g with log := "open device error, please click the refresh button!"}

/-- Close the device. -/
def onBnClickedButton3 (g : Gui W) : Gui W :=
  let r := usbIoCloseDevice g.m_currentUSBIoHandle g.heap g.world
  {g with
    heap := r.1
    world := r.2
    m_currentUSBIoHandle := 0
    m_openDevBtn := true
    m_findDevBtn := true
    m_closeDevBtn := false
    m_setPinWorkModeBtn := false
    m_openWorkLed := false
    m_closeWorkLed := false
    log := "close device success!"}

/-- What is said of a pin that was set. -/
def settingText (pinIndex pinMode pullUp outLevel : BitVec 32) : String :=
  if pinMode=OUTPUT_MODE then
    if outLevel≠0 then "Set the pin#"++toString pinIndex.toInt++" to output work mode, output High-Level "
    else "Set the pin#"++toString pinIndex.toInt++" to output work mode, output Low-Level "
  else
    "Set the pin#"++toString pinIndex.toInt++" to input work mode"++
      (if pullUp≠0 then " with INNER_PULL_UP" else " with NO_INNNER_PULL_UP")

/-- Set the work mode of the pin selected, and its level when it is an output. -/
def onBnClickedButton4 (g : Gui W) : Option (Gui W) :=
  let pinIndex := BitVec.ofNat 32 g.m_pinIndexList.val
  let pinMode := if g.m_outputSelBtn=true then OUTPUT_MODE else INPUT_MODE
  let pullUp :=
    if pinMode=INPUT_MODE then if g.m_pullupFlag.checked=true then INNER_PULL_UP else NO_INNER_PULL_UP
    else NO_INNER_PULL_UP
  let outLevel := if g.m_hLevelFlag.checked=true then HIGH_LVL else LOW_LVL
  (usbIoSetPinMode hid g.heap g.m_currentUSBIoHandle pinIndex pinMode pullUp g.world).bind fun r =>
    if r.err=0 then
      -- what the second call returns is not looked at
      (if pinMode=OUTPUT_MODE then
        (usbIoWriteOutputPinValue hid g.heap g.m_currentUSBIoHandle pinIndex outLevel r.world).map SendReply.world
      else some r.world).map fun v => {g with world := v,log := settingText pinIndex pinMode pullUp outLevel}
    else some {g with world := r.world,log := "set usb io pin work mode error!"}

/-- Switch the LED, and say whether that went through. -/
def switchLed (led_mode : BitVec 32) (success failure : String) (g : Gui W) : Option (Gui W) :=
  (usbIoSetWorkLedMode hid g.heap g.m_currentUSBIoHandle led_mode g.world).map fun r : SendReply W =>
    {g with world := r.world,log := if r.err≠0 then failure else success}

/-- Open work led. -/
def onBnClickedButton6 : Gui W → Option (Gui W) :=
  switchLed hid WORK_LED_BLINK "open work led success!" "open work led failure!"

/-- Close work led. -/
def onBnClickedButton7 : Gui W → Option (Gui W) :=
  switchLed hid WORK_LED_OFF "close work led success!" "close work led failure!"

/-- Finalize the library and leave the dialog; the list stays as it is. -/
def onBnClickedButton8 (g : Gui W) : Gui W := {g with ended := true}

/-- What an event leads to while the dialog is there. A control that is not
enabled does nothing. -/
def Gui.handle (g : Gui W) : Event → Option (Gui W)
  | .clickOutput => some (onBnClickedRadio1 g)
  | .clickInput => some (onBnClickedRadio2 g)
  | .clickPullup =>
    some (if g.m_pullupFlag.enabled=true then
      {g with m_pullupFlag := {g.m_pullupFlag with checked := !g.m_pullupFlag.checked}} else g)
  | .clickHLevel =>
    some (if g.m_hLevelFlag.enabled=true then
      {g with m_hLevelFlag := {g.m_hLevelFlag with checked := !g.m_hLevelFlag.checked}} else g)
  | .selectDevice i =>
    some (if i<g.m_devListBox.items.length then {g with m_devListBox := {g.m_devListBox with curSel := some i}} else g)
  | .selectPin i => some {g with m_pinIndexList := i}
  | .clickFind => if g.m_findDevBtn=true then onBnClickedfinddevicebtn hid before g else some g
  | .clickOpen => if g.m_openDevBtn=true then onBnClickedButton2 g else some g
  | .clickClose => some (if g.m_closeDevBtn=true then onBnClickedButton3 g else g)
  | .clickSetting => if g.m_setPinWorkModeBtn=true then onBnClickedButton4 hid g else some g
  | .clickOpenLed => if g.m_openWorkLed=true then onBnClickedButton6 hid g else some g
  | .clickCloseLed => if g.m_closeWorkLed=true then onBnClickedButton7 hid g else some g
  | .clickCancel => some g
  | .clickExit => some (onBnClickedButton8 g)

/-- What an event leads to; a dialog that was left has no events. -/
def Gui.next (g : Gui W) (e : Event) : Option (Gui W) := if g.ended=true then some g else g.handle hid before e

/-- The dialog from its start through some events. -/
def runDialog (garbage : Ptr) (heap : Heap) (w : W) (events : List Event) : Option (Gui W) :=
  (onInitDialog hid before garbage heap w).bind fun g => events.foldlM (Gui.next hid before) g

end Handlers

section Loops

variable {heap : Heap} {p : Ptr} {nodes : List ℤ} {fuel : ℕ}

/-- On a linked list the box is filled with the ids of the nodes, in the
order of the box. The induction is on the nodes. -/
theorem fillLoop_linked (before : List Byte → List Byte → Bool)
    (hchain : Chain UsbIoInternal.next 0 heap.cell p nodes) (hfuel : nodes.length≤fuel)
    (hl : ∀ a∈nodes,∀ n,heap.cell a=some n → Listed a n) (x : List (List Byte)×ℕ) :
    ∃ items,fillLoop before heap fuel p x=some (items,x.2+nodes.length) ∧
      items.Perm (nodes.map (idOf heap)++x.1) := by
  induction nodes generalizing p fuel x with
  | nil =>
    have hp : p=0 := hchain
    refine ⟨x.1,?_,.refl _⟩
    cases fuel <;> rw [fillLoop,if_pos hp] <;> rfl
  | cons a rest ih =>
    obtain ⟨rfl,ha,n,hn,htail⟩ := hchain
    cases fuel with
    | zero => exact absurd hfuel (by simp)
    | succ fuel =>
      have hserial := serialText_listed hn (hl p List.mem_cons_self n hn)
      obtain ⟨items,hfill,hperm⟩ := ih htail (Nat.le_of_succ_le_succ hfuel)
        (fun b hb => hl b (List.mem_cons_of_mem p hb))
        (x.1.orderedInsert (fun a b => before a b=true) (idOf heap p),x.2+1)
      refine ⟨items,?_,hperm.trans ?_⟩
      · rw [fillLoop,if_neg ha,hserial,Option.bind_some,hn,Option.bind_some,hfill,List.length_cons,
          Nat.add_assoc,Nat.add_comm 1]
      · rw [List.map_cons]
        exact ((List.perm_orderedInsert _ _ _).append_left _).trans List.perm_middle

/-- On a linked list the search finds the first node with the text, or NULL. -/
theorem searchLoop_linked (text : List Byte) (hchain : Chain UsbIoInternal.next 0 heap.cell p nodes)
    (hfuel : nodes.length≤fuel) (hl : ∀ a∈nodes,∀ n,heap.cell a=some n → Listed a n) :
    searchLoop heap text fuel p=some ((nodes.find? fun a => decide (idOf heap a=text)).getD 0) := by
  induction nodes generalizing p fuel with
  | nil =>
    have hp : p=0 := hchain
    cases fuel <;> rw [searchLoop,if_pos hp] <;> rfl
  | cons a rest ih =>
    obtain ⟨rfl,ha,n,hn,htail⟩ := hchain
    cases fuel with
    | zero => exact absurd hfuel (by simp)
    | succ fuel =>
      have hserial := serialText_listed hn (hl p List.mem_cons_self n hn)
      rw [searchLoop,if_neg ha,hserial,Option.bind_some,List.find?_cons]
      by_cases ht : text=idOf heap p
      · rw [if_pos ht,decide_eq_true ht.symm]
        rfl
      · rw [if_neg ht,decide_eq_false fun he => ht he.symm,hn,Option.bind_some]
        exact ih htail (Nat.le_of_succ_le_succ hfuel) fun b hb => hl b (List.mem_cons_of_mem p hb)

end Loops

section Laws

variable {W : Type} {hid : HidLayer W} {C : Custody hid} {before : List Byte → List Byte → Bool} {g g' : Gui W}

/-- The controls agree with each other: the buttons for a device are enabled
together, those to find and open one when they are not, and the boxes for the
mode selected. -/
structure Consistent (c : Controls) : Prop where
  /-- Buttons that need an open device. -/
  needed : c.m_setPinWorkModeBtn=c.m_closeDevBtn ∧ c.m_openWorkLed=c.m_closeDevBtn ∧ c.m_closeWorkLed=c.m_closeDevBtn
  /-- Buttons that need none. -/
  barred : c.m_openDevBtn=(!c.m_closeDevBtn) ∧ c.m_findDevBtn=(!c.m_closeDevBtn)
  /-- One mode is selected. -/
  mode : c.m_outputSelBtn=(!c.m_inputSelBtn)
  /-- Each mode has its box. -/
  boxes : c.m_pullupFlag.enabled=c.m_inputSelBtn ∧ c.m_hLevelFlag.enabled=c.m_outputSelBtn

/-- The invariant of the dialog. -/
structure DialogOk (C : Custody hid) (g : Gui W) : Prop where
  /-- The dialog has the list. -/
  list : Holding C g.heap g.world g.m_devList
  /-- The controls agree. -/
  controls : Consistent g.toControls
  /-- While a device is open the handle is the first node with its id. -/
  device : g.m_closeDevBtn=true → (nodesOf g.heap g.m_devList).find?
    (fun a => decide (idOf g.heap a=idOf g.heap g.m_currentUSBIoHandle))=some g.m_currentUSBIoHandle
  /-- The device box shows the ids of the list. -/
  items : g.m_devListBox.items.Perm ((nodesOf g.heap g.m_devList).map (idOf g.heap))
  /-- One of them is selected, if there are any. -/
  curSel : g.m_devListBox.items=[] ∨ ∃ i,g.m_devListBox.curSel=some i ∧ i<g.m_devListBox.items.length

/-- The open device is a node of the list. -/
theorem DialogOk.mem (h : DialogOk C g) (hopen : g.m_closeDevBtn=true) :
    g.m_currentUSBIoHandle∈nodesOf g.heap g.m_devList := List.mem_of_find?_eq_some (h.device hopen)

/-- Other controls may change as long as they agree, and the log. -/
theorem DialogOk.set (h : DialogOk C g) {c : Controls} (hc : Consistent c) (hopen : c.m_closeDevBtn=g.m_closeDevBtn)
    (log : String) (ended : Bool) : DialogOk C {g with toControls := c,log := log,ended := ended} :=
  ⟨h.list,hc,fun ho => h.device (hopen.symm.trans ho),h.items,h.curSel⟩

/-- How an event may change what is behind the dialog: unless it is a refresh
while no device is open, the list stays and only the open device is used; and
only the open button opens a device, one with the id selected. -/
structure Follows (hid : HidLayer W) (e : Event) (g g' : Gui W) : Prop where
  /-- The list stays. -/
  list : e≠.clickFind ∨ g.m_closeDevBtn=true → g'.heap=g.heap ∧ g'.m_devList=g.m_devList
  /-- Only the open device is used. -/
  uses : e≠.clickFind ∨ g.m_closeDevBtn=true →
    g'.world=g.world ∨ g.m_closeDevBtn=true ∧
      Relation.ReflTransGen (HandleUse hid (usbhOf g.heap g.m_currentUSBIoHandle)) g.world g'.world
  /-- A device that is opened has the id selected. -/
  opens : g.m_closeDevBtn=false → g'.m_closeDevBtn=true →
    e=.clickOpen ∧ idOf g'.heap g'.m_currentUSBIoHandle=g.selected

/-- An event that leaves the library alone and opens nothing. -/
theorem follows_quiet {e : Event} (hheap : g'.heap=g.heap) (hlist : g'.m_devList=g.m_devList)
    (hworld : g'.world=g.world) (hopen : g'.m_closeDevBtn=true → g.m_closeDevBtn=true) : Follows hid e g g' where
  list _ := ⟨hheap,hlist⟩
  uses _ := .inl hworld
  opens hc ho := by
    rw [hopen ho] at hc
    cases hc

/-- A device that is not open is not. -/
theorem not_open {P : Prop} (hclosed : g.m_closeDevBtn=false) (hopen : g.m_closeDevBtn=true) : P :=
  absurd (hclosed.symm.trans hopen) Bool.false_ne_true

variable (before) in
/-- A refresh, while no device is open: the old list is freed and the new one
is shown. -/
theorem find_run (hready : ∀ w,C.Owned 0 w → C.Ready 0 w) (hlist : Holding C g.heap g.world g.m_devList)
    (hcontrols : Consistent g.toControls) (hclosed : g.m_closeDevBtn=false) :
    ∃ g',onBnClickedfinddevicebtn hid before g=some g' ∧ DialogOk C g' ∧ g'.toControls=g.toControls := by
  obtain ⟨heap,w,hfree,hnone⟩ : ∃ heap w,(if g.m_devList≠0 then
      usbIoFreeDeviceList hid g.m_devList g.heap g.world else some (g.heap,g.world))=some (heap,w) ∧
      Holding C heap w 0 := by
    by_cases h0 : g.m_devList=0
    · rw [h0] at hlist
      exact ⟨g.heap,g.world,if_neg (not_not.mpr h0),hlist⟩
    · obtain ⟨heap,w,hf,hh,-⟩ := hlist.free
      exact ⟨heap,w,(if_pos h0).trans hf,hh⟩
  have hget := hnone.get (hready w hnone.noneOut)
  generalize hr : usbIoGetDeviceList hid heap w=r at hget
  obtain ⟨items,hfill,hperm⟩ := fillLoop_linked before hget.linked hget.length_le hget.listed ([],0)
  rw [List.append_nil] at hperm
  rw [onBnClickedfinddevicebtn,hfree,Option.bind_some,hr]
  dsimp only
  rw [hfill,Option.map_some]
  refine ⟨_,rfl,?_⟩
  by_cases h0 : r.1=0
  · rw [if_neg (not_not.mpr h0)]
    have hempty := hperm
    rw [hget.nil_iff.mpr h0] at hempty
    exact ⟨⟨hget,hcontrols,not_open hclosed,hperm,.inl hempty.eq_nil⟩,rfl⟩
  · rw [if_pos h0]
    have hpos : 0 < items.length := by
      rw [hperm.length_eq,List.length_map]
      exact List.length_pos_of_mem (hget.head_mem h0)
    exact ⟨⟨hget,hcontrols,not_open hclosed,hperm,.inr ⟨0,rfl,hpos⟩⟩,rfl⟩

/-- With devices in the list, one of their ids is selected. -/
theorem DialogOk.selected_mem (h : DialogOk C g) (hne : nodesOf g.heap g.m_devList≠[]) :
    g.selected∈(nodesOf g.heap g.m_devList).map (idOf g.heap) := by
  rcases h.curSel with hnil|⟨i,hi,hlt⟩
  · have hitems := h.items
    rw [hnil] at hitems
    exact absurd (List.map_eq_nil_iff.mp hitems.nil_eq.symm) hne
  · refine h.items.subset ?_
    rw [Gui.selected,hi,Option.bind_some,List.getElem?_eq_getElem hlt,Option.getD_some]
    exact List.getElem_mem hlt

/-- Without devices nothing is selected. -/
theorem DialogOk.selected_nil (h : DialogOk C g) (hnil : nodesOf g.heap g.m_devList=[]) : g.selected=[] := by
  have hitems := h.items
  rw [hnil] at hitems
  rw [Gui.selected,hitems.eq_nil]
  cases g.m_devListBox.curSel <;> rfl

/-- The open button: if there are devices, the first one with the id selected
is opened. -/
theorem open_run (h : DialogOk C g) :
    ∃ g',onBnClickedButton2 g=some g' ∧ DialogOk C g' ∧ Follows hid .clickOpen g g' ∧
      (nodesOf g.heap g.m_devList≠[] → g'.m_closeDevBtn=true) := by
  by_cases hnil : nodesOf g.heap g.m_devList=[]
  · have hlen : g.selected.length=0 := by rw [h.selected_nil hnil,List.length_nil]
    exact ⟨_,if_pos hlen,h.set h.controls rfl _ _,follows_quiet rfl rfl rfl id,fun hne => absurd hnil hne⟩
  · obtain ⟨b,hb,hid⟩ := List.mem_map.mp (h.selected_mem hnil)
    have hlen : ¬g.selected.length=0 := by
      rw [←hid,(h.list.text hb).2.2.length]
      exact Nat.succ_ne_zero 3
    have hsearch := searchLoop_linked g.selected h.list.linked h.list.length_le h.list.listed
    rcases h.list.find g.selected with ⟨a,ha,hf,hida,h0⟩|⟨-,hno⟩
    · rw [hf,Option.getD_some] at hsearch
      rw [onBnClickedButton2,if_neg hlen,hsearch,Option.bind_some,if_pos h0,h.list.openDevice ha,Option.map_some]
      dsimp only
      rw [if_neg h0]
      refine ⟨_,rfl,⟨h.list,?_,fun _ => ?_,h.items,h.curSel⟩,⟨fun _ => ⟨rfl,rfl⟩,fun _ => .inl rfl,fun _ _ => ⟨rfl,hida⟩⟩,
        fun _ => rfl⟩
      · exact ⟨⟨rfl,rfl,rfl⟩,⟨rfl,rfl⟩,h.controls.mode,h.controls.boxes⟩
      · dsimp only
        rw [hida]
        exact hf
    · exact absurd (h.selected_mem hnil) hno

/-- The close button. -/
theorem close_run (h : DialogOk C g) :
    DialogOk C (onBnClickedButton3 g) ∧ Follows hid .clickClose g (onBnClickedButton3 g) := by
  have hclosed : ¬(onBnClickedButton3 g).m_closeDevBtn=true := Bool.false_ne_true
  refine ⟨⟨h.list,⟨⟨rfl,rfl,rfl⟩,⟨rfl,rfl⟩,h.controls.mode,h.controls.boxes⟩,fun ho => absurd ho hclosed,
    h.items,h.curSel⟩,?_⟩
  exact follows_quiet rfl rfl rfl fun ho => absurd ho hclosed

/-- A handler that has used the open device and said so. -/
structure Used (C : Custody hid) (g : Gui W) (r : Option (Gui W)) : Prop where
  /-- Only the world and the log have changed. -/
  result : ∃ v log,r=some {g with world := v,log := log} ∧ Holding C g.heap v g.m_devList ∧
    Relation.ReflTransGen (HandleUse hid (usbhOf g.heap g.m_currentUSBIoHandle)) g.world v

/-- It keeps the invariant. -/
theorem Used.ok {r : Option (Gui W)} (hused : Used C g r) (h : DialogOk C g) (hopen : g.m_closeDevBtn=true)
    {e : Event} : ∃ g',r=some g' ∧ DialogOk C g' ∧ Follows hid e g g' := by
  obtain ⟨v,log,rfl,hv,huses⟩ := hused.result
  refine ⟨_,rfl,⟨hv,h.controls,h.device,h.items,h.curSel⟩,fun _ => ⟨rfl,rfl⟩,fun _ => .inr ⟨hopen,huses⟩,?_⟩
  exact fun hc => not_open hc hopen

/-- A pin function that sends a report returns on a device of the list. -/
theorem sent_run {heap : Heap} {w : W} {head a : Ptr} (h : Holding C heap w head) (ha : a∈nodesOf heap head)
    {c : PinCall} {f : Option (SendReply W)}
    (hc : c.run hid heap a w=f.map fun r => ⟨r.err,none,none,r.world⟩) :
    ∃ r,f=some r ∧ Holding C heap r.world head ∧ Relation.ReflTransGen (HandleUse hid (usbhOf heap a)) w r.world := by
  obtain ⟨x,hx,hv,huse⟩ := h.pinCall ha c
  rw [hc] at hx
  obtain ⟨r,hr,rfl⟩ := Option.map_eq_some_iff.mp hx
  refine ⟨r,hr,hv,?_⟩
  rcases huse with he|huse
  · rw [show r.world=w from he]
  · exact .single huse

/-- The LED buttons, while a device is open. -/
theorem switchLed_used (h : DialogOk C g) (hopen : g.m_closeDevBtn=true) (led_mode : BitVec 32)
    (success failure : String) : Used C g (switchLed hid led_mode success failure g) := by
  obtain ⟨r,hr,hv,huses⟩ := sent_run h.list (h.mem hopen) (c := .setWorkLedMode led_mode) rfl
  exact ⟨r.world,_,by rw [switchLed,hr,Option.map_some],hv,huses⟩

/-- The button that sets a pin, while a device is open. -/
theorem setting_used (h : DialogOk C g) (hopen : g.m_closeDevBtn=true) : Used C g (onBnClickedButton4 hid g) := by
  have hmem := h.mem hopen
  unfold onBnClickedButton4
  dsimp only
  generalize (if g.m_outputSelBtn=true then OUTPUT_MODE else INPUT_MODE)=pinMode
  generalize (if pinMode=INPUT_MODE then if g.m_pullupFlag.checked=true then INNER_PULL_UP else NO_INNER_PULL_UP
    else NO_INNER_PULL_UP)=pullUp
  generalize (if g.m_hLevelFlag.checked=true then HIGH_LVL else LOW_LVL)=outLevel
  generalize BitVec.ofNat 32 g.m_pinIndexList.val=pinIndex
  obtain ⟨r,hr,hv,huses⟩ := sent_run h.list hmem (c := .setPinMode pinIndex pinMode pullUp) rfl
  rw [hr,Option.bind_some]
  by_cases he : r.err=0
  · rw [if_pos he]
    by_cases hm : pinMode=OUTPUT_MODE
    · obtain ⟨s,hs,hv',huses'⟩ := sent_run hv hmem (c := .writeOutputPinValue pinIndex outLevel) rfl
      rw [if_pos hm,hs,Option.map_some,Option.map_some]
      exact ⟨s.world,_,rfl,hv',huses.trans huses'⟩
    · rw [if_neg hm,Option.map_some]
      exact ⟨r.world,_,rfl,hv,huses⟩
  · rw [if_neg he]
    exact ⟨r.world,_,rfl,hv,huses⟩

/-- What an event leads to: the dialog goes on and its invariant holds. -/
structure Next (C : Custody hid) (e : Event) (g : Gui W) (r : Option (Gui W)) : Prop where
  /-- The event is survived. -/
  result : ∃ g',r=some g' ∧ DialogOk C g' ∧ Follows hid e g g'

/-- A disabled control does nothing. -/
theorem next_same (h : DialogOk C g) (e : Event) : Next C e g (some g) :=
  ⟨g,rfl,h,follows_quiet rfl rfl rfl id⟩

/-- A control that only changes controls. -/
theorem next_controls (h : DialogOk C g) (e : Event) {c : Controls} (hc : Consistent c)
    (hopen : c.m_closeDevBtn=g.m_closeDevBtn) (ended : Bool) :
    Next C e g (some {g with toControls := c,ended := ended}) :=
  ⟨_,rfl,h.set hc hopen g.log ended,follows_quiet rfl rfl rfl fun ho => hopen.symm.trans ho⟩

variable (before) in
/-- Every event is survived and keeps the invariant; one case for each control. -/
theorem next_run (hready : ∀ w,C.Owned 0 w → C.Ready 0 w) (h : DialogOk C g) (e : Event) :
    Next C e g (g.next hid before e) := by
  unfold Gui.next
  cases hended : g.ended with
  | true =>
    rw [if_pos rfl]
    exact next_same h e
  | false =>
    rw [if_neg Bool.false_ne_true]
    obtain ⟨hneeded,hbarred,hmode,hboxes⟩ := h.controls
    have hopened : ∀ {b r},b=g.m_closeDevBtn → (g.m_closeDevBtn=true → Used C g r) →
        Next C e g (if b=true then r else some g) := by
      intro b r hb hused
      by_cases ho : g.m_closeDevBtn=true
      · rw [hb,if_pos ho]
        exact ⟨(hused ho).ok h ho⟩
      · rw [hb,if_neg ho]
        exact next_same h e
    have hclosed : ∀ {b r},b=(!g.m_closeDevBtn) → (g.m_closeDevBtn=false → Next C e g r) →
        Next C e g (if b=true then r else some g) := by
      intro b r hb hnext
      cases ho : g.m_closeDevBtn with
      | true =>
        rw [hb,ho,Bool.not_true,if_neg Bool.false_ne_true]
        exact next_same h e
      | false =>
        rw [hb,ho,Bool.not_false,if_pos rfl]
        exact hnext ho
    cases e with
    | clickOutput =>
      exact next_controls h _ (c := (onBnClickedRadio1 g).toControls) ⟨hneeded,hbarred,rfl,rfl,rfl⟩ rfl g.ended
    | clickInput =>
      exact next_controls h _ (c := (onBnClickedRadio2 g).toControls) ⟨hneeded,hbarred,rfl,rfl,rfl⟩ rfl g.ended
    | clickPullup =>
      dsimp only [Gui.handle]
      split
      · exact next_controls h _
          (c := {g.toControls with m_pullupFlag := {g.m_pullupFlag with checked := !g.m_pullupFlag.checked}})
          ⟨hneeded,hbarred,hmode,hboxes⟩ rfl g.ended
      · exact next_same h _
    | clickHLevel =>
      dsimp only [Gui.handle]
      split
      · exact next_controls h _
          (c := {g.toControls with m_hLevelFlag := {g.m_hLevelFlag with checked := !g.m_hLevelFlag.checked}})
          ⟨hneeded,hbarred,hmode,hboxes⟩ rfl g.ended
      · exact next_same h _
    | selectDevice i =>
      dsimp only [Gui.handle]
      split
      · next hi =>
        exact ⟨_,rfl,⟨h.list,h.controls,h.device,h.items,.inr ⟨i,rfl,hi⟩⟩,follows_quiet rfl rfl rfl id⟩
      · exact next_same h _
    | selectPin i =>
      exact next_controls h _ (c := {g.toControls with m_pinIndexList := i}) ⟨hneeded,hbarred,hmode,hboxes⟩ rfl g.ended
    | clickFind =>
      refine hclosed hbarred.2 fun hc => ?_
      obtain ⟨g',hg',hok,hcontrols⟩ := find_run before hready h.list h.controls hc
      have hstill : g'.m_closeDevBtn=false := (congrArg Controls.m_closeDevBtn hcontrols).trans hc
      refine ⟨g',hg',hok,fun hor => ?_,fun hor => ?_,fun _ ho => not_open hstill ho⟩
      · exact not_open hc (hor.resolve_left fun hne => hne rfl)
      · exact not_open hc (hor.resolve_left fun hne => hne rfl)
    | clickOpen =>
      refine hclosed hbarred.1 fun _ => ?_
      obtain ⟨g',hg',hok,hfollows,-⟩ := open_run h
      exact ⟨g',hg',hok,hfollows⟩
    | clickClose =>
      dsimp only [Gui.handle]
      split
      · exact ⟨_,rfl,close_run h⟩
      · exact next_same h _
    | clickSetting => exact hopened hneeded.1 fun ho => setting_used h ho
    | clickOpenLed => exact hopened hneeded.2.1 fun ho => switchLed_used h ho _ _ _
    | clickCloseLed => exact hopened hneeded.2.2 fun ho => switchLed_used h ho _ _ _
    | clickCancel => exact next_same h _
    | clickExit => exact next_controls h _ (c := g.toControls) ⟨hneeded,hbarred,hmode,hboxes⟩ rfl true

variable (before) in
/-- The dialog comes up with its invariant, whatever the handle happens to be. -/
theorem init_run (hready : ∀ w,C.Owned 0 w → C.Ready 0 w) {heap : Heap} {w : W} (h : Holding C heap w 0)
    (garbage : Ptr) : ∃ g,onInitDialog hid before garbage heap w=some g ∧ DialogOk C g := by
  have hinit : usbIoInit=0 := rfl
  obtain ⟨g,hg,hok,-⟩ := find_run before hready (g := dialogBox garbage heap w) h
    ⟨⟨rfl,rfl,rfl⟩,⟨rfl,rfl⟩,rfl,rfl,rfl⟩ rfl
  refine ⟨g,?_,hok⟩
  rw [onInitDialog,if_neg (not_not.mpr hinit),hg]

variable (before) in
/-- Any events, in any order, are survived and keep the invariant. -/
theorem events_run (hready : ∀ w,C.Owned 0 w → C.Ready 0 w) (h : DialogOk C g) (events : List Event) :
    ∃ g',events.foldlM (Gui.next hid before) g=some g' ∧ DialogOk C g' := by
  induction events generalizing g with
  | nil => exact ⟨g,rfl,h⟩
  | cons e events ih =>
    obtain ⟨v,hv,hok,-⟩ := next_run before hready h e
    obtain ⟨g',hg',hok'⟩ := ih hok
    exact ⟨g',by rw [List.foldlM_cons,hv]; exact hg',hok'⟩

end Laws

section Windows

variable {D : Type} {env : MswinEnv D} {target : Target}

/-- What uses of a handle leave in the ledger. -/
theorem uses_log {u : Ptr} {w v : MswinWorld D} (huses : Relation.ReflTransGen (HandleUse (mswinHid env target) u) w v) :
    ∃ n,v.ledger.log=List.replicate n (.used u)++w.ledger.log := by
  induction huses with
  | refl => exact ⟨0,rfl⟩
  | tail _ huse ih =>
    obtain ⟨n,hn⟩ := ih
    obtain ⟨e,rfl⟩ := mswin_use huse
    refine ⟨n+1,?_⟩
    rw [List.replicate_succ,List.cons_append,←hn]
    rfl

/-- What holds of the dialog on Windows at any time. -/
structure DialogLaw (env : MswinEnv D) (target : Target) (before : List Byte → List Byte → Bool)
    (g : Gui (MswinWorld D)) : Prop where
  /-- Its invariant holds. -/
  ok : DialogOk (mswinCustody env target) g
  /-- What is allocated and open is the list. -/
  kept : KeptOpen (mswinLedger env target) g.heap g.world g.m_devList
  /-- Every event is survived, … -/
  next : ∀ e,∃ g',g.next (mswinHid env target) before e=some g' ∧ Follows (mswinHid env target) e g g' ∧
    -- … and unless the list is refreshed, the system's handles stay open, the
    -- one of the open device is used at most, and none without an open device
    (e≠.clickFind ∨ g.m_closeDevBtn=true → ∃ n,
      g'.world.ledger.log=List.replicate n (.used (usbhOf g.heap g.m_currentUSBIoHandle))++g.world.ledger.log ∧
        (g.m_closeDevBtn=false → n=0))

/-- It holds when the invariant does. -/
theorem dialogLaw_of_ok {before : List Byte → List Byte → Bool} {g : Gui (MswinWorld D)}
    (h : DialogOk (mswinCustody env target) g) : DialogLaw env target before g := by
  refine ⟨h,keptOpen_of_holding (B := mswinLedger env target) h.list,fun e => ?_⟩
  obtain ⟨g',hg',-,hfollows⟩ := next_run before (fun _ _ => trivial) h e
  refine ⟨g',hg',hfollows,fun hor => ?_⟩
  rcases hfollows.uses hor with hworld|⟨hopen,huses⟩
  · rw [hworld]
    exact ⟨0,rfl,fun _ => rfl⟩
  · obtain ⟨n,hn⟩ := uses_log huses
    exact ⟨n,hn,fun hc => not_open hc hopen⟩

/-- The dialog on Windows, whatever is attached, however the devices answer,
whichever allocations fail and whatever the user does in any order: every
handler returns and never meets a handle that is not of an open device; the
list in the dialog is what is allocated and what is open; unless the list is
refreshed only the device that is open is used, and it is one with the id
selected. -/
theorem dialog_law (env : MswinEnv D) (target : Target) {w : MswinWorld D} (clean : w.ledger.live=some ∅)
    (before : List Byte → List Byte → Bool) (garbage : Ptr) (fails : ℕ → Bool) (events : List Event) :
    ∃ g,runDialog (mswinHid env target) before garbage (Heap.empty fails) w events=some g ∧
      DialogLaw env target before g := by
  have hready : ∀ v,(mswinCustody env target).Owned 0 v → (mswinCustody env target).Ready 0 v := fun _ _ => trivial
  have hstart : Holding (mswinCustody env target) (Heap.empty fails) w 0 := holding_start fails (mswinOwned_start clean)
  obtain ⟨v,hv,hok⟩ := init_run before hready hstart garbage
  obtain ⟨g,hg,hok'⟩ := events_run before hready hok events
  refine ⟨g,?_,dialogLaw_of_ok hok'⟩
  rw [runDialog,hv,Option.bind_some,hg]

/-- Two interfaces of boards, with one of another make between them. -/
def boardInterfaces : List HidInterface :=
  [OwnAttributes.interfaceWith "first" (some (0x16C0#16,0x05DF#16)),
    OwnAttributes.interfaceWith "mouse" (some (0x046D#16,0xC016#16)),
    OwnAttributes.interfaceWith "second" (some (0x16C0#16,0x05DF#16))]

/-- Nothing was opened so far; the third handle will be that of the second board. -/
def boardsWorld : MswinWorld IdealBoards.Bench where
  ledger := Ledger.empty
  path _ := ""
  env := ⟨fun h => if h=1 then PinArray.boardOf "NOPQ" rfl else PinArray.boardOf "EFGH" rfl,0⟩

theorem dialog_law_twoBoards :
    let env := BoardLinks.mswinBoards (fun _ _ _ _ => false) (fun _ => false) (BoardLinks.namedInterfaces boardInterfaces)
    let hid := mswinHid env ⟨false,fun _ => 0#8⟩
    let before : List Byte → List Byte → Bool := fun a b => decide (a≤b)
    ∃ g,runDialog hid before 77 (Heap.empty fun _ => false) boardsWorld
        [.clickOutput,.clickHLevel,.clickSetting,.selectPin 3,.clickOpen,.clickSetting,.clickOpenLed]=some g ∧
      DialogLaw env ⟨false,fun _ => 0#8⟩ before g ∧
      g.m_devListBox.items=[ascii "EFGH",ascii "NOPQ"] ∧ g.m_currentUSBIoHandle=2 ∧ g.m_closeDevBtn=true ∧
      (g.world.env.boards 3).led=true ∧ (g.world.env.boards 3).latch ⟨3,by decide⟩=true ∧
      (g.world.env.boards 1).led=false ∧ g.world.env.transfers=5 := by
  intro env hid before
  let events : List Event :=
    [.clickOutput,.clickHLevel,.clickSetting,.selectPin 3,.clickOpen,.clickSetting,.clickOpenLed]
  obtain ⟨g,hg,hlaw⟩ := dialog_law env ⟨false,fun _ => 0#8⟩ (w := boardsWorld) rfl before 77 (fun _ => false) events
  have hdialog : (runDialog hid before 77 (Heap.empty fun _ => false) boardsWorld events).map
      (fun g => (g.m_devListBox.items,g.m_currentUSBIoHandle,g.m_closeDevBtn))=
        some ([ascii "EFGH",ascii "NOPQ"],2,true) := by decide +kernel
  have hbench : (runDialog hid before 77 (Heap.empty fun _ => false) boardsWorld events).map
      (fun g => ((g.world.env.boards 3).led,(g.world.env.boards 3).latch ⟨3,by decide⟩,(g.world.env.boards 1).led,
        g.world.env.transfers))=some (true,true,false,5) := by decide +kernel
  rw [hg,Option.map_some,Option.some.injEq,Prod.mk.injEq,Prod.mk.injEq] at hdialog
  rw [hg,Option.map_some,Option.some.injEq,Prod.mk.injEq,Prod.mk.injEq,Prod.mk.injEq] at hbench
  exact ⟨g,hg,hlaw,hdialog.1,hdialog.2.1,hdialog.2.2,hbench⟩

end Windows

end UsbIo16.GuiDialog
