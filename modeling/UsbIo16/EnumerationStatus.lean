import UsbIo16.StopRequests

/-!
# The status of an enumeration

Zero must mean that some device was handed to the callback. The Windows
loop keeps to this. On libusb the status is what the last device with the
right vendor and product left behind, handed over or not; on OS X it is
zero whenever the system knows any HID device at all.
-/

namespace UsbIo16.EnumerationStatus

open HandleLedger Hiddata LibusbBackend MswinBackend OsxBackend Backends Traversal DeviceVisits
  StopRequests

section Libusb

variable {D α : Type} {env : LibusbEnv D} {target : Target} {vendor product : ℤ}
  {usbhidEnumFunc : EnumFunc α (LibusbWorld D)} {w : LibusbWorld D} {dev : Ptr}

/-- The error code a device leaves behind when its turn comes, if any. -/
def leaves (env : LibusbEnv D) (vendor product : ℤ) (w : LibusbWorld D) (dev : Ptr) : Option ℤ :=
  if Matches vendor product w dev then
    some (if env.canOpen w.rounds dev=true then 0 else USBHID_ERR_ACCESS)
  else none

/-- The error code of the last of these devices that leaves one. -/
def lastCode (env : LibusbEnv D) (vendor product : ℤ) (w : LibusbWorld D) (ds : List Ptr) : Option ℤ :=
  (ds.filterMap (leaves env vendor product w)).getLast?

/-- Of two lists in a row the second one decides, when it leaves a code. -/
theorem lastCode_append (as bs : List Ptr) :
    lastCode env vendor product w (as++bs)=
      (lastCode env vendor product w bs).or (lastCode env vendor product w as) := by
  rw [lastCode,lastCode,lastCode,List.filterMap_append,List.getLast?_append]

/-- A visit leaves the code of its device, or what was before. -/
theorem visit_code {s : EnumReply α (LibusbWorld D)} (h : SameDevices w s.world) :
    (libusbVisit env vendor product usbhidEnumFunc dev s).2.err=
      (leaves env vendor product w dev).getD s.err := by
  have hends := libusbVisit_ends env vendor product usbhidEnumFunc dev s
  generalize libusbVisit env vendor product usbhidEnumFunc dev s=r at hends ⊢
  rw [leaves,←h.rounds]
  cases hends with
  | foreign hm =>
    rw [if_neg fun hmw => hm (h.matches_iff.mpr hmw)]
    rfl
  | denied hm ho =>
    rw [if_pos (h.matches_iff.mp hm),ho]
    rfl
  | hub hm ho hleaf =>
    rw [if_pos (h.matches_iff.mp hm),ho]
    rfl
  | leaf hm ho hleaf =>
    rw [if_pos (h.matches_iff.mp hm),ho]
    rfl

/-- A visit that asks to stop leaves zero. -/
theorem visit_stop {s : EnumReply α (LibusbWorld D)}
    (hs : (libusbVisit env vendor product usbhidEnumFunc dev s).1=true) :
    (libusbVisit env vendor product usbhidEnumFunc dev s).2.err=0 := by
  have hends := libusbVisit_ends env vendor product usbhidEnumFunc dev s
  generalize libusbVisit env vendor product usbhidEnumFunc dev s=r at hends hs ⊢
  cases hends with
  | foreign hm => cases hs
  | denied hm ho => cases hs
  | hub hm ho hleaf => rfl
  | leaf hm ho hleaf => rfl

/-- A bus leaves zero when the callback asks to stop there, and else the
code of its last device that leaves one. -/
theorem bus_code (hf : IsClient (libusbHid env target) usbhidEnumFunc) (bus : List Ptr)
    {s : EnumReply α (LibusbWorld D)} (h : SameDevices w s.world) :
    (visitAll (libusbVisit env vendor product usbhidEnumFunc) bus s).2.err=
      if (visitAll (libusbVisit env vendor product usbhidEnumFunc) bus s).1=true then 0
      else (lastCode env vendor product w bus).getD s.err := by
  let visit := libusbVisit env vendor product usbhidEnumFunc
  let G : List Ptr → EnumReply α (LibusbWorld D) → Prop := fun pre t =>
    SameDevices w t.world ∧ t.err=(lastCode env vendor product w pre).getD s.err
  have hgo : ∀ d∈bus,∀ pre t,G pre t → (visit d t).1=false → G (pre++[d]) (visit d t).2 := by
    rintro d - pre t ⟨ht,he⟩ -
    have hone : lastCode env vendor product w [d]=leaves env vendor product w d := by
      rw [lastCode]
      cases hc : leaves env vendor product w d with
      | none => rw [List.filterMap_cons_none hc,List.filterMap_nil,List.getLast?_nil]
      | some c => rw [List.filterMap_cons_some hc,List.filterMap_nil,List.getLast?_singleton]
    refine ⟨ht.trans (sameDevices_visit hf),?_⟩
    rw [visit_code ht,he,lastCode_append,hone]
    cases leaves env vendor product w d with
    | none => rw [Option.none_or,Option.getD_none]
    | some c => rw [Option.some_or,Option.getD_some,Option.getD_some]
  have hrule := visitAll_rule (S := fun t => t.err=0) hgo (fun d _ _ t _ hs => visit_stop hs) [] ⟨h,rfl⟩
  cases hs : (visitAll visit bus s).1 with
  | false =>
    rw [if_neg Bool.false_ne_true]
    exact (hrule.1 hs).2
  | true =>
    rw [if_pos rfl]
    exact hrule.2 hs

/-- The callback asks to stop on the last bus with a device that leaves a code. -/
def StopsOnLastBus (env : LibusbEnv D) (vendor product : ℤ) (usbhidEnumFunc : EnumFunc α (LibusbWorld D))
    (w : LibusbWorld D) (s : EnumReply α (LibusbWorld D)) (busses : List (List Ptr)) : Prop :=
  ∃ before bus after,busses=before++bus::after ∧ lastCode env vendor product w after.flatten=none ∧
    (visitAll (libusbVisit env vendor product usbhidEnumFunc) bus
      (visitGroups (libusbVisit env vendor product usbhidEnumFunc) before s)).1=true

/-- One more bus. -/
theorem stopsOnLastBus_snoc (s : EnumReply α (LibusbWorld D)) (busses : List (List Ptr)) (bus : List Ptr) :
    StopsOnLastBus env vendor product usbhidEnumFunc w s (busses++[bus]) ↔
      (visitAll (libusbVisit env vendor product usbhidEnumFunc) bus
          (visitGroups (libusbVisit env vendor product usbhidEnumFunc) busses s)).1=true ∨
        lastCode env vendor product w bus=none ∧
          StopsOnLastBus env vendor product usbhidEnumFunc w s busses := by
  constructor
  · rintro ⟨before,b,after,hsplit,hnone,hs⟩
    rcases List.eq_nil_or_concat after with rfl|⟨after,x,rfl⟩
    · obtain ⟨rfl,hb⟩ := List.append_inj' hsplit rfl
      rw [(List.cons.inj hb).1]
      exact .inl hs
    · rw [List.concat_eq_append,←List.cons_append,←List.append_assoc] at hsplit
      obtain ⟨rfl,hx⟩ := List.append_inj' hsplit rfl
      rw [List.concat_eq_append,List.flatten_append,lastCode_append,List.flatten_singleton,
        ←(List.cons.inj hx).1,Option.or_eq_none_iff] at hnone
      exact .inr ⟨hnone.1,before,b,after,rfl,hnone.2,hs⟩
  · rintro (hs|⟨hbus,before,b,after,rfl,hnone,hs⟩)
    · exact ⟨busses,bus,[],rfl,rfl,hs⟩
    · refine ⟨before,b,after++[bus],by rw [List.append_assoc,List.cons_append],?_,hs⟩
      rw [List.flatten_append,lastCode_append,List.flatten_singleton,hbus,hnone]
      rfl

/-- The nested loops leave zero exactly when the last device that leaves a
code leaves zero, or the callback asked to stop on its bus. -/
theorem busses_code (vendor product : ℤ) (hf : IsClient (libusbHid env target) usbhidEnumFunc)
    (busses : List (List Ptr)) {s : EnumReply α (LibusbWorld D)} (h : SameDevices w s.world) (he : s.err≠0) :
    (visitGroups (libusbVisit env vendor product usbhidEnumFunc) busses s).err=0 ↔
      lastCode env vendor product w busses.flatten=some 0 ∨
        StopsOnLastBus env vendor product usbhidEnumFunc w s busses := by
  let visit := libusbVisit env vendor product usbhidEnumFunc
  induction busses using List.reverseRecOn with
  | nil =>
    refine iff_of_false he ?_
    rintro (h0|⟨before,bus,after,hsplit,-⟩)
    · cases h0
    · exact absurd hsplit.symm (List.append_ne_nil_of_right_ne_nil before (List.cons_ne_nil bus after))
  | append_singleton busses bus ih =>
    have hw : SameDevices w (visitGroups visit busses s).world :=
      visitGroups_keeps (I := fun t : EnumReply α (LibusbWorld D) => SameDevices w t.world)
        (fun d _ t ht => ht.trans (sameDevices_visit hf)) h
    have hlast : (visitGroups visit (busses++[bus]) s).err=
        (visitAll visit bus (visitGroups visit busses s)).2.err := by
      rw [visitGroups_append]
      rfl
    rw [hlast,bus_code hf bus hw,stopsOnLastBus_snoc,List.flatten_append,lastCode_append,
      List.flatten_singleton]
    cases hs : (visitAll visit bus (visitGroups visit busses s)).1 with
    | true => exact iff_of_true (if_pos rfl) (.inr (.inl rfl))
    | false =>
      rw [if_neg Bool.false_ne_true]
      cases hc : lastCode env vendor product w bus with
      | none =>
        rw [Option.getD_none,Option.none_or]
        refine ih.trans ?_
        simp only [Bool.false_eq_true,true_and,false_or]
      | some c =>
        rw [Option.getD_some,Option.some_or]
        simp only [Option.some.injEq,Bool.false_eq_true,reduceCtorEq,false_and,or_false]

/-- Some device is handed over: it can be opened and has no children. -/
def SomeEligible (env : LibusbEnv D) (vendor product : ℤ) (w : LibusbWorld D) : Prop :=
  ∃ dev∈w.busses.flatten,Openable env vendor product w dev ∧ (w.device dev).num_children=0#8

/-- Only a device that is handed over can bring a request to stop. -/
theorem visit_stop_eligible {s : EnumReply α (LibusbWorld D)} (h : SameDevices w s.world)
    (hs : (libusbVisit env vendor product usbhidEnumFunc dev s).1=true) :
    Openable env vendor product w dev ∧ (w.device dev).num_children=0#8 := by
  have hends := libusbVisit_ends env vendor product usbhidEnumFunc dev s
  generalize libusbVisit env vendor product usbhidEnumFunc dev s=r at hends hs
  cases hends with
  | foreign hm => cases hs
  | denied hm ho => cases hs
  | hub hm ho hleaf => cases hs
  | leaf hm ho hleaf => exact ⟨(openable_iff h).mp ⟨hm,ho⟩,(h.device dev).2.2 ▸ hleaf⟩

/-- So there is none without an eligible device. -/
theorem someEligible_of_stops (hf : IsClient (libusbHid env target) usbhidEnumFunc)
    {s : EnumReply α (LibusbWorld D)} (h : SameDevices w s.world)
    (hs : StopsOnLastBus env vendor product usbhidEnumFunc w s w.busses) :
    SomeEligible env vendor product w := by
  obtain ⟨before,bus,after,hbusses,-,hstop⟩ := hs
  let visit := libusbVisit env vendor product usbhidEnumFunc
  let I : EnumReply α (LibusbWorld D) → Prop := fun t => SameDevices w t.world
  have hI : ∀ ds,Keeps visit I ds := fun ds d _ t ht => ht.trans (sameDevices_visit hf)
  have hbefore : I (visitGroups visit before s) := visitGroups_keeps (hI _) h
  by_contra hnone
  have hgo := (visitAll_inert (v := fun _ => ()) (hI bus) (fun d hd t ht => ⟨?_,rfl⟩) hbefore).1
  · exact absurd (hgo.symm.trans hstop) Bool.false_ne_true
  · cases hd' : (visit d t).1 with
    | false => rfl
    | true =>
      have hmem : d∈w.busses.flatten := by
        rw [hbusses,List.flatten_append,List.flatten_cons]
        exact List.mem_append_right _ (List.mem_append_left _ hd)
      exact absurd ⟨d,hmem,visit_stop_eligible ht hd'⟩ hnone

/-- The status of the libusb enumeration as it should be. -/
def LibusbStatus (env : LibusbEnv D) (vendor product : ℤ) (context : α)
    (usbhidEnumFunc : EnumFunc α (LibusbWorld D)) (w : LibusbWorld D) : Prop :=
  let r := LibusbBackend.usbhidEnumDevices env vendor product (context,[]) (libusbRecorded usbhidEnumFunc) w
  r.err=0 ↔ r.context.2≠[]

/-- Either some device is eligible, and the last device with the right
vendor and product can be opened or the callback asks to stop on its bus; or
no device is eligible, and that last device, if there is one, cannot be opened. -/
def LibusbTells (env : LibusbEnv D) (vendor product : ℤ) (context : α)
    (usbhidEnumFunc : EnumFunc α (LibusbWorld D)) (w : LibusbWorld D) : Prop :=
  SomeEligible env vendor product (nextRound w) ∧
      (lastCode env vendor product (nextRound w) w.busses.flatten=some 0 ∨
        StopsOnLastBus env vendor product usbhidEnumFunc (nextRound w)
          ⟨ USBHID_ERR_NOTFOUND,context,nextRound w⟩ w.busses) ∨
    ¬SomeEligible env vendor product (nextRound w) ∧
      lastCode env vendor product (nextRound w) w.busses.flatten≠some 0

/-- The callback is called exactly when some device is eligible. -/
theorem libusb_handed_iff (hf : IsClient (libusbHid env target) usbhidEnumFunc) (context : α) :
    (visitGroups (libusbVisit env vendor product (libusbRecorded usbhidEnumFunc)) w.busses
        (libusbStart context w)).context.2≠[] ↔ SomeEligible env vendor product (nextRound w) := by
  have hr := libusb_records vendor product hf (nextRound w) w.busses.flatten
  have hstart : SameDevices (nextRound w) (libusbStart context w).world := .refl _
  rw [ne_eq,hr.groups_calls_eq_nil_iff (s := libusbStart context w) hstart rfl,List.filterMap_eq_nil_iff]
  constructor
  · intro h
    by_contra hnone
    refine h fun dev hdev => if_neg fun he => hnone ⟨dev,hdev,he⟩
  · rintro ⟨dev,hdev,he⟩ h
    have hn := h dev hdev
    rw [libusbEligible,if_pos he] at hn
    cases hn

/-- The status on libusb tells whether a device was handed over exactly in these cases. -/
theorem libusbStatus_iff (hf : IsClient (libusbHid env target) usbhidEnumFunc) (context : α)
    (w : LibusbWorld D) :
    LibusbStatus env vendor product context usbhidEnumFunc w ↔
      LibusbTells env vendor product context usbhidEnumFunc w := by
  have hstart : SameDevices (nextRound w) (nextRound w) := .refl _
  have hne : USBHID_ERR_NOTFOUND≠0 := by decide
  have hmap : visitGroups (libusbVisit env vendor product usbhidEnumFunc) w.busses
      ⟨ USBHID_ERR_NOTFOUND,context,nextRound w⟩=_ :=
    visitGroups_map (p := fun s : EnumReply (α×List (Call Ptr)) (LibusbWorld D) =>
      (⟨s.err,s.context.1,s.world⟩ : EnumReply α (LibusbWorld D))) (s := libusbStart context w)
      libusb_recorded_map
  have herr := congrArg EnumReply.err hmap
  have hcode := busses_code vendor product hf w.busses (s := ⟨ USBHID_ERR_NOTFOUND,context,nextRound w⟩)
    hstart hne
  have hstops : StopsOnLastBus env vendor product usbhidEnumFunc (nextRound w)
      ⟨ USBHID_ERR_NOTFOUND,context,nextRound w⟩ w.busses → SomeEligible env vendor product (nextRound w) :=
    someEligible_of_stops hf hstart
  rw [LibusbStatus,libusb_enumDevices_eq,libusb_handed_iff hf,LibusbTells]
  rw [herr] at hcode
  rw [hcode]
  by_cases he : SomeEligible env vendor product (nextRound w)
  · simp only [he,iff_true,true_and,not_true_eq_false,false_and,or_false]
  · have hb := mt hstops he
    simp only [he,hb,or_false,iff_false,false_and,not_false_eq_true,true_and,false_or,ne_eq]

end Libusb

section Mswin

variable {D α : Type} {env : MswinEnv D} {vendor product : ℤ}
  {usbhidEnumFunc : EnumFunc α (MswinWorld D)} {w : MswinWorld D}

/-- The status of the Windows enumeration as it should be. -/
def MswinStatus (env : MswinEnv D) (vendor product : ℤ) (context : α)
    (usbhidEnumFunc : EnumFunc α (MswinWorld D)) (w : MswinWorld D) : Prop :=
  let r := MswinBackend.usbhidEnumDevices env vendor product (context,[]) (mswinRecorded usbhidEnumFunc) w
  r.err=0 ↔ r.context.2≠[]

/-- A visit of the Windows loop keeps the error code true to the calls made. -/
theorem mswinVisit_status (iface : HidInterface) (s : MswinRound (α×List (Call String)) D)
    (h : s.errorCode=0 ↔ s.context.2≠[]) :
    (mswinVisit vendor product (mswinRecorded usbhidEnumFunc) iface s).2.errorCode=0 ↔
      (mswinVisit vendor product (mswinRecorded usbhidEnumFunc) iface s).2.context.2≠[] := by
  by_cases hopen : Described iface ∧ iface.canOpen=true
  · by_cases hw : Wanted vendor product (attributesSeen iface s)
    · rw [mswinVisit_wanted hopen.1 hopen.2 hw rfl]
      exact iff_of_true rfl (List.append_ne_nil_of_right_ne_nil _ (List.cons_ne_nil _ _))
    · rw [mswinVisit_foreign hopen.1 hopen.2 hw]
      exact h
  · rw [mswinVisit_closed hopen]
    exact h

/-- The Windows status always tells whether a device was handed over. -/
theorem mswinStatus (env : MswinEnv D) (vendor product : ℤ) (context : α)
    (usbhidEnumFunc : EnumFunc α (MswinWorld D)) (w : MswinWorld D) :
    MswinStatus env vendor product context usbhidEnumFunc w := by
  have hne : USBHID_ERR_NOTFOUND≠0 := by decide
  have hnil : ¬([] : List (Call String))≠[] := not_not.mpr rfl
  cases hdevs : (env.classDevs w.env).1 with
  | none =>
    rw [MswinStatus,mswin_enumDevices_none hdevs]
    exact iff_of_false hne hnil
  | some devs =>
    rw [MswinStatus,mswin_enumDevices_some hdevs _ rfl]
    exact visitAll_keeps (I := fun t : MswinRound (α×List (Call String)) D =>
      t.errorCode=0 ↔ t.context.2≠[]) (fun iface _ t ht => mswinVisit_status iface t ht)
      (iff_of_false hne hnil)

end Mswin

section Osx

variable {D α : Type} {env : OsxEnv D} {target : Target} {vendor product : ℤ} {w : OsxWorld D}

/-- The status of the OS X enumeration as it should be. -/
def OsxStatus (env : OsxEnv D) (target : Target) (vendor product : ℤ) (context : α)
    (usbhidEnumFunc : EnumFunc α (OsxWorld D)) (w : OsxWorld D) : Prop :=
  let r := OsxBackend.usbhidEnumDevices env target vendor product (context,[]) (osxRecorded usbhidEnumFunc) w
  r.err=0 ↔ r.context.2≠[]

/-- The device loop, when it is reached, finds a device to hand over. -/
def OsxTells (env : OsxEnv D) (target : Target) (vendor product : ℤ) (w : OsxWorld D) : Prop :=
  ∀ devices,(managerDevices env w).1=.ok devices →
    ∃ dev∈devices,offered target vendor product dev=true

/-- Without a device set the enumeration returns an error code. -/
theorem managerDevices_error_ne {e : ℤ} (h : (managerDevices env w).1=.error e) : e≠0 := by
  have hio : USBHID_ERR_IO_HID≠0 := by decide
  have hnf : USBHID_ERR_NOTFOUND≠0 := by decide
  have hends := managerDevices_ends env w
  generalize managerDevices env w=r at h hends
  cases hends with
  | uncreated hcreate =>
    cases h
    exact hio
  | refused hcreate hopen =>
    cases h
    exact hio
  | empty hcreate hopen hset =>
    cases h
    exact hnf
  | ready hcreate hopen hset hsome => cases h

/-- The status on OS X tells whether a device was handed over exactly then. -/
theorem osxStatus_iff (context : α) (usbhidEnumFunc : EnumFunc α (OsxWorld D)) (w : OsxWorld D) :
    OsxStatus env target vendor product context usbhidEnumFunc w ↔
      OsxTells env target vendor product w := by
  cases hdevs : (managerDevices env w).1 with
  | error e =>
    have hnil : ¬([] : List (Call Ptr))≠[] := not_not.mpr rfl
    rw [OsxStatus,osx_enumDevices_error hdevs]
    refine iff_of_true (iff_of_false (managerDevices_error_ne hdevs) hnil) ?_
    intro devices hok
    rw [hdevs] at hok
    cases hok
  | ok devices =>
    have hr := osx_records target vendor product usbhidEnumFunc devices
    have hcalls := hr.calls_eq_nil_iff (s := ((context,[]),(managerDevices env w).2)) trivial rfl
    rw [OsxStatus,osx_enumDevices_ok hdevs _ rfl]
    have hhanded : devices.filterMap (osxEligible target vendor product)≠[] ↔
        OsxTells env target vendor product w := by
      rw [ne_eq,List.filterMap_eq_nil_iff]
      constructor
      · intro h devices' hok
        rw [hdevs] at hok
        cases hok
        by_contra hnone
        exact h fun dev hdev => if_neg fun ho => hnone ⟨dev,hdev,ho⟩
      · intro h hnone
        obtain ⟨dev,hdev,ho⟩ := h devices hdevs
        have hn := hnone dev hdev
        rw [osxEligible,if_pos ho] at hn
        cases hn
    rw [←hhanded]
    exact ⟨fun h hnil => (h.mp rfl) (hcalls.mpr hnil),fun h => iff_of_true rfl (mt hcalls.mp h)⟩

end Osx

section Backends

variable {α : Type} {target : Target} {vendor product : ℤ}

/-- The status of a backend's enumeration as it should be: zero exactly when
some device was handed to the callback. -/
def StatusTells (target : Target) (vendor product : ℤ) (context : α) :
    (b : Running) → EnumFunc α b.World → Prop
  | .libusb env w,f => LibusbStatus env vendor product context f w
  | .mswin env w,f => MswinStatus env vendor product context f w
  | .osx env w,f => OsxStatus env target vendor product context f w

/-- The attached devices on which the status is right. -/
def WellMixed (target : Target) (vendor product : ℤ) (context : α) :
    (b : Running) → EnumFunc α b.World → Prop
  | .libusb env w,f => LibusbTells env vendor product context f w
  | .mswin _ _,_ => True
  | .osx env w,_ => OsxTells env target vendor product w

/-- The status of an enumeration tells whether devices were handed over
exactly for these attached devices. -/
theorem status_tells_iff (b : Running) (context : α) {usbhidEnumFunc : EnumFunc α b.World}
    (hf : IsClient (b.hid target) usbhidEnumFunc) :
    StatusTells target vendor product context b usbhidEnumFunc ↔
      WellMixed target vendor product context b usbhidEnumFunc := by
  cases b with
  | libusb env w => exact libusbStatus_iff hf context w
  | mswin env w => exact iff_of_true (mswinStatus env vendor product context usbhidEnumFunc w) trivial
  | osx env w => exact osxStatus_iff context usbhidEnumFunc w

theorem status_tells_iff_twoBus :
    StatusTells ⟨true,fun _ => 0#8⟩ 0x16c0 0x05df () (.libusb readyEnv twoBusWorld) keepFirst ↔
      WellMixed ⟨true,fun _ => 0#8⟩ 0x16c0 0x05df () (.libusb readyEnv twoBusWorld) keepFirst :=
  status_tells_iff (.libusb readyEnv twoBusWorld) () (keepFirst_isClient ⟨true,fun _ => 0#8⟩)

/-- One bus with a device that has children. -/
def hubWorld : LibusbWorld Unit where
  busses := [[100]]
  device _ := ⟨0x16c0,0x05df,1,2,1,0⟩
  rounds := 0
  ledger := Ledger.empty
  env := ()

/-- On libusb a device that is opened, rejected and closed makes the status
zero without any call. -/
theorem hub_reported_found :
    ¬StatusTells ⟨true,fun _ => 0#8⟩ 0x16c0 0x05df () (.libusb readyEnv hubWorld) keepFirst := by
  intro h
  exact h.mp rfl rfl

end Backends

end UsbIo16.EnumerationStatus
