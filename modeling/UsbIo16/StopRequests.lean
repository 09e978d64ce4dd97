import UsbIo16.DeviceVisits

/-!
# Requests to stop an enumeration

A callback that returns zero asks the enumeration to stop. The calls of the
callback are recorded, with the number of devices opened by then, so that
what happens behind such a request can be seen. One loop over the devices
obeys every request; the nested loops of the libusb backend go on with the
next bus, which is seen exactly when a device there can be opened.
-/

namespace UsbIo16.StopRequests

open HandleLedger Hiddata LibusbBackend MswinBackend OsxBackend Backends Traversal DeviceVisits

section Recording

/-- One call of the callback: the device, the answer, and the number of
devices opened when it returned. -/
structure Call (δ : Type) where
  device : δ
  answer : ℤ
  opens : ℕ

variable {δ W α : Type}

/-- The callback with a record of its calls. -/
def recorded (name : W → Ptr → δ) (opens : W → ℕ) (usbhidEnumFunc : EnumFunc α W) :
    EnumFunc (α×List (Call δ)) W :=
  fun u c w =>
    let r := usbhidEnumFunc u c.1 w
    ⟨r.answer,(r.context,c.2++[⟨name w u,r.answer,opens r.world⟩]),r.world⟩

/-- The record does not change what the callback does to the world. -/
theorem isClient_recorded {hid : HidLayer W} {usbhidEnumFunc : EnumFunc α W}
    (hf : IsClient hid usbhidEnumFunc) (name : W → Ptr → δ) (opens : W → ℕ) :
    IsClient hid (recorded name opens usbhidEnumFunc) := fun u c w => hf u c.1 w

/-- An enumeration over these eligible devices made these calls, and opened
so many devices in all: behind a call answered with zero there is no call
and no opening, and without such an answer every eligible device had its
call, in order. -/
structure StopsProperly (eligible : List δ) (calls : List (Call δ)) (opens : ℕ) : Prop where
  /-- A call answered with zero is the last one, and nothing is opened behind it. -/
  last : ∀ pre c post,calls=pre++c::post → c.answer=0 → post=[] ∧ opens=c.opens
  /-- Without such an answer every eligible device is handed over once. -/
  all : (∀ c∈calls,c.answer≠0) → calls.map Call.device=eligible

/-- The calls end with the only one answered with zero, and nothing was opened behind it. -/
def EndsInStop (calls : List (Call δ)) (opens : ℕ) : Prop :=
  ∃ cs c,calls=cs++[c] ∧ (∀ e∈cs,e.answer≠0) ∧ c.answer=0 ∧ opens=c.opens

/-- Calls that end in the only request to stop are proper. -/
theorem EndsInStop.stopsProperly {calls : List (Call δ)} {opens : ℕ} (h : EndsInStop calls opens)
    (eligible : List δ) : StopsProperly eligible calls opens := by
  obtain ⟨cs,c,rfl,hcs,hc,hopens⟩ := h
  constructor
  · intro pre e post he hz
    -- a call before the last one was not answered with zero
    rcases List.eq_nil_or_concat post with rfl|⟨post,x,rfl⟩
    · have hce : c=e := (List.cons.inj (List.append_inj' he rfl).2).1
      exact ⟨rfl,hce ▸ hopens⟩
    · have hsplit : cs=pre++e::post := by
        have hd := congrArg List.dropLast he
        rw [List.concat_eq_append,←List.cons_append,←List.append_assoc,List.dropLast_concat,
          List.dropLast_concat] at hd
        exact hd
      exact absurd hz (hcs e (hsplit ▸ List.mem_append_right _ List.mem_cons_self))
  · intro hall
    exact absurd hc (hall c (List.mem_append_right _ List.mem_cons_self))

/-- Calls none of which asked to stop are proper when they are all there. -/
theorem stopsProperly_of_all {eligible : List δ} {calls : List (Call δ)}
    (hcalls : ∀ c∈calls,c.answer≠0) (hall : calls.map Call.device=eligible) (opens : ℕ) :
    StopsProperly eligible calls opens where
  last _ c _ he hz := absurd hz (hcalls c (he ▸ List.mem_append_right _ List.mem_cons_self))
  all _ := hall

end Recording

section Traversals

variable {ι σ δ : Type} {visit : ι → σ → Bool×σ} {I : σ → Prop} {calls : σ → List (Call δ)}
  {opens : σ → ℕ} {name : ι → Option δ} {ds : List ι} {s : σ}

/-- The visits of these items record the calls they make: an item without a
name is passed, one with a name is handed over and the answer decides. -/
structure Records (visit : ι → σ → Bool×σ) (I : σ → Prop) (calls : σ → List (Call δ)) (opens : σ → ℕ)
    (name : ι → Option δ) (ds : List ι) : Prop where
  /-- Visits keep the invariant. -/
  keeps : Keeps visit I ds
  /-- A device that is not eligible is passed. -/
  passes : ∀ d∈ds,∀ s,I s → name d=none → (visit d s).1=false ∧ calls (visit d s).2=calls s
  /-- An eligible one is handed over. -/
  hands : ∀ d∈ds,∀ s,I s → ∀ n,name d=some n → ∃ a,(visit d s).1=decide (a=0) ∧
    calls (visit d s).2=calls s++[⟨n,a,opens (visit d s).2⟩]

/-- A part of the items is recorded when all of them are. -/
theorem Records.mono (hr : Records visit I calls opens name ds) {as : List ι} (hsub : as⊆ds) :
    Records visit I calls opens name as where
  keeps := hr.keeps.mono hsub
  passes d hd := hr.passes d (hsub hd)
  hands d hd := hr.hands d (hsub hd)

/-- An item that is not eligible leaves the calls as they are. -/
theorem Records.inert (hr : Records visit I calls opens name ds) {d : ι} (hd : d∈ds) (hn : name d=none) :
    Inert visit I calls d := fun s h => hr.passes d hd s h hn

/-- A recording traversal either makes all its calls or ends in a request to stop. -/
theorem Records.outcome (hr : Records visit I calls opens name ds) (h : I s) (hc : calls s=[]) :
    ((visitAll visit ds s).1=false →
        (∀ c∈calls (visitAll visit ds s).2,c.answer≠0) ∧
          (calls (visitAll visit ds s).2).map Call.device=ds.filterMap name) ∧
      ((visitAll visit ds s).1=true →
        EndsInStop (calls (visitAll visit ds s).2) (opens (visitAll visit ds s).2)) := by
  let G : List ι → σ → Prop := fun pre t =>
    I t ∧ (∀ c∈calls t,c.answer≠0) ∧ (calls t).map Call.device=pre.filterMap name
  let S : σ → Prop := fun t => EndsInStop (calls t) (opens t)
  have hgo : ∀ d∈ds,∀ pre t,G pre t → (visit d t).1=false → G (pre++[d]) (visit d t).2 := by
    rintro d hd pre t ⟨ht,hne,hmap⟩ hgo
    refine ⟨hr.keeps d hd t ht,?_⟩
    cases hn : name d with
    | none =>
      rw [(hr.passes d hd t ht hn).2,List.filterMap_append,List.filterMap_cons_none hn,
        List.filterMap_nil,List.append_nil]
      exact ⟨hne,hmap⟩
    | some n =>
      obtain ⟨a,hstop,hcalls⟩ := hr.hands d hd t ht n hn
      have ha : a≠0 := of_decide_eq_false (hstop.symm.trans hgo)
      rw [hcalls,List.filterMap_append,List.filterMap_cons_some hn,List.filterMap_nil,List.map_append,hmap]
      refine ⟨?_,rfl⟩
      intro c hm
      rcases List.mem_append.mp hm with hm|hm
      · exact hne c hm
      · rw [List.mem_singleton.mp hm]
        exact ha
  have hend : ∀ d∈ds,∀ pre t,G pre t → (visit d t).1=true → S (visit d t).2 := by
    rintro d hd pre t ⟨ht,hne,-⟩ hs
    cases hn : name d with
    | none =>
      have hf := (hr.passes d hd t ht hn).1.symm.trans hs
      exact absurd hf Bool.false_ne_true
    | some n =>
      obtain ⟨a,hstop,hcalls⟩ := hr.hands d hd t ht n hn
      exact ⟨calls t,_,hcalls,hne,of_decide_eq_true (hstop.symm.trans hs),rfl⟩
  have hstart : G [] s := by
    refine ⟨h,?_⟩
    rw [hc]
    exact ⟨fun c hm => absurd hm List.not_mem_nil,rfl⟩
  have hrule := visitAll_rule hgo hend [] hstart
  exact ⟨fun hs => (hrule.1 hs).2,hrule.2⟩

/-- A visit of one of the items adds to the calls. -/
theorem Records.extends (hr : Records visit I calls opens name ds) {d : ι} (hd : d∈ds) (h : I s) :
    ∃ more,calls (visit d s).2=calls s++more := by
  cases hn : name d with
  | none => exact ⟨[],by rw [(hr.passes d hd s h hn).2,List.append_nil]⟩
  | some n =>
    obtain ⟨a,-,hcalls⟩ := hr.hands d hd s h n hn
    exact ⟨_,hcalls⟩

/-- The nested loops over groups of the items add to the calls. -/
theorem Records.calls_grow {gs : List (List ι)} (hr : Records visit I calls opens name gs.flatten)
    (h : I s) : ∃ more,calls (visitGroups visit gs s)=calls s++more := by
  have hrun : I (visitGroups visit gs s) ∧ ∃ more,calls (visitGroups visit gs s)=calls s++more := by
    refine visitGroups_keeps (I := fun t => I t ∧ ∃ more,calls t=calls s++more) ?_
      ⟨h,[],(List.append_nil _).symm⟩
    rintro d hd t ⟨ht,more,hm⟩
    obtain ⟨more',hm'⟩ := hr.extends hd ht
    exact ⟨hr.keeps d hd t ht,more++more',by rw [hm',hm,List.append_assoc]⟩
  exact hrun.2

/-- A recording traversal makes no call exactly when no item is eligible. -/
theorem Records.calls_eq_nil_iff (hr : Records visit I calls opens name ds) (h : I s) (hc : calls s=[]) :
    calls (visitAll visit ds s).2=[] ↔ ds.filterMap name=[] := by
  obtain ⟨hall,hstop⟩ := hr.outcome h hc
  cases hs : (visitAll visit ds s).1 with
  | false =>
    rw [←(hall hs).2,List.map_eq_nil_iff]
  | true =>
    obtain ⟨cs,c,hcalls,-⟩ := hstop hs
    refine iff_of_false ?_ fun hnone => ?_
    · rw [hcalls]
      exact List.append_ne_nil_of_right_ne_nil cs (List.cons_ne_nil c [])
    · -- without an eligible item nothing asks to stop
      have hgo := (visitAll_inert hr.keeps (fun d hd => hr.inert hd (List.filterMap_eq_nil_iff.mp hnone d hd)) h).1
      exact absurd (hgo.symm.trans hs) Bool.false_ne_true

/-- So do the nested loops over groups of the items. -/
theorem Records.groups_calls_eq_nil_iff {gs : List (List ι)}
    (hr : Records visit I calls opens name gs.flatten) (h : I s) (hc : calls s=[]) :
    calls (visitGroups visit gs s)=[] ↔ gs.flatten.filterMap name=[] := by
  have hflat := hr.calls_eq_nil_iff h hc
  cases hs : (visitAll visit gs.flatten s).1 with
  | false => rw [visitGroups_of_go hs,hflat]
  | true =>
    obtain ⟨before,g,after,rfl,hfirst⟩ := exists_firstStopIn hs
    -- a request to stop comes from a call, which the loops behind do not undo
    obtain ⟨cs,c,hcalls,-⟩ := (hr.outcome h hc).2 hs
    have hne : cs++[c]≠[] := List.append_ne_nil_of_right_ne_nil cs (List.cons_ne_nil c [])
    rw [hcalls] at hflat
    refine iff_of_false ?_ fun hnone => hne (hflat.mpr hnone)
    have hsub : after.flatten⊆(before++g::after).flatten := by
      rw [List.flatten_append,List.flatten_cons]
      exact fun d hd => List.mem_append_right _ (List.mem_append_right _ hd)
    obtain ⟨more,hmore⟩ := (hr.mono hsub).calls_grow (visitAll_keeps hr.keeps h)
    rw [visitGroups_firstStopIn hfirst,hmore,hcalls]
    exact List.append_ne_nil_of_left_ne_nil hne more

/-- So it stops properly. -/
theorem Records.stopsProperly (hr : Records visit I calls opens name ds) (h : I s) (hc : calls s=[]) :
    StopsProperly (ds.filterMap name) (calls (visitAll visit ds s).2) (opens (visitAll visit ds s).2) := by
  obtain ⟨hall,hstop⟩ := hr.outcome h hc
  cases hs : (visitAll visit ds s).1 with
  | false => exact stopsProperly_of_all (hall hs).1 (hall hs).2 _
  | true => exact (hstop hs).stopsProperly _

end Traversals

section Libusb

variable {D α : Type} {env : LibusbEnv D} {target : Target} {vendor product : ℤ}

/-- Whether a device is opened when its turn comes. -/
def Openable (env : LibusbEnv D) (vendor product : ℤ) (w : LibusbWorld D) (dev : Ptr) : Prop :=
  Matches vendor product w dev ∧ env.canOpen w.rounds dev=true

instance (env : LibusbEnv D) (vendor product : ℤ) (w : LibusbWorld D) (dev : Ptr) :
    Decidable (Openable env vendor product w dev) := inferInstanceAs (Decidable (_ ∧ _))

/-- An eligible device by its struct: it can be opened and has no children. -/
def libusbEligible (env : LibusbEnv D) (vendor product : ℤ) (w : LibusbWorld D) (dev : Ptr) : Option Ptr :=
  if Openable env vendor product w dev ∧ (w.device dev).num_children=0#8 then some dev else none

/-- The callback with a record of its calls on libusb. -/
def libusbRecorded (usbhidEnumFunc : EnumFunc α (LibusbWorld D)) :
    EnumFunc (α×List (Call Ptr)) (LibusbWorld D) :=
  recorded (fun _ u => u) (fun v => v.ledger.issued) usbhidEnumFunc

variable {usbhidEnumFunc : EnumFunc α (LibusbWorld D)} {w : LibusbWorld D} {dev : Ptr}

/-- The same devices can be opened. -/
theorem openable_iff {v : LibusbWorld D} (h : SameDevices w v) :
    Openable env vendor product v dev ↔ Openable env vendor product w dev := by
  rw [Openable,Openable,h.matches_iff,h.rounds]

/-- The visits of the libusb loops record the calls they make. -/
theorem libusb_records (vendor product : ℤ) (hf : IsClient (libusbHid env target) usbhidEnumFunc)
    (w : LibusbWorld D) (ds : List Ptr) :
    Records (libusbVisit env vendor product (libusbRecorded usbhidEnumFunc)) (fun s => SameDevices w s.world)
      (fun s => s.context.2) (fun s => s.world.ledger.issued) (libusbEligible env vendor product w) ds where
  keeps dev _ s h := h.trans (sameDevices_visit (isClient_recorded hf _ _))
  passes dev _ s h hn := by
    have hends := libusbVisit_ends env vendor product (libusbRecorded usbhidEnumFunc) dev s
    generalize libusbVisit env vendor product (libusbRecorded usbhidEnumFunc) dev s=r at hends ⊢
    cases hends with
    | foreign hm => exact ⟨rfl,rfl⟩
    | denied hm ho => exact ⟨rfl,rfl⟩
    | hub hm ho hleaf => exact ⟨rfl,rfl⟩
    | leaf hm ho hleaf =>
      have hopen : Openable env vendor product w dev := (openable_iff h).mp ⟨hm,ho⟩
      have hw : (w.device dev).num_children=0#8 := (h.device dev).2.2 ▸ hleaf
      rw [libusbEligible,if_pos ⟨hopen,hw⟩] at hn
      exact absurd hn (Option.some_ne_none dev)
  hands dev _ s h n hn := by
    by_cases he : Openable env vendor product w dev ∧ (w.device dev).num_children=0#8
    · rw [libusbEligible,if_pos he] at hn
      obtain ⟨hm,ho⟩ := (openable_iff h).mpr he.1
      have hleaf : (s.world.device dev).num_children=0#8 := (h.device dev).2.2.trans he.2
      rw [libusbVisit_leaf hm ho hleaf rfl,←Option.some.inj hn]
      exact ⟨_,rfl,rfl⟩
    · rw [libusbEligible,if_neg he] at hn
      cases hn

/-- A visit opens no device or the one visited. -/
theorem libusb_opens_le (hf : IsClient (libusbHid env target) usbhidEnumFunc) (dev : Ptr)
    (s : EnumReply α (LibusbWorld D)) :
    s.world.ledger.issued≤(libusbVisit env vendor product usbhidEnumFunc dev s).2.world.ledger.issued := by
  have hends := libusbVisit_ends env vendor product usbhidEnumFunc dev s
  generalize libusbVisit env vendor product usbhidEnumFunc dev s=r at hends ⊢
  cases hends with
  | foreign hm => exact le_rfl
  | denied hm ho => exact le_rfl
  | hub hm ho hleaf => exact Nat.le_succ _
  | leaf hm ho hleaf => exact (Nat.le_succ _).trans (libusb_client_issued hf s.context s.world).ge

/-- A device that can be opened is opened. -/
theorem libusb_opens_lt (hf : IsClient (libusbHid env target) usbhidEnumFunc)
    (ho : Openable env vendor product w dev) :
    Raises (libusbVisit env vendor product usbhidEnumFunc) (fun s => SameDevices w s.world)
      (fun s => s.world.ledger.issued) dev := by
  intro s h
  obtain ⟨hm,ho⟩ := (openable_iff h).mpr ho
  by_cases hleaf : (s.world.device dev).num_children=0#8
  · rw [libusbVisit_leaf hm ho hleaf rfl]
    exact (Nat.lt_succ_self _).trans_le (libusb_client_issued hf s.context s.world).ge
  · rw [libusbVisit_hub hm ho hleaf]
    exact Nat.lt_succ_self _

/-- Any other device leaves context and world alone. -/
theorem libusb_inert (ho : ¬Openable env vendor product w dev) :
    Inert (libusbVisit env vendor product usbhidEnumFunc) (fun s => SameDevices w s.world)
      (fun s => (s.context,s.world)) dev := by
  intro s h
  by_cases hm : Matches vendor product s.world dev
  · have hdenied : env.canOpen s.world.rounds dev=false := by
      rw [←Bool.not_eq_true]
      exact fun hopen => ho ((openable_iff h).mp ⟨hm,hopen⟩)
    rw [libusbVisit_denied hm hdenied]
    exact ⟨rfl,rfl⟩
  · rw [libusbVisit_foreign hm]
    exact ⟨rfl,rfl⟩

/-- The record is no part of what the loops do. -/
theorem libusb_recorded_map (dev : Ptr) (s : EnumReply (α×List (Call Ptr)) (LibusbWorld D)) :
    libusbVisit env vendor product usbhidEnumFunc dev ⟨s.err,s.context.1,s.world⟩=
      ((libusbVisit env vendor product (libusbRecorded usbhidEnumFunc) dev s).1,
        ⟨(libusbVisit env vendor product (libusbRecorded usbhidEnumFunc) dev s).2.err,
          (libusbVisit env vendor product (libusbRecorded usbhidEnumFunc) dev s).2.context.1,
          (libusbVisit env vendor product (libusbRecorded usbhidEnumFunc) dev s).2.world⟩) := by
  unfold libusbVisit
  dsimp only
  split
  · split
    · rfl
    · split <;> rfl
  · rfl

/-- The enumeration behind libusb as it should be: proper in its calls and openings. -/
def LibusbStops (env : LibusbEnv D) (vendor product : ℤ) (context : α)
    (usbhidEnumFunc : EnumFunc α (LibusbWorld D)) (w : LibusbWorld D) : Prop :=
  let r := LibusbBackend.usbhidEnumDevices env vendor product (context,[]) (libusbRecorded usbhidEnumFunc) w
  StopsProperly (w.busses.flatten.filterMap (libusbEligible env vendor product (nextRound w)))
    r.context.2 r.world.ledger.issued

/-- Handing over the devices in bus order, the callback first asks to stop
on a bus behind which no device can be opened. -/
def StopReaches (env : LibusbEnv D) (vendor product : ℤ) (context : α)
    (usbhidEnumFunc : EnumFunc α (LibusbWorld D)) (w : LibusbWorld D) : Prop :=
  ∀ before bus after,w.busses=before++bus::after →
    FirstStopIn (libusbVisit env vendor product usbhidEnumFunc) before bus
      ⟨ USBHID_ERR_NOTFOUND,context,nextRound w⟩ →
    ∀ dev∈after.flatten,¬Openable env vendor product (nextRound w) dev

/-- The state in which the loops start. -/
abbrev libusbStart (context : α) (w : LibusbWorld D) : EnumReply (α×List (Call Ptr)) (LibusbWorld D) :=
  ⟨ USBHID_ERR_NOTFOUND,(context,[]),nextRound w⟩

/-- When a device behind the first request to stop can be opened, it is
opened after that request. -/
theorem libusb_overruns (hf : IsClient (libusbHid env target) usbhidEnumFunc) {context : α}
    {before after : List (List Ptr)} {bus : List Ptr} (hbusses : w.busses=before++bus::after)
    (hfirst : FirstStopIn (libusbVisit env vendor product (libusbRecorded usbhidEnumFunc)) before bus
      (libusbStart context w))
    (hex : ∃ dev∈after.flatten,Openable env vendor product (nextRound w) dev) :
    ¬LibusbStops env vendor product context usbhidEnumFunc w := by
  let visit := libusbVisit env vendor product (libusbRecorded usbhidEnumFunc)
  let I : EnumReply (α×List (Call Ptr)) (LibusbWorld D) → Prop := fun s => SameDevices (nextRound w) s.world
  let stopped := visitAll visit (before++bus::after).flatten (libusbStart context w)
  have hrec : IsClient (libusbHid env target) (libusbRecorded usbhidEnumFunc) := isClient_recorded hf _ _
  have hr : ∀ ds,Records visit I (fun s => s.context.2) (fun s => s.world.ledger.issued)
      (libusbEligible env vendor product (nextRound w)) ds := libusb_records vendor product hf (nextRound w)
  have hstart : I (libusbStart context w) := .refl _
  have hstopped : I stopped.2 := visitAll_keeps (hr _).keeps hstart
  have hstop : stopped.1=true := by
    rw [show stopped=_ from visitAll_firstStopIn hfirst]
    exact hfirst.2
  obtain ⟨cs,c,hcalls,-,hzero,hopens⟩ := ((hr _).outcome hstart rfl).2 hstop
  -- the nested loops go on with the busses behind and open a device there
  have hlt : stopped.2.world.ledger.issued<(visitGroups visit after stopped.2).world.ledger.issued := by
    refine measure_lt_visitGroups (v := fun s => (s.context,s.world)) (hr _).keeps (libusb_opens_le hrec) ?_ ?_
      hstopped
    · intro d _
      by_cases ho : Openable env vendor product (nextRound w) d
      · exact .inr (libusb_opens_lt hrec ho)
      · exact .inl (libusb_inert ho)
    · obtain ⟨d,hd,ho⟩ := hex
      exact ⟨d,hd,libusb_opens_lt hrec ho⟩
  obtain ⟨more,hmore⟩ := (hr after.flatten).calls_grow hstopped
  intro hstops
  rw [LibusbStops,libusb_enumDevices_eq,hbusses,visitGroups_firstStopIn hfirst] at hstops
  have hall : (visitGroups visit after stopped.2).context.2=cs++c::more := by
    rw [hmore,hcalls,List.append_assoc,List.singleton_append]
  have hlast := (hstops.last cs c more hall hzero).2
  rw [←hopens] at hlast
  exact absurd hlast hlt.ne'

/-- The nested loops stop properly exactly when a request to stop comes on a
bus behind which nothing can be opened. -/
theorem libusbStops_iff (hf : IsClient (libusbHid env target) usbhidEnumFunc) (context : α)
    (w : LibusbWorld D) :
    LibusbStops env vendor product context usbhidEnumFunc w ↔
      StopReaches env vendor product context usbhidEnumFunc w := by
  constructor
  · intro hstops before bus after hbusses hfirst dev hdev hopen
    exact libusb_overruns hf hbusses ((firstStopIn_map libusb_recorded_map).mp hfirst) ⟨dev,hdev,hopen⟩ hstops
  · intro hreach
    let visit := libusbVisit env vendor product (libusbRecorded usbhidEnumFunc)
    have hr := libusb_records vendor product hf (nextRound w) w.busses.flatten
    have hstart : SameDevices (nextRound w) (libusbStart context w).world := .refl _
    have hview : ((visitGroups visit w.busses (libusbStart context w)).context,
        (visitGroups visit w.busses (libusbStart context w)).world)=
          ((visitAll visit w.busses.flatten (libusbStart context w)).2.context,
            (visitAll visit w.busses.flatten (libusbStart context w)).2.world) := by
      refine view_visitGroups (v := fun s => (s.context,s.world)) (s := libusbStart context w) hr.keeps hstart ?_
      intro before bus after hbusses hfirst dev hdev
      have hplain := (firstStopIn_map libusb_recorded_map).mpr hfirst
      exact libusb_inert (hreach before bus after hbusses hplain dev hdev)
    have hproper := hr.stopsProperly hstart (s := libusbStart context w) rfl
    obtain ⟨hcontext,hworld⟩ := Prod.mk.inj hview
    rw [LibusbStops,libusb_enumDevices_eq,hcontext,hworld]
    exact hproper

end Libusb

section Mswin

variable {D α : Type} {env : MswinEnv D} {target : Target} {vendor product : ℤ}
  {usbhidEnumFunc : EnumFunc α (MswinWorld D)} {w : MswinWorld D}

/-- An eligible interface by its path: it can be described and opened, and
has the attributes looked for. -/
def mswinEligible (vendor product : ℤ) (iface : HidInterface) : Option String :=
  iface.attributes.bind fun a =>
    if Described iface ∧ iface.canOpen=true ∧ Wanted vendor product a then some iface.DevicePath else none

/-- The callback with a record of its calls on Windows. -/
def mswinRecorded (usbhidEnumFunc : EnumFunc α (MswinWorld D)) :
    EnumFunc (α×List (Call String)) (MswinWorld D) :=
  recorded (fun v u => v.path u) (fun v => v.ledger.issued) usbhidEnumFunc

/-- The interfaces of an enumeration. -/
def interfacesOf (env : MswinEnv D) (w : MswinWorld D) : List HidInterface :=
  match (env.classDevs w.env).1 with
  | none => []
  | some devs => devs.interfaces

/-- The enumeration on Windows as it should be. -/
def MswinStops (env : MswinEnv D) (vendor product : ℤ) (context : α)
    (usbhidEnumFunc : EnumFunc α (MswinWorld D)) (w : MswinWorld D) : Prop :=
  let r := MswinBackend.usbhidEnumDevices env vendor product (context,[]) (mswinRecorded usbhidEnumFunc) w
  StopsProperly ((interfacesOf env w).filterMap (mswinEligible vendor product))
    r.context.2 r.world.ledger.issued

/-- The visits of the Windows loop record the calls they make. -/
theorem mswin_records (vendor product : ℤ) (usbhidEnumFunc : EnumFunc α (MswinWorld D))
    {ds : List HidInterface} (hattr : ∀ iface∈ds,iface.attributes≠none) :
    Records (mswinVisit vendor product (mswinRecorded usbhidEnumFunc)) (fun _ => True)
      (fun s => s.context.2) (fun s => s.world.ledger.issued) (mswinEligible vendor product) ds where
  keeps _ _ _ _ := trivial
  passes iface hd s _ hn := by
    obtain ⟨a,ha⟩ := Option.ne_none_iff_exists'.mp (hattr iface hd)
    by_cases hopen : Described iface ∧ iface.canOpen=true
    · have hw : ¬Wanted vendor product (attributesSeen iface s) := by
        intro hw
        rw [attributesSeen,ha,Option.getD_some] at hw
        rw [mswinEligible,ha,Option.bind_some,if_pos ⟨hopen.1,hopen.2,hw⟩] at hn
        cases hn
      rw [mswinVisit_foreign hopen.1 hopen.2 hw]
      exact ⟨rfl,rfl⟩
    · rw [mswinVisit_closed hopen]
      exact ⟨rfl,rfl⟩
  hands iface hd s _ n hn := by
    obtain ⟨a,ha⟩ := Option.ne_none_iff_exists'.mp (hattr iface hd)
    by_cases he : Described iface ∧ iface.canOpen=true ∧ Wanted vendor product a
    · have hseen : attributesSeen iface s=a := by
        rw [attributesSeen,ha,Option.getD_some]
      have hpath : (openedInterface iface s).path (handleFor s)=iface.DevicePath :=
        Function.update_self _ _ _
      rw [mswinEligible,ha,Option.bind_some,if_pos he] at hn
      rw [mswinVisit_wanted he.1 he.2.1 (hseen ▸ he.2.2) rfl,←Option.some.inj hn,←hpath]
      exact ⟨_,rfl,rfl⟩
    · rw [mswinEligible,ha,Option.bind_some,if_neg he] at hn
      cases hn

/-- The deferred close at the end opens nothing. -/
theorem closePending_issued (handle : Ptr) (w : MswinWorld D) :
    (closePending handle w).ledger.issued=w.ledger.issued := by
  unfold closePending
  split <;> rfl

/-- The Windows loop stops properly when all attributes can be read. -/
theorem mswinStops_of_attributes (hattr : ∀ iface∈interfacesOf env w,iface.attributes≠none) (context : α) :
    MswinStops env vendor product context usbhidEnumFunc w := by
  cases hdevs : (env.classDevs w.env).1 with
  | none =>
    have hnone : interfacesOf env w=[] := by
      rw [interfacesOf,hdevs]
    rw [MswinStops,mswin_enumDevices_none hdevs,hnone]
    exact stopsProperly_of_all (fun c hm => absurd hm List.not_mem_nil) rfl _
  | some devs =>
    have hsome : interfacesOf env w=devs.interfaces := by
      rw [interfacesOf,hdevs]
    rw [hsome] at hattr
    rw [MswinStops,mswin_enumDevices_some hdevs _ rfl,hsome,closePending_issued]
    exact (mswin_records vendor product usbhidEnumFunc hattr).stopsProperly trivial rfl

end Mswin

section Osx

variable {D α : Type} {env : OsxEnv D} {target : Target} {vendor product : ℤ}
  {usbhidEnumFunc : EnumFunc α (OsxWorld D)} {w : OsxWorld D}

/-- An eligible device by its reference: present, on USB, with this vendor and product. -/
def osxEligible (target : Target) (vendor product : ℤ) (dev : OsxDevice) : Option Ptr :=
  if offered target vendor product dev=true then some dev.ref else none

/-- The callback with a record of its calls on OS X. -/
def osxRecorded (usbhidEnumFunc : EnumFunc α (OsxWorld D)) :
    EnumFunc (α×List (Call Ptr)) (OsxWorld D) :=
  recorded (fun _ u => u) (fun v => v.managers.issued) usbhidEnumFunc

/-- The device set of an enumeration: empty when the manager fails. -/
def devicesOf (env : OsxEnv D) (w : OsxWorld D) : List OsxDevice :=
  match (managerDevices env w).1 with
  | .error _ => []
  | .ok devices => devices

/-- The enumeration on OS X as it should be. -/
def OsxStops (env : OsxEnv D) (target : Target) (vendor product : ℤ) (context : α)
    (usbhidEnumFunc : EnumFunc α (OsxWorld D)) (w : OsxWorld D) : Prop :=
  let r := OsxBackend.usbhidEnumDevices env target vendor product (context,[]) (osxRecorded usbhidEnumFunc) w
  StopsProperly ((devicesOf env w).filterMap (osxEligible target vendor product)) r.context.2
    r.world.managers.issued

/-- The visits of the OS X loop record the calls they make. -/
theorem osx_records (target : Target) (vendor product : ℤ) (usbhidEnumFunc : EnumFunc α (OsxWorld D))
    (ds : List OsxDevice) :
    Records (osxVisit target vendor product (osxRecorded usbhidEnumFunc)) (fun _ => True)
      (fun s => s.1.2) (fun s => s.2.managers.issued) (osxEligible target vendor product) ds where
  keeps _ _ _ _ := trivial
  passes dev _ s _ hn := by
    cases ho : offered target vendor product dev with
    | false =>
      rw [osxVisit_foreign ho]
      exact ⟨rfl,rfl⟩
    | true =>
      rw [osxEligible,if_pos ho] at hn
      cases hn
  hands dev _ s _ n hn := by
    cases ho : offered target vendor product dev with
    | false =>
      rw [osxEligible,if_neg (Bool.not_eq_true _ ▸ ho)] at hn
      cases hn
    | true =>
      rw [osxEligible,if_pos ho] at hn
      rw [osxVisit_offered ho rfl,←Option.some.inj hn]
      exact ⟨_,rfl,rfl⟩

/-- The OS X loop always stops properly. -/
theorem osxStops (env : OsxEnv D) (target : Target) (vendor product : ℤ) (context : α)
    (usbhidEnumFunc : EnumFunc α (OsxWorld D)) (w : OsxWorld D) :
    OsxStops env target vendor product context usbhidEnumFunc w := by
  cases hdevs : (managerDevices env w).1 with
  | error e =>
    have hnone : devicesOf env w=[] := by
      rw [devicesOf,hdevs]
    rw [OsxStops,osx_enumDevices_error hdevs,hnone]
    exact stopsProperly_of_all (fun c hm => absurd hm List.not_mem_nil) rfl _
  | ok devices =>
    have hok : devicesOf env w=devices := by
      rw [devicesOf,hdevs]
    rw [OsxStops,osx_enumDevices_ok hdevs _ rfl,hok,hidmgrDeref_issued]
    exact (osx_records target vendor product usbhidEnumFunc devices).stopsProperly trivial rfl

end Osx

section Backends

variable {α : Type} {target : Target} {vendor product : ℤ}

/-- The enumeration of a backend as it should be. -/
def EnumerationStops (target : Target) (vendor product : ℤ) (context : α) :
    (b : Running) → EnumFunc α b.World → Prop
  | .libusb env w,f => LibusbStops env vendor product context f w
  | .mswin env w,f => MswinStops env vendor product context f w
  | .osx env w,f => OsxStops env target vendor product context f w

/-- All attributes of the interfaces can be read, on Windows. -/
def AttributesKnown : Running → Prop
  | .libusb _ _ => True
  | .mswin env w => ∀ iface∈interfacesOf env w,iface.attributes≠none
  | .osx _ _ => True

/-- On libusb, the first request to stop comes on a bus behind which no
device can be opened. -/
def RequestReaches (vendor product : ℤ) (context : α) : (b : Running) → EnumFunc α b.World → Prop
  | .libusb env w,f => StopReaches env vendor product context f w
  | .mswin _ _,_ => True
  | .osx _ _,_ => True

/-- An enumeration stops when the callback says so, and else makes all its
calls, exactly when on libusb the request reaches the last bus that matters. -/
theorem enumeration_stops_iff (b : Running) (context : α) {usbhidEnumFunc : EnumFunc α b.World}
    (hf : IsClient (b.hid target) usbhidEnumFunc) (hattr : AttributesKnown b) :
    EnumerationStops target vendor product context b usbhidEnumFunc ↔
      RequestReaches vendor product context b usbhidEnumFunc := by
  cases b with
  | libusb env w => exact libusbStops_iff hf context w
  | mswin env w => exact iff_of_true (mswinStops_of_attributes hattr context) trivial
  | osx env w => exact iff_of_true (osxStops env target vendor product context usbhidEnumFunc w) trivial

/-- Two busses with one board each, at 100 and 200. -/
def twoBusWorld : LibusbWorld Unit where
  busses := [[100],[200]]
  device _ := ⟨0x16c0,0x05df,1,2,0,0⟩
  rounds := 0
  ledger := Ledger.empty
  env := ()

/-- A callback that keeps the first device and asks to stop. -/
def keepFirst : EnumFunc Unit (LibusbWorld Unit) := fun _ c w => ⟨0,c,w⟩

/-- It does nothing to the world. -/
theorem keepFirst_isClient (target : Target) : IsClient (libusbHid readyEnv target) keepFirst :=
  fun _ _ _ => .refl

theorem enumeration_stops_iff_twoBus :
    EnumerationStops ⟨true,fun _ => 0#8⟩ 0x16c0 0x05df () (.libusb readyEnv twoBusWorld) keepFirst ↔
      RequestReaches 0x16c0 0x05df () (.libusb readyEnv twoBusWorld) keepFirst :=
  enumeration_stops_iff (.libusb readyEnv twoBusWorld) () (keepFirst_isClient ⟨true,fun _ => 0#8⟩) trivial

/-- Asked to stop on the first of two busses, libusb still opens and hands
over the board on the second one. -/
theorem second_bus_visited :
    ¬EnumerationStops ⟨true,fun _ => 0#8⟩ 0x16c0 0x05df () (.libusb readyEnv twoBusWorld) keepFirst := by
  intro h
  have hlast := h.last [] ⟨100,0,1⟩ [⟨200,0,2⟩] rfl rfl
  exact absurd hlast.1 (List.cons_ne_nil _ _)

end Backends

end UsbIo16.StopRequests
